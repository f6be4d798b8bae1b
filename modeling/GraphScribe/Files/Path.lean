import GraphScribe.Failure
import GraphScribe.Text.Affix
import GraphScribe.Text.Surrogate

/-!
# Paths

A path names a file from the root or from some directory: `Path.parts` splits it at its slashes.
`Path.resolve` follows a path by its parts alone, and `Path.join` puts a path behind another.
`Path.check` refuses what no path can be.
-/

namespace GraphScribe.Path

/-- The parts of a text between slashes; `part` is the current one, reversed. -/
def partsFrom (part : List Char) : List Char → List String
  | [] => [String.ofList part.reverse]
  | c :: rest =>
    if c = '/' then String.ofList part.reverse :: partsFrom [] rest else partsFrom (c :: part) rest

/-- The parts of a path between slashes. -/
def parts (path : String) : List String := partsFrom [] path.toList

/-- Whether a path starts at the root. -/
def isAbsolute (path : String) : Bool := path.toList.head? == some '/'

/-- A path behind a directory; an absolute path stands for itself. -/
def join (directory path : String) : String :=
  if isAbsolute path then path
  else if directory.isEmpty || Text.endsWith directory "/" then directory ++ path
  else directory ++ "/" ++ path

/-- The path of the directory in which a path stands. -/
def parent (path : String) : String :=
  let upToSlash := path.toList.reverse.dropWhile (· ≠ '/')
  let trimmed := upToSlash.dropWhile (· = '/')
  String.ofList (if trimmed.isEmpty then upToSlash else trimmed).reverse

/-- The last part of a path. -/
def base (path : String) : String := (parts path).getLastD ""

/-- Goes from a location to the one that a part of a path names. -/
def follow (location : List String) (part : String) : List String :=
  if part = "" || part = "." then location
  else if part = ".." then location.dropLast
  else location ++ [part]

/-- The location that a path names from a directory. -/
def resolve (directory : List String) (path : String) : List String :=
  (parts path).foldl follow (if isAbsolute path then [] else directory)

/-- The absolute path of a location. -/
def ofLocation (location : List String) : String := "/" ++ "/".intercalate location

/-- Fails for a text that cannot be a path at all. -/
def check (path : String) : Except Failure Unit :=
  if path.toList.contains '\x00' then .error .malformedPath
  else if Surrogate.isEncodable path then .ok ()
  else .error .unencodable

/-- The number of bytes that a part of a path may have. -/
def partLimit : Nat := 255

/-- Whether a part of a path is longer than any file name. -/
def isTooLong (part : String) : Bool := partLimit < (Surrogate.characters part).utf8ByteSize

end GraphScribe.Path
