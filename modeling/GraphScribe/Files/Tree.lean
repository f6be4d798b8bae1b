import GraphScribe.Failure
import GraphScribe.Files.Path
import GraphScribe.Text.Blank
import GraphScribe.Text.Surrogate

/-!
# File trees

A `FileTree` holds the texts of files and the directories around them.  `FileTree.locate` follows a
path from the working directory through directories that exist.  A `Change` reads and alters a tree
and keeps what it altered when it fails: `FileTree.makeDirectories` makes all directories on a path,
and `FileTree.put` replaces the text of one file.
-/

namespace GraphScribe

/-- Files and directories at their locations, which are lists of names from the root.  The
directories above anything that exists exist too. -/
structure FileTree where
  workingDirectory : List String
  files : List (List String × String) := []
  directories : List (List String) := []
deriving Inhabited

namespace FileTree

/-! ### Looking at a tree -/

/-- The text listed for a location. -/
def textIn : List (List String × String) → List String → Option String
  | [], _ => none
  | (l, text) :: rest, location => if l = location then some text else textIn rest location

/-- The text of the file at a location. -/
def textAt? (t : FileTree) (location : List String) : Option String := textIn t.files location

/-- Whether there is a file at a location. -/
def isFileAt (t : FileTree) (location : List String) : Bool := (t.textAt? location).isSome

/-- Whether there is a directory at a location. -/
def isDirectoryAt (t : FileTree) (location : List String) : Bool :=
  location.isPrefixOf t.workingDirectory ||
    (t.directories.any fun d => location.isPrefixOf d) ||
    t.files.any fun f => location.isPrefixOf f.1 && location ≠ f.1

/-- Goes from a directory to what a part of a path names in it. -/
def enter? (t : FileTree) (location : List String) (part : String) : Option (List String) :=
  let next := Path.follow location part
  if t.isDirectoryAt location && (t.isFileAt next || t.isDirectoryAt next) then some next else none

/-- The location of what a path names, if that exists. -/
def locate (t : FileTree) (path : String) : Option (List String) :=
  if path.isEmpty then none
  else (Path.parts path).foldlM t.enter? (if Path.isAbsolute path then [] else t.workingDirectory)

/-- Whether one comes upon a name that is too long when one follows some parts of a path. -/
def meetsLongNameFrom (t : FileTree) (location : List String) : List String → Bool
  | [] => false
  | part :: rest =>
    (t.isDirectoryAt location && Path.isTooLong part) ||
      match t.enter? location part with
      | some next => t.meetsLongNameFrom next rest
      | none => false

/-- Whether one comes upon a name that is too long when one follows a path. -/
def meetsLongName (t : FileTree) (path : String) : Bool :=
  (Path.check path).isOk &&
    t.meetsLongNameFrom (if Path.isAbsolute path then [] else t.workingDirectory) (Path.parts path)

/-- Whether a path names something. -/
def hasPath (t : FileTree) (path : String) : Bool := (t.locate path).isSome

/-- Whether a path names a file. -/
def hasFile (t : FileTree) (path : String) : Bool := (t.locate path).any t.isFileAt

/-- Whether a path names a directory. -/
def hasDirectory (t : FileTree) (path : String) : Bool := (t.locate path).any t.isDirectoryAt

/-- The text of the file that a path names, with line feeds for all line ends. -/
def read? (t : FileTree) (path : String) : Option String :=
  (t.locate path).bind fun location =>
    (t.textAt? location).map fun text => String.ofList (Text.unifyLineEnds text.toList)

/-- The names on the way from a location to each file below it. -/
def below (t : FileTree) (location : List String) : List (List String) :=
  (t.files.filter fun f => location.isPrefixOf f.1 && location ≠ f.1).map fun f =>
    f.1.drop location.length

/-- Whether a name has one of some endings. -/
def hasEnding (endings : List String) (name : String) : Bool := endings.any (Text.endsWith name)

/-- The paths of the files with one of some endings that a path names or has below it, in the
order of their characters. -/
def filesAt (t : FileTree) (path : String) (endings : List String) : List String :=
  match t.locate path with
  | none => []
  | some location =>
    if t.isFileAt location then
      if hasEnding endings path then [path] else []
    else
      let found := (t.below location).filter fun names => hasEnding endings (names.getLastD "")
      (found.map fun names => Path.join path ("/".intercalate names)).mergeSort fun a b => a ≤ b

/-- The paths of the files with one of some endings at a path, which need not exist. -/
def collect (t : FileTree) (path : String) (endings : List String) :
    Except Failure (List String) := do
  Path.check path
  return t.filesAt path endings

/-- The files of a tree that an earlier one does not hold with the same text. -/
def changedSince (t earlier : FileTree) : List (List String × String) :=
  t.files.filter fun f => earlier.textAt? f.1 ≠ some f.2

/-! ### Changing a tree -/

/-- Lists another text for a location, at the end if there is none for it. -/
def putIn : List (List String × String) → List String → String → List (List String × String)
  | [], location, text => [(location, text)]
  | (l, old) :: rest, location, text =>
    if l = location then (l, text) :: rest else (l, old) :: putIn rest location text

/-- Puts a text at the location of a file, which need not exist. -/
def putAt (t : FileTree) (location : List String) (text : String) : FileTree :=
  { t with files := putIn t.files location text }

/-- A change of a tree, which keeps what it altered when it fails. -/
abbrev Change := ExceptT Failure (StateM FileTree)

/-- Goes to what a part of a path names, and makes it a directory if there is nothing.  `last` says
whether the path ends there. -/
def makeDirectory (location : List String) (part : String) (last : Bool) :
    Change (List String) := do
  let t ← get
  let next := Path.follow location part
  if t.isDirectoryAt next then return next
  else if t.isFileAt next then throw (if last then .fileExists else .notADirectory)
  else if Path.isTooLong part then throw .nameTooLong
  else
    set { t with directories := t.directories ++ [next] }
    return next

/-- Makes all directories that some parts of a path name from a location. -/
def makeDirectoriesFrom (location : List String) : List String → Change Unit
  | [] => return ()
  | part :: rest => do
    let next ← makeDirectory location part (rest.all String.isEmpty)
    makeDirectoriesFrom next rest

/-- Makes all directories on an absolute path. -/
def makeDirectories (path : String) : Change Unit := makeDirectoriesFrom [] (Path.parts path)

/-- Writes a text to the file that an absolute path names in a directory that exists.  Where the
text has no encoding, the file is left empty. -/
def put (path text : String) : Change Unit := do
  let t ← get
  let target ← match t.locate path with
    | some location => if t.isDirectoryAt location then throw .isADirectory else pure location
    | none =>
      match t.locate (Path.parent path) with
      | some directory =>
        if Path.isTooLong (Path.base path) then throw .nameTooLong
        else pure (directory ++ [Path.base path])
      | none => throw .fileMissing
  if Surrogate.isEncodable text then
    set (t.putAt target text)
  else
    set (t.putAt target "")
    throw .unencodable

/-! ### The law of a write -/

theorem textAt?_putAt_self (t : FileTree) (location : List String) (text : String) :
  (t.putAt location text).textAt? location = some text
  := by
  unfold putAt textAt?
  induction t.files with
  | nil => simp [putIn, textIn]
  | cons f rest ih => by_cases h : f.1 = location <;> simp_all [putIn, textIn]

theorem textAt?_putAt_of_ne (t : FileTree) {location other : List String} (text : String)
    (h : location ≠ other) :
  (t.putAt location text).textAt? other = t.textAt? other
  := by
  unfold putAt textAt?
  induction t.files with
  | nil => simp [putIn, textIn, h]
  | cons f rest ih =>
    by_cases hf : f.1 = location
    · simp [putIn, textIn, hf, h]
    · by_cases ho : f.1 = other <;> simp_all [putIn, textIn]

end FileTree

end GraphScribe
