import GraphScribe.CommandLine.Run

/-!
# The program

`main` runs the command line in the working directory.  Standard input lists the files that the run
may read, one path per line; what the run leaves in its file tree is then written to disk.
-/

namespace GraphScribe

/-- The paths that a stream lists up to its end. -/
partial def readPaths (s : IO.FS.Stream) (paths : List String) : IO (List String) := do
  let line ← s.getLine
  if line.isEmpty then return paths.reverse
  readPaths s (String.ofList (line.toList.filter fun c => c ≠ '\n' && c ≠ '\r') :: paths)

/-- The tree with the file that a path names; a file that is no text is left out. -/
def addFile (t : FileTree) (path : String) : IO FileTree := do
  try
    let text ← IO.FS.readFile path
    return t.putAt (Path.resolve t.workingDirectory (Surrogate.carry path)) (Surrogate.carry text)
  catch _ => return t

/-- The path on disk of a location. -/
def diskPath (location : List String) : String := Surrogate.characters (Path.ofLocation location)

/-- Writes to disk what a tree holds and an earlier one does not. -/
def save (t earlier : FileTree) : IO Unit := do
  for directory in t.directories do
    IO.FS.createDirAll (diskPath directory)
  for (location, text) in t.changedSince earlier do
    IO.FS.writeFile (diskPath location) (Surrogate.characters text)

end GraphScribe

open GraphScribe in
/-- Runs the command line; the reason of a failure goes to the error output. -/
def main (arguments : List String) : IO UInt32 := do
  let paths ← readPaths (← IO.getStdin) []
  let workingDirectory := Path.resolve [] (Surrogate.carry (← IO.currentDir).toString)
  let tree ← paths.foldlM addFile { workingDirectory }
  let outcome := CommandLine.run tree (arguments.map Surrogate.carry)
  for line in outcome.printed do
    IO.println (Surrogate.characters line)
  save outcome.tree tree
  match outcome.cause.bind Failure.message? with
  | some message => IO.eprintln ("Error: " ++ Surrogate.characters message)
  | none => pure ()
  return outcome.exitCode.toUInt32
