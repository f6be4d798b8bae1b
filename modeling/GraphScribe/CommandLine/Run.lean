import GraphScribe.CommandLine.Arguments
import GraphScribe.Files.Sources
import GraphScribe.Generator
import GraphScribe.Model.OfSchema

/-!
# Running the command

`run` runs the command line on a file tree.  Its `Outcome` is the exit code, what is printed, the
tree afterwards, and the failure that ended it, if one did.  Arguments that are not in order end
the command with exit code 2 before anything happens.
-/

namespace GraphScribe.CommandLine

/-- What a run changes: the file tree, and the lines that it prints. -/
structure State where
  tree : FileTree
  printed : List String := []
deriving Inhabited

/-- A step of a run, which keeps what it changed when it fails. -/
abbrev Step := ExceptT Failure (StateM State)

/-- The end of a run. -/
structure Outcome where
  exitCode : Nat
  printed : List String
  tree : FileTree
  cause : Option Failure
deriving Inhabited

namespace Step

/-- Prints a line. -/
def print (line : String) : Step Unit := modify fun s => { s with printed := s.printed ++ [line] }

/-- Prints a line if the run tells what it does. -/
def tell (a : Arguments) (line : String) : Step Unit := if a.verbose then print line else pure ()

/-- A result, or its failure. -/
def settle {α : Type} (x : Except Failure α) : Step α := fun s => (x, s)

/-- Changes the file tree. -/
def change {α : Type} (c : FileTree.Change α) : Step α := fun s =>
  let (result, tree) := c.run s.tree
  (result, { s with tree })

end Step

open Step

/-! ### Parts of a run -/

/-- The settings that arguments give. -/
def overrides (a : Arguments) : List (String × Value) :=
  let flag := fun (b : Bool) => if b then Value.bool true else .null
  let text := fun (s : Option String) => (s.map Value.string).getD .null
  [("immutable_types", flag a.immutableTypes), ("avoid_optionals", flag a.avoidOptionals),
    ("enums_as_types", flag a.enumsAsTypes),
    ("flatten_types", if a.noFlatten then .bool false else .null),
    ("template_dir", text a.templateDir), ("out_file", text a.outFile)]

/-- The configuration: the one in a file, or the default one, under the given settings. -/
def configuration (a : Arguments) (t : FileTree) : Except Failure Config := do
  let c ← match a.config with
    | some path => if path.isEmpty then pure {} else Config.read path ((t.read? path).getD "")
    | none => pure {}
  c.merge (overrides a)

/-- Reads the schema. -/
def readModel (a : Arguments) : Step Model := do
  print "Parsing schema..."
  let m ← settle ((← get).tree.readSchema a.schema >>= Model.ofSchema)
  let count := fun (what : String) (n : Nat) => tell a ("  " ++ what ++ ": " ++ toString n)
  count "Scalars" m.scalars.length
  count "Enums" m.enums.length
  count "Types" m.types.length
  count "Inputs" m.inputs.length
  count "Interfaces" m.interfaces.length
  count "Unions" m.unions.length
  return m

/-- Transforms the documents, if there are any. -/
def readBatches (a : Arguments) (m : Model) : Step (List Batch) := do
  if a.documents.isEmpty then return []
  print "Transforming documents..."
  let b ← settle ((← get).tree.readDocuments a.documents >>= Batch.transform m)
  tell a ("  Operations: " ++ toString b.operations.length)
  tell a ("  Fragments: " ++ toString b.fragments.length)
  return [b]

/-- The hooks that the arguments ask for. -/
def hooks (a : Arguments) : Hooks :=
  { headers := (a.header.toList.filter fun h => !h.isEmpty).map .string }

/-- The path of a generated file in the output directory. -/
def pathOf (output : String) (name : Value) : Except Failure String :=
  match name with
  | .string name => .ok (Path.join output name)
  | _ => .error .wrongOperand

/-- Writes a generated file and returns its path. -/
def writeFile (output : String) (f : GeneratedFile) : Step String := do
  let path ← settle (pathOf output f.name)
  settle (Path.check path)
  change (FileTree.makeDirectories (Path.parent path))
  change (FileTree.put path f.content)
  return path

/-- Generates the file and returns its path. -/
def generate (a : Arguments) (g : Generator) (output : String) : Step String := do
  change (FileTree.makeDirectories output)
  writeFile output (← settle (g.compile !a.noSchema))

/-- The command with its arguments. -/
def command (a : Arguments) : Step Unit := do
  let t := (← get).tree
  let output := Path.ofLocation (Path.resolve t.workingDirectory a.output)
  tell a ("Schema: " ++ a.schema)
  tell a ("Output: " ++ output)
  let config ← settle (configuration a t)
  let model ← readModel a
  let batches ← readBatches a model
  print "Generating code..."
  let g ← settle (Generator.make model config batches (hooks a) [] t.templatesIn)
  let path ← generate a g output
  print ("  Wrote " ++ path)
  print ("Done! Generated code in " ++ output)

/-- Runs the command line. -/
def run (t : FileTree) (arguments : List String) : Outcome :=
  match Arguments.read t arguments with
  | .error .usage => { exitCode := 2, printed := [], tree := t, cause := none }
  | .error (.failure e) => { exitCode := 1, printed := [], tree := t, cause := some e }
  | .ok a =>
    match (command a).run { tree := t } with
    | (.ok (), s) => { exitCode := 0, printed := s.printed, tree := s.tree, cause := none }
    | (.error e, s) => { exitCode := 1, printed := s.printed, tree := s.tree, cause := some e }

end GraphScribe.CommandLine
