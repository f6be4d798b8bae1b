import GraphScribe.Config
import GraphScribe.Files.Path
import GraphScribe.Generator.Partials
import GraphScribe.Hooks

/-!
# The generator

A `Generator` writes one file from a model and transformed batches.  `Generator.load` finds a
template by name: by the source that the configuration gives for it, else in a file of the template
directory, else as one of the partials.  `Generator.render` writes the index with the variables of
`Generator.start`, and `Generator.compile` names the file and puts the headers in front.
-/

namespace GraphScribe

open Template TypeScript

/-- What a file is generated from.  `templateFile` looks up the files of a template directory. -/
structure Generator where
  model : Model
  config : Config := {}
  batches : List Batch := []
  hooks : Hooks := {}
  helpers : Assoc Helper := []
  sources : Assoc Value := []
  templateFile : String → Option String := fun _ => none

/-- A generated file; its name is the setting as it was given. -/
structure GeneratedFile where
  name : Value
  content : String
deriving Inhabited

namespace Generator

/-! ### Templates by name -/

/-- The name of a template; the ending may be left out. -/
def templateName (name : String) : String :=
  if Text.endsWith name Partial.suffix then name else name ++ Partial.suffix

/-- The parts of a template name between slashes; none if it leads upwards. -/
def pathOf? (name : String) : Option (List String) :=
  let parts := (Path.parts name).filter fun p => p ≠ "" && p ≠ "."
  if parts.contains ".." then none else some parts

/-- The partial with a template name. -/
def partialNamed? (name : String) : Option Partial :=
  (pathOf? name).bind fun path => Partial.all.find? fun p => path = [p.templateName]

/-- Where the text of a template comes from. -/
inductive Origin where
  | given (source : Value)
  | file (source : String)
  | own (p : Partial)

/-- Finds a template by name: among the given sources, then the files, then the partials. -/
def find? (g : Generator) (name : String) : Option Origin :=
  ((g.sources.find? name).map .given)
    <|> (((pathOf? name).bind fun path => g.templateFile ("/".intercalate path)).map .file)
    <|> ((partialNamed? name).map .own)

/-! ### Making a generator -/

/-- The helpers that a configuration gives, under those that are given besides: its own cannot be
called. -/
def helpersOf (customHelpers : Value) (more : Assoc (String → String)) :
    Except Failure (Assoc Helper) :=
  match customHelpers with
  | .object entries =>
    .ok (Assoc.insertAll (entries.map fun e => (e.1, Helper.value e.2))
      (more.mapValues Helper.function))
  | _ => if more.isEmpty then .error .attributeMissing else .error .invalidSetting

/-- The sources that a configuration gives, under the names of templates. -/
def sourcesOf (templates : Value) : Except Failure (Assoc Value) :=
  if templates.isTruthy then
    match templates with
    | .object entries => .ok (Assoc.ofList (entries.map fun e => (templateName e.1, e.2)))
    | _ => .error .attributeMissing
  else .ok []

/-- The files of the template directory that a configuration names, if it names one. -/
def filesOf (templatesIn : String → Except Failure (String → Option String))
    (templateDir : Value) : Except Failure (String → Option String) :=
  if templateDir.isTruthy then
    match templateDir with
    | .string path => templatesIn path
    | _ => .error .invalidSetting
  else .ok fun _ => none

/-- The generator for a configuration.  Helpers have to be entered into what the configuration gives
before anything else; `templatesIn` gives a way to look up the files of a directory. -/
def make (model : Model) (config : Config) (batches : List Batch) (hooks : Hooks)
    (helpers : Assoc (String → String))
    (templatesIn : String → Except Failure (String → Option String)) :
    Except Failure Generator := do
  if !helpers.isEmpty then let _ ← helpersOf config.customHelpers helpers
  let sources ← sourcesOf config.templates
  let templateFile ← filesOf templatesIn config.templateDir
  let helpers ← helpersOf config.customHelpers helpers
  return { model
           config
           batches
           hooks
           helpers
           sources
           templateFile }

/-! ### Rendering -/

/-- How deep templates may include each other. -/
def inclusionLimit : Nat := 250

/-- The template called `name`, given its source. -/
def loadSource (env : Environment) (name source : String) : Except Failure Loaded := do
  return Template.text env name (← Template.compile env.helpers source)

/-- Finds the template with a name. -/
def load (g : Generator) : Nat → String → Except Failure Loaded
  | 0, _ => throw .endlessTemplate
  | depth + 1, name => do
    let env : Environment := { helpers := g.helpers, load := load g depth }
    match g.find? name with
    | none => throw .templateMissing
    | some (.given (.string source)) => loadSource env name source
    | some (.given _) => throw .wrongOperand
    | some (.file source) => loadSource env name source
    | some (.own p) => do
      demand g.helpers p.needs
      return fun start => p.text env { start }

/-- The variables of the index. -/
def start (g : Generator) (m : Model) (exposed : Table Datum) (generateSchema : Bool) :
    Assoc Datum :=
  [("schema", .node (.model m)),
    ("types", .nodes (fun t => .type (.object t)) m.types.values),
    ("interfaces", .nodes (fun t => .type (.interface t)) m.interfaces.values),
    ("unions", .nodes (fun t => .type (.union t)) m.unions.values),
    ("enums", .nodes (fun t => .type (.enum t)) m.enums.values),
    ("scalars", .nodes (fun t => .type (.scalar t)) m.scalars.values),
    ("inputs", .nodes (fun t => .type (.input t)) m.inputs.values),
    ("argument_types", .nodes .arguments m.argumentTypes.values),
    ("directives", .nodes .usage m.directives),
    ("documents", .nodes .batch g.batches),
    ("generate_schema", .bool generateSchema),
    ("config", .map exposed),
    ("primitives", .primitives),
    ("readonly", .string (Style.ofConfig g.config).readonly)] ++ globals g.helpers

/-- The text of the index. -/
def render (g : Generator) (generateSchema : Bool) : Except Failure String := do
  let m ← g.hooks.prepare g.model
  let exposed ← g.config.expose Datum.primitives Datum.value
  let write ← g.load inclusionLimit Partial.index.templateName
  (write (g.start m exposed generateSchema)).run' (Style.ofConfig g.config)

/-- The file that is generated. -/
def compile (g : Generator) (generateSchema : Bool) : Except Failure GeneratedFile := do
  return { name := g.config.outFile, content := ← g.hooks.finish (← g.render generateSchema) }

end Generator

end GraphScribe
