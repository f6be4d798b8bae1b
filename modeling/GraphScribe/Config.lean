import GraphScribe.Assoc
import GraphScribe.Failure
import GraphScribe.Json
import GraphScribe.Table

/-!
# Configuration

A `Config` holds the settings of a generator.  Settings are values of any form and are not
checked when they are given.  `Config.ofEntries` reads the settings of a mapping, in either
spelling, and keeps what it does not know among the free options; `Config.merge` puts other
settings in place of those given; `Config.exposed` is what templates see.
-/

namespace GraphScribe

/-- The target types of the built-in scalars. -/
def defaultPrimitives : Assoc Value :=
  [("String", .string "string"), ("Int", .string "number"), ("Float", .string "number"),
    ("Boolean", .string "boolean"), ("ID", .string "string")]

/-- The free options: values under keys, or something else that was put in their place. -/
inductive Options where
  | table (entries : Table Value)
  | other (v : Value)
deriving Inhabited

/-- The options that a value gives. -/
def Options.ofValue : Value → Options
  | .object entries => .table (Table.ofNamed entries)
  | v => .other v

/-- The settings of a generator. -/
structure Config where
  immutableTypes : Value := .bool false
  avoidOptionals : Value := .bool false
  enumsAsTypes : Value := .bool false
  flattenTypes : Value := .bool true
  primitives : Value := .object defaultPrimitives
  customHelpers : Value := .object []
  templates : Value := .object []
  templateDir : Value := .null
  outFile : Value := .string "types.ts"
  options : Options := .table []
deriving Inhabited

namespace Config

/-! ### Settings by name -/

/-- All settings but the options, under their names. -/
def settings (c : Config) : Assoc Value :=
  [("immutable_types", c.immutableTypes), ("avoid_optionals", c.avoidOptionals),
    ("enums_as_types", c.enumsAsTypes), ("flatten_types", c.flattenTypes),
    ("primitives", c.primitives), ("custom_helpers", c.customHelpers),
    ("templates", c.templates), ("template_dir", c.templateDir), ("out_file", c.outFile)]

/-- The configuration with another value for the setting called `name`, if there is one. -/
def set? (c : Config) (name : String) (v : Value) : Option Config :=
  match name with
  | "immutable_types" => some { c with immutableTypes := v }
  | "avoid_optionals" => some { c with avoidOptionals := v }
  | "enums_as_types" => some { c with enumsAsTypes := v }
  | "flatten_types" => some { c with flattenTypes := v }
  | "primitives" => some { c with primitives := v }
  | "custom_helpers" => some { c with customHelpers := v }
  | "templates" => some { c with templates := v }
  | "template_dir" => some { c with templateDir := v }
  | "out_file" => some { c with outFile := v }
  | "options" => some { c with options := .ofValue v }
  | _ => none

/-- The second spelling of a name, as the first one. -/
def canonicalName (name : String) : String :=
  match name with
  | "immutableTypes" => "immutable_types"
  | "avoidOptionals" => "avoid_optionals"
  | "enumsAsTypes" => "enums_as_types"
  | "flattenTypes" => "flatten_types"
  | "customHelpers" => "custom_helpers"
  | "templateDir" => "template_dir"
  | "outFile" => "out_file"
  | name => name

/-! ### Options -/

/-- The key and the value that a value lists as a pair. -/
def pair : Value → Except Failure (Value × Value)
  | .list [key, v] => if key.key?.isSome then .ok (key, v) else .error .invalidSetting
  | .list _ => .error .unpairedSettings
  | .string s =>
    match Surrogate.split s with
    | [a, b] => .ok (.string a, .string b)
    | _ => .error .unpairedSettings
  | .object [(a, _), (b, _)] => .ok (.string a, .string b)
  | .object _ => .error .unpairedSettings
  | _ => .error .invalidSetting

/-- The table that a value stands for: a mapping itself, or a list of pairs. -/
def tableOf : Value → Except Failure (Table Value)
  | .object entries => .ok (Table.ofNamed entries)
  | .list items => do return Table.ofList (← items.mapM pair)
  | .string s => if s.isEmpty then .ok [] else .error .unpairedSettings
  | _ => .error .invalidSetting

/-- The table that options stand for. -/
def tableOfOptions : Options → Except Failure (Table Value)
  | .table entries => .ok entries
  | .other v => tableOf v

/-! ### Reading a configuration -/

/-- Primitives over the default ones. -/
def overDefaults : Value → Except Failure Value
  | .object entries => .ok (.object (Assoc.insertAll defaultPrimitives entries))
  | _ => .error .invalidSetting

/-- Enters a setting; one without a name of its own becomes an option. -/
def enter (state : Config × Table Value) (entry : String × Value) : Config × Table Value :=
  let name := canonicalName entry.1
  if name = "options" then state
  else
    match state.1.set? name entry.2 with
    | some c => (c, state.2)
    | none => (state.1, state.2.insert (.string entry.1) entry.2)

/-- The configuration that a mapping gives. -/
def ofEntries (entries : List (String × Value)) : Except Failure Config := do
  let options ← tableOf ((Assoc.find? entries "options").getD (.object []))
  let (c, options) := entries.foldl enter ({}, options)
  let primitives ←
    if Assoc.contains entries "primitives" then overDefaults c.primitives else pure c.primitives
  return { c with primitives, options := .table options }

/-- The configuration in the text of the file called `path`. -/
def read (path text : String) : Except Failure Config := do
  match ← Json.read text with
  | .object entries => ofEntries entries
  | _ => throw (.configNotObject path)

/-! ### Using a configuration -/

/-- Puts a value in place of a setting, unless the value is null. -/
def replace (c : Config) (entry : String × Value) : Except Failure Config :=
  if entry.2.isNull then .ok c
  else
    match c.set? entry.1 entry.2 with
    | some c => .ok c
    | none => .error .invalidSetting

/-- The name that no override may have: it stands for the configuration itself. -/
def ownName : String := "self"

/-- The configuration with other values for some settings; null leaves a setting as it is. -/
def merge (c : Config) (overrides : List (String × Value)) : Except Failure Config :=
  if Assoc.contains overrides ownName then .error .invalidSetting else overrides.foldlM replace c

/-- What templates see of the settings, where `primitives` stands for the primitives and
`ofValue` gives what stands for any other value: six settings, over which the options are
entered. -/
def expose {α : Type} (c : Config) (primitives : α) (ofValue : Value → α) :
    Except Failure (Table α) := do
  let settings : Table α := Table.ofNamed
    [("immutable_types", ofValue c.immutableTypes), ("avoid_optionals", ofValue c.avoidOptionals),
      ("enums_as_types", ofValue c.enumsAsTypes), ("flatten_types", ofValue c.flattenTypes),
      ("primitives", primitives), ("out_file", ofValue c.outFile)]
  return settings.insertAll ((← tableOfOptions c.options).mapValues ofValue)

/-- The settings that templates see. -/
def exposed (c : Config) : Except Failure (Table Value) := c.expose c.primitives id

end Config

end GraphScribe
