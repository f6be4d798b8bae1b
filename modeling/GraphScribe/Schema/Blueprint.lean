import GraphScribe.Schema.Coercion

/-!
# Blueprints

A `Blueprint` lists the parts of a schema as they are declared, before their defaults are read:
each part is `Pending` until the forms of all input types are known.  `Blueprint.schema` settles
them in order.  The form of an input type needs the defaults of its own fields, which may in
turn need other input types; `Blueprint.formsTo` follows such needs as deep as there are types,
so that it fails exactly where they run in a circle.
-/

namespace GraphScribe

/-- A part of a schema that waits for the forms of the input types. -/
abbrev Pending := ReaderT InputForms (Except Failure)

/-- What a type consists of, as declared. -/
inductive PendingContent where
  | scalar
  | object (interfaces : Pending (List String)) (fields : Pending (List OutputField))
  | interface (interfaces : Pending (List String)) (fields : Pending (List OutputField))
  | union (members : Pending (List String))
  | enum (values : List EnumMember)
  | input (isChoice : Bool) (fields : Pending (List InputValue))

/-- A type as declared. -/
structure PendingType where
  name : String
  description : Option String := none
  directives : List Directive := []
  content : PendingContent

namespace PendingContent

/-- What the type consists of. -/
def settle : PendingContent → Pending TypeContent
  | scalar => return .scalar
  | object interfaces fields => return .object (← interfaces) (← fields)
  | interface interfaces fields => return .interface (← interfaces) (← fields)
  | union members => return .union (← members)
  | enum values => return .enum values
  | input _ fields => return .input (← fields)

end PendingContent

/-- The type. -/
def PendingType.settle (t : PendingType) : Pending SchemaType := do
  return { name := t.name
           description := t.description
           directives := t.directives
           content := ← t.content.settle }

/-- The parts of a schema as declared.  `knows` tells which built-in types it has. -/
structure Blueprint where
  types : List PendingType
  knows : String → Bool
  query : Option String := none
  mutation : Option String := none
  subscription : Option String := none
  directives : List Directive := []
  directiveDefinitions : Pending (List SchemaDirective) := return []

/-- The form of a declared type, if it takes literals; the defaults of its fields are read with
`deeper` forms. -/
def PendingType.form? (t : PendingType) (deeper : Thunk InputForms) : Option InputForm :=
  match t.content with
  | .scalar => some .any
  | .enum values => some (.enum (values.map EnumMember.name))
  | .input isChoice fields => some (.object isChoice (Thunk.mk fun _ => fields deeper.get))
  | _ => none

/-- The forms of the built-in types that take literals. -/
def InputForms.builtin : InputForms :=
  builtinScalars.map (fun name => (name, .ofScalar name)) ++
    (Builtin.selfDescription.filter fun e => e.2 = .enum).map fun e =>
      (e.1, .enum (Builtin.enumValues e.1))

namespace Blueprint

/-- The forms of the types, where the defaults of an input type may need other input types up
to a depth.  Each depth has one table, so that no default is read twice at the same depth. -/
def formsTo (b : Blueprint) : Nat → Thunk InputForms
  | 0 => Thunk.pure []
  | depth + 1 =>
    let deeper := formsTo b depth
    Thunk.mk fun _ => (InputForms.builtin.filter fun e => b.knows e.1) ++
      b.types.filterMap fun t => (t.form? deeper).map fun form => (t.name, form)

/-- The forms of the types. -/
def forms (b : Blueprint) : InputForms := (b.formsTo (b.types.length + 1)).get

/-- The schema: the defined directives are settled first, then the types in order. -/
def schema (b : Blueprint) : Except Failure Schema := do
  let forms := b.forms
  let directiveDefinitions ← b.directiveDefinitions forms
  let types ← b.types.mapM fun t => t.settle forms
  if distinct : (types.map SchemaType.name).Nodup then
    return { types
             query := b.query
             mutation := b.mutation
             subscription := b.subscription
             directives := b.directives
             directiveDefinitions
             distinct }
  else
    throw .invalidSchema

end Blueprint

end GraphScribe
