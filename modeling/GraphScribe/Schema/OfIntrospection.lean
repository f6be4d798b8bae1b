import GraphScribe.Document.Grammar
import GraphScribe.Schema.Blueprint
import GraphScribe.Table
import GraphScribe.Text.Surrogate

/-!
# Schemas from introspection results

`Schema.ofIntrospection` builds the schema that an introspection result describes.  Types are
looked at in three passes: each by itself, then the roots and directives, and at last the
parts of each type; `part` gives the failures of the last pass.  Of two types with one
name the later counts, in the place of the earlier.  The names of several entries are looked
at only when all of the entries have been read (`named`, `admitted`).
-/

namespace GraphScribe

namespace Introspection

/-! ### Entries of objects -/

/-- The entry of an object under `key`; null and what is absent are none. -/
def entry? (v : Value) (key : String) : Except Failure (Option Value) :=
  match v with
  | .object entries =>
    match Assoc.find? entries key with
    | none => .ok none
    | some .null => .ok none
    | some x => .ok (some x)
  | _ => .error .attributeMissing

/-- The entry of an object under a key that has to be present. -/
def required (v : Value) (key : String) : Except Failure Value :=
  match v with
  | .object entries =>
    match Assoc.find? entries key with
    | none => .error (.keyMissing key)
    | some x => .ok x
  | _ => .error .invalidSchema

/-- A text that may be absent. -/
def text? (v : Value) (key : String) : Except Failure (Option String) := do
  match ← entry? v key with
  | none => return none
  | some (.string s) => return some s
  | some _ => throw .invalidSchema

/-- The elements of a list; a text is taken as the list of its characters and an object as the list
of its keys. -/
def elements : Value → Except Failure (List Value)
  | .list items => .ok items
  | .string s => .ok ((Surrogate.split s).map .string)
  | .object entries => .ok ((Assoc.keys entries).map .string)
  | _ => .error .invalidSchema

/-- The elements of a list that may be absent, or given by something else that is empty. -/
def optionalElements (v : Value) : Except Failure (List Value) :=
  if v.isTruthy then elements v else .ok []

/-- The entry under a key that has to be present and not null. -/
def present (v : Value) (key : String) : Except Failure Value := do
  match ← entry? v key with
  | none => throw .invalidSchema
  | some x => return x

/-- The elements of a list under a key that has to be present. -/
def elementsOf (v : Value) (key : String) : Except Failure (List Value) := do
  elements (← present v key)

/-- A text that is given as a value. -/
def asText : Value → Except Failure String
  | .string s => .ok s
  | _ => .error .invalidSchema

/-! ### Names -/

/-- Whether a text is a name. -/
def isName (s : String) : Bool :=
  match s.toList with
  | [] => false
  | c :: rest => Token.isNameStart c && rest.all Token.isNameContinue

/-- Fails unless a text is a name. -/
def checkName (s : String) : Except Failure Unit :=
  if isName s then .ok () else .error .inadmissibleValue

/-- Fails unless a text is a name for an enum value. -/
def checkEnumName (s : String) : Except Failure Unit :=
  if isName s && !(["true", "false", "null"].contains s) then .ok ()
  else .error .inadmissibleValue

/-- Whether a value can be a key, admissible as a name or not. -/
def isKey (v : Value) : Bool := v.key?.isSome

/-- Some entries, each with what is given as its name.  What an entry is made of may still lack
its name. -/
abbrev Named (α : Type) := List (Value × (String → α))

/-- Reads some entries.  Whatever is given as the name of an entry must at least be a key. -/
def named {α : Type} (read : Value → Pending (String → α)) (vs : List Value) :
    Pending (Named α) :=
  vs.mapM fun v => do
    let name ← required v "name"
    let entry ← read v
    if isKey name then return (name, entry) else throw .invalidSchema

/-- The values of entries under their names, of which a later one replaces an earlier one. -/
def distinct {α : Type} (entries : List (String × (String → α))) : List α :=
  (Assoc.ofList entries).map fun e => e.2 e.1

/-- The values of entries; all of them must have texts as names, and then admissible names. -/
def admitted {α : Type} (entries : Named α) : Except Failure (List α) := do
  let entries ← entries.mapM fun e => return (← asText e.1, e.2)
  entries.forM fun e => checkName e.1
  return distinct entries

/-! ### References to types -/

/-- The kinds of the types that can be referred to. -/
abbrev Kinds := Assoc Kind

/-- A named type, which has to be known. -/
def namedType (kinds : Kinds) (v : Value) : Except Failure String := do
  match ← entry? v "name" with
  | some (.string name) => if kinds.contains name then return name else throw .invalidSchema
  | _ => throw .invalidSchema

/-- A wrapper around the type in another entry. -/
def wrapped (entries : List (String × Value)) (inner : Assoc (Except Failure TypeRef)) :
    Except Failure TypeRef :=
  if (Assoc.find? entries "ofType").any Value.isTruthy then
    (inner.find? "ofType").getD (.error .invalidSchema)
  else
    .error .invalidSchema

mutual

/-- The type that a reference describes. -/
def typeRef (kinds : Kinds) : Value → Except Failure TypeRef
  | .object entries =>
    match Assoc.find? entries "kind" with
    | some (.string "LIST") => do return .list (← wrapped entries (entryTypeRefs kinds entries))
    | some (.string "NON_NULL") => do
      match ← wrapped entries (entryTypeRefs kinds entries) with
      | .nonNull _ => throw .invalidSchema
      | t => return .nonNull t
    | _ => do return .named (← namedType kinds (.object entries))
  | _ => .error .attributeMissing

/-- The types that the entries of an object describe, each under its key. -/
def entryTypeRefs (kinds : Kinds) : List (String × Value) → Assoc (Except Failure TypeRef)
  | [] => []
  | (key, v) :: rest => (key, typeRef kinds v) :: entryTypeRefs kinds rest

end

/-! ### Parts of types -/

/-- A part of a type: what goes wrong in it is either a value or a name that is not admitted, or
an invalid schema. -/
def part {α : Type} (x : Pending α) : Pending α := fun forms =>
  match x forms with
  | .ok a => .ok a
  | .error .notGraphQL => .error .inadmissibleValue
  | .error .inadmissibleValue => .error .inadmissibleValue
  | .error _ => .error .invalidSchema

/-- The default of an argument, read at its type. -/
def default? (v : Value) (type : TypeRef) : Pending (Option Value) := fun forms => do
  match ← text? v "defaultValue" with
  | none => return none
  | some source => (← Literal.read source).readAt forms type

/-- An argument or input field, but for its name. -/
def inputValue (kinds : Kinds) (v : Value) : Pending (String → InputValue) := do
  let type ← typeRef kinds (← required v "type")
  if !(kinds.find? type.base).any Kind.isInput then throw .invalidSchema
  let default ← default? v type
  let description ← text? v "description"
  let deprecation ← text? v "deprecationReason"
  return fun name => { name, type, description, default, deprecation }

/-- A field of an object or interface type, but for its name. -/
def outputField (kinds : Kinds) (v : Value) : Pending (String → OutputField) := do
  let type ← typeRef kinds (← required v "type")
  if !(kinds.find? type.base).any Kind.isOutput then throw .invalidSchema
  let arguments ← admitted (← named (inputValue kinds) (← elementsOf v "args"))
  let description ← text? v "description"
  let deprecation ← text? v "deprecationReason"
  return fun name => { name, type, description, arguments, deprecation }

/-- The fields of an object or interface type. -/
def outputFields (kinds : Kinds) (v : Value) : Pending (List OutputField) := do
  admitted (← named (outputField kinds) (← elementsOf v "fields"))

/-- The name of a type that has to be of a certain kind. -/
def typeOfKind (kinds : Kinds) (kind : Kind) (v : Value) : Except Failure String := do
  match ← typeRef kinds v with
  | .named name => if kinds.find? name = some kind then return name else throw .invalidSchema
  | _ => throw .invalidSchema

/-- A value of an enum type, but for its name. -/
def enumMember (v : Value) : Pending (String → EnumMember) := do
  let description ← text? v "description"
  let deprecation ← text? v "deprecationReason"
  return fun name => { name, description, deprecation }

/-- The values of an enum type, whose names are looked at in order. -/
def enumMembers (entries : Named EnumMember) : Except Failure (List EnumMember) := do
  let entries ← entries.mapM fun e => do
    let name ← asText e.1
    checkEnumName name
    return (name, e.2)
  return distinct entries

/-! ### Types -/

/-- What a type of a kind consists of: a first look at it, before its own name is looked at, and
then a second one. -/
def content (kinds : Kinds) (v : Value) :
    Kind → Except Failure (Except Failure PendingContent)
  | .scalar => return .ok .scalar
  | .object =>
    return .ok <| .object
      (part do (← elementsOf v "interfaces").mapM fun i => typeOfKind kinds .interface i)
      (part (outputFields kinds v))
  | .interface =>
    return .ok <| .interface
      (part do
        match ← entry? v "interfaces" with
        | none => return []
        | some _ => (← elementsOf v "interfaces").mapM fun i => typeOfKind kinds .interface i)
      (part (outputFields kinds v))
  | .union => do
    let members ← present v "possibleTypes"
    return .ok <| .union (part do (← elements members).mapM fun m => typeOfKind kinds .object m)
  | .enum => do
    let entries ← named enumMember (← elementsOf v "enumValues") []
    return (enumMembers entries).map .enum
  | .inputObject => do
    let fields ← present v "inputFields"
    let isChoice := ((← entry? v "isOneOf").map Value.isTruthy).getD false
    return .ok <| .input isChoice
      (part do admitted (← named (inputValue kinds) (← elements fields)))

/-- The kind that a type says it has. -/
def kindOf? (v : Value) : Option Kind :=
  match v with
  | .object entries =>
    match Assoc.find? entries "kind" with
    | some (.string "SCALAR") => some .scalar
    | some (.string "OBJECT") => some .object
    | some (.string "INTERFACE") => some .interface
    | some (.string "UNION") => some .union
    | some (.string "ENUM") => some .enum
    | some (.string "INPUT_OBJECT") => some .inputObject
    | _ => none
  | _ => none

/-- A type with a name of its own. -/
def declaredType (kinds : Kinds) (v : Value) (kind : Kind) (name : Value) :
    Except Failure PendingType := do
  let content ← content kinds v kind
  let name ← asText name
  checkName name
  let description ← text? v "description"
  let content ← content
  if kind = .scalar then
    let _ ← text? v "specifiedByURL"
  return { name, description, content }

/-- A type by itself.  What a description says of a built-in type does not count, but it must
not give such a name to an interface, a union or an input type. -/
def pendingType (kinds : Kinds) (v : Value) : Except Failure PendingType := do
  let name ← required v "name"
  match kindOf? v with
  | none => throw .invalidSchema
  | some kind =>
    if kind = .enum then
      let _ ← present v "enumValues"
    match name with
    | .string s =>
      if Builtin.isType s then
        if kind ∈ [.scalar, .object, .enum] then return { name := s, content := .scalar }
        else throw .invalidSchema
      else
        declaredType kinds v kind name
    | _ => if isKey name then declaredType kinds v kind name else throw .invalidSchema

/-- The kinds of the types that a result lists. -/
def kindsOf (types : List Value) : Kinds :=
  Assoc.ofList <| types.filterMap fun v =>
    match required v "name", kindOf? v with
    | .ok (.string name), some kind => some (name, (Builtin.kindOf name).getD kind)
    | _, _ => none

/-- The root type under a key, which has to be an object type. -/
def root? (kinds : Kinds) (v : Value) (key : String) : Except Failure (Option String) := do
  match ← entry? v key with
  | none => return none
  | some r => return some (← typeOfKind kinds .object r)

/-! ### Directives -/

/-- The place at which a directive may stand. -/
def location : Value → Except Failure String
  | .string s => if Builtin.locations.contains s then .ok s else .error .invalidSchema
  | _ => .error .invalidSchema

/-- Whether a directive is said to be repeatable or not, or nothing is said of it. -/
def saysRepeatable : Value → Bool
  | .object entries =>
    match Assoc.find? entries "isRepeatable" with
    | none => true
    | some (.bool _) => true
    | some _ => false
  | _ => true

/-- A directive. -/
def directive (kinds : Kinds) (v : Value) : Pending SchemaDirective := do
  let args ← entry? v "args"
  let locations ← entry? v "locations"
  if args.isNone || locations.isNone then throw .invalidSchema
  let name ← required v "name"
  let arguments ← named (inputValue kinds) (← elementsOf v "args")
  let name ← asText name
  checkName name
  let locations ← (← elementsOf v "locations").mapM fun l => location l
  let arguments ← admitted arguments
  if !saysRepeatable v then throw .invalidSchema
  let description ← text? v "description"
  let _ ← text? v "deprecationReason"
  return { name, description, locations, arguments }

/-! ### The whole schema -/

/-- The parts of the schema that a result describes. -/
def blueprint (v : Value) : Except Failure Blueprint := do
  let listed ← elements (← required v "types")
  let kinds := kindsOf listed
  let types ← listed.mapM (pendingType kinds)
  let unique := (Assoc.ofList (types.map fun t => (t.name, t))).values
  return { types := unique.filter fun t => !Builtin.isType t.name
           knows := fun name => Builtin.isType name && kinds.contains name
           query := ← root? kinds v "queryType"
           mutation := ← root? kinds v "mutationType"
           subscription := ← root? kinds v "subscriptionType"
           directiveDefinitions := do
             let directives ← entry? v "directives"
             let directives ← (← optionalElements (directives.getD .null)).mapM (directive kinds)
             let _ ← text? v "description"
             return directives }

end Introspection

namespace Schema

/-- The schema that an introspection result describes. -/
def ofIntrospection (v : Value) : Except Failure Schema := do
  match v with
  | .object entries =>
    match Assoc.find? entries "__schema" with
    | some (.object s) => do (← Introspection.blueprint (.object s)).schema
    | _ => throw .invalidSchema
  | _ => throw .invalidSchema

end Schema

end GraphScribe
