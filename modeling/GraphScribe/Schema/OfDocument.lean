import GraphScribe.Document.Grammar
import GraphScribe.Document.Validity
import GraphScribe.Schema.Blueprint

/-!
# Schemas from documents

`Schema.ofDocument` builds the schema that a type-system document declares.  The document must
be valid; extensions add their parts behind those of the definition; and without a schema
definition the types called `Query`, `Mutation` and `Subscription` are the roots.
-/

namespace GraphScribe

namespace Document

variable (d : Document)

/-- The kind of the type called `name`: the built-in types cannot be redefined. -/
def kindOf (name : String) : Option Kind :=
  Builtin.kindOf name
    <|> (d.typeDefinitions.find? fun t => t.name = name).bind fun t => Kind.ofWord? t.body.keyword

/-- The definition of a type and its extensions, in that order. -/
def partsOf (t : TypeDeclaration) : List TypeDeclaration :=
  t :: d.typeExtensions.filter fun e => e.name = t.name

/-- Fails with `cause` unless a condition holds. -/
def demand (holds : Bool) (cause : Failure) : Except Failure Unit :=
  if holds then .ok () else .error cause

/-! ### Directives that the schema itself understands -/

/-- The value of a string argument of a built-in directive: absent, null, or a text. -/
def stringArgument (x : Directive) (name : String) : Except Failure (Option (Option String)) :=
  match Assoc.find? x.arguments name with
  | none => .ok none
  | some .null => .ok (some none)
  | some (.string s) => .ok (some (some s))
  | some (.block s) => .ok (some (some s))
  | some _ => .error .inadmissibleValue

/-- The reason for which something is deprecated, if it is and has one. -/
def deprecationReason (ds : List Directive) : Except Failure (Option String) :=
  match ds.find? fun x => x.name = "deprecated" with
  | none => .ok none
  | some x => do
    match ← stringArgument x "reason" with
    | none => return some Builtin.defaultReason
    | some reason? => return reason?

/-- Fails unless the address of a specification, where one is given, is a text. -/
def checkSpecification (ds : List Directive) : Except Failure Unit :=
  match ds.find? fun x => x.name = "specifiedBy" with
  | none => .ok ()
  | some x => do demand ((← stringArgument x "url").join).isSome .inadmissibleValue

/-! ### Parts of types -/

/-- An argument or input field; its type must be an input type. -/
def inputValue (x : InputDeclaration) : Pending InputValue := fun forms => do
  let default ← match x.default with
    | none => pure none
    | some l => l.readAt forms x.type
  let deprecation ← deprecationReason x.directives
  demand ((d.kindOf x.type.base).any Kind.isInput) .invalidSchema
  return { name := x.name
           type := x.type
           description := x.description
           default
           deprecation
           directives := x.directives }

/-- A field; its type must be an output type. -/
def outputField (x : FieldDeclaration) : Pending OutputField := do
  let arguments ← x.arguments.mapM d.inputValue
  let deprecation ← deprecationReason x.directives
  demand ((d.kindOf x.type.base).any Kind.isOutput) .invalidSchema
  return { name := x.name
           type := x.type
           description := x.description
           arguments
           deprecation
           directives := x.directives }

/-- A value of an enum type. -/
def enumMember (x : EnumValueDeclaration) : Except Failure EnumMember := do
  return { name := x.name
           description := x.description
           deprecation := ← deprecationReason x.directives
           directives := x.directives }

/-- Some names, all of which must be types of a kind. -/
def namesOfKind (kind : Kind) (names : List String) : Pending (List String) := do
  demand (names.all fun n => d.kindOf n = some kind) .invalidSchema
  return names

/-- What a type consists of: the parts that its definition and its extensions declare. -/
def content (t : TypeDeclaration) : Except Failure PendingContent := do
  let bodies := (d.partsOf t).map TypeDeclaration.body
  let interfaces := d.namesOfKind .interface (bodies.flatMap TypeBody.interfaces)
  let fields := (bodies.flatMap TypeBody.fields).mapM d.outputField
  match t.body with
  | .scalar =>
    checkSpecification t.directives
    return .scalar
  | .object _ _ => return .object interfaces fields
  | .interface _ _ => return .interface interfaces fields
  | .union _ => return .union (d.namesOfKind .object (bodies.flatMap TypeBody.members))
  | .enum _ => return .enum (← (bodies.flatMap TypeBody.values).mapM enumMember)
  | .input _ =>
    return .input (t.directives.any fun x => x.name = Builtin.choice)
      ((bodies.flatMap TypeBody.inputFields).mapM d.inputValue)

/-- A type with its extensions. -/
def pendingType (t : TypeDeclaration) : Except Failure PendingType := do
  return { name := t.name
           description := t.description
           directives := (d.partsOf t).flatMap TypeDeclaration.directives
           content := ← d.content t }

/-! ### The whole schema -/

/-- The roots that the schema definition and its extensions name. -/
def namedRoots : List (OperationKind × String) :=
  (d.schemaDefinitions ++ d.schemaExtensions).flatMap SchemaDeclaration.roots

/-- The name that a type must have to be a root by default. -/
def defaultRoot : OperationKind → String
  | .query => "Query"
  | .mutation => "Mutation"
  | .subscription => "Subscription"

/-- The root type of a kind of operation.  A type with the default name comes first, but only
where there is no schema definition. -/
def root? (kind : OperationKind) : Option String :=
  let named := (d.namedRoots.find? fun r => r.1 = kind).map Prod.snd
  if d.schemaDefinitions.isEmpty && d.typeDefinitions.any fun t => t.name = defaultRoot kind then
    some (defaultRoot kind)
  else
    named

/-- A directive that the document defines. -/
def schemaDirective (x : DirectiveDeclaration) : Pending SchemaDirective := do
  return { name := x.name
           description := x.description
           locations := x.locations
           arguments := ← x.arguments.mapM d.inputValue }

/-- The parts of the schema that a valid document declares. -/
def blueprint : Except Failure Blueprint := do
  let types ← (d.typeDefinitions.filter fun t => !Builtin.isType t.name).mapM d.pendingType
  return { types
           knows := Builtin.isType
           query := d.root? .query
           mutation := d.root? .mutation
           subscription := d.root? .subscription
           directives := (d.schemaDefinitions ++ d.schemaExtensions).flatMap
             SchemaDeclaration.directives
           directiveDefinitions := d.directiveDefinitions.mapM d.schemaDirective }

end Document

namespace Schema

/-- The schema that a document declares. -/
def ofDocument (d : Document) : Except Failure Schema := do
  if d.isValid then (← d.blueprint).schema else throw .invalidSchema

/-- The schema that a text declares. -/
def ofText (source : String) : Except Failure Schema := do ofDocument (← Document.read source)

end Schema

end GraphScribe
