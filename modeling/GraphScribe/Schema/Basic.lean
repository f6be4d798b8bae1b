import GraphScribe.Document.Basic
import GraphScribe.Schema.Builtin
import GraphScribe.Value

/-!
# Schemas

A `Schema` is a type system whose parts have been put together: every type is listed once,
with the fields, members and values that its extensions add, and every default has been read
as a value of its type.  `Schema.declaredTypes` are the types that are not built in,
`Schema.kindOf` knows the built-in types too, and `Schema.implementations` finds the object types
that name an interface.
-/

namespace GraphScribe

/-- An argument, or a field of an input type. -/
structure InputValue where
  name : String
  type : TypeRef
  description : Option String := none
  default : Option Value := none
  deprecation : Option String := none
  directives : List Directive := []
deriving Inhabited

/-- A field of an object or interface type. -/
structure OutputField where
  name : String
  type : TypeRef
  description : Option String := none
  arguments : List InputValue := []
  deprecation : Option String := none
  directives : List Directive := []
deriving Inhabited

/-- A value of an enum type, with its deprecation. -/
structure EnumMember where
  name : String
  description : Option String := none
  deprecation : Option String := none
  directives : List Directive := []
deriving Inhabited

/-- What a type consists of, by its kind. -/
inductive TypeContent where
  | scalar
  | object (interfaces : List String) (fields : List OutputField)
  | interface (interfaces : List String) (fields : List OutputField)
  | union (members : List String)
  | enum (values : List EnumMember)
  | input (fields : List InputValue)
deriving Inhabited

namespace TypeContent

/-- The kind of a type with some content. -/
def kind : TypeContent → Kind
  | scalar => .scalar
  | object _ _ => .object
  | interface _ _ => .interface
  | union _ => .union
  | enum _ => .enum
  | input _ => .inputObject

end TypeContent

/-- A type of a schema; the directives of its definition stand before those of its extensions. -/
structure SchemaType where
  name : String
  description : Option String := none
  directives : List Directive := []
  content : TypeContent
deriving Inhabited

/-- A directive that a schema defines. -/
structure SchemaDirective where
  name : String
  description : Option String := none
  locations : List String := []
  arguments : List InputValue := []
deriving Inhabited

/-- A type system.  No two types share a name, and the built-in types need not be listed. -/
structure Schema where
  types : List SchemaType
  query : Option String := none
  mutation : Option String := none
  subscription : Option String := none
  directives : List Directive := []
  directiveDefinitions : List SchemaDirective := []
  distinct : (types.map SchemaType.name).Nodup

namespace Schema

/-- The types that are not built in, in order. -/
def declaredTypes (s : Schema) : List SchemaType :=
  s.types.filter fun t => !Builtin.isType t.name

/-- The type called `name`. -/
def type? (s : Schema) (name : String) : Option SchemaType := s.types.find? fun t => t.name = name

/-- The kind of the type called `name`, which may be a built-in one. -/
def kindOf (s : Schema) (name : String) : Option Kind :=
  Builtin.kindOf name <|> (s.type? name).map fun t => t.content.kind

/-- The name of an object type as often as it names an interface. -/
def implementing (interface : String) (t : SchemaType) : List String :=
  match t.content with
  | .object interfaces _ => (interfaces.filter fun i => i = interface).map fun _ => t.name
  | _ => []

/-- The object types that name an interface, in the order of the types. -/
def implementations (s : Schema) (interface : String) : List String :=
  s.types.flatMap (implementing interface)

/-- The fields of the input type called `name`. -/
def inputFields (s : Schema) (name : String) : List InputValue :=
  match (s.type? name).map SchemaType.content with
  | some (.input fields) => fields
  | _ => []

end Schema

end GraphScribe
