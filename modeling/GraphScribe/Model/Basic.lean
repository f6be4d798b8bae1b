import GraphScribe.Assoc
import GraphScribe.Model.Descriptor
import GraphScribe.Value

/-!
# The model of a schema

A `Model` lists what a schema declares in one registry per kind of type, together with the
argument types made for fields that take arguments.  `Model.typeNamed?` finds a declared type
in whichever registry has it, `Model.kindOf` its kind, and `Model.possibleTypes` the object
types that a value of a type can have.
-/

namespace GraphScribe

/-- The kinds of named types. -/
inductive Kind where
  | scalar
  | enum
  | object
  | interface
  | union
  | inputObject
deriving DecidableEq, Inhabited

namespace Kind

/-- The word for a kind. -/
def word : Kind → String
  | scalar => "scalar"
  | enum => "enum"
  | object => "object"
  | interface => "interface"
  | union => "union"
  | inputObject => "input_object"

/-- All kinds. -/
def all : List Kind := [scalar, enum, object, interface, union, inputObject]

/-- The kind with the given word. -/
def ofWord? (word : String) : Option Kind := all.find? fun k => k.word = word

/-- Whether values of the kind have fields to select. -/
def isComposite : Kind → Bool
  | object => true
  | interface => true
  | union => true
  | _ => false

/-- Whether values of the kind can be given as arguments. -/
def isInput : Kind → Bool
  | scalar => true
  | enum => true
  | inputObject => true
  | _ => false

/-- Whether values of the kind can be the result of a field. -/
def isOutput : Kind → Bool
  | inputObject => false
  | _ => true

end Kind

/-- A directive applied to something, with the values of its arguments. -/
structure DirectiveUsage where
  name : String
  arguments : Assoc Value := []
deriving Inhabited

/-- An argument of a field, or of a directive. -/
structure Argument where
  name : String
  descriptor : Descriptor
  kind : Kind
  description : Option String := none
  default : Option String := none
  directives : List DirectiveUsage := []
deriving Inhabited

/-- A field of an object, interface or input type. -/
structure Field where
  name : String
  descriptor : Descriptor
  kind : Kind
  description : Option String := none
  arguments : List Argument := []
  directives : List DirectiveUsage := []
  deprecation : Option String := none
  default : Option String := none
deriving Inhabited

/-- An object type. -/
structure ObjectType where
  name : String
  fields : List Field
  interfaces : List String := []
  description : Option String := none
  directives : List DirectiveUsage := []
deriving Inhabited

/-- An interface type and the object types that implement it. -/
structure InterfaceType where
  name : String
  fields : List Field
  implementations : List String := []
  description : Option String := none
  directives : List DirectiveUsage := []
deriving Inhabited

/-- A union type and its members. -/
structure UnionType where
  name : String
  members : List String
  description : Option String := none
  directives : List DirectiveUsage := []
deriving Inhabited

/-- A value of an enum type. -/
structure EnumValue where
  name : String
  description : Option String := none
  deprecation : Option String := none
  directives : List DirectiveUsage := []
deriving Inhabited

/-- An enum type. -/
structure EnumType where
  name : String
  values : List EnumValue
  description : Option String := none
  directives : List DirectiveUsage := []
deriving Inhabited

/-- A scalar type that the schema declares. -/
structure ScalarType where
  name : String
  description : Option String := none
  directives : List DirectiveUsage := []
deriving Inhabited

/-- An input object type. -/
structure InputType where
  name : String
  fields : List Field
  description : Option String := none
  directives : List DirectiveUsage := []
deriving Inhabited

/-- The type made to hold the arguments of one field. -/
structure ArgumentsType where
  name : String
  fieldName : String
  typeName : String
  fields : List Argument
  description : Option String := none
  directives : List DirectiveUsage := []
deriving Inhabited

/-- A directive that the schema declares. -/
structure DirectiveDefinition where
  name : String
  locations : List String
  arguments : List Argument := []
  description : Option String := none
deriving Inhabited

/-- A declared type, whatever its kind. -/
inductive NamedType where
  | object (t : ObjectType)
  | interface (t : InterfaceType)
  | union (t : UnionType)
  | enum (t : EnumType)
  | scalar (t : ScalarType)
  | input (t : InputType)
deriving Inhabited

namespace NamedType

/-- The kind of a declared type. -/
def kind : NamedType → Kind
  | object _ => .object
  | interface _ => .interface
  | union _ => .union
  | enum _ => .enum
  | scalar _ => .scalar
  | input _ => .inputObject

/-- The name of a declared type. -/
def name : NamedType → String
  | object t => t.name
  | interface t => t.name
  | union t => t.name
  | enum t => t.name
  | scalar t => t.name
  | input t => t.name

/-- The fields that can be selected on values of the type. -/
def selectableFields : NamedType → List Field
  | object t => t.fields
  | interface t => t.fields
  | _ => []

end NamedType

/-- What a schema declares. -/
structure Model where
  types : Assoc ObjectType := []
  interfaces : Assoc InterfaceType := []
  unions : Assoc UnionType := []
  enums : Assoc EnumType := []
  scalars : Assoc ScalarType := []
  inputs : Assoc InputType := []
  argumentTypes : Assoc ArgumentsType := []
  queryType : Option String := none
  mutationType : Option String := none
  subscriptionType : Option String := none
  directives : List DirectiveUsage := []
  definedDirectives : Assoc DirectiveDefinition := []
deriving Inhabited

/-- The scalar types that every schema has. -/
def builtinScalars : List String := ["String", "Int", "Float", "Boolean", "ID"]

namespace Model

/-- The declared type called `name`. -/
def typeNamed? (m : Model) (name : String) : Option NamedType :=
  ((m.types.find? name).map .object)
    <|> ((m.interfaces.find? name).map .interface)
    <|> ((m.unions.find? name).map .union)
    <|> ((m.enums.find? name).map .enum)
    <|> ((m.scalars.find? name).map .scalar)
    <|> ((m.inputs.find? name).map .input)

/-- The kind of the type called `name`. -/
def kindOf (m : Model) (name : String) : Option Kind :=
  if name ∈ builtinScalars then some .scalar else (m.typeNamed? name).map NamedType.kind

/-- Whether `name` is a type with fields to select. -/
def isComposite (m : Model) (name : String) : Bool := (m.kindOf name).any Kind.isComposite

/-- The type at the root of the operations with the given keyword. -/
def rootType (m : Model) : String → Option String
  | "query" => m.queryType
  | "mutation" => m.mutationType
  | "subscription" => m.subscriptionType
  | _ => none

/-- The object types that a value of the type called `name` can have. -/
def possibleTypes (m : Model) (name : String) : List String :=
  if m.types.contains name then [name]
  else
    match m.interfaces.find? name with
    | some t => t.implementations
    | none =>
      match m.unions.find? name with
      | some t => t.members
      | none => []

/-- The names in the registries, each registry in order. -/
def allNames (m : Model) : List String :=
  m.types.keys ++ m.interfaces.keys ++ m.unions.keys ++ m.enums.keys ++ m.scalars.keys ++
    m.inputs.keys ++ m.argumentTypes.keys

/-- The field called `fieldName` of the object or interface type called `typeName`. -/
def field? (m : Model) (typeName fieldName : String) : Option Field :=
  (m.typeNamed? typeName).bind fun t => t.selectableFields.find? fun f => f.name = fieldName

end Model

end GraphScribe
