import GraphScribe.Model.ArgumentTypes
import GraphScribe.Model.Usages
import GraphScribe.Schema.DefaultText

/-!
# The model of a schema

`Model.ofSchema` lists the declared types of a schema by kind, with the kind of the type of every
field and argument, the usages of directives, and defaults as texts; and it makes the argument
types.
-/

namespace GraphScribe

namespace Schema

/-- The kind of the type inside a reference. -/
def kindIn (s : Schema) (type : TypeRef) : Except Failure Kind :=
  match s.kindOf type.base with
  | some kind => .ok kind
  | none => .error .invalidSchema

/-- The text of a default. -/
def defaultText (s : Schema) (v : InputValue) : Except Failure (Option String) :=
  match v.default with
  | none => .ok none
  | some default => s.literalText default v.type

/-- An argument in the model. -/
def argument (s : Schema) (v : InputValue) : Except Failure Argument := do
  return { name := v.name
           descriptor := v.type.descriptor
           kind := ← s.kindIn v.type
           description := v.description
           default := ← s.defaultText v
           directives := DirectiveUsage.ofDirectives v.directives }

/-- A field of an object or interface type in the model. -/
def field (s : Schema) (f : OutputField) : Except Failure Field := do
  return { name := f.name
           descriptor := f.type.descriptor
           kind := ← s.kindIn f.type
           description := f.description
           arguments := ← f.arguments.mapM s.argument
           directives := DirectiveUsage.ofDirectives f.directives
           deprecation := f.deprecation }

/-- A field of an input type in the model, which does not say whether it is deprecated. -/
def inputField (s : Schema) (v : InputValue) : Except Failure Field := do
  return { name := v.name
           descriptor := v.type.descriptor
           kind := ← s.kindIn v.type
           description := v.description
           directives := DirectiveUsage.ofDirectives v.directives
           default := ← s.defaultText v }

/-- An enum value in the model. -/
def enumValue (m : EnumMember) : EnumValue :=
  { name := m.name
    description := m.description
    deprecation := m.deprecation
    directives := DirectiveUsage.ofDirectives m.directives }

/-- A type in the model. -/
def namedType (s : Schema) (t : SchemaType) : Except Failure NamedType := do
  let directives := DirectiveUsage.ofDirectives t.directives
  match t.content with
  | .scalar => return .scalar { name := t.name, description := t.description, directives }
  | .object interfaces fields =>
    return .object { name := t.name
                     fields := ← fields.mapM s.field
                     interfaces
                     description := t.description
                     directives }
  | .interface _ fields =>
    return .interface { name := t.name
                        fields := ← fields.mapM s.field
                        implementations := s.implementations t.name
                        description := t.description
                        directives }
  | .union members =>
    return .union { name := t.name, members, description := t.description, directives }
  | .enum values =>
    return .enum { name := t.name
                   values := values.map enumValue
                   description := t.description
                   directives }
  | .input fields =>
    return .input { name := t.name
                    fields := ← fields.mapM s.inputField
                    description := t.description
                    directives }

/-- A directive that the schema defines, in the model. -/
def directiveDefinition (s : Schema) (d : SchemaDirective) :
    Except Failure DirectiveDefinition := do
  return { name := d.name
           locations := d.locations
           arguments := ← d.arguments.mapM s.argument
           description := d.description }

end Schema

/-- The values of some types that are of one kind, under the names of the types. -/
def registry {α : Type} (select : NamedType → Option α) (ts : List NamedType) : Assoc α :=
  ts.filterMap fun t => (select t).map fun x => (t.name, x)

namespace NamedType

/-- The object type, if it is one. -/
def object? : NamedType → Option ObjectType
  | object t => some t
  | _ => none

/-- The interface type, if it is one. -/
def interface? : NamedType → Option InterfaceType
  | interface t => some t
  | _ => none

/-- The union type, if it is one. -/
def union? : NamedType → Option UnionType
  | union t => some t
  | _ => none

/-- The enum type, if it is one. -/
def enum? : NamedType → Option EnumType
  | enum t => some t
  | _ => none

/-- The scalar type, if it is one. -/
def scalar? : NamedType → Option ScalarType
  | scalar t => some t
  | _ => none

/-- The input type, if it is one. -/
def input? : NamedType → Option InputType
  | input t => some t
  | _ => none

end NamedType

namespace Model

/-- The model of a schema. -/
def ofSchema (s : Schema) : Except Failure Model := do
  let types ← s.declaredTypes.mapM s.namedType
  let definitions ← (s.directiveDefinitions.filter fun d => !Builtin.isDirective d.name).mapM
    s.directiveDefinition
  let model : Model :=
    { types := registry NamedType.object? types
      interfaces := registry NamedType.interface? types
      unions := registry NamedType.union? types
      enums := registry NamedType.enum? types
      scalars := registry NamedType.scalar? types
      inputs := registry NamedType.input? types
      queryType := s.query
      mutationType := s.mutation
      subscriptionType := s.subscription
      directives := DirectiveUsage.ofDirectives s.directives
      definedDirectives := Assoc.ofList (definitions.map fun d => (d.name, d)) }
  return { model with
    argumentTypes := ← GraphScribe.argumentTypes (types.filterMap NamedType.owner?) model.allNames }

end Model

end GraphScribe
