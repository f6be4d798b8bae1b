import GraphScribe.Model.Basic
import GraphScribe.NameTable
import GraphScribe.Naming

/-!
# Argument types

Every field that takes arguments gives rise to one type that holds them.  `argumentTypes`
makes these types for a list of owners and fails if the name of one is that of a declared
type or of another one.
-/

namespace GraphScribe

/-- An object or interface type, as the owner of fields. -/
structure FieldOwner where
  name : String
  fields : List Field

namespace NamedType

/-- The owner of fields that a declared type is, if it can be selected on. -/
def owner? : NamedType → Option FieldOwner
  | object t => some ⟨t.name, t.fields⟩
  | interface t => some ⟨t.name, t.fields⟩
  | _ => none

end NamedType

/-- The type that holds the arguments of a field. -/
def Field.argumentsType (f : Field) (owner : String) : ArgumentsType :=
  { name := Naming.argumentsTypeName f.name owner
    fieldName := f.name
    typeName := owner
    fields := f.arguments }

/-- The argument types of an owner, in the order of its fields. -/
def FieldOwner.argumentTypes (o : FieldOwner) : List ArgumentsType :=
  (o.fields.filter fun f => !f.arguments.isEmpty).map fun f => f.argumentsType o.name

/-- Enters an argument type whose name must be neither reserved nor entered. -/
def enterArgumentsType (reserved : List String) (entered : Assoc ArgumentsType)
    (t : ArgumentsType) : Except Failure (Assoc ArgumentsType) :=
  if t.name ∈ reserved then .error (.nameTaken t.name "schema types")
  else if t.name ∈ entered.keys then .error (.nameTaken t.name "synthesized argument types")
  else .ok (entered ++ [(t.name, t)])

/-- The argument types of all owners under their names. -/
def argumentTypes (owners : List FieldOwner) (reserved : List String) :
    Except Failure (Assoc ArgumentsType) :=
  (owners.flatMap FieldOwner.argumentTypes).foldlM (enterArgumentsType reserved) []

end GraphScribe
