import GraphScribe.Document.TypeRef

/-!
# Descriptors

A `Descriptor` is the normal form of a type reference: each level says whether it may be
null, whether it is a list and of what.  `TypeRef.descriptor` peels a reference from outside
in; `Descriptor.withName` puts another name inside the same wrappers.
-/

namespace GraphScribe

/-- A type reference level by level.  The name is that inside all wrappers, and a list has the
descriptor of its items. -/
structure Descriptor where
  name : String
  nullable : Bool := true
  isList : Bool := false
  item : Option Descriptor := none
deriving Inhabited

namespace Descriptor

/-- Whether null is excluded. -/
def isRequired (d : Descriptor) : Bool := !d.nullable

/-- Whether the items of the list may be null; for what is no list, whether it may itself. -/
def isItemNullable (d : Descriptor) : Bool :=
  match d.item with
  | some item => item.nullable
  | none => d.nullable

/-- The same wrappers around another name. -/
def withName (name : String) : Descriptor → Descriptor
  | ⟨_, nullable, isList, none⟩ => ⟨name, nullable, isList, none⟩
  | ⟨_, nullable, isList, some item⟩ => ⟨name, nullable, isList, some (withName name item)⟩

end Descriptor

namespace TypeRef

/-- The descriptor of a reference at a place that admits null if `nullable`. -/
def descriptorAt (nullable : Bool) : TypeRef → Descriptor
  | named name => ⟨name, nullable, false, none⟩
  | list item =>
    let d := descriptorAt true item
    ⟨d.name, nullable, true, some d⟩
  | nonNull inner => descriptorAt false inner

/-- The descriptor of a reference. -/
def descriptor (t : TypeRef) : Descriptor := t.descriptorAt true

theorem name_descriptorAt (t : TypeRef) (nullable : Bool) :
  (t.descriptorAt nullable).name = t.base
  := by
  induction t generalizing nullable with
  | named name => rfl
  | list item ih => exact ih true
  | nonNull inner ih => exact ih false

end TypeRef

end GraphScribe
