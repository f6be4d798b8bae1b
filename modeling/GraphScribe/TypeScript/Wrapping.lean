import GraphScribe.Model.Descriptor

/-!
# Wrapping types

`wrapType` writes the TypeScript type of a descriptor around a base type: a list level becomes
an array of the type of its items, a level that admits null a union with null.
-/

namespace GraphScribe.TypeScript

/-- Whether a type has to be put in parentheses before brackets may follow it. -/
def needsParentheses (type : String) : Bool := type.toList.any fun c => c = '|' || c = '&'

/-- The array of a type. -/
def arrayOf (immutable : Bool) (item : String) : String :=
  if immutable then "ReadonlyArray<" ++ item ++ ">"
  else if needsParentheses item then "(" ++ item ++ ")[]"
  else item ++ "[]"

/-- The union of a type with null, where null is admitted. -/
def orNull (nullable : Bool) (type : String) : String :=
  if nullable then type ++ " | null" else type

/-- The type of a descriptor around a base type. -/
def wrapType (base : String) (immutable : Bool) : Descriptor → String
  | ⟨_, nullable, true, some item⟩ =>
    orNull nullable (arrayOf immutable (wrapType base immutable item))
  | ⟨_, nullable, _, _⟩ => orNull nullable base

end GraphScribe.TypeScript
