/-!
# Type references

A `TypeRef` names a type and wraps it in lists and non-null marks.  `TypeRef.text` writes it
in the notation of the language, and `TypeRef.base` is the name inside all wrappers.
-/

namespace GraphScribe

/-- A type under list and non-null wrappers. -/
inductive TypeRef where
  | named (name : String)
  | list (item : TypeRef)
  | nonNull (inner : TypeRef)
deriving DecidableEq, Inhabited

namespace TypeRef

/-- The name inside the wrappers. -/
def base : TypeRef → String
  | named name => name
  | list item => item.base
  | nonNull inner => inner.base

/-- Whether the outermost wrapper is a non-null mark. -/
def isNonNull : TypeRef → Bool
  | nonNull _ => true
  | _ => false

/-- The reference as the language writes it. -/
def text : TypeRef → String
  | named name => name
  | list item => "[" ++ item.text ++ "]"
  | nonNull inner => inner.text ++ "!"

end TypeRef

end GraphScribe
