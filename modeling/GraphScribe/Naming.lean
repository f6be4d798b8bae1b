import GraphScribe.Document.Basic
import GraphScribe.Failure
import GraphScribe.Text.Blank
import GraphScribe.Text.Upper

/-!
# Names of what is generated

`Naming.capitalize` raises the first character of a name only; `Naming.pascalCase` does so
with every word of it.  The names of argument types, inline fragments and anonymous
operations are made from the names they stand for.
-/

namespace GraphScribe.Naming

/-- Raises the first character. -/
def capitalizeChars : List Char → List Char
  | [] => []
  | c :: cs => Text.upperChar c ++ cs

/-- The name with its first character in upper case. -/
def capitalize (name : String) : String := String.ofList (capitalizeChars name.toList)

/-- Whether a character separates words. -/
def isWordBreak (c : Char) : Bool := c = '_' || c = '-' || Text.isBlank c

/-- The words of a name; `word` is the current one, reversed. -/
def wordsFrom (word : List Char) : List Char → List (List Char)
  | [] => if word.isEmpty then [] else [word.reverse]
  | c :: rest =>
    if isWordBreak c then
      if word.isEmpty then wordsFrom [] rest else word.reverse :: wordsFrom [] rest
    else wordsFrom (c :: word) rest

/-- The words of a name, each capitalized, without what separates them. -/
def pascalCase (name : String) : String :=
  String.ofList ((wordsFrom [] name.toList).flatMap capitalizeChars)

/-- The name of the type that holds the arguments of a field. -/
def argumentsTypeName (fieldName typeName : String) : String :=
  capitalize fieldName ++ capitalize typeName ++ "Args"

/-- The name wanted for the shape of an inline fragment. -/
def inlineFragmentName (typeName : String) : String := typeName ++ "InlineFragment"

/-- The name of the `n`-th anonymous operation of a batch. -/
def anonymousName (n : Nat) : String := "AnonymousQuery_" ++ toString n

/-- The names of operations of which `count` anonymous ones precede: the declared name, or one
that counts the anonymous operations. -/
def operationNamesFrom (count : Nat) : List (Option String) → List String
  | [] => []
  | some name :: rest => name :: operationNamesFrom count rest
  | none :: rest => anonymousName (count + 1) :: operationNamesFrom (count + 1) rest

/-- The names of the operations of a batch. -/
def operationNames (declared : List (Option String)) : List String := operationNamesFrom 0 declared

/-- The names of all definitions of a document, of which anonymous operations are counted. -/
def definitionNames (d : Document) : Except Failure (List String) := do
  let declared ← d.mapM fun x =>
    match x.nameSlot? with
    | some name => .ok name
    | none => .error .attributeMissing
  return operationNames declared

theorem length_operationNamesFrom (count : Nat) (declared : List (Option String)) :
  (operationNamesFrom count declared).length = declared.length
  := by
  induction declared generalizing count with
  | nil => rfl
  | cons d rest ih => cases d <;> simp [operationNamesFrom, ih]

end GraphScribe.Naming
