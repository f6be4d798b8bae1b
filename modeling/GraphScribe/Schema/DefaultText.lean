import GraphScribe.Document.Literal
import GraphScribe.Failure
import GraphScribe.Schema.Basic

/-!
# Writing defaults

`Schema.literalText` writes a value of a type as a literal.  Numbers are written in decimal, the
names of enum values bare, and identifiers that look like integers like integers; the fields of
an object stand in the order of their declarations.  Some values have no literal: what has none
inside a list or an object is left out, and a value of a scalar type that is no plain value fails.
-/

namespace GraphScribe

/-- The literal for a value of some type: none if there is none, else its text. -/
abbrev TextAt := TypeRef → Except Failure (Option String)

namespace Schema

/-- Whether a text reads as a row of digits that does not start with a superfluous zero. -/
def isDigitRow : List Char → Bool
  | [] => false
  | ['0'] => true
  | c :: rest => c.isDigit && c ≠ '0' && rest.all Char.isDigit

/-- Whether an identifier looks like an integer.  A line feed at its end is overlooked. -/
def isIntegerLike (s : String) : Bool :=
  let cs := match s.toList.reverse with
    | '\n' :: rest => rest.reverse
    | _ => s.toList
  match cs with
  | '-' :: rest => isDigitRow rest
  | cs => isDigitRow cs

/-- The text of a finite number, without a fraction that is zero. -/
def floatText (x : Double) : String :=
  match x.text.toList.reverse with
  | '0' :: '.' :: rest => String.ofList rest.reverse
  | _ => x.text

/-- The literal of a value that is neither a list nor an object, at a named type. -/
def plainText (s : Schema) (v : Value) (name : String) : Except Failure (Option String) :=
  match v with
  | .bool b => .ok (some (if b then "true" else "false"))
  | .int n => .ok (some (toString n))
  | .float x =>
    if x.isFinite then .ok (some (floatText x))
    else .error (if name = "Float" then .inadmissibleValue else .unprintableDefault)
  | .string t =>
    if s.kindOf name = some .enum || (name = "ID" && isIntegerLike t) then .ok (some t)
    else .ok (some (Literal.quote t))
  | _ => .error .unprintableDefault

/-- Writes a value that stands for the list of itself at a list type. -/
def textSingle (write : String → Except Failure (Option String)) : TextAt
  | .named name => write name
  | .nonNull t => textSingle write t
  | .list t => textSingle write t

/-- Writes a list at the type of its items. -/
def textList (items : List TextAt) : TextAt
  | .named _ => .error .unprintableDefault
  | .nonNull t => textList items t
  | .list t => do
    let texts ← items.mapM fun write => write t
    return some ("[" ++ ", ".intercalate (texts.filterMap id) ++ "]")

/-- Writes the fields that an object has, in the order of their declarations. -/
def textFields (given : Assoc TextAt) (fields : List InputValue) :
    Except Failure (Option String) := do
  let texts ← fields.mapM fun f =>
    match given.find? f.name with
    | none => return none
    | some write => return (← write f.type).map fun t => f.name ++ ": " ++ t
  return some ("\x7b" ++ ", ".intercalate (texts.filterMap id) ++ "\x7d")

/-- Writes an object at a named type. -/
def textObject (s : Schema) (given : Assoc TextAt) (name : String) :
    Except Failure (Option String) :=
  if s.kindOf name = some .inputObject then textFields given (s.inputFields name)
  else .error .unprintableDefault

mutual

/-- The literal for a value of a type. -/
def literalText (s : Schema) : Value → TextAt
  | .null => fun t => return if t.isNonNull then none else some "null"
  | .undefined => fun _ => return none
  | .list items => textList (itemTexts s items)
  | .object entries => textSingle (s.textObject (entryTexts s entries))
  | .bool b => textSingle (s.plainText (.bool b))
  | .int n => textSingle (s.plainText (.int n))
  | .float x => textSingle (s.plainText (.float x))
  | .string t => textSingle (s.plainText (.string t))

/-- How to write each item of a list. -/
def itemTexts (s : Schema) : List Value → List TextAt
  | [] => []
  | v :: rest => literalText s v :: itemTexts s rest

/-- How to write each entry of an object. -/
def entryTexts (s : Schema) : List (String × Value) → Assoc TextAt
  | [] => []
  | (key, v) :: rest => (key, literalText s v) :: entryTexts s rest

end

end Schema

end GraphScribe
