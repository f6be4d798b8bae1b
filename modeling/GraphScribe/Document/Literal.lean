import GraphScribe.Assoc
import GraphScribe.Numeral
import GraphScribe.Text.Surrogate
import GraphScribe.Value

/-!
# Literals

A `Literal` is a value as a document writes it.  `Literal.text` writes it back, numerals as
they were written and strings with the escapes of `Literal.quote`; `Literal.toValue` is the
value it stands for when no type is known.
-/

namespace GraphScribe

/-- A value as it is written. -/
inductive Literal where
  | var (name : String)
  | int (text : String)
  | float (text : String)
  | string (text : String)
  | block (text : String)
  | boolean (b : Bool)
  | null
  | enum (name : String)
  | list (items : List Literal)
  | object (fields : List (String × Literal))
deriving Inhabited

namespace Literal

/-! ### Writing -/

/-- The digit for `n` in base sixteen, in upper case. -/
def upperHexDigit (n : Nat) : Char := (n.digitChar).toUpper

/-- A character between quotes: quotes, backslashes and control characters are escaped. -/
def quoteChar (c : Char) : List Char :=
  let n := c.toNat
  if c = '"' then ['\\', '"']
  else if c = '\\' then ['\\', '\\']
  else if n = 8 then ['\\', 'b']
  else if n = 9 then ['\\', 't']
  else if n = 10 then ['\\', 'n']
  else if n = 12 then ['\\', 'f']
  else if n = 13 then ['\\', 'r']
  else if n < 0x20 || (0x7f ≤ n && n < 0xa0) then
    ['\\', 'u', '0', '0', upperHexDigit (n / 16), upperHexDigit (n % 16)]
  else [c]

/-- A string between quotes. -/
def quote (s : String) : String := String.ofList ('"' :: s.toList.flatMap quoteChar ++ ['"'])

/-- Puts a backslash in front of each three quotes in a row. -/
def escapeTripleQuotes : List Char → List Char
  | '"' :: '"' :: '"' :: rest => '\\' :: '"' :: '"' :: '"' :: escapeTripleQuotes rest
  | c :: rest => c :: escapeTripleQuotes rest
  | [] => []

/-- Whether a text starts with a blank that indents. -/
def isIndented : List Char → Bool
  | c :: _ => c = ' ' || c = '\t'
  | [] => false

/-- The lines of a text between line feeds; `line` is the current line, reversed. -/
def feedLines (line : List Char) : List Char → List (List Char)
  | [] => [line.reverse]
  | c :: rest => if c = '\n' then line.reverse :: feedLines [] rest else feedLines (c :: line) rest

/-- A block string.  Its quotes stand on lines of their own if the text has several lines, is
longer than seventy code points, or ends in a quote or a backslash; a single indented line
stays behind the opening quotes, lest it lose its indentation. -/
def quoteBlock (s : String) : String :=
  let cs := s.toList
  let escaped := escapeTripleQuotes cs
  let lines := feedLines [] escaped
  let single := lines.length == 1
  let forcesBefore := !single && lines.tail.all fun l => l.isEmpty || isIndented l
  let endsTriple := ['"', '"', '"', '\\'].isPrefixOf escaped.reverse
  let forcesAfter := (cs.getLast? == some '"' && !endsTriple) || cs.getLast? == some '\\'
  let apart := !single || 70 < (Surrogate.codes cs).length || forcesAfter || forcesBefore || endsTriple
  let before := (apart && !(single && isIndented cs)) || forcesBefore
  let after := apart || forcesAfter
  let marks := ['"', '"', '"']
  String.ofList <|
    marks ++ (if before then ['\n'] else []) ++ escaped ++ (if after then ['\n'] else []) ++ marks

mutual

/-- The literal as it is written. -/
def text : Literal → String
  | var name => "$" ++ name
  | int t => t
  | float t => t
  | string t => quote t
  | block t => quoteBlock t
  | boolean b => if b then "true" else "false"
  | null => "null"
  | enum name => name
  | list items => "[" ++ ", ".intercalate (texts items) ++ "]"
  | object fields => "\x7b" ++ ", ".intercalate (fieldTexts fields) ++ "\x7d"

/-- The items of a list as they are written. -/
def texts : List Literal → List String
  | [] => []
  | l :: rest => text l :: texts rest

/-- The fields of an object as they are written. -/
def fieldTexts : List (String × Literal) → List String
  | [] => []
  | (name, l) :: rest => (name ++ ": " ++ text l) :: fieldTexts rest

end

/-! ### Values -/

mutual

/-- The value that the literal stands for when no type is known; an integer that is too long to be
read stands for no number. -/
def toValue : Literal → Value
  | var _ => .undefined
  | int t =>
    match Numeral.intOfText? t with
    | some n => .int n
    | none => .float Double.nan
  | float t => .float (Numeral.doubleOfText t)
  | string t => .string t
  | block t => .string t
  | boolean b => .bool b
  | null => .null
  | enum name => .string name
  | list items => .list (toValues items)
  | object fields => .object (Assoc.ofList (toFieldValues fields))

/-- The values of the items of a list. -/
def toValues : List Literal → List Value
  | [] => []
  | l :: rest => toValue l :: toValues rest

/-- The values of the fields of an object. -/
def toFieldValues : List (String × Literal) → List (String × Value)
  | [] => []
  | (name, l) :: rest => (name, toValue l) :: toFieldValues rest

end

end Literal

end GraphScribe
