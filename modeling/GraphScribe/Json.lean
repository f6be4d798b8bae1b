import GraphScribe.Assoc
import GraphScribe.Failure
import GraphScribe.Numeral
import GraphScribe.Text.Surrogate
import GraphScribe.Value

/-!
# Reading JSON

`Json.read` reads a JSON text as a `Value`.  Numbers without fraction and exponent are
integers, the words `NaN`, `Infinity` and `-Infinity` are numbers too, control characters are
refused in strings, and an object lists a repeated name at its first place with its last value.
A text that is no JSON is refused, and so are integers that are too long and values that are
nested too deep.
-/

namespace GraphScribe.Json

/-- A reader of some prefix of a text: the result and what is left. -/
abbrev Reader (α : Type) := List Char → Except Failure (α × List Char)

/-- Whether a character separates the parts of a text. -/
def isSpace (c : Char) : Bool := c = ' ' || c = '\t' || c = '\n' || c = '\r'

/-- Leaves out the space in front. -/
def skipSpace (cs : List Char) : List Char := cs.dropWhile isSpace

/-! ### Strings -/

/-- The value of a hexadecimal digit. -/
def hexDigit? (c : Char) : Option Nat :=
  if '0' ≤ c ∧ c ≤ '9' then some (c.toNat - '0'.toNat)
  else if 'a' ≤ c ∧ c ≤ 'f' then some (c.toNat - 'a'.toNat + 10)
  else if 'A' ≤ c ∧ c ≤ 'F' then some (c.toNat - 'A'.toNat + 10)
  else none

/-- The number that four hexadecimal digits in front of a text stand for, and what follows. -/
def codeUnit? : List Char → Option (Nat × List Char)
  | a :: b :: c :: d :: rest => do
    let a ← hexDigit? a
    let b ← hexDigit? b
    let c ← hexDigit? c
    let d ← hexDigit? d
    some (((a * 16 + b) * 16 + c) * 16 + d, rest)
  | _ => none

/-- The code point of the escape after `\u`: a pair of halves is one, and so is a lone half. -/
def codePoint? (cs : List Char) : Option (Nat × List Char) := do
  let (n, rest) ← codeUnit? cs
  match Surrogate.isLeading n, rest with
  | true, '\\' :: 'u' :: second =>
    let (m, following) ← codeUnit? second
    if Surrogate.isTrailing m then some (Surrogate.join n m, following) else some (n, rest)
  | _, _ => some (n, rest)

/-- The character of a one-letter escape. -/
def letterEscape? : Char → Option Char
  | '"' => some '"'
  | '\\' => some '\\'
  | '/' => some '/'
  | 'b' => some '\x08'
  | 'f' => some '\x0c'
  | 'n' => some '\n'
  | 'r' => some '\r'
  | 't' => some '\t'
  | _ => none

/-- The rest of a string after its opening quote, within a number of steps; `done` is what was
read, reversed. -/
def stringRest? : Nat → List Char → List Char → Option (String × List Char)
  | 0, _, _ => none
  | _ + 1, done, '"' :: rest => some (String.ofList done.reverse, rest)
  | fuel + 1, done, '\\' :: 'u' :: rest => do
    let (n, rest) ← codePoint? rest
    stringRest? fuel ((Surrogate.ofCode n).reverse ++ done) rest
  | fuel + 1, done, '\\' :: c :: rest => do
    let c ← letterEscape? c
    stringRest? fuel (c :: done) rest
  | fuel + 1, done, c :: rest =>
    if c.toNat < 0x20 || c = '\\' then none else stringRest? fuel (c :: done) rest
  | _ + 1, _, [] => none

/-- A string, from behind its opening quote on, in a text of fewer than `size` characters. -/
def string (size : Nat) : Reader String := fun cs =>
  match stringRest? size [] cs with
  | some found => .ok found
  | none => .error .notJson

/-! ### Values -/

/-- The words that stand for values. -/
def words : List (List Char × Value) :=
  [("null".toList, .null), ("true".toList, .bool true), ("false".toList, .bool false),
    ("NaN".toList, .float Double.nan), ("Infinity".toList, .float Double.infinity),
    ("-Infinity".toList, .float Double.negInfinity)]

/-- The value of a numeral.  Integers are read up to a certain length. -/
def number (n : Numeral) : Except Failure Value :=
  if !n.isWhole then .ok (.float n.toDouble)
  else if n.isTooLong then .error .numeralTooLong
  else .ok (.int n.toInt)

/-- A word or a number. -/
def plain : Reader Value := fun cs =>
  match words.find? fun w => w.1.isPrefixOf cs with
  | some (w, v) => .ok (v, cs.drop w.length)
  | none =>
    match Numeral.scan cs with
    | some (n, rest) => do return (← number n, rest)
    | none => .error .notJson

/-- The items of a list up to the closing bracket, within a number of steps; `done` is what was
read, reversed. -/
def itemsRest (item : Reader Value) : Nat → List Value → Reader (List Value)
  | 0, _, _ => .error .notJson
  | fuel + 1, done, cs => do
    let (v, rest) ← item cs
    match skipSpace rest with
    | ']' :: rest => return ((v :: done).reverse, rest)
    | ',' :: rest => itemsRest item fuel (v :: done) (skipSpace rest)
    | _ => .error .notJson

/-- The entries of an object up to the closing brace, within a number of steps. -/
def entriesRest (size : Nat) (item : Reader Value) : Nat → Assoc Value → Reader (Assoc Value)
  | 0, _, _ => .error .notJson
  | fuel + 1, done, '"' :: cs => do
    let (key, rest) ← string size cs
    match skipSpace rest with
    | ':' :: rest =>
      let (v, rest) ← item (skipSpace rest)
      let done := done.insert key v
      match skipSpace rest with
      | '\x7d' :: rest => return (done, rest)
      | ',' :: rest => entriesRest size item fuel done (skipSpace rest)
      | _ => .error .notJson
    | _ => .error .notJson
  | _ + 1, _, _ => .error .notJson

/-- A list, from behind its opening bracket on. -/
def list (size : Nat) (item : Reader Value) : Reader Value := fun cs =>
  match skipSpace cs with
  | ']' :: rest => .ok (.list [], rest)
  | rest => do
    let (items, rest) ← itemsRest item size [] rest
    return (.list items, rest)

/-- An object, from behind its opening brace on. -/
def object (size : Nat) (item : Reader Value) : Reader Value := fun cs =>
  match skipSpace cs with
  | '\x7d' :: rest => .ok (.object [], rest)
  | rest => do
    let (entries, rest) ← entriesRest size item size [] rest
    return (.object entries, rest)

/-- A value in which lists and objects are nested at most `depth` deep, in a text of fewer than
`size` characters. -/
def value (size : Nat) : Nat → Reader Value
  | 0, cs =>
    match cs with
    | '"' :: rest => do
      let (s, rest) ← string size rest
      return (.string s, rest)
    | '[' :: _ => .error .nestedTooDeep
    | '\x7b' :: _ => .error .nestedTooDeep
    | _ => plain cs
  | depth + 1, cs =>
    match cs with
    | '"' :: rest => do
      let (s, rest) ← string size rest
      return (.string s, rest)
    | '[' :: rest => list size (value size depth) rest
    | '\x7b' :: rest => object size (value size depth) rest
    | _ => plain cs

/-- How deep lists and objects may be nested. -/
def nestingLimit : Nat := 980

/-- The value of a JSON text. -/
def read (s : String) : Except Failure Value := do
  let cs := s.toList
  let (v, rest) ← value (cs.length + 1) nestingLimit (skipSpace cs)
  if (skipSpace rest).isEmpty then return v else throw .notJson

end GraphScribe.Json
