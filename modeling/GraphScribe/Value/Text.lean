import GraphScribe.Value
import GraphScribe.Text.Printable
import GraphScribe.Text.Surrogate

/-!
# The text of a value

`Value.text` writes a value into a template's output: a string as it is, anything else in the
notation of `Value.quoted`, where strings stand in quotes and lists in brackets.
-/

namespace GraphScribe.Value

/-- The hexadecimal digits of `n`, padded with zeros to `width`. -/
def hexDigits (width n : Nat) : List Char :=
  let ds := Nat.toDigits 16 n
  List.replicate (width - ds.length) '0' ++ ds

/-- The number of a code point as an escape. -/
def escapeCode (n : Nat) : List Char :=
  if n < 0x100 then '\\' :: 'x' :: hexDigits 2 n
  else if n < 0x10000 then '\\' :: 'u' :: hexDigits 4 n
  else '\\' :: 'U' :: hexDigits 8 n

/-- A code point inside the quotes `mark`; one that is not printable is written by its number. -/
def quoteCode (mark : Char) (n : Nat) : List Char :=
  if n = '\\'.toNat || n = mark.toNat then ['\\', Char.ofNat n]
  else if n = '\n'.toNat then ['\\', 'n']
  else if n = '\r'.toNat then ['\\', 'r']
  else if n = '\t'.toNat then ['\\', 't']
  else if Text.isPrintable n then Surrogate.ofCode n
  else escapeCode n

/-- A string in single quotes, or in double quotes if it holds single quotes only. -/
def quote (s : String) : String :=
  let cs := s.toList
  let mark := if cs.contains '\x27' && !cs.contains '"' then '"' else '\x27'
  String.ofList (mark :: (Surrogate.codes cs).flatMap (quoteCode mark) ++ [mark])

mutual

/-- The value as it stands inside lists and objects. -/
def quoted : Value → String
  | null => "None"
  | bool b => if b then "True" else "False"
  | int n => toString n
  | float x => x.text
  | string s => quote s
  | list items => "[" ++ ", ".intercalate (quotedItems items) ++ "]"
  | object entries => "\x7b" ++ ", ".intercalate (quotedEntries entries) ++ "\x7d"
  | undefined => "Undefined"

/-- The items of a list. -/
def quotedItems : List Value → List String
  | [] => []
  | v :: rest => quoted v :: quotedItems rest

/-- The entries of an object. -/
def quotedEntries : List (String × Value) → List String
  | [] => []
  | (k, v) :: rest => (quote k ++ ": " ++ quoted v) :: quotedEntries rest

end

/-- The value as a template writes it. -/
def text : Value → String
  | string s => s
  | v => quoted v

end GraphScribe.Value
