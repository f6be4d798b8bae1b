import GraphScribe.Json
import GraphScribe.Text.Blank
import GraphScribe.Text.Identifier
import GraphScribe.Value.Text

/-!
# Tags of templates

`Tag.scan` splits the source of a template into the text between its tags, the tokens inside
them, and nothing for comments.  A line feed behind a block tag or a comment belongs to the tag,
and so do the blanks in front of it on its line; a minus sign at the edge of a tag takes all
blanks beside it, and a plus sign none.  Strings may hold escapes, which `decode?` reads.
-/

namespace GraphScribe.Template

/-- A token inside a tag. -/
inductive Token where
  | name (text : String)
  | string (text : String)
  | integer (n : Nat)
  | fraction (x : Double)
  | mark (c : Char)
deriving DecidableEq, Inhabited

/-- A part of the source of a template: text, or a tag that writes a value or controls. -/
inductive Tag where
  | text (s : String)
  | output (tokens : List Token)
  | control (tokens : List Token)
deriving Inhabited

/-! ### Strings -/

/-- A code point in a string by ASCII characters alone. -/
def toAscii (n : Nat) : List Char := if n < 0x80 then [Char.ofNat n] else Value.escapeCode n

/-- The number that some hexadecimal digits in front of a text stand for, and what follows. -/
def hexNumber? (value : Nat) : Nat → List Char → Option (Nat × List Char)
  | 0, cs => some (value, cs)
  | count + 1, c :: cs => do hexNumber? (value * 16 + (← Json.hexDigit? c)) count cs
  | _ + 1, [] => none

/-- The value of an octal digit. -/
def octalDigit? (c : Char) : Option Nat :=
  if '0' ≤ c ∧ c ≤ '7' then some (c.toNat - '0'.toNat) else none

/-- The number that the octal digits in front of a text stand for, at most some of them. -/
def octalNumber (value : Nat) : Nat → List Char → Nat × List Char
  | count + 1, c :: cs =>
    match octalDigit? c with
    | some d => octalNumber (value * 8 + d) count cs
    | none => (value, c :: cs)
  | _, cs => (value, cs)

/-- The code points of the escape after a backslash, and what follows it.  An unknown escape stands
for itself. -/
def escape? : List Char → Option (List Nat × List Char)
  | [] => none
  | c :: cs =>
    match c with
    | '\n' => some ([], cs)
    | '\\' => some (['\\'.toNat], cs)
    | '\x27' => some ([0x27], cs)
    | '"' => some ([0x22], cs)
    | 'a' => some ([7], cs)
    | 'b' => some ([8], cs)
    | 't' => some ([9], cs)
    | 'n' => some ([10], cs)
    | 'v' => some ([11], cs)
    | 'f' => some ([12], cs)
    | 'r' => some ([13], cs)
    | 'x' => (hexNumber? 0 2 cs).map fun r => ([r.1], r.2)
    | 'u' => (hexNumber? 0 4 cs).map fun r => ([r.1], r.2)
    | 'U' =>
      ((hexNumber? 0 8 cs).filter fun r => r.1 ≤ 0x10ffff).map fun r => ([r.1], r.2)
    | 'N' => none
    | c =>
      if (octalDigit? c).isSome then
        let (n, rest) := octalNumber 0 3 (c :: cs)
        some ([n], rest)
      else some (['\\'.toNat, c.toNat], cs)

/-- The code points that a text of ASCII characters stands for. -/
def decodeAscii? : Nat → List Char → Option (List Nat)
  | 0, _ => none
  | _ + 1, [] => some []
  | fuel + 1, '\\' :: cs => do
    let (codes, rest) ← escape? cs
    return codes ++ (← decodeAscii? fuel rest)
  | fuel + 1, c :: cs => do return c.toNat :: (← decodeAscii? fuel cs)

/-- The text that the characters between quotes stand for.  Escapes are read after what is not ASCII
has been escaped itself. -/
def decode? (cs : List Char) : Option String := do
  let ascii := (Surrogate.codes cs).flatMap toAscii
  return String.ofList ((← decodeAscii? (ascii.length + 1) ascii).flatMap Surrogate.ofCode)

/-- The characters up to the mark `quote`, and what follows it; `done` is what was read,
reversed. -/
def quoted? (quote : Char) (done : List Char) : List Char → Option (List Char × List Char)
  | [] => none
  | '\\' :: c :: rest => quoted? quote (c :: '\\' :: done) rest
  | c :: rest => if c = quote then some (done.reverse, rest) else quoted? quote (c :: done) rest

/-! ### Numbers -/

/-- The digits in front of a text, between which single underscores may stand. -/
def digits (isDigit : Char → Bool) : List Char → List Char × List Char
  | '_' :: d :: rest =>
    if isDigit d then
      let (ds, rest) := digits isDigit rest
      (d :: ds, rest)
    else ([], '_' :: d :: rest)
  | d :: rest =>
    if isDigit d then
      let (ds, rest) := digits isDigit rest
      (d :: ds, rest)
    else ([], d :: rest)
  | [] => ([], [])

/-- A point with digits behind it, if the text starts so. -/
def fraction (cs : List Char) : List Char × List Char :=
  match cs with
  | '.' :: c :: rest => if c.isDigit then digits Char.isDigit (c :: rest) else ([], cs)
  | _ => ([], cs)

/-- An exponent, if the text starts so. -/
def exponent (cs : List Char) : Option Int × List Char :=
  match cs with
  | e :: rest =>
    if e = 'e' || e = 'E' then
      let (negative, rest) := Numeral.scanSign rest
      match rest with
      | c :: _ =>
        if c.isDigit then
          let (ds, rest) := digits Char.isDigit rest
          let n : Int := Numeral.natOfDigits ds
          (some (if negative then -n else n), rest)
        else (none, cs)
      | [] => (none, cs)
    else (none, cs)
  | [] => (none, [])

/-- A number with a fraction or an exponent. -/
def fractional? (cs : List Char) : Option (Token × List Char) :=
  let (whole, rest) := digits Char.isDigit cs
  let (part, rest) := fraction rest
  let (exponent, rest) := exponent rest
  if part.isEmpty && exponent.isNone then none
  else some (.fraction (Numeral.toDouble ⟨false, whole, part, exponent⟩), rest)

/-- The digits of a base. -/
def isDigitOf (base : Nat) (c : Char) : Bool := ((Json.hexDigit? c).filter (· < base)).isSome

/-- The number that some digits of a base stand for. -/
def numberOf (base : Nat) (ds : List Char) : Nat :=
  ds.foldl (fun n d => n * base + (Json.hexDigit? d).getD 0) 0

/-- The base that a letter behind a zero stands for. -/
def base? (c : Char) : Option Nat :=
  if c = 'b' || c = 'B' then some 2
  else if c = 'o' || c = 'O' then some 8
  else if c = 'x' || c = 'X' then some 16
  else none

/-- An integer.  Digits behind a zero count only behind the letter of a base, or if they are zeros
too. -/
def whole (cs : List Char) : Token × List Char :=
  match cs with
  | '0' :: rest =>
    let marked? := match rest with
      | c :: rest => do
        let base ← base? c
        let (ds, rest) := digits (isDigitOf base) rest
        if ds.isEmpty then none else some (Token.integer (numberOf base ds), rest)
      | [] => none
    marked?.getD (.integer 0, (digits (· = '0') rest).2)
  | _ =>
    let (ds, rest) := digits Char.isDigit cs
    (.integer (Numeral.natOfDigits ds), rest)

/-- A number in front of a text; directly behind a point it has no fraction. -/
def number (behindPoint : Bool) (cs : List Char) : Token × List Char :=
  (if behindPoint then none else fractional? cs).getD (whole cs)

/-! ### Tokens -/

/-- The characters that stand for themselves inside a tag. -/
def marks : List Char :=
  ['+', '-', '/', '*', '%', '~', '[', ']', '(', ')', '\x7b', '\x7d', '=', '<', '>', '.', ':', '|',
    ',', ';']

/-- Whether a tag that closes with `close` ends here, with an optional sign in front: the sign and
what follows. -/
def closing? (close : Char) : List Char → Option (Option Char × List Char)
  | '-' :: c :: '\x7d' :: rest => if c = close then some (some '-', rest) else none
  | '+' :: c :: '\x7d' :: rest => if c = close && c ≠ '\x7d' then some (some '+', rest) else none
  | c :: '\x7d' :: rest => if c = close then some (none, rest) else none
  | _ => none

/-- How a mark changes the number of open brackets; a bracket that closes nothing is refused. -/
def bracketDepth? (depth : Nat) (c : Char) : Option Nat :=
  if c = '(' || c = '[' || c = '\x7b' then some (depth + 1)
  else if c = ')' || c = ']' || c = '\x7d' then
    match depth with
    | 0 => none
    | depth + 1 => some depth
  else some depth

/-- A single token in front of a text that starts neither with a blank nor with the end. -/
def token? (behindPoint : Bool) (cs : List Char) : Option (Token × List Char) :=
  match cs with
  | [] => none
  | c :: rest => do
    if c = '"' || c = '\x27' then
      let (text, rest) ← quoted? c [] rest
      some (.string (← decode? text), rest)
    else if Text.isIdentifierStart c then
      let (name, rest) := cs.span Text.isIdentifierPart
      some (.name (String.ofList name), rest)
    else if c.isDigit then some (number behindPoint cs)
    else if marks.contains c then some (.mark c, rest)
    else none

/-- The tokens up to the end of a tag, the sign at the end, and what follows.  `behindPoint` says
whether a point stands directly in front. -/
def tokensRest (close : Char) : Nat → Nat → Bool → List Token → List Char →
    Option (List Token × Option Char × List Char)
  | 0, _, _, _, _ => none
  | fuel + 1, depth, behindPoint, done, cs =>
    match (if depth = 0 then closing? close cs else none) with
    | some (sign, rest) => some (done.reverse, sign, rest)
    | none =>
      match cs with
      | [] => none
      | c :: rest =>
        if Text.isBlank c then tokensRest close fuel depth false done rest
        else do
          let (t, rest) ← token? behindPoint cs
          let depth ← match t with
            | .mark c => bracketDepth? depth c
            | _ => some depth
          tokensRest close fuel depth (t == .mark '.') (t :: done) rest

/-! ### Text between tags -/

/-- The text in front of a tag that takes the blanks of its line, if there are only blanks. -/
def trimLine (startsLine : Bool) (text : List Char) : List Char :=
  let blanks := text.reverse.takeWhile (· ≠ '\n')
  if (startsLine || blanks.length < text.length) && blanks.all Text.isBlank then
    text.take (text.length - blanks.length)
  else text

/-- The text in front of a tag with a sign; `controls` says whether it can take the blanks of its
line. -/
def trimBefore (startsLine controls : Bool) (sign : Option Char) (text : List Char) : List Char :=
  match sign with
  | some '-' => Text.trimRightChars text
  | some '+' => text
  | _ => if controls then trimLine startsLine text else text

/-- Leaves out what belongs to the end of a tag, and whether that ends a line. -/
def trimAfter (controls : Bool) (sign : Option Char) (cs : List Char) : Bool × List Char :=
  match sign with
  | some '-' =>
    let (blanks, rest) := cs.span Text.isBlank
    (blanks.getLast? == some '\n', rest)
  | some _ => (false, cs)
  | none =>
    match cs with
    | '\n' :: rest => if controls then (true, rest) else (false, cs)
    | _ => (false, cs)

/-- A sign at the start of a tag. -/
def openingSign (cs : List Char) : Option Char × List Char :=
  match cs with
  | '-' :: rest => (some '-', rest)
  | '+' :: rest => (some '+', rest)
  | _ => (none, cs)

/-- What follows a comment, with the sign at its end. -/
def commentRest : List Char → Option (Option Char × List Char)
  | [] => none
  | c :: rest =>
    match closing? '#' (c :: rest) with
    | some found => some found
    | none => commentRest rest

/-- The text as a part of its own, unless it is empty. -/
def textTag (text : List Char) : List Tag :=
  if text.isEmpty then [] else [.text (String.ofList text)]

/-- The parts of a source.  `text` is the text read since the last tag, reversed, and `startsLine`
says whether that tag ended a line. -/
def tagsFrom : Nat → Bool → List Char → List Char → Option (List Tag)
  | 0, _, _, _ => none
  | _ + 1, _, text, [] => some (textTag text.reverse)
  | fuel + 1, startsLine, text, '\x7b' :: '\x7b' :: rest => do
    let (sign, rest) := openingSign rest
    let before := trimBefore startsLine false sign text.reverse
    let (tokens, sign, rest) ← tokensRest '\x7d' (rest.length + 1) 0 false [] rest
    let (startsLine, rest) := trimAfter false sign rest
    return textTag before ++ .output tokens :: (← tagsFrom fuel startsLine [] rest)
  | fuel + 1, startsLine, text, '\x7b' :: '%' :: rest => do
    let (sign, rest) := openingSign rest
    let before := trimBefore startsLine true sign text.reverse
    let (tokens, sign, rest) ← tokensRest '%' (rest.length + 1) 0 false [] rest
    let (startsLine, rest) := trimAfter true sign rest
    return textTag before ++ .control tokens :: (← tagsFrom fuel startsLine [] rest)
  | fuel + 1, startsLine, text, '\x7b' :: '#' :: rest => do
    let (sign, rest) := openingSign rest
    let before := trimBefore startsLine true sign text.reverse
    let (sign, rest) ← commentRest rest
    let (startsLine, rest) := trimAfter true sign rest
    return textTag before ++ (← tagsFrom fuel startsLine [] rest)
  | fuel + 1, startsLine, text, c :: rest => tagsFrom fuel startsLine (c :: text) rest

/-- The source with line feeds for all line ends, without one at its end. -/
def normalize (source : String) : List Char :=
  let cs := Text.unifyLineEnds source.toList
  if cs.getLast? = some '\n' then cs.dropLast else cs

/-- The parts of a source; nothing if a tag is not closed or holds what is no token. -/
def Tag.scan (source : String) : Option (List Tag) :=
  let cs := normalize source
  tagsFrom (cs.length + 1) true [] cs

end GraphScribe.Template
