import GraphScribe.Json
import GraphScribe.Numeral
import GraphScribe.Text.Surrogate

/-!
# Tokens

`Token.scan` splits a text into the tokens of the GraphQL language: punctuators, names,
numerals and strings.  Blanks, commas, comments and byte order marks separate tokens and
mean nothing else.  A block string loses the indentation that its lines have in common and
the blank lines at its ends (`Token.dedent`).
-/

namespace GraphScribe

/-- A token of the language; numerals keep their text, strings are decoded. -/
inductive Token where
  | mark (c : Char)
  | ellipsis
  | name (text : String)
  | int (text : String)
  | float (text : String)
  | string (text : String)
  | block (text : String)
deriving DecidableEq, Inhabited

namespace Token

/-- The punctuators of one character. -/
def marks : List Char :=
  ['!', '$', '&', '(', ')', ':', '=', '@', '[', ']', '\x7b', '|', '\x7d']

/-- Whether a character may start a name. -/
def isNameStart (c : Char) : Bool := c.isAlpha || c = '_'

/-- Whether a character may continue a name. -/
def isNameContinue (c : Char) : Bool := isNameStart c || c.isDigit

/-- Whether a character separates tokens. -/
def isIgnored (c : Char) : Bool :=
  c = ' ' || c = '\t' || c = '\n' || c = '\r' || c = ',' || c.toNat = 0xfeff

/-- Whether a character ends a comment. -/
def isLineFeed (c : Char) : Bool := c = '\n' || c = '\r'

/-- Leaves out what separates tokens; `inComment` says whether a comment is open. -/
def skipIgnored (inComment : Bool) : List Char → List Char
  | [] => []
  | c :: rest =>
    if inComment then skipIgnored (!isLineFeed c) rest
    else if isIgnored c then skipIgnored false rest
    else if c = '#' then skipIgnored true rest
    else c :: rest

/-! ### Strings -/

/-- The digits and the closing brace of an escape in braces: one to eight digits. -/
def bracedEscape? : Nat → Nat → Nat → List Char → Option (Nat × List Char)
  | 0, _, _, _ => none
  | _ + 1, _, _, [] => none
  | fuel + 1, count, n, c :: rest =>
    if c = '\x7d' then
      if count = 0 || Surrogate.isHalf n || 0x10ffff < n then none else some (n, rest)
    else do
      let d ← Json.hexDigit? c
      bracedEscape? fuel (count + 1) (n * 16 + d) rest

/-- The code point of the escape after `\u`; a half of a pair needs the other half behind it. -/
def unicodeEscape? : List Char → Option (Nat × List Char)
  | '\x7b' :: rest => bracedEscape? 9 0 0 rest
  | cs => (Json.codePoint? cs).filter fun r => !Surrogate.isHalf r.1

/-- The rest of a string after its opening quote; `done` is what was read, reversed. -/
def stringRest? : Nat → List Char → List Char → Option (String × List Char)
  | 0, _, _ => none
  | _ + 1, done, '"' :: rest => some (String.ofList done.reverse, rest)
  | fuel + 1, done, '\\' :: 'u' :: rest => do
    let (n, rest) ← unicodeEscape? rest
    stringRest? fuel ((Surrogate.ofCode n).reverse ++ done) rest
  | fuel + 1, done, '\\' :: c :: rest => do
    let c ← Json.letterEscape? c
    stringRest? fuel (c :: done) rest
  | fuel + 1, done, c :: rest =>
    if isLineFeed c || c = '\\' then none else stringRest? fuel (c :: done) rest
  | _ + 1, _, [] => none

/-- The lines of a block string up to its closing quotes; `line` is the current line, reversed. -/
def blockLines (line : List Char) : List Char → Option (List (List Char) × List Char)
  | '"' :: '"' :: '"' :: rest => some ([line.reverse], rest)
  | '\\' :: '"' :: '"' :: '"' :: rest => blockLines ('"' :: '"' :: '"' :: line) rest
  | '\r' :: '\n' :: rest => (blockLines [] rest).map fun r => (line.reverse :: r.1, r.2)
  | c :: rest =>
    if isLineFeed c then (blockLines [] rest).map fun r => (line.reverse :: r.1, r.2)
    else blockLines (c :: line) rest
  | [] => none

/-- Whether a character indents a line. -/
def isIndent (c : Char) : Bool := c = ' ' || c = '\t'

/-- Whether a line is blank. -/
def isBlankLine (line : List Char) : Bool := line.all isIndent

/-- The indentation of a line. -/
def indentation (line : List Char) : Nat := (line.takeWhile isIndent).length

/-- The indentation that the lines have in common, the blank ones left out. -/
def commonIndentation (lines : List (List Char)) : Option Nat :=
  ((lines.filter fun l => !isBlankLine l).map indentation).min?

/-- Drops the blank lines in front. -/
def dropBlankLines (lines : List (List Char)) : List (List Char) := lines.dropWhile isBlankLine

/-- The lines without their common indentation, to which the first line does not count, and
without blank lines at either end. -/
def dedent : List (List Char) → List (List Char)
  | [] => []
  | first :: rest =>
    let n := (commonIndentation rest).getD 0
    let lines := first :: rest.map fun l => l.drop n
    (dropBlankLines (dropBlankLines lines).reverse).reverse

/-- The text of a block string with the given lines. -/
def blockText (lines : List (List Char)) : String :=
  String.ofList (['\n'].intercalate (dedent lines))

/-! ### Scanning -/

/-- The token in front of a text that starts with one. -/
def next (cs : List Char) : Option (Token × List Char) :=
  match cs with
  | [] => none
  | '.' :: '.' :: '.' :: rest => some (ellipsis, rest)
  | '"' :: '"' :: '"' :: rest => (blockLines [] rest).map fun r => (block (blockText r.1), r.2)
  | '"' :: rest => (stringRest? rest.length.succ [] rest).map fun r => (string r.1, r.2)
  | c :: rest =>
    if marks.contains c then some (mark c, rest)
    else if isNameStart c then
      let (text, rest) := cs.span isNameContinue
      some (name (String.ofList text), rest)
    else do
      let (n, rest) ← Numeral.scan cs
      let text := String.ofList (cs.take (cs.length - rest.length))
      match rest with
      | d :: _ =>
        if isNameContinue d || d = '.' then none
        else some (if n.isWhole then int text else float text, rest)
      | [] => some (if n.isWhole then int text else float text, rest)

/-- At most `fuel` tokens of a text. -/
def scanFrom : Nat → List Char → Option (List Token)
  | 0, _ => some []
  | fuel + 1, cs =>
    match skipIgnored false cs with
    | [] => some []
    | cs => do
      let (t, rest) ← next cs
      let ts ← scanFrom fuel rest
      some (t :: ts)

/-- The tokens of a text; nothing if something in it is no token, or no character. -/
def scan (s : String) : Option (List Token) :=
  if Surrogate.isEncodable s then scanFrom s.length.succ s.toList else none

end Token

end GraphScribe
