import GraphScribe.Double

/-!
# Numerals

A `Numeral` is a decimal number as it is written: sign, whole part without superfluous
zeros, fraction and exponent.  `Numeral.scan` takes the longest numeral in front of a text;
`Numeral.toInt` and `Numeral.toDouble` give its value.
-/

namespace GraphScribe

/-- A decimal number as it is written. -/
structure Numeral where
  negative : Bool
  whole : List Char
  fraction : List Char
  exponent : Option Int

namespace Numeral

/-- The number that a row of digits stands for. -/
def natOfDigits (ds : List Char) : Nat := ds.foldl (fun n d => n * 10 + (d.toNat - '0'.toNat)) 0

/-- The whole part in front of a text: a zero alone, or digits of which the first is no zero. -/
def scanWhole (cs : List Char) : List Char × List Char :=
  match cs with
  | '0' :: rest => (['0'], rest)
  | _ => cs.span Char.isDigit

/-- A point with at least one digit, if the text starts so. -/
def scanFraction (cs : List Char) : List Char × List Char :=
  match cs with
  | '.' :: rest => match rest.span Char.isDigit with
    | ([], _) => ([], cs)
    | found => found
  | _ => ([], cs)

/-- A sign, and whether it is minus. -/
def scanSign (cs : List Char) : Bool × List Char :=
  match cs with
  | '-' :: rest => (true, rest)
  | '+' :: rest => (false, rest)
  | _ => (false, cs)

/-- The letter of an exponent, a sign and at least one digit, if the text starts so. -/
def scanExponent (cs : List Char) : Option Int × List Char :=
  match cs with
  | e :: rest =>
    if e = 'e' || e = 'E' then
      let (negative, rest) := scanSign rest
      match rest.span Char.isDigit with
      | ([], _) => (none, cs)
      | (ds, rest) =>
        let n : Int := natOfDigits ds
        (some (if negative then -n else n), rest)
    else (none, cs)
  | [] => (none, [])

/-- The longest numeral in front of a text. -/
def scan (cs : List Char) : Option (Numeral × List Char) :=
  let (negative, unsigned) := match cs with
    | '-' :: rest => (true, rest)
    | _ => (false, cs)
  match scanWhole unsigned with
  | ([], _) => none
  | (whole, rest) =>
    let (fraction, rest) := scanFraction rest
    let (exponent, rest) := scanExponent rest
    some (⟨negative, whole, fraction, exponent⟩, rest)

/-- Whether the numeral is written without fraction and exponent. -/
def isWhole (n : Numeral) : Bool := n.fraction.isEmpty && n.exponent.isNone

/-- The number of digits up to which integers are read. -/
def digitLimit : Nat := 4300

/-- Whether the numeral has too many digits to be read as an integer. -/
def isTooLong (n : Numeral) : Bool := digitLimit < n.whole.length

/-- The whole part with its sign. -/
def toInt (n : Numeral) : Int :=
  let m : Int := natOfDigits n.whole
  if n.negative then -m else m

/-- The number nearest to the numeral. -/
def toDouble (n : Numeral) : Double :=
  Double.ofDecimal n.negative (natOfDigits (n.whole ++ n.fraction))
    (n.exponent.getD 0 - (n.fraction.length : Nat))

/-- The integer that a text stands for, if it is a numeral that is not too long. -/
def intOfText? (s : String) : Option Int :=
  (scan s.toList).bind fun r => if r.1.isTooLong then none else some r.1.toInt

/-- The number nearest to the decimal that a text stands for, zero if it is no numeral. -/
def doubleOfText (s : String) : Double :=
  ((scan s.toList).map fun r => r.1.toDouble).getD (Double.ofMagnitude false 0)

end Numeral

end GraphScribe
