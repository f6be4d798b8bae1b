/-!
# Double-precision numbers

A `Double` is the sixty-four bits of a binary floating-point number.  `Double.ofDecimal` is
the number nearest to a decimal, ties going to the even significand.  `Double.shortest`
finds the fewest decimal digits that read back as a number, and `Double.text` lays them out:
positionally for exponents from -4 to 15, else with an exponent of at least two digits.
-/

namespace GraphScribe

/-- A binary floating-point number of sixty-four bits. -/
structure Double where
  bits : UInt64
deriving DecidableEq, Inhabited

namespace Double

/-- The bits of positive infinity. -/
def infinityBits : Nat := 0x7ff * Nat.pow 2 52

/-- Whether the sign bit is set. -/
def isNegative (x : Double) : Bool := Nat.pow 2 63 ≤ x.bits.toNat

/-- The bits without the sign. -/
def magnitude (x : Double) : Nat := x.bits.toNat % Nat.pow 2 63

/-- The number with the given sign and the bits `n` of its magnitude. -/
def ofMagnitude (negative : Bool) (n : Nat) : Double :=
  ⟨UInt64.ofNat (if negative then Nat.pow 2 63 + n else n)⟩

/-- Whether the number is neither infinite nor a non-number. -/
def isFinite (x : Double) : Bool := x.magnitude < infinityBits

/-- Whether the number is zero of either sign. -/
def isZero (x : Double) : Bool := x.magnitude = 0

/-- Positive infinity. -/
def infinity : Double := ofMagnitude false infinityBits

/-- Negative infinity. -/
def negInfinity : Double := ofMagnitude true infinityBits

/-- The quiet non-number. -/
def nan : Double := ofMagnitude false (infinityBits + Nat.pow 2 51)

/-! ### Rounding a quotient -/

/-- `num / den / 2 ^ q` as a quotient of natural numbers. -/
def scaled (num den : Nat) (q : Int) : Nat × Nat :=
  if 0 ≤ q then (num, den * Nat.pow 2 q.toNat) else (num * Nat.pow 2 (-q).toNat, den)

/-- The natural number nearest to `num / den`, ties going to the even one. -/
def roundHalfEven (num den : Nat) : Nat :=
  let m := num / den
  let r := num % den
  if den < 2 * r || (2 * r == den && m % 2 == 1) then m + 1 else m

/-- The binary exponent at which `num / den` has a significand of fifty-three bits, but never
less than that of the subnormal numbers. -/
def binaryExponent (num den : Nat) : Int :=
  let q : Int := (num.log2 : Int) - den.log2 - 52
  let (n, d) := scaled num den q
  max (if n < d * Nat.pow 2 52 then q - 1 else q) (-1074)

/-- The magnitude bits of the number nearest to `num / den`. -/
def nearestMagnitude (num den : Nat) : Nat :=
  if num = 0 then
    0
  else
    let q := binaryExponent num den
    let (n, d) := scaled num den q
    min ((q + 1074).toNat * Nat.pow 2 52 + roundHalfEven n d) infinityBits

/-- The number of decimal digits of `n`. -/
def digitCount (n : Nat) : Nat := (Nat.toDigits 10 n).length

/-- `m * 10 ^ e` as a quotient of natural numbers. -/
def decimalQuotient (m : Nat) (e : Int) : Nat × Nat :=
  if 0 ≤ e then (m * Nat.pow 10 e.toNat, 1) else (m, Nat.pow 10 (-e).toNat)

/-- The magnitude bits of the number nearest to `m * 10 ^ e`.  Decimals far outside the range
of finite numbers are recognised by their length, so that no huge power is computed. -/
def decimalMagnitude (m : Nat) (e : Int) : Nat :=
  let places := e + digitCount m
  if m = 0 || places < -330 then 0
  else if 310 < places then infinityBits
  else
    let (num, den) := decimalQuotient m e
    nearestMagnitude num den

/-- The number nearest to `m * 10 ^ e`, with the given sign. -/
def ofDecimal (negative : Bool) (m : Nat) (e : Int) : Double :=
  ofMagnitude negative (decimalMagnitude m e)

/-! ### The shortest decimal -/

/-- The magnitude `m * 2 ^ q` of a finite number, as a quotient. -/
def quotient (x : Double) : Nat × Nat :=
  let e : Nat := x.magnitude / Nat.pow 2 52
  let f : Nat := x.magnitude % Nat.pow 2 52
  let m := if e = 0 then f else f + Nat.pow 2 52
  let q : Int := if e = 0 then -1074 else (e : Int) - 1075
  if 0 ≤ q then (m * Nat.pow 2 q.toNat, 1) else (m, Nat.pow 2 (-q).toNat)

/-- The integer that the number equals, if there is one. -/
def toInt? (x : Double) : Option Int :=
  let (num, den) := x.quotient
  if x.isFinite && num % den = 0 then
    let n : Int := (num / den : Nat)
    some (if x.isNegative then -n else n)
  else none

/-- The number of zeros between the decimal point and the first digit of `num / den < 1`,
looked for up to `fuel` of them. -/
def leadingZeros (num den : Nat) : Nat → Nat
  | 0 => 0
  | fuel + 1 => if den ≤ num * 10 then 0 else leadingZeros (num * 10) den fuel + 1

/-- The position of the decimal point relative to the first digit: `10 ^ (k - 1) ≤ x < 10 ^ k`. -/
def pointPosition (num den : Nat) : Int :=
  if den ≤ num then (digitCount (num / den) : Nat) else -(leadingZeros num den 400 : Int)

/-- Of the two multiples of `10 ^ e` that enclose `num / den`, the nearer one whose decimal
rounds to the magnitude `target`. -/
def neighbour? (num den target : Nat) (e : Int) : Option Nat :=
  let (n, d) :=
    if 0 ≤ e then (num, den * Nat.pow 10 e.toNat) else (num * Nat.pow 10 (-e).toNat, den)
  let low := n / d
  let r := n % d
  let lowReads := decimalMagnitude low e == target
  let highReads := decimalMagnitude (low + 1) e == target
  let lowNearer := 2 * r < d || (2 * r == d && low % 2 == 0)
  if lowReads && (lowNearer || !highReads) then some low
  else if highReads then some (low + 1)
  else none

/-- The fewest digits `m` and the exponent `e` for which `m * 10 ^ e` reads back as the
magnitude of a finite number that is not zero. -/
def shortest (x : Double) : Nat × Int :=
  let (num, den) := x.quotient
  let k := pointPosition num den
  let found := (List.range 17).findSome? fun n =>
    let e := k - (n + 1 : Nat)
    (neighbour? num den x.magnitude e).map fun m => (m, e)
  found.getD (0, 0)

/-! ### Layout -/

/-- The digits with trailing zeros removed. -/
def trimZeros (ds : List Char) : List Char := (ds.reverse.dropWhile (· == '0')).reverse

/-- Lays out the digits `ds` with the decimal point after the first `point` of them. -/
def layout (ds : List Char) (point : Int) : List Char :=
  if -4 < point && point ≤ 16 then
    if point ≤ 0 then
      ['0', '.'] ++ List.replicate (-point).toNat '0' ++ ds
    else if ds.length ≤ point.toNat then
      ds ++ List.replicate (point.toNat - ds.length) '0' ++ ['.', '0']
    else
      ds.take point.toNat ++ ['.'] ++ ds.drop point.toNat
  else
    let e := point - 1
    let sign := if e < 0 then '-' else '+'
    let exponent := Nat.toDigits 10 e.natAbs
    let exponent := if exponent.length < 2 then '0' :: exponent else exponent
    let significand := match ds with
      | d :: rest@(_ :: _) => d :: '.' :: rest
      | ds => ds
    significand ++ ['e', sign] ++ exponent

/-- The text of the number. -/
def text (x : Double) : String :=
  let sign := if x.isNegative then "-" else ""
  if x.isFinite then
    if x.isZero then
      sign ++ "0.0"
    else
      let (m, e) := x.shortest
      let ds := Nat.toDigits 10 m
      sign ++ String.ofList (layout (trimZeros ds) (ds.length + e))
  else if x.magnitude = infinityBits then
    sign ++ "inf"
  else
    "nan"

end Double

end GraphScribe
