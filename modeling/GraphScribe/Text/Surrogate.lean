/-!
# Lone surrogates

Text that arrives as escapes may name one half of a surrogate pair alone, which is no
character.  `Surrogate.ofCode` writes such a half as a mark and a character that stands for it,
and the mark itself as two marks, so that every sequence of code points has a text of its own;
`Surrogate.codes` reads the code points back (`Surrogate.codes_flatMap_ofCode`).  A text that
holds a lone half cannot be encoded (`Surrogate.isEncodable`).
-/

namespace GraphScribe.Surrogate

/-- Whether a code unit is the first half of a pair. -/
def isLeading (n : Nat) : Bool := 0xd800 ≤ n && n < 0xdc00

/-- Whether a code unit is the second half of a pair. -/
def isTrailing (n : Nat) : Bool := 0xdc00 ≤ n && n < 0xe000

/-- Whether a code unit is a half of a pair. -/
def isHalf (n : Nat) : Bool := isLeading n || isTrailing n

/-- The code point of a pair. -/
def join (leading trailing : Nat) : Nat :=
  0x10000 + (leading - 0xd800) * 0x400 + (trailing - 0xdc00)

/-- The mark in front of a lone half: a code point that is set apart for internal use. -/
def mark : Char := Char.ofNat 0x8fffe

/-- A character in a text that may hold lone halves. -/
def ofChar (c : Char) : List Char := if c = mark then [mark, mark] else [c]

/-- A code point in a text that may hold lone halves.  The character that stands for a half lies
behind the halves. -/
def ofCode (n : Nat) : List Char :=
  if isHalf n then [mark, Char.ofNat (n + 0x800)] else ofChar (Char.ofNat n)

/-- A text of characters as a text that may hold lone halves. -/
def carry (s : String) : String := String.ofList (s.toList.flatMap ofChar)

/-- The code point behind a mark. -/
def marked (c : Char) : Nat := if c = mark then mark.toNat else c.toNat - 0x800

/-- The code points of a text that may hold lone halves. -/
def codes : List Char → List Nat
  | [] => []
  | [c] => [c.toNat]
  | c :: d :: rest => if c = mark then marked d :: codes rest else c.toNat :: codes (d :: rest)

/-- The single code points of a text, each as a text. -/
def split (s : String) : List String :=
  (codes s.toList).map fun n => String.ofList (ofCode n)

/-- Whether a text holds characters only. -/
def isEncodable (s : String) : Bool := (codes s.toList).all fun n => !isHalf n

/-- The text of the characters that a text holds, the lone halves left out. -/
def characters (s : String) : String :=
  String.ofList (((codes s.toList).filter fun n => !isHalf n).map Char.ofNat)

/-! ### Reading back -/

theorem toNat_ofNat {n : Nat} (h : n.isValidChar) :
  (Char.ofNat n).toNat = n
  := by
  unfold Char.ofNat
  rw [dif_pos h]
  exact UInt32.toNat_ofNatLT ..

theorem toNat_mark : mark.toNat = 0x8fffe := by decide

theorem isHalf_iff {n : Nat} :
  isHalf n = true ↔ 0xd800 ≤ n ∧ n < 0xe000
  := by
  simp only [isHalf, isLeading, isTrailing, Bool.or_eq_true, Bool.and_eq_true, decide_eq_true_eq]
  omega

theorem codes_half_append {n : Nat} (h : isHalf n = true) (cs : List Char) :
  codes (ofCode n ++ cs) = n :: codes cs
  := by
  have hn := isHalf_iff.1 h
  have hv : (n + 0x800).isValidChar := by
    simp only [Nat.isValidChar]
    omega
  have hne : Char.ofNat (n + 0x800) ≠ mark := by
    intro he
    have := congrArg Char.toNat he
    rw [toNat_ofNat hv, toNat_mark] at this
    omega
  simp [ofCode, h, codes, marked, hne, toNat_ofNat hv]

theorem codes_ofChar_append (c : Char) (cs : List Char) :
  codes (ofChar c ++ cs) = c.toNat :: codes cs
  := by
  by_cases h : c = mark
  · simp [ofChar, h, codes, marked]
  · cases cs <;> simp [ofChar, h, codes]

theorem codes_flatMap_ofCode {ns : List Nat} (h : ∀ n ∈ ns, n.isValidChar ∨ isHalf n = true) :
  codes (ns.flatMap ofCode) = ns
  := by
  induction ns with
  | nil => rfl
  | cons n ns ih =>
    have ih := ih fun m hm => h m (List.mem_cons_of_mem _ hm)
    by_cases hn : isHalf n = true
    · simp [codes_half_append hn, ih]
    · have hv := (h n List.mem_cons_self).resolve_right hn
      simp [ofCode, hn, codes_ofChar_append, toNat_ofNat hv, ih]

end GraphScribe.Surrogate
