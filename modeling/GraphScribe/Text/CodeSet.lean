/-!
# Sets of code points

A set of code points is given by its boundaries: an increasing list of the code points at which
one enters and leaves the set by turns.  `CodeSet.contains` looks a code point up; two boundaries
make a range (`CodeSet.contains_range`).
-/

namespace GraphScribe.Text

/-- A set of code points, by the code points at which it begins and ends by turns. -/
abbrev CodeSet := List Nat

namespace CodeSet

/-- Whether a code point is in a set; `inside` says whether the code points before the first
boundary are. -/
def containsFrom (inside : Bool) : CodeSet → Nat → Bool
  | [], _ => inside
  | b :: rest, n => if n < b then inside else containsFrom (!inside) rest n

/-- Whether a code point is in a set. -/
def contains (s : CodeSet) (n : Nat) : Bool := containsFrom false s n

theorem containsFrom_of_lt {s : CodeSet} {n : Nat} (inside : Bool) (h : ∀ b ∈ s, n < b) :
  containsFrom inside s n = inside
  := by
  cases s with
  | nil => rfl
  | cons b rest => simp [containsFrom, h b List.mem_cons_self]

theorem contains_range (first last n : Nat) :
  contains [first, last + 1] n = (first ≤ n && n ≤ last)
  := by
  by_cases hf : n < first
  · have h : ¬first ≤ n := by omega
    rw [contains, containsFrom, if_pos hf, decide_eq_false h, Bool.false_and]
  · have h : first ≤ n := by omega
    rw [contains, containsFrom, if_neg hf, containsFrom, decide_eq_true h, Bool.true_and]
    by_cases hl : n < last + 1
    · have h : n ≤ last := by omega
      rw [if_pos hl, decide_eq_true h, Bool.not_false]
    · have h : ¬n ≤ last := by omega
      rw [if_neg hl, containsFrom, decide_eq_false h, Bool.not_false, Bool.not_true]

end CodeSet

end GraphScribe.Text
