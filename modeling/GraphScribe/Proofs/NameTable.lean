import GraphScribe.NameTable
import Mathlib.Data.List.Nodup
import Mathlib.Logic.Function.Iterate

/-!
# Free names

`NameTable.underscored n name` is `name` behind `n` underscores.  The name that
`NameTable.claimUnique` takes is of this form, for the least `n` that makes it free, and `n` is
at most the number of names in the table (`NameTable.claimUnique_spec`).  So the names in a
table stay distinct.
-/

namespace GraphScribe.NameTable

/-- `name` behind `n` underscores. -/
def underscored (n : Nat) (name : String) : String := (fun s => "_" ++ s)^[n] name

@[simp]
theorem underscored_zero (name : String) :
  underscored 0 name = name
  := rfl

theorem underscored_succ (n : Nat) (name : String) :
  underscored (n + 1) name = underscored n ("_" ++ name)
  := rfl

theorem length_underscored (n : Nat) (name : String) :
  (underscored n name).length = n + name.length
  := by
  induction n generalizing name with
  | zero => simp
  | succ n ih =>
    rw [underscored_succ, ih, String.length_append]
    have : "_".length = 1 := rfl
    omega

theorem underscored_injective (name : String) :
  Function.Injective fun n => underscored n name
  := by
  intro m n h
  have := congrArg String.length h
  simp only [length_underscored] at this
  omega

/-- The search for a free name stops at the first one, unless it runs into its bound. -/
theorem freeName_spec (taken : List String) (name : String) (bound : Nat) :
  ∃ n ≤ bound, freeName taken name bound = underscored n name
    ∧ (∀ i < n, underscored i name ∈ taken)
    ∧ (n < bound → underscored n name ∉ taken)
  := by
  induction bound generalizing name with
  | zero => use 0; simp [freeName]
  | succ bound ih =>
    by_cases h : name ∈ taken
    · obtain ⟨n, hn, hfree, htaken, hstop⟩ := ih ("_" ++ name)
      use n + 1
      refine ⟨by omega, ?_, ?_, ?_⟩
      · simpa [freeName, h, underscored_succ] using hfree
      · intro i hi
        cases i with
        | zero => apply h
        | succ i => apply htaken i (by omega)
      · intro hlt
        apply hstop (by omega)
    · use 0
      simp [freeName, h]

/-- A list of names does not hold more names of one stem than it has entries. -/
theorem exists_underscored_not_mem (taken : List String) (name : String) :
  ∃ n ≤ taken.length, underscored n name ∉ taken
  := by
  by_contra hall
  push Not at hall
  have hnodup : ((List.range (taken.length + 1)).map fun n => underscored n name).Nodup :=
    List.nodup_range.map (underscored_injective name)
  have hsub : (List.range (taken.length + 1)).map (fun n => underscored n name) ⊆ taken := by
    intro s hs
    obtain ⟨n, hn, rfl⟩ := List.mem_map.mp hs
    apply hall n (by simpa [Nat.lt_succ_iff] using hn)
  have hlength := hnodup.length_le_of_subset hsub
  rw [List.length_map, List.length_range] at hlength
  omega

/-- What `claimUnique` takes: the name behind the least number of underscores that makes it
free, which is at most the number of names in the table. -/
theorem claimUnique_spec (t : NameTable) (name : String) :
  ∃ n ≤ t.taken.length, t.claimUnique name = (underscored n name, t.add (underscored n name))
    ∧ underscored n name ∉ t.taken
    ∧ ∀ i < n, underscored i name ∈ t.taken
  := by
  obtain ⟨n, hn, hfree, htaken, hstop⟩ := freeName_spec t.taken name t.taken.length
  use n, hn
  refine ⟨by simp only [claimUnique, hfree], ?_, htaken⟩
  obtain ⟨k, hk, hmem⟩ := exists_underscored_not_mem t.taken name
  -- The search cannot pass `k`, so that it runs into its bound only if it ends at `k`.
  have hnk : n ≤ k := by
    by_contra hlt
    apply hmem (htaken k (by omega))
  rcases Nat.lt_or_ge n t.taken.length with hlt | hge
  · apply hstop hlt
  · have : n = k := by omega
    subst this
    apply hmem

theorem claimUnique_fst_not_mem (t : NameTable) (name : String) :
  (t.claimUnique name).1 ∉ t.taken
  := by
  obtain ⟨n, -, h, hfree, -⟩ := claimUnique_spec t name
  rw [h]
  apply hfree

@[simp]
theorem taken_add (t : NameTable) (name : String) :
  (t.add name).taken = name :: t.taken
  := rfl

/-- A name that is taken by `claimUnique` is a new one. -/
theorem nodup_add {t : NameTable} (ht : t.taken.Nodup) {name free : String}
    (claimed : (t.claimUnique name).1 = free) :
  (t.add free).taken.Nodup
  := by
  subst claimed
  apply List.nodup_cons.mpr
  use claimUnique_fst_not_mem t name

/-! ### Taking several names -/

/-- The table in which all of some names are taken too. -/
def addAll (t : NameTable) (names : List String) : NameTable := names.foldl add t

/-- Whether all of some names can be taken one after another: they are free and distinct. -/
def Admits (t : NameTable) (names : List String) : Prop :=
  names.Nodup ∧ ∀ n ∈ names, n ∉ t.taken

theorem admits_nil (t : NameTable) :
  t.Admits []
  := by
  simp [Admits]

theorem admits_cons_iff {t : NameTable} {name : String} {rest : List String} :
  t.Admits (name :: rest) ↔ name ∉ t.taken ∧ (t.add name).Admits rest
  := by
  rw [Admits, Admits, List.nodup_cons, List.forall_mem_cons]
  simp only [mem_taken_add, not_or]
  constructor
  · rintro ⟨⟨hname, hrest⟩, hfree, hall⟩
    use hfree, hrest
    intro n hn
    use fun h => hname (h ▸ hn), hall n hn
  · rintro ⟨hfree, hrest, hall⟩
    use ⟨fun h => (hall name h).1 rfl, hrest⟩, hfree
    intro n hn
    apply (hall n hn).2

theorem admits_append_iff {t : NameTable} {names more : List String} :
  t.Admits (names ++ more) ↔ t.Admits names ∧ (t.addAll names).Admits more
  := by
  induction names generalizing t with
  | nil => simp [admits_nil, addAll]
  | cons name rest ih =>
    rw [List.cons_append, admits_cons_iff, admits_cons_iff, ih, and_assoc]
    rfl

theorem admits_iff_of_taken_eq_nil {t : NameTable} (h : t.taken = []) {names : List String} :
  t.Admits names ↔ names.Nodup
  := by
  simp [Admits, h]

theorem claim_of_not_mem {t : NameTable} {name : String} (h : name ∉ t.taken) :
  t.claim name = .ok (t.add name)
  := by
  rw [claim, if_neg h]

theorem claim_of_mem {t : NameTable} {name : String} (h : name ∈ t.taken) :
  t.claim name = .error (.nameTaken name t.scope)
  := by
  rw [claim, if_pos h]

end GraphScribe.NameTable
