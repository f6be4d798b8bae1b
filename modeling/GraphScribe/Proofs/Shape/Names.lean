import GraphScribe.Proofs.Shape.Linking

/-!
# Names that shapes want

A nested property wants its shape to be called after its key, and an inline fragment after its
type.  A walk claims the wanted names one after another (`Walked.eq_claimEach`), so that in the
end each of them is taken (`NameTable.mem_taken_claimEach`), and a name that has been taken is a
wanted one behind some underscores (`NameTable.exists_of_mem_taken_claimEach`).
-/

namespace GraphScribe

/-! ### Claiming names one after another -/

namespace NameTable

/-- The table in which each of some names is taken behind as few underscores as make it free. -/
def claimEach (t : NameTable) (names : List String) : NameTable :=
  names.foldl (fun t name => (t.claimUnique name).2) t

theorem claimEach_cons {t : NameTable} {name free : String}
    (claimed : (t.claimUnique name).1 = free) (rest : List String) :
  t.claimEach (name :: rest) = (t.add free).claimEach rest
  := by
  subst claimed
  rfl

theorem claimEach_append (t : NameTable) (names more : List String) :
  t.claimEach (names ++ more) = (t.claimEach names).claimEach more
  := List.foldl_append

/-- What claims take does not depend on the scope of the table. -/
theorem taken_claimEach_congr {t t' : NameTable} (h : t.taken = t'.taken) (names : List String) :
  (t.claimEach names).taken = (t'.claimEach names).taken
  := by
  induction names generalizing t t' with
  | nil => apply h
  | cons name rest ih =>
    apply ih
    simp only [claimUnique, add, h]

theorem taken_subset_claimEach (t : NameTable) (names : List String) :
  t.taken ⊆ (t.claimEach names).taken
  := by
  induction names generalizing t with
  | nil => apply List.Subset.refl
  | cons name rest ih =>
    rw [claimEach_cons rfl]
    apply List.Subset.trans _ (ih (t.add (t.claimUnique name).1))
    apply List.subset_cons_self

/-- A name that is claimed is taken afterwards, if not for this claim then for an earlier one. -/
theorem mem_taken_add_claimUnique (t : NameTable) (name : String) :
  name ∈ (t.add (t.claimUnique name).1).taken
  := by
  obtain ⟨n, -, h, -, htaken⟩ := claimUnique_spec t name
  rw [h, mem_taken_add]
  cases n with
  | zero => apply Or.inl rfl
  | succ n => apply Or.inr (htaken 0 (Nat.succ_pos n))

theorem mem_taken_claimEach {t : NameTable} {names : List String} {name : String}
    (h : name ∈ names) :
  name ∈ (t.claimEach names).taken
  := by
  induction names generalizing t with
  | nil => cases h
  | cons first rest ih =>
    rw [claimEach_cons rfl]
    rcases List.mem_cons.mp h with rfl | h
    · apply taken_subset_claimEach _ rest (mem_taken_add_claimUnique t name)
    · apply ih h

/-- A name that claims have taken is a claimed one behind as many underscores as it takes to come
to a free name. -/
theorem exists_of_mem_taken_claimEach {t : NameTable} {names : List String} {name : String}
    (h : name ∈ (t.claimEach names).taken) :
  name ∈ t.taken
    ∨ ∃ w ∈ names, ∃ i, name = underscored i w
      ∧ ∀ j < i, underscored j w ∈ (t.claimEach names).taken
  := by
  induction names generalizing t with
  | nil => apply Or.inl h
  | cons first rest ih =>
    rw [claimEach_cons rfl] at h ⊢
    rcases ih h with h | ⟨w, hw, hname⟩
    · rcases (mem_taken_add _ _ _).mp h with rfl | h
      · obtain ⟨n, -, hclaimed, -, htaken⟩ := claimUnique_spec t first
        apply Or.inr
        use first, List.mem_cons_self, n
        rw [hclaimed]
        use rfl
        intro j hj
        apply taken_subset_claimEach
        apply List.mem_cons_of_mem _ (htaken j hj)
      · apply Or.inl h
    · apply Or.inr ⟨w, List.mem_cons_of_mem _ hw, hname⟩

end NameTable

/-! ### The names that a walk claims -/

namespace Shape

mutual

/-- The names wanted for the shapes below a shape, each before those below. -/
def wanted : Shape → List String
  | mk _ _ _ _ members => wantedNames members

/-- The names wanted for the shapes in and below some members. -/
def wantedNames : List Member → List String
  | [] => []
  | m :: rest => wantedOfMember m ++ wantedNames rest

/-- The names wanted for the shapes in and below a member. -/
def wantedOfMember : Member → List String
  | .leaf _ => []
  | .nested p s => Naming.capitalize p.name :: wanted s
  | .spread _ => []
  | .inline s => Naming.inlineFragmentName s.typeName :: wanted s

end

end Shape

/-- A walk claims the wanted names in order. -/
theorem Walked.eq_claimEach {c : WalkContext} {T site : String} {ss : List Selection}
    {t t' : NameTable} {ms : List Member} (h : Walked c T site ss t ms t') :
  t' = t.claimEach (Shape.wantedNames ms)
  := by
  induction h with
  | nil => rfl
  | typename _ _ ih => apply ih
  | aliasedTypename _ _ ih => apply ih
  | leaf _ _ _ _ ih => apply ih
  | nested _ _ _ _ claimed _ _ ihInside ih =>
    rw [Shape.wantedNames, NameTable.claimEach_append, ih]
    congr 1
    apply ihInside.trans (NameTable.claimEach_cons claimed _).symm
  | spread _ _ ih => apply ih
  | inline _ claimed _ _ ihInside ih =>
    rw [Shape.wantedNames, NameTable.claimEach_append, ih]
    congr 1
    apply ihInside.trans (NameTable.claimEach_cons claimed _).symm

/-- The names of the shapes of a walk, and those that it finds taken, are what comes of claiming
the wanted names. -/
theorem Walk.mem_names_iff_of_outcome {c : WalkContext} {name T site : String}
    {ss : List Selection} {t t' : NameTable} {root : Shape}
    (h : (shape c name T ss site).outcome t = (.ok root, t')) {reserved : List String}
    (ht : t.taken = name :: reserved) (n : String) :
  n ∈ reserved ++ root.shapes.map Shape.name ↔ n ∈ (t.claimEach root.wanted).taken
  := by
  obtain ⟨ms, hwalk, rfl⟩ := outcome_shape_eq_ok_iff.mp h
  change _ ↔ n ∈ (t.claimEach (Shape.wantedNames ms)).taken
  rw [← hwalk.eq_claimEach, hwalk.taken_eq, ht, map_name_shapes_shapeOf]
  simp only [List.mem_append, List.mem_cons, List.mem_reverse]
  grind

end GraphScribe
