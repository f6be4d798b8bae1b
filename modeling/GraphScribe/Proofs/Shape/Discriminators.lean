import GraphScribe.Proofs.Shape.Linking

/-!
# The type names of a shape

`Shape.Offers` says which type names a shape can have: the possible types of its own type if it has
no inline fragments, and otherwise those that one of its inline fragments offers.  These are the type
names that `Shape.discriminators` collects, for the shapes that a walk makes
(`Shape.mem_discriminators_iff`).
-/

namespace GraphScribe

namespace Shape

/-! ### Collecting -/

theorem mem_addNew_iff {names more : List String} {type : String} :
  type ∈ addNew names more ↔ type ∈ names ∨ type ∈ more
  := by
  induction more generalizing names with
  | nil => simp [addNew]
  | cons n rest ih =>
    rw [addNew, List.foldl_cons, ← addNew, ih]
    split_ifs with hn
    · grind
    · grind

theorem mem_memberDiscriminators_iff {ms : List Member} {names : List String} {type : String} :
  type ∈ memberDiscriminators names ms
    ↔ type ∈ names ∨ ∃ s ∈ ms.filterMap Member.inline?, type ∈ s.discriminators
  := by
  induction ms generalizing names with
  | nil => simp [memberDiscriminators]
  | cons m rest ih =>
    rw [memberDiscriminators, ih, mem_addNew_iff]
    cases m with
    | leaf p => simp [discriminatorsOfMember, Member.inline?]
    | nested p s => simp [discriminatorsOfMember, Member.inline?]
    | spread r => simp [discriminatorsOfMember, Member.inline?]
    | inline s => simp [discriminatorsOfMember, Member.inline?, or_assoc]

theorem discriminators_eq (s : Shape) :
  s.discriminators
    = if s.typename.references.isEmpty then s.typename.literals
      else memberDiscriminators [] s.members
  := by
  cases s
  rfl

/-! ### What a shape offers -/

/-- A type name that a shape can have: one of the possible types of its own type if it has no inline
fragments, and otherwise one that an inline fragment can have. -/
inductive Offers (m : Model) (type : String) : Shape → Prop
  | plain {s : Shape} (whole : s.inlineFragments = [])
      (possible : type ∈ m.possibleTypes s.typeName) :
      Offers m type s
  | inline {s s' : Shape} (inside : s' ∈ s.inlineFragments) (offers : Offers m type s') :
      Offers m type s

section

variable {m : Model} {type : String} {s : Shape}

theorem offers_iff_of_whole (whole : s.inlineFragments = []) :
  s.Offers m type ↔ type ∈ m.possibleTypes s.typeName
  := by
  constructor
  · rintro (⟨-, possible⟩ | ⟨inside, -⟩)
    · apply possible
    · simp [whole] at inside
  · apply Offers.plain whole

theorem offers_iff_of_parted (parted : s.inlineFragments ≠ []) :
  s.Offers m type ↔ ∃ s' ∈ s.inlineFragments, s'.Offers m type
  := by
  constructor
  · rintro (⟨whole, -⟩ | ⟨inside, offers⟩)
    · contradiction
    · apply Exists.intro _ ⟨inside, offers⟩
  · rintro ⟨s', inside, offers⟩
    apply Offers.inline inside offers

end

namespace MadeBy

variable {c : WalkContext} {s : Shape}

/-- A shape without inline fragments lists the possible types of its own type. -/
theorem discriminators_of_whole (h : s.MadeBy c) (whole : s.inlineFragments = []) :
  s.discriminators = c.model.possibleTypes s.typeName
  := by
  rw [discriminators_eq, h.references_eq, whole]
  obtain ⟨name, T, site, ss, t, ms, t', -, rfl⟩ := h
  change (Walk.typenameOf c.model T ms).literals = c.model.possibleTypes T
  rw [Walk.typenameOf, show ms.filterMap Member.inline? = [] from whole]

/-- A shape with inline fragments collects their type names. -/
theorem mem_discriminators_of_parted (h : s.MadeBy c) (parted : s.inlineFragments ≠ [])
    {type : String} :
  type ∈ s.discriminators ↔ ∃ s' ∈ s.inlineFragments, type ∈ s'.discriminators
  := by
  rw [discriminators_eq, h.references_eq, if_neg (by simpa using parted),
    mem_memberDiscriminators_iff]
  simp [inlineFragments]

end MadeBy

/-- The type names of a shape that a walk makes are those that it offers. -/
theorem mem_discriminators_iff {c : WalkContext} {s : Shape} (h : ∀ s' ∈ s.shapes, s'.MadeBy c)
    {type : String} :
  type ∈ s.discriminators ↔ s.Offers c.model type
  := by
  have hs : s.MadeBy c := h s (by simp [shapes_eq])
  by_cases whole : s.inlineFragments = []
  · rw [hs.discriminators_of_whole whole, offers_iff_of_whole whole]
  · rw [hs.mem_discriminators_of_parted whole, offers_iff_of_parted whole]
    apply exists_congr
    intro s'
    apply and_congr_right
    intro hs'
    apply mem_discriminators_iff
    intro s'' hs''
    apply h s'' (mem_shapes_of_holds (Or.inr hs') hs'')
termination_by sizeOf s
decreasing_by
  apply sizeOf_lt_of_holds (Or.inr hs')

end Shape

end GraphScribe
