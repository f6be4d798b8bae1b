import GraphScribe.Proofs.Shape.Answer
import GraphScribe.Proofs.Shape.Violation

/-!
# Fields that the model declares

`Selection.Occurs` says on which type each field of a selection set stands, at any depth, and
`Selection.IsResolved` whether the type declares the field.  A selection set without violation is
resolved as far as the walk looks: each field that its merged group stands for, `Selection.Seen`, is
`__typename` or declared.  If moreover the fields of a group are one and the same field, and nothing
is selected below `__typename`, then all fields are resolved (`Selection.resolves_of_fits`).
-/

namespace GraphScribe

namespace Selection

/-! ### Fields and the types that they stand on -/

section

variable (m : Model)

/-- `Occurs m T ss T' s`: the field `s` is selected on the type `T'`, either among the selections
`ss` on `T` or below one of them.  What is selected below a field is on the type of that field. -/
inductive Occurs : String → List Selection → String → Selection → Prop
  | here {T : String} {ss : List Selection} {s : Selection} {key : String} (mem : s ∈ ss)
      (field : s.key? = some key) : Occurs T ss T s
  | field {T T' : String} {ss : List Selection} {s : Selection} {alias? name args ds below f}
      (mem : .field alias? name args ds below ∈ ss) (declared : m.field? T name = some f)
      (inside : Occurs f.descriptor.name below T' s) : Occurs T ss T' s
  | inline {T T' : String} {ss : List Selection} {s : Selection} {on? ds below}
      (mem : .inline on? ds below ∈ ss) (inside : Occurs (on?.getD T) below T' s) :
      Occurs T ss T' s

/-- `Seen m T ss T' s`: the field `s` is selected on the type `T'`, either among the selections
`ss` on `T` or below a group of them, and is the field that the first node of its group selects.
What is selected below a group is on the type of that field. -/
inductive Seen : String → List Selection → String → Selection → Prop
  | here {T : String} {ss : List Selection} {s : Selection} {g : Group} {name : String}
      (group : g ∈ groups ss) (node : s ∈ g.nodes) (selected : s.fieldName? = some name)
      (first : g.first.fieldName? = some name) : Seen T ss T s
  | field {T T' : String} {ss : List Selection} {s : Selection} {g : Group} {name : String} {f}
      (group : g ∈ groups ss) (first : g.first.fieldName? = some name)
      (ordinary : name ≠ Walk.typenameField) (declared : m.field? T name = some f)
      (inside : Seen f.descriptor.name g.below T' s) : Seen T ss T' s
  | inline {T T' : String} {ss : List Selection} {s : Selection} {g : Group} {on? ds below}
      (group : g ∈ groups ss) (first : g.first = .inline on? ds below)
      (inside : Seen (on?.getD T) g.below T' s) : Seen T ss T' s

/-- The field is `__typename`, or declared by a type. -/
def IsKnown (T : String) (s : Selection) : Prop :=
  s.fieldName? = some Walk.typenameField
    ∨ ∃ name f, s.fieldName? = some name ∧ m.field? T name = some f

/-- The field is `__typename` with nothing selected below it, or declared by a type. -/
def IsResolved (T : String) (s : Selection) : Prop :=
  s.fieldName? = some Walk.typenameField ∧ s.children = []
    ∨ ∃ name f, s.fieldName? = some name ∧ m.field? T name = some f

end

/-- The nodes of each group select one field, and nothing below `__typename`, at every level of a
selection set that is merged on the way. -/
inductive IsUniform : List Selection → Prop
  | intro {ss : List Selection}
      (agree : ∀ g ∈ groups ss, ∀ s ∈ g.nodes, s.fieldName? = g.first.fieldName?)
      (bare : ∀ s ∈ ss, s.fieldName? = some Walk.typenameField → s.children = [])
      (below : ∀ g ∈ groups ss, IsUniform g.below) : IsUniform ss

theorem isUniform_nil :
  IsUniform []
  := by
  constructor
  · simp
  · simp
  · simp

/-- What is known of a selection set on a type that has a shape: the fields that are seen are known,
and all fields are resolved if those of a group agree. -/
structure Resolves (m : Model) (T : String) (ss : List Selection) : Prop where
  seen : ∀ T' s, Seen m T ss T' s → s.IsKnown m T'
  uniform : IsUniform ss → ∀ T' s, Occurs m T ss T' s → s.IsResolved m T'

/-! ### Groups without violation -/

section

variable {c : WalkContext} {T site : String} {ss : List Selection} {g : Group}

theorem groupViolation?_eq_none (h : Walk.violation? c T site ss = none) (hg : g ∈ groups ss) :
  Walk.groupViolation? c T site g = none
  := by
  rw [Walk.violation?_eq, List.findSome?_eq_none_iff] at h
  apply h g hg

/-- A field that a group without violation selects is `__typename`, or declared, and then there is
no violation below. -/
theorem fits_field (h : Walk.violation? c T site ss = none) (hg : g ∈ groups ss) {name : String}
    (first : g.first.fieldName? = some name) :
  name = Walk.typenameField
    ∨ ∃ f, c.model.field? T name = some f
      ∧ ∃ below, Walk.violation? c f.descriptor.name below g.below = none
  := by
  have hgroup := groupViolation?_eq_none h hg
  rw [Walk.groupViolation?] at hgroup
  cases hfirst : g.first with
  | field alias? name' args ds ss' =>
    rw [hfirst] at first hgroup
    cases first
    by_cases ordinary : name = Walk.typenameField
    · apply Or.inl ordinary
    · apply Or.inr
      simp only [ordinary, if_false] at hgroup
      cases declared : c.model.field? T name with
      | none => simp [declared] at hgroup
      | some f =>
        use f, rfl
        by_cases selected : g.below = []
        · use site
          simp [selected, Walk.violation?_eq]
        · use site ++ "." ++ alias?.getD name
          cases kind : f.kind.isComposite with
          | false => simp [declared, kind, selected] at hgroup
          | true => simpa [declared, kind, selected] using hgroup
  | spread name' ds =>
    rw [hfirst] at first
    cases first
  | inline on? ds ss' =>
    rw [hfirst] at first
    cases first

theorem fits_inline (h : Walk.violation? c T site ss = none) (hg : g ∈ groups ss)
    {on? : Option String} {ds : List Directive} {below : List Selection}
    (first : g.first = .inline on? ds below) :
  Walk.violation? c (on?.getD T) site g.below = none
  := by
  have hgroup := groupViolation?_eq_none h hg
  simp only [Walk.groupViolation?, first] at hgroup
  cases composite : c.model.isComposite (on?.getD T) with
  | false => simp [composite] at hgroup
  | true => simpa [composite] using hgroup

end

/-! ### Groups and their nodes -/

theorem key?_of_mem_nodes {ss : List Selection} {g : Group} (h : g ∈ groups ss) {s : Selection}
    (hs : s ∈ g.nodes) :
  s.key? = g.key?
  := by
  cases hkey : g.key? with
  | none =>
    rw [Group.nodes, more_eq_nil h hkey, List.mem_singleton] at hs
    rw [hs]
    apply hkey
  | some key =>
    rw [nodes_eq_filter h hkey] at hs
    simpa using List.of_mem_filter hs

/-- Every selection is a node of a group. -/
theorem exists_group_of_mem {ss : List Selection} {s : Selection} (hs : s ∈ ss) :
  ∃ g ∈ groups ss, s ∈ g.nodes
  := by
  induction ss using groupsInduction with
  | nil => cases hs
  | cons first rest ih =>
    rw [groups_cons]
    rcases List.mem_cons.mp hs with rfl | hs
    · use { first := s, more := rest.filter s.joins }
      simp [Group.nodes]
    · by_cases hjoins : first.joins s = true
      · use { first, more := rest.filter first.joins }
        simp [Group.nodes, hs, hjoins]
      · obtain ⟨g, hg, hnode⟩ := ih (List.mem_filter.mpr ⟨hs, by simpa using hjoins⟩)
        use g, List.mem_cons_of_mem _ hg

theorem subset_below {g : Group} {s : Selection} (hs : s ∈ g.nodes) :
  s.children ⊆ g.below
  := by
  intro s' hs'
  apply List.mem_flatMap.mpr ⟨s, hs, hs'⟩

/-- An inline fragment is a group of its own. -/
theorem first_of_inline {ss : List Selection} {g : Group} (h : g ∈ groups ss) {on? ds below}
    (hs : .inline on? ds below ∈ g.nodes) :
  g.first = .inline on? ds below
  := by
  have hmore := more_eq_nil h (key?_of_mem_nodes h hs).symm
  rw [Group.nodes, hmore, List.mem_singleton] at hs
  apply hs.symm

theorem Occurs.mono {m : Model} {T T' : String} {ss ss' : List Selection} {s : Selection}
    (h : Occurs m T ss T' s) (hsub : ss ⊆ ss') :
  Occurs m T ss' T' s
  := by
  cases h with
  | here mem field => apply Occurs.here (hsub mem) field
  | field mem declared inside => apply Occurs.field (hsub mem) declared inside
  | inline mem inside => apply Occurs.inline (hsub mem) inside

theorem not_occurs_nil {m : Model} {T T' : String} {s : Selection} :
  ¬ Occurs m T [] T' s
  := by
  rintro (⟨mem, -⟩ | ⟨mem, -, -⟩ | ⟨mem, -⟩)
  · cases mem
  · cases mem
  · cases mem

/-! ### What is resolved -/

section

variable {c : WalkContext}

theorem Seen.isKnown {T T' : String} {ss : List Selection} {s : Selection}
    (h : Seen c.model T ss T' s) :
  ∀ {site : String}, Walk.violation? c T site ss = none → s.IsKnown c.model T'
  := by
  induction h with
  | here group node selected first =>
    intro site hfits
    rcases fits_field hfits group first with rfl | ⟨f, declared, -⟩
    · apply Or.inl selected
    · apply Or.inr ⟨_, f, selected, declared⟩
  | field group first ordinary declared inside ih =>
    intro site hfits
    rcases fits_field hfits group first with h | ⟨f', declared', below, hbelow⟩
    · contradiction
    · rw [declared] at declared'
      cases declared'
      apply ih hbelow
  | inline group first inside ih =>
    intro site hfits
    apply ih (fits_inline hfits group first)

/-- The first node of its group answers for a field, in a selection set in which groups agree. -/
theorem Occurs.isResolved (ss : List Selection) :
  ∀ {T site T' : String} {s : Selection}, Walk.violation? c T site ss = none → IsUniform ss →
    Occurs c.model T ss T' s → s.IsResolved c.model T'
  := by
  induction ss using belowInduction with
  | step ss ih =>
    rintro T site T' s hfits ⟨agree, bare, uniform⟩ hoccurs
    cases hoccurs with
    | @here _ _ _ key mem hfield =>
      obtain ⟨g, hg, hnode⟩ := exists_group_of_mem mem
      cases s with
      | field alias? name args ds below =>
        rcases fits_field hfits hg (agree g hg _ hnode).symm with rfl | ⟨f, declared, -⟩
        · apply Or.inl ⟨rfl, bare _ mem rfl⟩
        · apply Or.inr ⟨name, f, rfl, declared⟩
      | spread => cases hfield
      | inline => cases hfield
    | @field _ _ _ _ alias? name args ds below f mem declared inside =>
      obtain ⟨g, hg, hnode⟩ := exists_group_of_mem mem
      rcases fits_field hfits hg (agree g hg _ hnode).symm with rfl | ⟨f', declared', site', hbelow⟩
      · have hnil : below = [] := bare _ mem rfl
        rw [hnil] at inside
        cases not_occurs_nil inside
      · rw [declared] at declared'
        cases declared'
        apply ih g hg hbelow (uniform g hg) (inside.mono (subset_below hnode))
    | @inline _ _ _ _ on? ds below mem inside =>
      obtain ⟨g, hg, hnode⟩ := exists_group_of_mem mem
      apply ih g hg (fits_inline hfits hg (first_of_inline hg hnode)) (uniform g hg)
        (inside.mono (subset_below hnode))

/-- The fields of a selection set without violation are resolved as far as the walk looks. -/
theorem resolves_of_fits {T site : String} {ss : List Selection}
    (h : Walk.violation? c T site ss = none) :
  Resolves c.model T ss
  := by
  constructor
  case seen =>
    intro T' s hseen
    apply hseen.isKnown h
  case uniform =>
    intro huniform T' s hoccurs
    apply Occurs.isResolved ss h huniform hoccurs

end

end Selection

end GraphScribe
