import GraphScribe.Proofs.Selection.Groups
import GraphScribe.Proofs.Shape.Walk

/-!
# The first violation of a selection set

`Walk.violation?` reads the groups of a selection set in order and reports the first one that
does not fit the model, at whatever depth.  It takes no names and makes no shapes.  The walk of
a selection set succeeds exactly when there is no violation, and otherwise fails with the one
that is reported, whatever names are taken (`Walk.shape_outcome_iff`).
-/

namespace GraphScribe.Walk

open Selection

/-! ### The check -/

section

variable (c : WalkContext)

mutual

/-- The first violation among the selections made on a type at a site. -/
def violation? (T site : String) (ss : List Selection) : Option Failure :=
  (groups ss).attach.findSome? fun g => groupViolation? T site g.1
termination_by 2 * depths ss
decreasing_by
  have := depths_below_lt g.2
  omega

/-- The first violation in a group of selections made on a type at a site.  The first node
says which field is selected, and all nodes what is selected below. -/
def groupViolation? (T site : String) (g : Group) : Option Failure :=
  match g.first with
  | .field alias? name _ _ _ =>
    if name = typenameField then none
    else
      match c.model.field? T name with
      | none => some (.mismatch (.undeclaredField T name) (site ++ "." ++ name))
      | some f =>
        let below := site ++ "." ++ alias?.getD name
        if f.kind.isComposite ∧ g.below = [] then
          some (.mismatch (.selectionMissing T name f.descriptor.name) below)
        else if ¬ f.kind.isComposite ∧ g.below ≠ [] then
          some (.mismatch (.selectionOnLeaf T name f.descriptor.name) below)
        else violation? f.descriptor.name below g.below
  | .spread name _ =>
    match c.fragments.find? name with
    | none => some (.missingFragment name site)
    | some _ => none
  | .inline on? _ _ =>
    if c.model.isComposite (on?.getD T) then violation? (on?.getD T) site g.below
    else some (.mismatch (.inlineFragmentOnLeaf (on?.getD T)) site)
termination_by 2 * depths g.below + 1

end

end

variable {c : WalkContext} {T site : String}

theorem violation?_eq {ss : List Selection} :
  violation? c T site ss = (groups ss).findSome? (groupViolation? c T site)
  := by
  rw [violation?, List.findSome?_subtype fun _ _ => rfl, List.unattach_attach]

/-! ### The walk and the check -/

/-- The failure of a walk that starts with a table. -/
def failure? {α : Type} (x : Walk α) (t : NameTable) : Option Failure :=
  match (x.outcome t).1 with
  | .ok _ => none
  | .error e => some e

section

variable {α β : Type} {x : Walk α} {t : NameTable}

theorem failure?_of_ok {a : α} {t' : NameTable} (h : x.outcome t = (.ok a, t')) :
  x.failure? t = none
  := by
  rw [failure?, h]

theorem failure?_of_error {e : Failure} {t' : NameTable} (h : x.outcome t = (.error e, t')) :
  x.failure? t = some e
  := by
  rw [failure?, h]

theorem failure?_of_map {y : Walk β} {u : NameTable} {g : α → β}
    (h : y.outcome u = Prod.map (Except.map g) id (x.outcome t)) :
  y.failure? u = x.failure? t
  := by
  rw [failure?, failure?, h]
  rcases x.outcome t with ⟨e | a, t'⟩
  · rfl
  · rfl

theorem failure?_eq_none_iff :
  x.failure? t = none ↔ ∃ a t', x.outcome t = (.ok a, t')
  := by
  rw [failure?]
  rcases x.outcome t with ⟨e | a, t'⟩
  · simp
  · simp

theorem failure?_eq_some_iff {e : Failure} :
  x.failure? t = some e ↔ ∃ t', x.outcome t = (.error e, t')
  := by
  rw [failure?]
  rcases x.outcome t with ⟨e | a, t'⟩
  · simp
  · simp

end

/-- A step fails before the steps after it. -/
theorem failure?_members_cons {s : Selection} {rest : List Selection} {t : NameTable}
    {r : Option Failure} (h : ∀ t', (members c T site rest).failure? t' = r) :
  (members c T site (s :: rest)).failure? t = ((member c T site s).failure? t).or r
  := by
  have hcons : (members c T site (s :: rest)).outcome t = _ := outcome_members_cons
  rcases hm : (member c T site s).outcome t with ⟨e | m?, t'⟩
  · rw [hm] at hcons
    rw [failure?_of_error hm, failure?_of_error hcons]
    rfl
  · rw [hm] at hcons
    rw [failure?_of_ok hm, failure?_of_map hcons, h]
    rfl

/-- The walk of a merged group fails as the check of the group, if so it is below. -/
theorem failure?_member_merged {g : Group} {t : NameTable}
    (below : ∀ {T site : String} {t : NameTable},
      (members c T site (normalize g.below)).failure? t = violation? c T site g.below) :
  (member c T site g.merged).failure? t = groupViolation? c T site g
  := by
  cases hg : g.first with
  | field alias? name args ds ss =>
    simp only [groupViolation?, Group.merged, hg, withChildren]
    by_cases ordinary : name = typenameField
    · subst ordinary
      rw [if_pos rfl]
      by_cases key : alias?.getD typenameField = typenameField
      · apply failure?_of_ok (outcome_member_typename key)
      · apply failure?_of_ok (outcome_member_aliasedTypename key)
    · rw [if_neg ordinary]
      cases declared : c.model.field? T name with
      | none => apply failure?_of_error (outcome_member_undeclared ordinary declared)
      | some f =>
        by_cases selected : g.below = []
        · rw [selected] at below ⊢
          rw [normalize_eq_nil_iff.mpr rfl]
          cases kind : f.kind.isComposite with
          | false =>
            rw [failure?_of_ok (outcome_member_leaf ordinary declared kind)]
            simp [kind, violation?_eq]
          | true =>
            rw [failure?_of_error (outcome_member_selectionMissing ordinary declared kind)]
            simp [kind]
        · have selected' : normalize g.below ≠ [] := by simpa using selected
          cases kind : f.kind.isComposite with
          | false =>
            rw [failure?_of_error (outcome_member_selectionOnLeaf ordinary declared kind selected')]
            simp [kind, selected]
          | true =>
            rw [failure?_of_map (outcome_member_nested ordinary declared kind selected' rfl), below]
            simp [kind, selected]
  | spread name ds =>
    simp only [groupViolation?, Group.merged, hg, withChildren]
    cases entered : c.fragments.find? name with
    | none => apply failure?_of_error (outcome_member_missingFragment entered)
    | some ns => apply failure?_of_ok (outcome_member_spread entered)
  | inline on? ds ss =>
    simp only [groupViolation?, Group.merged, hg, withChildren]
    cases composite : c.model.isComposite (on?.getD T) with
    | false =>
      rw [failure?_of_error (outcome_member_inlineOnLeaf composite)]
      simp
    | true =>
      rw [failure?_of_map (outcome_member_inline composite rfl), below]
      simp

/-- The walk of merged selections fails with the first violation of the selections. -/
theorem failure?_members_normalize (ss : List Selection) :
  ∀ {T site : String} {t : NameTable},
    (members c T site (normalize ss)).failure? t = violation? c T site ss
  := by
  induction ss using belowInduction with
  | step ss ih =>
    intro T site t
    rw [normalize_eq, violation?_eq]
    revert ih
    generalize groups ss = gs
    intro ih
    -- The groups are left to the walk one after another, each with any table.
    induction gs generalizing t with
    | nil => rfl
    | cons g rest ihRest =>
      have hrest : ∀ t', (members c T site (rest.map Group.merged)).failure? t'
          = rest.findSome? (groupViolation? c T site) :=
        fun t' => ihRest fun g hg => ih g (List.mem_cons_of_mem _ hg)
      rw [List.map_cons, failure?_members_cons hrest,
        failure?_member_merged (ih g List.mem_cons_self), List.findSome?_cons]
      cases groupViolation? c T site g <;> rfl

theorem failure?_shape {name : String} {ss : List Selection} {t : NameTable} :
  (shape c name T ss site).failure? t = violation? c T site ss
  := by
  rw [← failure?_members_normalize (T := T) (t := t)]
  apply failure?_of_map (outcome_bind_pure _)

/-- A selection set has a shape exactly if it has no violation; otherwise its walk fails with
the first one, under whatever name and with whatever table it starts. -/
theorem shape_outcome_iff (c : WalkContext) (name T site : String) (ss : List Selection)
    (t : NameTable) :
  ((∃ s t', (shape c name T ss site).outcome t = (.ok s, t')) ↔ violation? c T site ss = none)
    ∧ ∀ e, (∃ t', (shape c name T ss site).outcome t = (.error e, t'))
        ↔ violation? c T site ss = some e
  := by
  constructor
  · rw [← failure?_eq_none_iff, failure?_shape]
  · intro e
    rw [← failure?_eq_some_iff, failure?_shape]

end GraphScribe.Walk
