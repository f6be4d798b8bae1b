import GraphScribe.Proofs.Selection.Groups
import GraphScribe.Proofs.Shape.Walk

/-!
# Merging before and during a walk

A selection set is merged, `Selection.IsMerged`, if no response key is selected twice at any level.
`Selection.normalize` merges all levels first.  `Walk.mergingShape` is the walk that groups the
selections of a level only when it comes to it.  Both ways make the same of a selection set, and the
same of a selection set as of the merged one, with every table (`Walk.merging_transparent`).
-/

namespace GraphScribe

/-! ### Merged selection sets -/

namespace Selection

open GraphScribe.Group

/-- No two fields have one response key, in the selection set and in those below it. -/
inductive IsMerged : List Selection → Prop
  | intro {ss : List Selection} (distinct : (ss.filterMap key?).Nodup)
      (below : ∀ s ∈ ss, IsMerged s.children) : IsMerged ss

theorem isMerged_nil :
  IsMerged []
  := by
  constructor
  · apply List.nodup_nil
  · simp

theorem key?_merged (g : Group) :
  g.merged.key? = g.key?
  := by
  rw [Group.merged, Group.key?]
  cases g.first <;> rfl

/-- Nothing is selected below a spread, and below another group what its nodes select, merged. -/
theorem isMerged_children_merged {g : Group} (h : IsMerged (normalize g.below)) :
  IsMerged g.merged.children
  := by
  rw [Group.merged]
  cases g.first with
  | field => apply h
  | spread => apply isMerged_nil
  | inline => apply h

theorem isMerged_normalize (ss : List Selection) :
  IsMerged (normalize ss)
  := by
  induction ss using belowInduction with
  | step ss ih =>
    rw [normalize_eq]
    constructor
    · have hkeys : key? ∘ merged = Group.key? := funext key?_merged
      rw [List.filterMap_map, hkeys]
      apply nodup_keys
    · intro s hs
      obtain ⟨g, hg, rfl⟩ := List.mem_map.mp hs
      apply isMerged_children_merged (ih g hg)

/-- Selections with distinct keys are groups of their own. -/
theorem groups_of_nodup {ss : List Selection} (h : (ss.filterMap key?).Nodup) :
  groups ss = ss.map fun s => { first := s }
  := by
  induction ss with
  | nil => rfl
  | cons s rest ih =>
    have hrest : (rest.filterMap key?).Nodup :=
      h.sublist ((List.sublist_cons_self s rest).filterMap key?)
    have hjoins : ∀ s' ∈ rest, s.joins s' = false := by
      intro s' hs'
      cases hkey : s.key? with
      | none => apply joins_eq_false hkey
      | some key =>
        rw [List.filterMap_cons_some hkey, List.nodup_cons, List.mem_filterMap] at h
        rw [Bool.eq_false_iff, ne_eq, joins_iff hkey]
        intro hkey'
        apply h.1 ⟨s', hs', hkey'⟩
    rw [groups_cons, List.filter_eq_nil_iff.mpr (by simpa using hjoins),
      List.filter_eq_self.mpr (by simpa using hjoins), ih hrest]
    rfl

theorem withChildren_children (s : Selection) :
  s.withChildren s.children = s
  := by
  cases s <;> rfl

theorem normalize_of_isMerged {ss : List Selection} (h : IsMerged ss) :
  normalize ss = ss
  := by
  induction h with
  | @intro ss distinct _ ih =>
    have hmerged : ∀ s ∈ ss, Group.merged { first := s } = s := by
      intro s hs
      rw [Group.merged, Group.below, Group.nodes, List.flatMap_singleton, ih s hs]
      apply withChildren_children
    rw [normalize_eq, groups_of_nodup distinct, List.map_map]
    apply (List.map_congr_left hmerged).trans (List.map_id ss)

/-- A merged selection set has nothing to merge. -/
theorem normalize_normalize (ss : List Selection) :
  normalize (normalize ss) = normalize ss
  := normalize_of_isMerged (isMerged_normalize ss)

end Selection

namespace Walk

open Selection

/-! ### Merging as the walk goes -/

section

variable (c : WalkContext)

mutual

/-- The members for a selection set on a type, which is grouped here; what is selected below a group
is left as it is until the walk comes to it. -/
def mergingMembers (T site : String) (ss : List Selection) : Walk (List Member) := do
  let ms ← (groups ss).attach.mapM fun g => mergingMember T site g.1
  pure (ms.flatMap Option.toList)
termination_by 2 * depths ss
decreasing_by
  have := depths_below_lt g.2
  omega

/-- The member for a group of selections on a type.  The first node says what is selected, and all
nodes what is selected below. -/
def mergingMember (T site : String) (g : Group) : Walk (Option Member) :=
  match g.first with
  | .field alias? name _ _ _ => do
    let key := alias?.getD name
    if name = typenameField then
      if key = typenameField then pure none
      else pure (some (.leaf (typenameProperty c.model T key)))
    else
      match c.model.field? T name with
      | none => reject (.undeclaredField T name) (site ++ "." ++ name)
      | some f =>
        let base := f.descriptor.name
        let below := site ++ "." ++ key
        if g.below.isEmpty then
          if f.kind.isComposite then reject (.selectionMissing T name base) below
          else pure (some (.leaf (fieldProperty f key)))
        else if !f.kind.isComposite then reject (.selectionOnLeaf T name base) below
        else
          let shapeName ← claimUnique (Naming.capitalize key)
          let ms ← mergingMembers base below g.below
          pure (some (.nested (nestedProperty f key shapeName)
            (shapeOf c.model shapeName base ((groups g.below).map Group.first) ms)))
  | .spread name _ => do
    let r ← spreadReference c name site
    pure (some (.spread r))
  | .inline on? _ _ => do
    let on := on?.getD T
    if c.model.isComposite on then
      let shapeName ← claimUnique (Naming.inlineFragmentName on)
      let ms ← mergingMembers on site g.below
      pure (some (.inline
        (shapeOf c.model shapeName on ((groups g.below).map Group.first) ms)))
    else reject (.inlineFragmentOnLeaf on) site
termination_by 2 * depths g.below + 1

end

/-- The shape of a selection set on a type, of which each level is grouped when the walk comes to
it. -/
def mergingShape (name T : String) (ss : List Selection) (site : String) : Walk Shape := do
  let ms ← mergingMembers c T site ss
  pure (shapeOf c.model name T ((groups ss).map Group.first) ms)

end

variable {c : WalkContext} {T site : String}

theorem mergingMembers_eq {ss : List Selection} :
  mergingMembers c T site ss
    = (groups ss).mapM (mergingMember c T site) >>= fun ms => pure (ms.flatMap Option.toList)
  := by
  rw [mergingMembers, List.mapM_subtype fun _ _ => rfl, List.unattach_attach]

/-- Whether `__typename` is selected does not depend on what is selected below. -/
theorem shapeOf_groups (model : Model) (name : String) (ss : List Selection) (ms : List Member) :
  shapeOf model name T ((groups ss).map Group.first) ms = shapeOf model name T (normalize ss) ms
  := by
  have hplain : isPlainTypename ∘ Group.merged = isPlainTypename ∘ Group.first := by
    funext g
    simp only [Function.comp, Group.merged]
    cases g.first <;> rfl
  rw [shapeOf, shapeOf, normalize_eq, List.any_map, List.any_map, hplain]

/-- The walk of a group is that of the merged group, if so it is below. -/
theorem mergingMember_eq {g : Group}
    (below : ∀ {T site : String},
      mergingMembers c T site g.below = members c T site (normalize g.below)) :
  mergingMember c T site g = member c T site g.merged
  := by
  cases hg : g.first with
  | field alias? name args ds ss =>
    simp only [mergingMember, Group.merged, hg, withChildren, member, below, shapeOf_groups,
      List.isEmpty_iff, normalize_eq_nil_iff]
    rfl
  | spread name ds =>
    simp only [mergingMember, Group.merged, hg, withChildren, member]
  | inline on? ds ss =>
    simp only [mergingMember, Group.merged, hg, withChildren, member, below, shapeOf_groups]

/-- The walk of a selection set that is merged on the way is that of the merged one. -/
theorem mergingMembers_eq_members (ss : List Selection) :
  ∀ {T site : String}, mergingMembers c T site ss = members c T site (normalize ss)
  := by
  induction ss using belowInduction with
  | step ss ih =>
    intro T site
    rw [mergingMembers_eq, normalize_eq]
    revert ih
    generalize groups ss = gs
    intro ih
    induction gs with
    | nil => rfl
    | cons g rest ihRest =>
      rw [List.forall_mem_cons] at ih
      rw [List.map_cons, members_cons, ← mergingMember_eq ih.1, ← ihRest ih.2]
      simp

theorem mergingShape_eq (name : String) (ss : List Selection) :
  mergingShape c name T ss site = shape c name T ss site
  := by
  simp only [mergingShape, mergingMembers_eq_members, shapeOf_groups]
  rfl

/-- Merging a selection set at all levels leaves no response key twice at any level, and a walk that
merges a level when it comes to it makes the same of the merged selection set as of the one that is
not: the same shape or the same failure, and the same table.  It is also what the walk makes that
merges all levels first. -/
theorem merging_transparent (c : WalkContext) (name T site : String) (ss : List Selection)
    (t : NameTable) :
  IsMerged (normalize ss)
    ∧ (mergingShape c name T (normalize ss) site).outcome t
      = (mergingShape c name T ss site).outcome t
    ∧ (mergingShape c name T ss site).outcome t = (shape c name T ss site).outcome t
  := by
  refine ⟨isMerged_normalize ss, ?_, ?_⟩
  · rw [mergingShape_eq, mergingShape_eq, shape, normalize_normalize]
    rfl
  · rw [mergingShape_eq]

end Walk

end GraphScribe
