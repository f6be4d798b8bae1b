import GraphScribe.Proofs.Assoc
import GraphScribe.Proofs.Shape.Discriminators
import Mathlib.Data.List.Induction

/-!
# Discriminators by reference

The discriminator of a shape with inline fragments refers to their shapes by name.
`Typename.resolve` looks the names up among the shapes of a namespace, and goes on with the
discriminators that it finds.  If the names are distinct it finds the literals that stand in the
tree of inline fragments, `Shape.spelled` (`Shape.resolve_typename`); without repetitions these are
`Shape.discriminators` (`Shape.discriminators_eq_eraseDups`).
-/

namespace GraphScribe

/-- The literals of a discriminator when each reference is looked up by name among some shapes, and
what it refers to is resolved in the same way, at most `depth` discriminators deep. -/
def Typename.resolve (shapes : List Shape) : Nat → Typename → Option (List String)
  | 0, _ => none
  | depth + 1, d =>
    if d.references.isEmpty then some d.literals
    else do
      let found ← d.references.mapM fun n => do
        resolve shapes depth (← shapes.find? fun s => s.name = n).typename
      return found.flatten

namespace Shape

/-! ### Literals or references -/

namespace MadeBy

variable {c : WalkContext} {s : Shape}

theorem typename_of_whole (h : s.MadeBy c) (whole : s.inlineFragments = []) :
  s.typename = { literals := c.model.possibleTypes s.typeName }
  := by
  obtain ⟨name, T, site, ss, t, ms, t', -, rfl⟩ := h
  change Walk.typenameOf c.model T ms = _
  rw [Walk.typenameOf, show ms.filterMap Member.inline? = [] from whole]
  rfl

theorem typename_of_parted (h : s.MadeBy c) (parted : s.inlineFragments ≠ []) :
  s.typename = { references := s.inlineFragments.map Shape.name }
  := by
  obtain ⟨name, T, site, ss, t, ms, t', -, rfl⟩ := h
  change Walk.typenameOf c.model T ms = { references := (ms.filterMap Member.inline?).map Shape.name }
  change ms.filterMap Member.inline? ≠ [] at parted
  rw [Walk.typenameOf]
  split
  · contradiction
  · rfl

end MadeBy

/-- The literals in the discriminator of a shape, or in those of its inline fragments one after
another if it refers to them. -/
def spelled (s : Shape) : List String :=
  if s.typename.references.isEmpty then s.typename.literals
  else s.inlineFragments.attach.flatMap fun f => spelled f.1
termination_by sizeOf s
decreasing_by
  apply sizeOf_lt_of_holds (Or.inr f.2)

theorem spelled_eq (s : Shape) :
  s.spelled
    = if s.typename.references.isEmpty then s.typename.literals
      else s.inlineFragments.flatMap spelled
  := by
  rw [spelled, List.flatMap_subtype (g := spelled) fun _ _ => rfl, List.unattach_attach]

/-! ### Collecting without repetition -/

theorem addNew_append (names more rest : List String) :
  addNew names (more ++ rest) = addNew (addNew names more) rest
  := List.foldl_append

/-- Names that are collected twice are collected once. -/
theorem addNew_addNew (names seen more : List String) :
  addNew names (addNew seen more) = addNew (addNew names seen) more
  := by
  induction more generalizing seen with
  | nil => rfl
  | cons n rest ih =>
    have hcons : ∀ names, addNew names (n :: rest) = addNew (addNew names [n]) rest := by
      intro names
      apply addNew_append names [n] rest
    have hlast : addNew names (addNew seen [n]) = addNew (addNew names seen) [n] := by
      by_cases hn : n ∈ seen
      · have hmem : n ∈ addNew names seen := mem_addNew_iff.mpr (Or.inr hn)
        simp only [addNew, List.foldl_cons, List.foldl_nil, hn, if_true] at hmem ⊢
        rw [if_pos hmem]
      · have hsnoc : addNew seen [n] = seen ++ [n] := by simp [addNew, hn]
        rw [hsnoc, addNew_append]
    rw [hcons seen, ih, hlast, ← hcons]

/-- To collect names is to leave out those that occur before. -/
theorem addNew_nil_eq_eraseDups (names : List String) :
  addNew [] names = names.eraseDups
  := by
  induction names using List.reverseRecOn with
  | nil => rfl
  | append_singleton names n ih =>
    rw [addNew_append, ih, List.eraseDups_append]
    by_cases hn : n ∈ names
    · simp [addNew, List.removeAll, hn]
    · simp [addNew, List.removeAll, hn, List.eraseDups_cons]

theorem nodup_addNew {names : List String} (h : names.Nodup) (more : List String) :
  (addNew names more).Nodup
  := by
  induction more generalizing names with
  | nil => apply h
  | cons n rest ih =>
    have hstep : (if n ∈ names then names else names ++ [n]).Nodup := by
      split_ifs with hn
      · apply h
      · simpa using h.concat hn
    apply ih hstep

/-- Members collect the type names of their inline fragments one after another. -/
theorem memberDiscriminators_eq (names : List String) (ms : List Member) :
  memberDiscriminators names ms
    = addNew names ((ms.filterMap Member.inline?).flatMap discriminators)
  := by
  induction ms generalizing names with
  | nil => rfl
  | cons m rest ih =>
    rw [memberDiscriminators, ih]
    cases m with
    | leaf p => rfl
    | nested p s => rfl
    | spread r => rfl
    | inline s =>
      rw [List.filterMap_cons_some (f := Member.inline?) rfl, List.flatMap_cons, addNew_append]
      rfl

/-- A shape that refers to its inline fragments collects what they collect. -/
theorem discriminators_eq_addNew {s : Shape} (h : s.typename.references ≠ []) :
  s.discriminators = addNew [] (s.inlineFragments.flatMap discriminators)
  := by
  rw [discriminators_eq, if_neg (by simpa using h), memberDiscriminators_eq]
  rfl

/-- What is collected from the inline fragments is what is spelled in them. -/
theorem addNew_flatMap_congr {f g : Shape → List String} {ss : List Shape}
    (h : ∀ s ∈ ss, addNew [] (f s) = addNew [] (g s)) (names : List String) :
  addNew names (ss.flatMap f) = addNew names (ss.flatMap g)
  := by
  induction ss generalizing names with
  | nil => rfl
  | cons s rest ih =>
    rw [List.forall_mem_cons] at h
    have hs : addNew names (f s) = addNew names (g s) := by
      calc addNew names (f s)
        _ = addNew names (addNew [] (f s)) := (addNew_addNew names [] (f s)).symm
        _ = addNew names (addNew [] (g s)) := by rw [h.1]
        _ = addNew names (g s) := addNew_addNew names [] (g s)
    rw [List.flatMap_cons, List.flatMap_cons, addNew_append, addNew_append, hs, ih h.2]

/-- The type names of a shape are the spelled ones, without those that occur before. -/
theorem addNew_discriminators (s : Shape) :
  addNew [] s.discriminators = addNew [] s.spelled
  := by
  rw [spelled_eq]
  by_cases h : s.typename.references = []
  · rw [discriminators_eq]
    simp [h]
  · rw [if_neg (by simpa using h), discriminators_eq_addNew h, addNew_addNew]
    apply addNew_flatMap_congr
    intro s' hs'
    apply addNew_discriminators s'
termination_by sizeOf s
decreasing_by
  apply sizeOf_lt_of_holds (Or.inr hs')

theorem discriminators_eq_eraseDups {s : Shape} (h : s.typename.references ≠ []) :
  s.discriminators = s.spelled.eraseDups
  := by
  rw [← addNew_nil_eq_eraseDups, ← addNew_discriminators, discriminators_eq_addNew h]
  symm
  apply addNew_addNew

theorem nodup_discriminators {s : Shape} (h : s.typename.references ≠ []) :
  s.discriminators.Nodup
  := by
  rw [discriminators_eq_addNew h]
  apply nodup_addNew List.nodup_nil

theorem mem_spelled_iff {s : Shape} {type : String} :
  type ∈ s.spelled ↔ type ∈ s.discriminators
  := by
  have h : type ∈ addNew [] s.discriminators ↔ type ∈ addNew [] s.spelled := by
    rw [addNew_discriminators]
  simpa [mem_addNew_iff] using h.symm

/-! ### Looking up -/

/-- Steps that all find something find the list of it. -/
theorem mapM_eq_some_map {α β : Type} {f : α → Option β} {g : α → β} {xs : List α}
    (h : ∀ x ∈ xs, f x = some (g x)) :
  xs.mapM f = some (xs.map g)
  := by
  induction xs with
  | nil => rfl
  | cons x rest ih =>
    rw [List.forall_mem_cons] at h
    rw [List.mapM_cons, h.1, ih h.2]
    rfl

/-- In a namespace whose shapes have distinct names and refer to their inline fragments, to resolve a
discriminator comes to an end within the shapes below it, with the literals spelled there. -/
theorem resolve_typename {root : Shape} (distinct : (root.shapes.map Shape.name).Nodup)
    (refers : ∀ s ∈ root.shapes, s.typename.references = s.inlineFragments.map Shape.name)
    {s : Shape} (hs : s ∈ root.shapes) {depth : Nat} (hdepth : s.shapes.length ≤ depth) :
  s.typename.resolve root.shapes depth = some s.spelled
  := by
  induction depth generalizing s with
  | zero =>
    have hpos : 0 < s.shapes.length := List.length_pos_of_mem s.self_mem_shapes
    omega
  | succ depth ih =>
    rw [Typename.resolve, spelled_eq]
    by_cases h : s.typename.references = []
    · simp [h]
    · have hfound : ∀ s' ∈ s.inlineFragments,
          ((root.shapes.find? fun x => x.name = s'.name).bind fun x =>
              x.typename.resolve root.shapes depth) = some s'.spelled := by
        intro s' hs'
        have hmem : s' ∈ root.shapes :=
          mem_shapes_trans hs (mem_shapes_of_holds (Or.inr hs') s'.self_mem_shapes)
        have hlength := length_shapes_lt_of_holds (s := s) (Or.inr hs')
        rw [find?_eq_of_nodup distinct hmem, Option.bind_some]
        apply ih hmem (by omega)
      rw [if_neg (by simpa using h), if_neg (by simpa using h), refers s hs, List.mapM_map]
      exact congrArg (fun found => found >>= fun ts => some ts.flatten) (mapM_eq_some_map hfound)

end Shape

end GraphScribe
