import GraphScribe.Proofs.Assoc
import GraphScribe.Proofs.Result
import GraphScribe.TypeScript.Property

/-!
# Writing in a style

A computation in a style can change the style, but only where a type is written around a list
among the primitives: any other type leaves the style as it is (`Style.steady_convertedType`).  In
a style that stays as it is, a list of computations succeeds if each of them does
(`Styled.writes_mapM_iff`).
-/

namespace GraphScribe.TypeScript

open Result

namespace Styled

variable {α β : Type} {s s' : Style}

/-! ### Running computations -/

theorem run_bind_eq_ok_iff {x : Styled α} {f : α → Styled β} {b : β} :
  (x >>= f).run s = .ok (b, s') ↔ ∃ a s₁, x.run s = .ok (a, s₁) ∧ (f a).run s₁ = .ok (b, s')
  := by
  rw [StateT.run_bind, bind_eq_ok_iff, Prod.exists]

theorem run_pure_eq_ok_iff {a b : α} :
  (pure a : Styled α).run s = .ok (b, s') ↔ a = b ∧ s = s'
  := by
  rw [StateT.run_pure]
  simp [pure, Except.pure]

theorem run'_eq_ok_iff {x : Styled α} {a : α} :
  x.run' s = .ok a ↔ ∃ s', x.run s = .ok (a, s')
  := by
  change Except.map Prod.fst (x.run s) = .ok a ↔ _
  rw [map_eq_ok_iff, Prod.exists]
  grind

theorem run'_map (f : α → β) (x : Styled α) :
  (f <$> x).run' s = (x.run' s).map f
  := by
  change Except.map Prod.fst ((f <$> x).run s) = Except.map f (Except.map Prod.fst (x.run s))
  rw [StateT.run_map]
  cases x.run s <;> rfl

/-! ### Computations that agree where one succeeds -/

/-- Wherever `x` succeeds, `y` does the same. -/
def Follows (x y : Styled α) : Prop := ∀ s a s', x.run s = .ok (a, s') → y.run s = .ok (a, s')

theorem Follows.refl (x : Styled α) :
  Follows x x
  := by
  intro s a s' h
  apply h

theorem Follows.trans {x y z : Styled α} (h : Follows x y) (h' : Follows y z) :
  Follows x z
  := by
  intro s a s' hx
  apply h' s a s' (h s a s' hx)

theorem Follows.bind {x y : Styled α} {f g : α → Styled β} (h : Follows x y)
    (hfg : ∀ a, Follows (f a) (g a)) :
  Follows (x >>= f) (y >>= g)
  := by
  intro s b s' hb
  obtain ⟨a, s₁, ha, hb⟩ := run_bind_eq_ok_iff.mp hb
  apply run_bind_eq_ok_iff.mpr ⟨a, s₁, h s a s₁ ha, hfg a s₁ b s' hb⟩

theorem Follows.map {x y : Styled α} (h : Follows x y) (f : α → β) :
  Follows (f <$> x) (f <$> y)
  := by
  rw [← bind_pure_comp, ← bind_pure_comp]
  apply h.bind
  intro a
  apply Follows.refl

/-- What follows a known result does so wherever the computation has another one. -/
theorem follows_of_error {x y : Styled α} (h : ∀ s, ∃ e, x.run s = .error e) :
  Follows x y
  := by
  intro s a s' ha
  obtain ⟨e, he⟩ := h s
  rw [he] at ha
  cases ha

theorem Follows.mapM {f g : α → Styled β} {xs : List α} (h : ∀ x ∈ xs, Follows (f x) (g x)) :
  Follows (xs.mapM f) (xs.mapM g)
  := by
  induction xs with
  | nil => apply Follows.refl
  | cons x rest ih =>
    rw [List.forall_mem_cons] at h
    rw [List.mapM_cons, List.mapM_cons]
    apply h.1.bind
    intro y
    apply (ih h.2).bind
    intro ys
    apply Follows.refl

/-- Each entry of a list is written in the style that the entries before it have left. -/
theorem forall₂_of_mapM {f : α → Styled β} {xs : List α} {ys : List β}
    (h : (xs.mapM f).run s = .ok (ys, s')) :
  List.Forall₂ (fun x y => ∃ s₁ s₂, (f x).run s₁ = .ok (y, s₂)) xs ys
  := by
  induction xs generalizing s s' ys with
  | nil =>
    rw [List.mapM_nil] at h
    rw [← (run_pure_eq_ok_iff.mp h).1]
    apply List.Forall₂.nil
  | cons x rest ih =>
    rw [List.mapM_cons] at h
    obtain ⟨y, s₁, hy, h⟩ := run_bind_eq_ok_iff.mp h
    obtain ⟨ys', s₂, hys', h⟩ := run_bind_eq_ok_iff.mp h
    rw [← (run_pure_eq_ok_iff.mp h).1]
    apply List.Forall₂.cons ⟨s, s₁, hy⟩ (ih hys')

/-! ### Computations that leave the style as it is -/

/-- The computation leaves the style `s` as it is. -/
def Steady (s : Style) (x : Styled α) : Prop := ∀ a s', x.run s = .ok (a, s') → s' = s

/-- The computation writes `a` in the style `s`, and leaves the style as it is. -/
def Writes (s : Style) (x : Styled α) (a : α) : Prop := x.run s = .ok (a, s)

theorem run'_eq_ok_iff_of_steady {x : Styled α} (hx : Steady s x) {a : α} :
  x.run' s = .ok a ↔ Writes s x a
  := by
  rw [run'_eq_ok_iff]
  constructor
  · rintro ⟨s', h⟩
    obtain rfl := hx a s' h
    apply h
  · intro h
    use s
    apply h

theorem steady_pure (a : α) :
  Steady s (pure a)
  := by
  intro b s' h
  apply (run_pure_eq_ok_iff.mp h).2.symm

theorem writes_pure_iff {a b : α} :
  Writes s (pure a) b ↔ b = a
  := by
  rw [Writes, run_pure_eq_ok_iff]
  grind

theorem steady_bind {x : Styled α} {f : α → Styled β} (hx : Steady s x)
    (hf : ∀ a, Steady s (f a)) :
  Steady s (x >>= f)
  := by
  intro b s' h
  obtain ⟨a, s₁, ha, hb⟩ := run_bind_eq_ok_iff.mp h
  obtain rfl := hx a s₁ ha
  apply hf a b s' hb

theorem writes_bind_iff {x : Styled α} {f : α → Styled β} {b : β} (hx : Steady s x) :
  Writes s (x >>= f) b ↔ ∃ a, Writes s x a ∧ Writes s (f a) b
  := by
  constructor
  · intro h
    obtain ⟨a, s₁, ha, hb⟩ := run_bind_eq_ok_iff.mp h
    obtain rfl := hx a s₁ ha
    use a, ha, hb
  · rintro ⟨a, ha, hb⟩
    apply run_bind_eq_ok_iff.mpr ⟨a, s, ha, hb⟩

theorem writes_bind_pure_iff {x : Styled α} {f : α → β} {b : β} :
  Writes s (x >>= fun a => pure (f a)) b ↔ ∃ a, Writes s x a ∧ b = f a
  := by
  rw [Writes, run_bind_eq_ok_iff]
  simp only [run_pure_eq_ok_iff, Writes]
  grind

theorem steady_mapM {f : α → Styled β} {xs : List α} (hf : ∀ x ∈ xs, Steady s (f x)) :
  Steady s (xs.mapM f)
  := by
  induction xs with
  | nil => apply steady_pure
  | cons x rest ih =>
    rw [List.forall_mem_cons] at hf
    rw [List.mapM_cons]
    apply steady_bind hf.1
    intro y
    apply steady_bind (ih hf.2)
    intro ys
    apply steady_pure

/-- In a style that stays as it is, each entry of a list is written on its own. -/
theorem writes_mapM_iff {f : α → Styled β} {xs : List α} {ys : List β}
    (hf : ∀ x ∈ xs, Steady s (f x)) :
  Writes s (xs.mapM f) ys ↔ List.Forall₂ (fun x y => Writes s (f x) y) xs ys
  := by
  induction xs generalizing ys with
  | nil => rw [List.mapM_nil, writes_pure_iff, List.forall₂_nil_left_iff]
  | cons x rest ih =>
    rw [List.forall_mem_cons] at hf
    rw [List.mapM_cons, writes_bind_iff hf.1, List.forall₂_cons_left_iff]
    simp only [writes_bind_iff (steady_mapM hf.2), ih hf.2, writes_pure_iff]
    grind

/-! ### Computations that keep the targets -/

/-- The computation keeps which scalars have targets. -/
def KeepsTargets (x : Styled α) : Prop :=
  ∀ s a s', x.run s = .ok (a, s') → s'.primitives.keys = s.primitives.keys

theorem keepsTargets_pure (a : α) :
  KeepsTargets (pure a)
  := by
  intro s b s' h
  rw [(run_pure_eq_ok_iff.mp h).2]

theorem keepsTargets_get :
  KeepsTargets get
  := by
  intro s a s' h
  cases h
  rfl

theorem keepsTargets_bind {x : Styled α} {f : α → Styled β} (hx : KeepsTargets x)
    (hf : ∀ a, KeepsTargets (f a)) :
  KeepsTargets (x >>= f)
  := by
  intro s b s' h
  obtain ⟨a, s₁, ha, hb⟩ := run_bind_eq_ok_iff.mp h
  rw [hf a s₁ b s' hb, hx s a s₁ ha]

theorem keepsTargets_mapM {f : α → Styled β} {xs : List α} (hf : ∀ x ∈ xs, KeepsTargets (f x)) :
  KeepsTargets (xs.mapM f)
  := by
  induction xs with
  | nil => apply keepsTargets_pure
  | cons x rest ih =>
    rw [List.forall_mem_cons] at hf
    rw [List.mapM_cons]
    apply keepsTargets_bind hf.1
    intro y
    apply keepsTargets_bind (ih hf.2)
    intro ys
    apply keepsTargets_pure

end Styled

namespace Style

open Styled

variable {s : Style} {p : Slot}

theorem after_eq_self {base : Value} (h : ∀ items, base ≠ .list items) :
  s.after p base = s
  := by
  cases base with
  | list items => cases h items rfl
  | _ => rfl

/-- Where the style changes, it does so with what the type is written around. -/
theorem style_of_convertedType {v : Value} {s' : Style}
    (h : (convertedType p).run s = .ok (v, s')) :
  s' = s ∨ s' = s.after p (s.baseType p)
  := by
  obtain ⟨_, _, hget, h⟩ := run_bind_eq_ok_iff.mp h
  cases hget
  cases hbase : s.baseType p <;> simp only [hbase] at h
  case string base =>
    left
    apply (run_pure_eq_ok_iff.mp h).2.symm
  all_goals
    right
    obtain ⟨_, _, htype, h⟩ := run_bind_eq_ok_iff.mp h
    obtain ⟨_, _, hset, h⟩ := run_bind_eq_ok_iff.mp h
    cases hset
    apply (run_pure_eq_ok_iff.mp h).2.symm

/-- A type leaves the style as it is unless it is written around a list. -/
theorem steady_convertedType (h : ∀ items, s.baseType p ≠ .list items) :
  Steady s (convertedType p)
  := by
  intro v s' hv
  rcases style_of_convertedType hv with rfl | rfl
  · rfl
  · apply after_eq_self h

/-- A list around which a type is written is the target of the scalar. -/
theorem find?_of_baseType_eq_list {items : List Value} (h : s.baseType p = .list items) :
  s.primitives.find? p.descriptor.name = some (.list items)
  := by
  rw [baseType] at h
  split_ifs at h
  cases hfind : s.primitives.find? p.descriptor.name with
  | none => simp [hfind] at h
  | some v =>
    rw [hfind, Option.getD_some] at h
    rw [h]

theorem keys_after (s : Style) (p : Slot) :
  (s.after p (s.baseType p)).primitives.keys = s.primitives.keys
  := by
  cases hbase : s.baseType p with
  | list items =>
    have hmem : p.descriptor.name ∈ s.primitives.keys :=
      Assoc.mem_keys_of_mem (Assoc.mem_of_find?_eq_some (find?_of_baseType_eq_list hbase))
    rw [after]
    split_ifs
    · apply Assoc.keys_insert_of_mem _ _ hmem
    · rfl
  | _ => rfl

theorem keepsTargets_convertedType (p : Slot) :
  KeepsTargets (convertedType p)
  := by
  intro s v s' hv
  rcases style_of_convertedType hv with rfl | rfl
  · rfl
  · apply keys_after

theorem keepsTargets_declaration (p : Slot) :
  KeepsTargets (declaration p)
  := by
  apply keepsTargets_bind keepsTargets_get
  intro s
  apply keepsTargets_bind (keepsTargets_convertedType p)
  intro v
  apply keepsTargets_pure

end Style

end GraphScribe.TypeScript
