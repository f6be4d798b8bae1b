import GraphScribe.Failure
import Mathlib.Data.List.Forall2

/-!
# Steps that may fail

A sequence of steps succeeds if all of its steps do, and otherwise fails with the first step
that does.  The same holds of a step or a test made for each entry of a list, and of steps that
change a state, which the step that fails leaves as it is then.
-/

namespace GraphScribe.Result

variable {α β : Type}

theorem bind_eq_ok_iff {x : Except Failure α} {f : α → Except Failure β} {b : β} :
  (x >>= f) = .ok b ↔ ∃ a, x = .ok a ∧ f a = .ok b
  := by
  cases x <;> simp [bind, Except.bind]

theorem bind_eq_error_iff {x : Except Failure α} {f : α → Except Failure β} {e : Failure} :
  (x >>= f) = .error e ↔ x = .error e ∨ ∃ a, x = .ok a ∧ f a = .error e
  := by
  cases x <;> simp [bind, Except.bind]

theorem exists_of_isOk {x : Except Failure α} (h : x.isOk) :
  ∃ a, x = .ok a
  := by
  cases x with
  | error e => cases h
  | ok a => exact ⟨a, rfl⟩

/-- What follows a check succeeds if all does, whether the check has been made or not. -/
theorem of_checked_eq_ok {check : Prop} [Decidable check] {x : Except Failure α}
    {y : Except Failure β} {b : β} (h : (if check then x >>= fun _ => y else y) = .ok b) :
  y = .ok b
  := by
  split_ifs at h
  · obtain ⟨_, -, h⟩ := bind_eq_ok_iff.mp h
    apply h
  · apply h

theorem map_eq_ok_iff {x : Except Failure α} {g : α → β} {b : β} :
  x.map g = .ok b ↔ ∃ a, x = .ok a ∧ g a = b
  := by
  cases x <;> simp [Except.map]

theorem map_eq_error_iff {x : Except Failure α} {g : α → β} {e : Failure} :
  x.map g = .error e ↔ x = .error e
  := by
  cases x <;> simp [Except.map]

theorem mapM_eq_ok_iff {f : α → Except Failure β} {xs : List α} {ys : List β} :
  xs.mapM f = .ok ys ↔ List.Forall₂ (fun x y => f x = .ok y) xs ys
  := by
  induction xs generalizing ys with
  | nil => cases ys <;> simp [pure, Except.pure]
  | cons x rest ih =>
    rw [List.mapM_cons, bind_eq_ok_iff]
    simp only [bind_eq_ok_iff, ih, List.forall₂_cons_left_iff, pure, Except.pure, Except.ok.injEq]
    grind

theorem exists_of_mapM_eq_error {f : α → Except Failure β} {xs : List α} {e : Failure}
    (h : xs.mapM f = .error e) :
  ∃ x ∈ xs, f x = .error e
  := by
  induction xs with
  | nil => cases h
  | cons x rest ih =>
    rw [List.mapM_cons] at h
    rcases bind_eq_error_iff.mp h with h | ⟨y, -, h⟩
    · use x, List.mem_cons_self
    · rcases bind_eq_error_iff.mp h with h | ⟨ys, -, h⟩
      · obtain ⟨x', hx', he⟩ := ih h
        use x', List.mem_cons_of_mem _ hx'
      · cases h

/-- Steps made for the entries of a list one after another fail at the entry whose step fails after
all steps before it have been made. -/
theorem foldlM_eq_error_iff {f : β → α → Except Failure β} {xs : List α} {b : β} {e : Failure} :
  xs.foldlM f b = .error e
    ↔ ∃ before x after b', xs = before ++ x :: after ∧ before.foldlM f b = .ok b'
      ∧ f b' x = .error e
  := by
  induction xs generalizing b with
  | nil => simp [pure, Except.pure]
  | cons x rest ih =>
    rw [List.foldlM_cons, bind_eq_error_iff]
    constructor
    · rintro (h | ⟨b₁, hb₁, h⟩)
      · use [], x, rest, b, rfl, rfl, h
      · obtain ⟨before, x', after, b', rfl, hbefore, he⟩ := ih.mp h
        refine ⟨x :: before, x', after, b', rfl, ?_, he⟩
        rw [List.foldlM_cons, hb₁]
        apply hbefore
    · rintro ⟨before, x', after, b', hxs, hbefore, he⟩
      cases before with
      | nil =>
        cases hxs
        cases hbefore
        apply Or.inl he
      | cons y before =>
        cases hxs
        rw [List.foldlM_cons, bind_eq_ok_iff] at hbefore
        obtain ⟨b₁, hb₁, hbefore⟩ := hbefore
        right
        use b₁, hb₁
        apply ih.mpr ⟨before, x', after, b', rfl, hbefore, he⟩

section

variable {p : α → Except Failure Bool} {q : α → Bool} {xs ys : List α}

theorem filterAuxM_eq_ok_iff (hq : ∀ x b, p x = .ok b → b = q x) {acc : List α} :
  xs.filterAuxM p acc = .ok ys
    ↔ (∀ x ∈ xs, p x = .ok (q x)) ∧ ys = (xs.filter q).reverse ++ acc
  := by
  induction xs generalizing acc with
  | nil => simp [List.filterAuxM, pure, Except.pure, eq_comm]
  | cons x rest ih =>
    have hcons : (rest.filter q).reverse ++ (bif q x then x :: acc else acc)
        = ((x :: rest).filter q).reverse ++ acc := by
      rw [List.filter_cons]
      cases q x <;> simp
    rw [List.filterAuxM, bind_eq_ok_iff, List.forall_mem_cons, ← hcons]
    constructor
    · rintro ⟨b, hb, h⟩
      obtain rfl := hq x b hb
      obtain ⟨hrest, hys⟩ := ih.mp h
      use ⟨hb, hrest⟩
    · rintro ⟨⟨hx, hrest⟩, hys⟩
      use q x, hx
      apply ih.mpr ⟨hrest, hys⟩

/-- Tests that are made of the entries of a list one after another leave what a predicate does that
holds if they say so. -/
theorem filterM_eq_ok_iff (hq : ∀ x b, p x = .ok b → b = q x) :
  xs.filterM p = .ok ys ↔ (∀ x ∈ xs, p x = .ok (q x)) ∧ ys = xs.filter q
  := by
  simp only [List.filterM, bind_eq_ok_iff, filterAuxM_eq_ok_iff hq]
  simp [pure, Except.pure, eq_comm]

end

section

variable {γ : Type} {R : α → β → Prop} {xs : List α} {ys : List β}

/-- Lists that are related entry by entry agree in what agrees for related entries. -/
theorem map_eq_of_forall₂ {f : α → γ} {g : β → γ} (h : List.Forall₂ R xs ys)
    (hR : ∀ x ∈ xs, ∀ y, R x y → g y = f x) :
  ys.map g = xs.map f
  := by
  induction h with
  | nil => rfl
  | cons hxy _ ih =>
    rw [List.forall_mem_cons] at hR
    rw [List.map_cons, List.map_cons, hR.1 _ hxy, ih hR.2]

theorem exists_of_forall₂ (h : List.Forall₂ R xs ys) {y : β} (hy : y ∈ ys) :
  ∃ x ∈ xs, R x y
  := by
  induction h with
  | nil => cases hy
  | cons hxy _ ih =>
    rcases List.mem_cons.mp hy with rfl | hy
    · apply Exists.intro _ ⟨List.mem_cons_self, hxy⟩
    · obtain ⟨x, hx, hR⟩ := ih hy
      use x, List.mem_cons_of_mem _ hx

theorem exists_of_forall₂_left (h : List.Forall₂ R xs ys) {x : α} (hx : x ∈ xs) :
  ∃ y ∈ ys, R x y
  := by
  obtain ⟨y, hy, hR⟩ := exists_of_forall₂ h.flip hx
  use y, hy, hR

/-- Lists that are related to one list are related as the entries are that belong together. -/
theorem forall₂_of_forall₂ {S : α → γ → Prop} {T : β → γ → Prop} {zs : List γ}
    (h : List.Forall₂ R xs ys) (h' : List.Forall₂ S xs zs)
    (hT : ∀ x ∈ xs, ∀ y z, R x y → S x z → T y z) :
  List.Forall₂ T ys zs
  := by
  induction h generalizing zs with
  | nil =>
    cases h'
    apply List.Forall₂.nil
  | cons hxy _ ih =>
    cases h' with
    | cons hxz h' =>
      rw [List.forall_mem_cons] at hT
      apply List.Forall₂.cons (hT.1 _ _ hxy hxz) (ih h' hT.2)

/-- Every entry is related to something if the list is related to a list. -/
theorem exists_forall₂_iff :
  (∃ ys, List.Forall₂ R xs ys) ↔ ∀ x ∈ xs, ∃ y, R x y
  := by
  constructor
  · rintro ⟨ys, h⟩ x hx
    obtain ⟨y, -, hy⟩ := exists_of_forall₂_left h hx
    use y
  · intro h
    induction xs with
    | nil => use [], List.Forall₂.nil
    | cons x rest ih =>
      obtain ⟨y, hy⟩ := h x List.mem_cons_self
      obtain ⟨ys, hys⟩ := ih fun x' hx' => h x' (List.mem_cons_of_mem _ hx')
      use y :: ys, List.Forall₂.cons hy hys

end

/-! ### Steps with a state -/

section

variable {σ : Type} {x : ExceptT Failure (StateM σ) α} {f : α → ExceptT Failure (StateM σ) β}
  {s s' : σ}

theorem run_bind_of_ok {a : α} (h : x.run s = (.ok a, s')) :
  (x >>= f).run s = (f a).run s'
  := by
  simp only [ExceptT.run, bind, ExceptT.bind, ExceptT.mk, StateT.bind] at h ⊢
  rw [h]
  rfl

theorem run_bind_of_error {e : Failure} (h : x.run s = (.error e, s')) :
  (x >>= f).run s = (.error e, s')
  := by
  simp only [ExceptT.run, bind, ExceptT.bind, ExceptT.mk, StateT.bind] at h ⊢
  rw [h]
  rfl

end

end GraphScribe.Result
