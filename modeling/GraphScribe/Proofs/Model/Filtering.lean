import GraphScribe.Hooks
import GraphScribe.Proofs.Model.References

/-!
# Filtered models

A filter keeps a name if it passes the tests of those affixes that say something
(`NameFilter.keeps`).  Filters that are applied one after another leave the restriction of a model
to the names that all of them keep (`Hooks.prepare_eq_ok`).  The entries that stay are as they
were, with everything that they mention (`Model.mentions_restrict`).
-/

namespace GraphScribe

open Result

/-! ### Names that filters keep -/

namespace NameFilter

/-- What an affix says, unless it is empty. -/
def affix? : Value → Option String
  | .string s => if s.isEmpty then none else some s
  | _ => none

/-- Whether a name stays. -/
def keeps (f : NameFilter) (name : String) : Bool :=
  !(affix? f.excludePrefix).any (Text.startsWith name)
    && !(affix? f.excludeSuffix).any (Text.endsWith name)
    && (affix? f.includePrefix).all (Text.startsWith name)
    && (affix? f.includeSuffix).all (Text.endsWith name)

/-- The value is a text, or there is none. -/
def IsAffix (v : Value) : Prop := v = .null ∨ ∃ s, v = .string s

/-- The affixes of a filter are texts, as far as there are any. -/
structure Spelled (f : NameFilter) : Prop where
  excludePrefix : IsAffix f.excludePrefix
  excludeSuffix : IsAffix f.excludeSuffix
  includePrefix : IsAffix f.includePrefix
  includeSuffix : IsAffix f.includeSuffix

variable {f : NameFilter} {v : Value} {unsaid b : Bool} {holds : String → Bool} {name : String}

theorem test_eq_ok (h : test v unsaid holds = .ok b) :
  b = (affix? v).elim unsaid holds
  := by
  cases v with
  | string s =>
    rw [test, Except.ok.injEq] at h
    rw [← h, affix?]
    split_ifs <;> rfl
  | _ =>
    simp only [test] at h
    split_ifs at h
    all_goals
      cases h
      rfl

theorem any_of_test_eq_ok (h : test v false holds = .ok b) :
  (affix? v).any holds = b
  := by
  rw [test_eq_ok h]
  cases affix? v <;> rfl

theorem all_of_test_eq_ok (h : test v true holds = .ok b) :
  (affix? v).all holds = b
  := by
  rw [test_eq_ok h]
  cases affix? v <;> rfl

theorem exists_test_eq_ok (h : IsAffix v) (unsaid : Bool) (holds : String → Bool) :
  ∃ b, test v unsaid holds = .ok b
  := by
  rcases h with rfl | ⟨s, rfl⟩ <;> exact ⟨_, rfl⟩

/-- The names that are admitted are those that are kept. -/
theorem admits_eq_ok (h : f.admits name = .ok b) :
  b = f.keeps name
  := by
  -- A test that settles the answer leaves the affixes behind it unread.
  rw [keeps]
  obtain ⟨b₁, h₁, h⟩ := bind_eq_ok_iff.mp h
  rw [any_of_test_eq_ok h₁]
  cases b₁ with
  | true =>
    cases h
    rfl
  | false =>
    obtain ⟨b₂, h₂, h⟩ := bind_eq_ok_iff.mp h
    rw [any_of_test_eq_ok h₂]
    cases b₂ with
    | true =>
      cases h
      rfl
    | false =>
      obtain ⟨b₃, h₃, h⟩ := bind_eq_ok_iff.mp h
      rw [all_of_test_eq_ok h₃]
      cases b₃ with
      | false =>
        cases h
        rfl
      | true =>
        rw [all_of_test_eq_ok h]
        rfl

theorem admits_of_spelled (h : f.Spelled) (name : String) :
  f.admits name = .ok (f.keeps name)
  := by
  obtain ⟨b₁, h₁⟩ := exists_test_eq_ok h.excludePrefix false (Text.startsWith name)
  obtain ⟨b₂, h₂⟩ := exists_test_eq_ok h.excludeSuffix false (Text.endsWith name)
  obtain ⟨b₃, h₃⟩ := exists_test_eq_ok h.includePrefix true (Text.startsWith name)
  obtain ⟨b₄, h₄⟩ := exists_test_eq_ok h.includeSuffix true (Text.endsWith name)
  have hadmits : ∃ b, f.admits name = .ok b := by
    rw [admits, h₁, h₂, h₃, h₄]
    cases b₁ <;> cases b₂ <;> cases b₃ <;> exact ⟨_, rfl⟩
  obtain ⟨b, hb⟩ := hadmits
  rw [hb, admits_eq_ok hb]

/-! ### Filtered registries -/

section

variable {α : Type} {registry selected : Assoc α}

/-- The entries of a registry that are selected are those whose names are kept. -/
theorem select_eq_ok_iff :
  f.select registry = .ok selected
    ↔ (∀ e ∈ registry, f.admits e.1 = .ok (f.keeps e.1))
      ∧ selected = registry.filter fun e => f.keeps e.1
  := by
  rw [select, filterM_eq_ok_iff]
  intro e b hb
  apply admits_eq_ok hb

theorem select_eq_ok (h : f.select registry = .ok selected) :
  selected = registry.filter fun e => f.keeps e.1
  := (select_eq_ok_iff.mp h).2

theorem select_of_spelled (h : f.Spelled) (registry : Assoc α) :
  f.select registry = .ok (registry.filter fun e => f.keeps e.1)
  := by
  apply select_eq_ok_iff.mpr
  use fun e _ => admits_of_spelled h e.1

end

end NameFilter

/-- The entries of a model whose names are kept, with everything else that it holds. -/
def Model.restrict (m : Model) (keeps : String → Bool) : Model :=
  { m with
    types := m.types.filter fun e => keeps e.1
    interfaces := m.interfaces.filter fun e => keeps e.1
    unions := m.unions.filter fun e => keeps e.1
    enums := m.enums.filter fun e => keeps e.1
    scalars := m.scalars.filter fun e => keeps e.1
    inputs := m.inputs.filter fun e => keeps e.1
    argumentTypes := m.argumentTypes.filter fun e => keeps e.1 }

theorem Model.restrict_true (m : Model) :
  m.restrict (fun _ => true) = m
  := by
  simp [restrict]

theorem Model.restrict_restrict (m : Model) (keeps keeps' : String → Bool) :
  (m.restrict keeps).restrict keeps' = m.restrict fun name => keeps name && keeps' name
  := by
  simp [restrict, List.filter_filter, Bool.and_comm]

namespace NameFilter

theorem apply_eq_ok {f : NameFilter} {m m' : Model} (h : f.apply m = .ok m') :
  m' = m.restrict f.keeps
  := by
  obtain ⟨types, htypes, h⟩ := bind_eq_ok_iff.mp h
  obtain ⟨interfaces, hinterfaces, h⟩ := bind_eq_ok_iff.mp h
  obtain ⟨unions, hunions, h⟩ := bind_eq_ok_iff.mp h
  obtain ⟨enums, henums, h⟩ := bind_eq_ok_iff.mp h
  obtain ⟨scalars, hscalars, h⟩ := bind_eq_ok_iff.mp h
  obtain ⟨inputs, hinputs, h⟩ := bind_eq_ok_iff.mp h
  obtain ⟨arguments, harguments, h⟩ := bind_eq_ok_iff.mp h
  cases h
  rw [select_eq_ok htypes, select_eq_ok hinterfaces, select_eq_ok hunions, select_eq_ok henums,
    select_eq_ok hscalars, select_eq_ok hinputs, select_eq_ok harguments, Model.restrict]

theorem apply_of_spelled {f : NameFilter} (h : f.Spelled) (m : Model) :
  f.apply m = .ok (m.restrict f.keeps)
  := by
  simp only [apply, select_of_spelled h]
  rfl

end NameFilter

/-! ### Hooks -/

namespace Hooks

/-- Whether all filters keep a name. -/
def keeps (h : Hooks) (name : String) : Bool := h.filters.all fun f => f.keeps name

variable {fs : List NameFilter} {h : Hooks} {m m' : Model}

/-- Filters that are applied one after another leave what all of them keep. -/
theorem foldlM_apply_eq_ok (hfold : fs.foldlM (fun m f => f.apply m) m = .ok m') :
  m' = m.restrict fun name => fs.all fun f => f.keeps name
  := by
  induction fs generalizing m with
  | nil =>
    cases hfold
    apply (Model.restrict_true _).symm
  | cons f rest ih =>
    obtain ⟨m₁, hm₁, hrest⟩ := bind_eq_ok_iff.mp hfold
    rw [ih hrest, NameFilter.apply_eq_ok hm₁, Model.restrict_restrict]
    rfl

theorem prepare_eq_ok (hprepare : h.prepare m = .ok m') :
  m' = m.restrict h.keeps
  := foldlM_apply_eq_ok hprepare

theorem foldlM_apply_of_spelled (hspelled : ∀ f ∈ fs, f.Spelled) (m : Model) :
  fs.foldlM (fun m f => f.apply m) m = .ok (m.restrict fun name => fs.all fun f => f.keeps name)
  := by
  induction fs generalizing m with
  | nil =>
    rw [List.foldlM_nil]
    simp only [List.all_nil, Model.restrict_true]
    rfl
  | cons f rest ih =>
    rw [List.forall_mem_cons] at hspelled
    rw [List.foldlM_cons, NameFilter.apply_of_spelled hspelled.1]
    change rest.foldlM _ (m.restrict f.keeps) = _
    rw [ih hspelled.2, Model.restrict_restrict]
    rfl

/-- Filters with proper affixes are applied to every model. -/
theorem prepare_of_spelled (hspelled : ∀ f ∈ h.filters, f.Spelled) (m : Model) :
  h.prepare m = .ok (m.restrict h.keeps)
  := foldlM_apply_of_spelled hspelled m

end Hooks

/-! ### What a filtered model mentions -/

/-- The types that a declared type lists: those that an object type implements, those that implement
an interface type, and the members of a union type. -/
def NamedType.listed : NamedType → List String
  | object t => t.interfaces
  | interface t => t.implementations
  | union t => t.members
  | _ => []

/-- The types that a declared type mentions: those of its fields and their arguments, and those that
it lists. -/
def NamedType.mentions (t : NamedType) : List String := t.references.map Prod.fst ++ t.listed

/-- The types that an argument type mentions. -/
def ArgumentsType.mentions (t : ArgumentsType) : List String :=
  t.fields.map fun a => a.descriptor.name

namespace Model

/-- The types that are mentioned by the entries of a model, under the names of the entries. -/
def mentions (m : Model) : Assoc (List String) :=
  (searched.flatMap fun kind => (m.registryOf kind).mapValues NamedType.mentions)
    ++ m.argumentTypes.mapValues ArgumentsType.mentions

variable (m : Model) (keeps : String → Bool)

theorem registryOf_restrict (kind : Kind) :
  (m.restrict keeps).registryOf kind = (m.registryOf kind).filter fun e => keeps e.1
  := by
  cases kind <;> apply Assoc.mapValues_filter

/-- The names in a restricted model are those that are kept. -/
theorem allNames_restrict :
  (m.restrict keeps).allNames = m.allNames.filter keeps
  := by
  simp only [allNames, List.filter_append, ← Assoc.keys_filter]
  rfl

/-- The entries of a restricted model mention what they mentioned before. -/
theorem mentions_restrict :
  (m.restrict keeps).mentions = m.mentions.filter fun e => keeps e.1
  := by
  simp only [mentions, List.filter_append, List.filter_flatMap, ← Assoc.mapValues_filter,
    registryOf_restrict]
  rfl

end Model

end GraphScribe
