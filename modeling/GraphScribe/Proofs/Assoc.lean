import GraphScribe.Assoc
import Mathlib.Data.List.Nodup

/-!
# Lookup by name

`Assoc.find?` finds what is entered first under a name.  If no name is entered twice it finds
every entry (`Assoc.find?_of_mem`), and entering the whole list one after another changes nothing
(`Assoc.ofList_eq_self`).  Of several values that are entered one after another under a name the
last one counts (`Assoc.find?_insertAll`), and entering the outcome again changes nothing
(`Assoc.insertAll_insertAll`).  Among things with distinct names each is the only one of its name
(`filter_eq_singleton_of_nodup`).
-/

namespace GraphScribe

/-- In a list without repeated names each entry is the only one of its name. -/
theorem filter_eq_singleton_of_nodup {α β : Type} [DecidableEq β] {name : α → β} {xs : List α}
    (h : (xs.map name).Nodup) {x : α} (hx : x ∈ xs) :
  xs.filter (fun y => name y = name x) = [x]
  := by
  induction xs with
  | nil => cases hx
  | cons y rest ih =>
    obtain ⟨hy, hrest⟩ := List.nodup_cons.mp h
    rcases List.mem_cons.mp hx with rfl | hx
    · rw [List.filter_cons_of_pos (by simp), List.filter_eq_nil_iff.mpr]
      intro z hz
      simp only [decide_eq_true_eq]
      intro hname
      apply hy (List.mem_map.mpr ⟨z, hz, hname⟩)
    · have hne : ¬ name y = name x := fun hname => hy (List.mem_map.mpr ⟨x, hx, hname.symm⟩)
      rw [List.filter_cons_of_neg (by simpa using hne)]
      apply ih hrest hx

theorem find?_eq_of_nodup {α β : Type} [DecidableEq β] {name : α → β} {xs : List α}
    (h : (xs.map name).Nodup) {x : α} (hx : x ∈ xs) :
  xs.find? (fun y => name y = name x) = some x
  := by
  rw [← List.head?_filter, filter_eq_singleton_of_nodup h hx]
  rfl

namespace Assoc

variable {α : Type}

theorem find?_append (m m' : Assoc α) (key : String) :
  find? (m ++ m') key = (m.find? key).or (m'.find? key)
  := by
  induction m with
  | nil => simp
  | cons e rest ih =>
    by_cases h : e.1 = key
    · simp [find?_cons, h]
    · simp [find?_cons, h, ih]

theorem find?_eq_none_iff {m : Assoc α} {key : String} :
  m.find? key = none ↔ key ∉ m.keys
  := by
  induction m with
  | nil => simp [keys_nil]
  | cons e rest ih =>
    by_cases h : e.1 = key
    · simp [find?_cons, keys_cons, h]
    · simp [find?_cons, keys_cons, h, ih, Ne.symm h]

theorem keys_map {β : Type} (f : β → String × α) (xs : List β) :
  keys (xs.map f) = xs.map fun x => (f x).1
  := List.map_map

theorem keys_mapValues {β : Type} (f : α → β) (m : Assoc α) :
  (m.mapValues f).keys = m.keys
  := by
  simp [mapValues, keys]

theorem find?_mapValues {β : Type} (f : α → β) (m : Assoc α) (key : String) :
  (m.mapValues f).find? key = (m.find? key).map f
  := by
  induction m with
  | nil => rfl
  | cons e rest ih =>
    by_cases h : e.1 = key
    · simp [mapValues_cons, find?_cons, h]
    · simp [mapValues_cons, find?_cons, h, ih]

/-- Whatever is found in `m` is found in `m'`. -/
def Within (m m' : Assoc α) : Prop :=
  ∀ key value, m.find? key = some value → m'.find? key = some value

theorem Within.refl (m : Assoc α) :
  m.Within m
  := by
  intro key value h
  apply h

theorem mem_of_find?_eq_some {m : Assoc α} {key : String} {value : α}
    (h : m.find? key = some value) :
  (key, value) ∈ m
  := by
  induction m with
  | nil => cases h
  | cons e rest ih =>
    rw [find?_cons] at h
    split_ifs at h with he
    · cases h
      rw [← he]
      apply List.mem_cons_self
    · apply List.mem_cons_of_mem _ (ih h)

theorem find?_of_mem {m : Assoc α} (hm : m.keys.Nodup) {key : String} {value : α}
    (h : (key, value) ∈ m) :
  m.find? key = some value
  := by
  induction m with
  | nil => cases h
  | cons e rest ih =>
    obtain ⟨hkey, hrest⟩ := List.nodup_cons.mp hm
    rw [find?_cons]
    rcases List.mem_cons.mp h with rfl | h
    · rw [if_pos rfl]
    · have hne : e.1 ≠ key := by
        rintro rfl
        apply hkey (List.mem_map.mpr ⟨_, h, rfl⟩)
      rw [if_neg hne]
      apply ih hrest h

theorem insert_of_not_mem {m : Assoc α} {key : String} (h : key ∉ m.keys) (value : α) :
  m.insert key value = m ++ [(key, value)]
  := by
  induction m with
  | nil => rfl
  | cons e rest ih =>
    rw [keys_cons, List.mem_cons, not_or] at h
    obtain ⟨hkey, hrest⟩ := h
    rw [insert_cons, if_neg (Ne.symm hkey), ih hrest]
    rfl

theorem insertAll_of_nodup {m entries : Assoc α} (h : (m ++ entries).keys.Nodup) :
  m.insertAll entries = m ++ entries
  := by
  induction entries generalizing m with
  | nil => simp [insertAll]
  | cons e rest ih =>
    have hkey : e.1 ∉ m.keys := by
      rw [keys, List.map_append, List.map_cons, List.nodup_middle, List.nodup_cons] at h
      intro hmem
      apply h.1 (List.mem_append_left _ hmem)
    have hstep : m ++ [e] ++ rest = m ++ e :: rest := by simp
    rw [insertAll_cons, insert_of_not_mem hkey, ← hstep]
    apply ih
    rw [hstep]
    apply h

/-- A list in which no name is entered twice is what comes of entering it. -/
theorem ofList_eq_self {entries : Assoc α} (h : entries.keys.Nodup) :
  ofList entries = entries
  := insertAll_of_nodup (m := []) h

theorem mem_mapValues_iff {β : Type} {f : α → β} {m : Assoc α} {key : String} {y : β} :
  (key, y) ∈ m.mapValues f ↔ ∃ x, (key, x) ∈ m ∧ f x = y
  := by
  simp [mapValues]

theorem mem_values_iff {m : Assoc α} {x : α} :
  x ∈ m.values ↔ ∃ key, (key, x) ∈ m
  := by
  simp [values]

theorem values_mapValues {β : Type} (f : α → β) (m : Assoc α) :
  (m.mapValues f).values = m.values.map f
  := by
  simp [mapValues, values]

theorem mapValues_filter {β : Type} (f : α → β) (m : Assoc α) (keeps : String → Bool) :
  mapValues (m.filter fun e => keeps e.1) f = (m.mapValues f).filter fun e => keeps e.1
  := by
  simp [mapValues, List.filter_map, Function.comp_def]

theorem keys_filter (m : Assoc α) (keeps : String → Bool) :
  keys (m.filter fun e => keeps e.1) = m.keys.filter keeps
  := by
  simp [keys, List.filter_map, Function.comp_def]

/-- A name that is kept is found as before. -/
theorem find?_filter (m : Assoc α) {keeps : String → Bool} {key : String} (h : keeps key = true) :
  find? (m.filter fun e => keeps e.1) key = m.find? key
  := by
  induction m with
  | nil => rfl
  | cons e rest ih =>
    by_cases hkey : e.1 = key
    · simp [find?_cons, hkey, h]
    · cases hkeeps : keeps e.1 <;> simp [find?_cons, hkey, hkeeps, ih]

theorem mem_keys_of_mem {m : Assoc α} {key : String} {x : α} (h : (key, x) ∈ m) :
  key ∈ m.keys
  := List.mem_map.mpr ⟨_, h, rfl⟩

theorem mem_of_mem_insert {m : Assoc α} {key key' : String} {value value' : α}
    (h : (key, value) ∈ m.insert key' value') :
  (key, value) ∈ m ∨ (key, value) = (key', value')
  := by
  induction m with
  | nil => exact Or.inr (List.mem_singleton.mp h)
  | cons e rest ih =>
    rw [insert_cons] at h
    split_ifs at h
    case pos hkey =>
      rw [hkey] at h
      rcases List.mem_cons.mp h with h | h
      · apply Or.inr h
      · apply Or.inl (List.mem_cons_of_mem _ h)
    case neg =>
      rcases List.mem_cons.mp h with h | h
      · rw [h]
        apply Or.inl List.mem_cons_self
      · apply (ih h).imp_left (List.mem_cons_of_mem _)

/-- Entering a list adds nothing but its entries. -/
theorem mem_of_mem_insertAll {m entries : Assoc α} {key : String} {value : α}
    (h : (key, value) ∈ m.insertAll entries) :
  (key, value) ∈ m ∨ (key, value) ∈ entries
  := by
  induction entries generalizing m with
  | nil => apply Or.inl h
  | cons e rest ih =>
    rcases ih h with h | h
    · rcases mem_of_mem_insert h with h | h
      · apply Or.inl h
      · rw [h]
        apply Or.inr List.mem_cons_self
    · apply Or.inr (List.mem_cons_of_mem _ h)

theorem keys_subset_insertAll (m entries : Assoc α) :
  m.keys ⊆ (m.insertAll entries).keys
  := by
  induction entries generalizing m with
  | nil => apply List.Subset.refl
  | cons e rest ih =>
    apply List.Subset.trans _ (ih (m.insert e.1 e.2))
    by_cases h : e.1 ∈ m.keys
    · rw [keys_insert_of_mem m e.2 h]
      apply List.Subset.refl
    · rw [keys_insert_of_not_mem m e.2 h]
      apply List.subset_append_left

/-- The value that is entered last under a name. -/
def last? (m : Assoc α) (key : String) : Option α := find? m.reverse key

theorem last?_append (m m' : Assoc α) (key : String) :
  last? (m ++ m') key = (last? m' key).or (last? m key)
  := by
  rw [last?, List.reverse_append, find?_append]
  rfl

theorem last?_cons (e : String × α) (m : Assoc α) (key : String) :
  last? (e :: m) key = (last? m key).or (if e.1 = key then some e.2 else none)
  := by
  rw [last?, List.reverse_cons, find?_append]
  rfl

theorem last?_eq_none_iff {m : Assoc α} {key : String} :
  last? m key = none ↔ key ∉ m.keys
  := by
  rw [last?, find?_eq_none_iff, keys, keys, List.map_reverse, List.mem_reverse]

theorem contains_eq_isSome_last? (m : Assoc α) (key : String) :
  m.contains key = (m.last? key).isSome
  := by
  rw [contains, Bool.eq_iff_iff, Option.isSome_iff_ne_none, Option.isSome_iff_ne_none, ne_eq, ne_eq,
    find?_eq_none_iff, last?_eq_none_iff]

theorem last?_mapValues {β : Type} (f : α → β) (m : Assoc α) (key : String) :
  last? (m.mapValues f) key = (last? m key).map f
  := by
  rw [last?, mapValues, ← List.map_reverse]
  apply find?_mapValues

theorem find?_insert (m : Assoc α) (key : String) (value : α) (other : String) :
  (m.insert key value).find? other = if key = other then some value else m.find? other
  := by
  split_ifs with h
  · rw [← h, find?_insert_self]
  · apply find?_insert_of_ne m value h

/-- What is found after a list has been entered is its last value, or else what was there before. -/
theorem find?_insertAll (m entries : Assoc α) (key : String) :
  (m.insertAll entries).find? key = (last? entries key).or (m.find? key)
  := by
  induction entries generalizing m with
  | nil => rfl
  | cons e rest ih =>
    rw [insertAll_cons, ih, last?_cons, find?_insert, Option.or_assoc]
    congr 1
    split_ifs <;> rfl

theorem mapValues_insert {β : Type} (f : α → β) (m : Assoc α) (key : String) (value : α) :
  (m.insert key value).mapValues f = (m.mapValues f).insert key (f value)
  := by
  induction m with
  | nil => rfl
  | cons e rest ih =>
    by_cases h : e.1 = key
    · simp [insert_cons, mapValues_cons, h]
    · simp [insert_cons, mapValues_cons, h, ih]

/-- What is entered under a name does not decide where it is entered. -/
theorem mapValues_insertAll {β : Type} (f : α → β) (m entries : Assoc α) :
  (m.insertAll entries).mapValues f = (m.mapValues f).insertAll (entries.mapValues f)
  := by
  induction entries generalizing m with
  | nil => rfl
  | cons e rest ih =>
    rw [insertAll_cons, ih, mapValues_insert]
    rfl

/-- In a list without repeated names every value is the last one of its name. -/
theorem last?_of_mem {m : Assoc α} (hm : m.keys.Nodup) {key : String} {value : α}
    (h : (key, value) ∈ m) :
  m.last? key = some value
  := by
  apply find?_of_mem _ (List.mem_reverse.mpr h)
  rw [keys, List.map_reverse, List.nodup_reverse]
  apply hm

/-! ### Entering the same names again -/

/-- Values under the same names in the same order are told apart by looking them up. -/
theorem eq_of_find?_eq {m m' : Assoc α} (hkeys : m.keys = m'.keys) (hm : m.keys.Nodup)
    (h : ∀ key ∈ m.keys, m.find? key = m'.find? key) :
  m = m'
  := by
  induction m generalizing m' with
  | nil => rw [List.map_eq_nil_iff.mp hkeys.symm]
  | cons e rest ih =>
    obtain ⟨e', rest', rfl, hkey, hrest⟩ := List.map_eq_cons_iff.mp hkeys.symm
    obtain ⟨hnot, hnodup⟩ := List.nodup_cons.mp hm
    have hvalue := h e.1 List.mem_cons_self
    rw [find?_cons, find?_cons, if_pos rfl, if_pos hkey] at hvalue
    rw [Prod.ext hkey.symm (Option.some.inj hvalue), ih hrest.symm hnodup]
    intro key hmem
    have hne : e.1 ≠ key := by
      rintro rfl
      apply hnot hmem
    have hsame := h key (List.mem_cons_of_mem _ hmem)
    rw [find?_cons, find?_cons, if_neg hne, if_neg (hkey ▸ hne)] at hsame
    apply hsame

theorem keys_insertAll_of_subset {m entries : Assoc α} (h : entries.keys ⊆ m.keys) :
  (m.insertAll entries).keys = m.keys
  := by
  induction entries generalizing m with
  | nil => rfl
  | cons e rest ih =>
    have hinsert := keys_insert_of_mem m e.2 (h List.mem_cons_self)
    rw [insertAll_cons, ih, hinsert]
    rw [hinsert]
    apply List.Subset.trans (List.subset_cons_self _ _) h

/-- A list that is entered into one with the same names takes its place. -/
theorem insertAll_of_keys_eq {m entries : Assoc α} (hkeys : entries.keys = m.keys)
    (hm : m.keys.Nodup) :
  m.insertAll entries = entries
  := by
  have hall : (m.insertAll entries).keys = m.keys := keys_insertAll_of_subset (by simp [hkeys])
  apply eq_of_find?_eq (hall.trans hkeys.symm) (hall ▸ hm)
  intro key hkey
  rw [hall, ← hkeys, keys, List.mem_map] at hkey
  obtain ⟨e, he, rfl⟩ := hkey
  rw [find?_insertAll, last?_of_mem (hkeys ▸ hm) he, find?_of_mem (hkeys ▸ hm) he, Option.some_or]

/-- The names that are there keep their places before the ones that are entered. -/
theorem exists_keys_insertAll (m entries : Assoc α) :
  ∃ more, (m.insertAll entries).keys = m.keys ++ more
  := by
  induction entries generalizing m with
  | nil => exact ⟨[], by simp [insertAll]⟩
  | cons e rest ih =>
    obtain ⟨more, hmore⟩ := ih (m.insert e.1 e.2)
    rw [insertAll_cons, hmore]
    by_cases h : e.1 ∈ m.keys
    · rw [keys_insert_of_mem m e.2 h]
      exact ⟨more, rfl⟩
    · rw [keys_insert_of_not_mem m e.2 h, List.append_assoc]
      exact ⟨_, rfl⟩

theorem nodup_keys_insertAll {m : Assoc α} (hm : m.keys.Nodup) (entries : Assoc α) :
  (m.insertAll entries).keys.Nodup
  := by
  induction entries generalizing m with
  | nil => apply hm
  | cons e rest ih =>
    apply ih
    by_cases h : e.1 ∈ m.keys
    · rw [keys_insert_of_mem m e.2 h]
      apply hm
    · rw [keys_insert_of_not_mem m e.2 h, List.nodup_append_comm]
      apply List.nodup_cons.mpr ⟨h, hm⟩

theorem insertAll_append (m xs ys : Assoc α) :
  m.insertAll (xs ++ ys) = (m.insertAll xs).insertAll ys
  := List.foldl_append

/-- What comes of entering a list is what comes of entering that again. -/
theorem insertAll_insertAll {m : Assoc α} (hm : m.keys.Nodup) (entries : Assoc α) :
  m.insertAll (m.insertAll entries) = m.insertAll entries
  := by
  obtain ⟨more, hmore⟩ := exists_keys_insertAll m entries
  have hnodup := nodup_keys_insertAll hm entries
  -- The first part of the outcome takes the place of `m`, and the rest has new names.
  obtain ⟨old, new, hsplit, hold, -⟩ := List.map_eq_append_iff.mp hmore
  rw [hsplit] at hnodup ⊢
  rw [insertAll_append, insertAll_of_keys_eq hold hm]
  apply insertAll_of_nodup hnodup

end Assoc

end GraphScribe
