import GraphScribe.Proofs.Assoc
import GraphScribe.Table
import Mathlib.Tactic.SplitIfs

/-!
# Lookup by key

`Table.find?` depends on what a key stands for only (`Table.find?_congr`).  Of several values that
are entered one after another under a key the last one counts (`Table.find?_insertAll`), and the
keys that are not there come behind the others (`Table.keys_insertAll_ofNamed`).
-/

namespace GraphScribe.Table

variable {α : Type}

theorem find?_congr (t : Table α) {key key' : Value} (h : key.key? = key'.key?) :
  t.find? key = t.find? key'
  := by
  induction t with
  | nil => rfl
  | cons e rest ih => rw [find?_cons, find?_cons, h, ih]

theorem find?_append (t t' : Table α) (key : Value) :
  find? (t ++ t') key = (t.find? key).or (t'.find? key)
  := by
  induction t with
  | nil => rfl
  | cons e rest ih => by_cases h : e.1.key? = key.key? <;> simp [find?_cons, h, ih]

/-- The value that is entered last under a key. -/
def last? (t : Table α) (key : Value) : Option α := find? t.reverse key

theorem last?_cons (e : Value × α) (t : Table α) (key : Value) :
  last? (e :: t) key = (last? t key).or (if e.1.key? = key.key? then some e.2 else none)
  := by
  rw [last?, List.reverse_cons, find?_append]
  rfl

theorem find?_insert (t : Table α) (key : Value) (value : α) (other : Value) :
  (t.insert key value).find? other
    = if key.key? = other.key? then some value else t.find? other
  := by
  split_ifs with h
  · rw [← find?_congr _ h, find?_insert_self]
  · apply find?_insert_of_ne t value h

/-- What is found after a list has been entered is its last value, or else what was there before. -/
theorem find?_insertAll (t : Table α) (entries : List (Value × α)) (key : Value) :
  (t.insertAll entries).find? key = (last? entries key).or (t.find? key)
  := by
  induction entries generalizing t with
  | nil => rfl
  | cons e rest ih =>
    rw [insertAll_cons, ih, last?_cons, find?_insert, Option.or_assoc]
    congr 1
    split_ifs <;> rfl

theorem find?_eq_none_iff {t : Table α} {key : Value} :
  t.find? key = none ↔ ∀ e ∈ t, e.1.key? ≠ key.key?
  := by
  induction t with
  | nil => simp [find?_nil]
  | cons e rest ih => by_cases h : e.1.key? = key.key? <;> simp [find?_cons, h, ih]

theorem mem_of_find?_eq_some {t : Table α} {key : Value} {value : α}
    (h : t.find? key = some value) :
  value ∈ t.map Prod.snd
  := by
  induction t with
  | nil => cases h
  | cons e rest ih =>
    rw [find?_cons] at h
    rw [List.map_cons, List.mem_cons]
    split_ifs at h with hkey
    · cases h
      apply Or.inl rfl
    · apply Or.inr (ih h)

/-- In a table of values under names a name is looked up as it is in the list. -/
theorem find?_ofNamed (m : Assoc α) (name : String) :
  (ofNamed m).find? (.string name) = m.find? name
  := by
  induction m with
  | nil => rfl
  | cons e rest ih =>
    rw [ofNamed_cons, find?_cons, Assoc.find?_cons, ih]
    simp [Value.key?_string]

theorem last?_ofNamed (m : Assoc α) (name : String) :
  (ofNamed m).last? (.string name) = m.last? name
  := by
  rw [last?, ofNamed, ← List.map_reverse]
  apply find?_ofNamed

theorem ofNamed_insert (m : Assoc α) (name : String) (value : α) :
  ofNamed (m.insert name value) = (ofNamed m).insert (.string name) value
  := by
  induction m with
  | nil => rfl
  | cons e rest ih =>
    by_cases h : e.1 = name
    · simp [Assoc.insert_cons, ofNamed_cons, insert_cons, Value.key?_string, h]
    · simp [Assoc.insert_cons, ofNamed_cons, insert_cons, Value.key?_string, h, ih]

/-- Names can be entered as keys or before they become keys. -/
theorem ofNamed_insertAll (m entries : Assoc α) :
  ofNamed (m.insertAll entries) = (ofNamed m).insertAll (ofNamed entries)
  := by
  induction entries generalizing m with
  | nil => rfl
  | cons e rest ih =>
    rw [Assoc.insertAll_cons, ih, ofNamed_insert]
    rfl

/-! ### Keys -/

/-- The keys, in order. -/
def keys (t : Table α) : List Value := t.map Prod.fst

theorem keys_cons (e : Value × α) (rest : Table α) :
  keys (e :: rest) = e.1 :: rest.keys
  := rfl

/-- A key that is there keeps its place, and another one comes last. -/
theorem keys_insert (t : Table α) (key : Value) (value : α) :
  (t.insert key value).keys = t.keys ++ if (t.find? key).isNone then [key] else []
  := by
  induction t with
  | nil => rfl
  | cons e rest ih =>
    by_cases h : e.1.key? = key.key?
    · simp [insert_cons, keys_cons, find?_cons, h]
    · simp [insert_cons, keys_cons, find?_cons, h, ih]

/-- Names that are entered come behind the keys that are there, less those that were there
before. -/
theorem keys_insertAll_ofNamed (t : Table α) {entries : Assoc α} (h : entries.keys.Nodup) :
  (t.insertAll (ofNamed entries)).keys
    = t.keys ++ (entries.keys.map Value.string).filter fun key => (t.find? key).isNone
  := by
  induction entries generalizing t with
  | nil => simp [insertAll, ofNamed, Assoc.keys]
  | cons e rest ih =>
    obtain ⟨hnot, hnodup⟩ := List.nodup_cons.mp h
    have hrest : ((Assoc.keys rest).map Value.string).filter
          (fun key => ((t.insert (.string e.1) e.2).find? key).isNone)
        = ((Assoc.keys rest).map Value.string).filter fun key => (t.find? key).isNone := by
      apply List.filter_congr
      intro key hkey
      obtain ⟨name, hname, rfl⟩ := List.mem_map.mp hkey
      have hne : e.1 ≠ name := by
        rintro rfl
        apply hnot hname
      rw [find?_insert, if_neg (by simpa [Value.key?_string] using hne)]
    rw [ofNamed_cons, insertAll_cons, ih _ hnodup, hrest, keys_insert, Assoc.keys_cons,
      List.map_cons, List.filter_cons, List.append_assoc]
    split_ifs <;> rfl

end GraphScribe.Table
