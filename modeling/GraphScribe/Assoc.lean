/-!
# Association lists

`Assoc α` lists values under names.  `Assoc.insert` gives a name the place of its first
entry and the value of its last one, `Assoc.ofList` enters a whole list that way, and
`Assoc.find?` reads a value back.
-/

namespace GraphScribe

/-- Values under names, in order. -/
abbrev Assoc (α : Type) := List (String × α)

namespace Assoc

variable {α β : Type}

/-- The value under `key`. -/
def find? : Assoc α → String → Option α
  | [], _ => none
  | (k, v) :: rest, key => if k = key then some v else find? rest key

/-- Whether there is a value under `key`. -/
def contains (m : Assoc α) (key : String) : Bool := (m.find? key).isSome

/-- The names, in order. -/
def keys (m : Assoc α) : List String := m.map Prod.fst

/-- The values, in order. -/
def values (m : Assoc α) : List α := m.map Prod.snd

/-- Enters `value` under `key`; a key that is present keeps its place. -/
def insert : Assoc α → String → α → Assoc α
  | [], key, value => [(key, value)]
  | (k, v) :: rest, key, value =>
    if k = key then (k, value) :: rest else (k, v) :: insert rest key value

/-- Enters all `entries` from left to right. -/
def insertAll (m : Assoc α) (entries : List (String × α)) : Assoc α :=
  entries.foldl (fun m e => m.insert e.1 e.2) m

/-- The list in which each name stands where it stands first, with its last value. -/
def ofList (entries : List (String × α)) : Assoc α := insertAll [] entries

/-- Applies `f` to every value. -/
def mapValues (m : Assoc α) (f : α → β) : Assoc β := m.map fun e => (e.1, f e.2)

/-! ### Equations of the definitions -/

@[simp]
theorem find?_nil (key : String) :
  find? ([] : Assoc α) key = none
  := rfl

theorem find?_cons (e : String × α) (rest : Assoc α) (key : String) :
  find? (e :: rest) key = if e.1 = key then some e.2 else rest.find? key
  := rfl

theorem insert_nil (key : String) (value : α) :
  insert [] key value = [(key, value)]
  := rfl

theorem insert_cons (e : String × α) (rest : Assoc α) (key : String) (value : α) :
  insert (e :: rest) key value
    = if e.1 = key then (e.1, value) :: rest else e :: rest.insert key value
  := rfl

theorem insertAll_cons (m : Assoc α) (e : String × α) (rest : List (String × α)) :
  m.insertAll (e :: rest) = (m.insert e.1 e.2).insertAll rest
  := rfl

theorem mapValues_cons (e : String × α) (rest : Assoc α) (f : α → β) :
  mapValues (e :: rest) f = (e.1, f e.2) :: rest.mapValues f
  := rfl

theorem keys_nil :
  keys ([] : Assoc α) = []
  := rfl

theorem keys_cons (e : String × α) (rest : Assoc α) :
  keys (e :: rest) = e.1 :: rest.keys
  := rfl

/-! ### Looking up what was entered -/

theorem find?_insert_self (m : Assoc α) (key : String) (value : α) :
  (m.insert key value).find? key = some value
  := by
  induction m with
  | nil => simp [insert_nil, find?_cons]
  | cons e rest ih => by_cases h : e.1 = key <;> simp [insert_cons, find?_cons, h, ih]

theorem find?_insert_of_ne (m : Assoc α) {key other : String} (value : α) (h : key ≠ other) :
  (m.insert key value).find? other = m.find? other
  := by
  induction m with
  | nil => simp [insert_nil, find?_cons, h]
  | cons e rest ih =>
    by_cases hk : e.1 = key
    · subst hk
      simp [insert_cons, find?_cons, h]
    · simp [insert_cons, find?_cons, hk, ih]

theorem keys_insert_of_mem (m : Assoc α) {key : String} (value : α) (h : key ∈ m.keys) :
  (m.insert key value).keys = m.keys
  := by
  induction m with
  | nil => simp [keys_nil] at h
  | cons e rest ih =>
    by_cases hk : e.1 = key
    · simp [insert_cons, keys_cons, hk]
    · have hr : key ∈ keys rest := by
        rw [keys_cons, List.mem_cons] at h
        exact h.resolve_left fun he => hk he.symm
      simp [insert_cons, keys_cons, hk, ih hr]

theorem keys_insert_of_not_mem (m : Assoc α) {key : String} (value : α) (h : key ∉ m.keys) :
  (m.insert key value).keys = m.keys ++ [key]
  := by
  induction m with
  | nil => rfl
  | cons e rest ih =>
    rw [keys_cons, List.mem_cons, not_or] at h
    simp [insert_cons, keys_cons, Ne.symm h.1, ih h.2]

end Assoc

end GraphScribe
