import GraphScribe.Value

/-!
# Tables

A `Table α` lists values under keys that need not be texts.  `Value.key?` tells which values are
one key: numbers and truth values count by their amount.  `Table.insert` gives a key the place of
its first entry and the value of its last one, and `Table.find?` reads a value back.
-/

namespace GraphScribe

/-- What a key stands for. -/
inductive Key where
  | null
  | text (s : String)
  | whole (n : Int)
  | fraction (x : Double)
deriving DecidableEq, Inhabited

/-- The key that a value is; lists and objects are none. -/
def Value.key? : Value → Option Key
  | null => some .null
  | bool b => some (.whole (if b then 1 else 0))
  | int n => some (.whole n)
  | float x =>
    match x.toInt? with
    | some n => some (.whole n)
    | none => some (.fraction x)
  | string s => some (.text s)
  | _ => none

theorem Value.key?_string (s : String) :
  (string s).key? = some (.text s)
  := rfl

/-- Values under keys, in order. -/
abbrev Table (α : Type) := List (Value × α)

namespace Table

variable {α β : Type}

/-- The value under `key`. -/
def find? : Table α → Value → Option α
  | [], _ => none
  | (k, v) :: rest, key => if k.key? = key.key? then some v else find? rest key

/-- Enters `value` under `key`; a key that is present keeps its place. -/
def insert : Table α → Value → α → Table α
  | [], key, value => [(key, value)]
  | (k, v) :: rest, key, value =>
    if k.key? = key.key? then (k, value) :: rest else (k, v) :: insert rest key value

/-- Enters all `entries` from left to right. -/
def insertAll (t : Table α) (entries : List (Value × α)) : Table α :=
  entries.foldl (fun t e => t.insert e.1 e.2) t

/-- The table in which each key stands where it stands first, with its last value. -/
def ofList (entries : List (Value × α)) : Table α := insertAll [] entries

/-- The table of values under names. -/
def ofNamed (entries : List (String × α)) : Table α := entries.map fun e => (.string e.1, e.2)

/-- Applies `f` to every value. -/
def mapValues (t : Table α) (f : α → β) : Table β := t.map fun e => (e.1, f e.2)

/-! ### Equations of the definitions -/

theorem find?_nil (key : Value) :
  find? ([] : Table α) key = none
  := rfl

theorem find?_cons (e : Value × α) (rest : Table α) (key : Value) :
  find? (e :: rest) key = if e.1.key? = key.key? then some e.2 else rest.find? key
  := rfl

theorem insert_nil (key : Value) (value : α) :
  insert [] key value = [(key, value)]
  := rfl

theorem insert_cons (e : Value × α) (rest : Table α) (key : Value) (value : α) :
  insert (e :: rest) key value
    = if e.1.key? = key.key? then (e.1, value) :: rest else e :: rest.insert key value
  := rfl

theorem insertAll_cons (t : Table α) (e : Value × α) (rest : List (Value × α)) :
  t.insertAll (e :: rest) = (t.insert e.1 e.2).insertAll rest
  := rfl

theorem ofNamed_cons (e : String × α) (rest : List (String × α)) :
  ofNamed (e :: rest) = (.string e.1, e.2) :: ofNamed rest
  := rfl

/-! ### Looking up what was entered -/

theorem find?_insert_self (t : Table α) (key : Value) (value : α) :
  (t.insert key value).find? key = some value
  := by
  induction t with
  | nil => simp [insert_nil, find?_cons]
  | cons e rest ih =>
    by_cases h : e.1.key? = key.key? <;> simp [insert_cons, find?_cons, h, ih]

theorem find?_insert_of_ne (t : Table α) {key other : Value} (value : α)
    (h : key.key? ≠ other.key?) :
  (t.insert key value).find? other = t.find? other
  := by
  induction t with
  | nil => simp [insert_nil, find?_cons, h]
  | cons e rest ih =>
    by_cases hk : e.1.key? = key.key?
    · simp [insert_cons, find?_cons, hk, h]
    · simp [insert_cons, find?_cons, hk, ih]

end Table

end GraphScribe
