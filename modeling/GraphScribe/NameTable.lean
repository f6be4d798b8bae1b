import GraphScribe.Failure

/-!
# Name tables

A `NameTable` holds the names taken in one scope.  `NameTable.claim` takes a name and fails
if it is taken; `NameTable.claimUnique` puts underscores in front of a name until it is free,
which never takes more of them than there are names in the table.
-/

namespace GraphScribe

/-- The names taken in one scope, the last one first. -/
structure NameTable where
  scope : String
  taken : List String := []
deriving DecidableEq

namespace NameTable

/-- Whether `name` is taken. -/
def contains (t : NameTable) (name : String) : Bool := decide (name ∈ t.taken)

/-- The table in which `name` is taken too. -/
def add (t : NameTable) (name : String) : NameTable := { t with taken := name :: t.taken }

/-- Takes `name`, which must be free. -/
def claim (t : NameTable) (name : String) : Except Failure NameTable :=
  if name ∈ t.taken then .error (.nameTaken name t.scope) else .ok (t.add name)

/-- `name` behind the least number of underscores, at most `bound`, that makes it free. -/
def freeName (taken : List String) (name : String) : Nat → String
  | 0 => name
  | bound + 1 => if name ∈ taken then freeName taken ("_" ++ name) bound else name

/-- Takes `name` behind as few underscores as make it free. -/
def claimUnique (t : NameTable) (name : String) : String × NameTable :=
  let free := freeName t.taken name t.taken.length
  (free, t.add free)

@[simp]
theorem mem_taken_add (t : NameTable) (name other : String) :
  other ∈ (t.add name).taken ↔ other = name ∨ other ∈ t.taken
  := by
  simp [add]

@[simp]
theorem scope_add (t : NameTable) (name : String) :
  (t.add name).scope = t.scope
  := rfl

theorem claim_eq_ok_iff (t : NameTable) (name : String) (t' : NameTable) :
  t.claim name = .ok t' ↔ name ∉ t.taken ∧ t' = t.add name
  := by
  by_cases h : name ∈ t.taken <;> simp [claim, h, eq_comm]

end NameTable

end GraphScribe
