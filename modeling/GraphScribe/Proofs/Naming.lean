import GraphScribe.Naming
import Mathlib.Data.List.Basic

/-!
# Names of operations

`Naming.nameAt` gives the name of the operation at one place of a batch: its own, or the one
that counts the anonymous operations up to there.  The names of a batch are those of its places
(`Naming.operationNames_eq`).  Operations in another order share out the same names
(`Naming.operationNames_perm`).
-/

namespace GraphScribe.Naming

/-- The name of the operation at place `i` of a batch whose operations declare the names
`declared`: an anonymous operation is the `n`-th if `n` anonymous ones stand up to there. -/
def nameAt (declared : List (Option String)) (i : Nat) : String :=
  (declared.getD i none).getD (anonymousName ((declared.take (i + 1)).countP Option.isNone))

theorem operationNamesFrom_eq (count : Nat) (declared : List (Option String)) :
  operationNamesFrom count declared
    = (List.range declared.length).map fun i =>
        (declared.getD i none).getD
          (anonymousName (count + (declared.take (i + 1)).countP Option.isNone))
  := by
  induction declared generalizing count with
  | nil => rfl
  | cons d rest ih =>
    rw [List.length_cons, List.range_succ_eq_map, List.map_cons, List.map_map]
    cases d with
    | none =>
      rw [operationNamesFrom, ih]
      simp [Function.comp_def, Nat.add_assoc, Nat.add_comm 1]
    | some name =>
      rw [operationNamesFrom, ih]
      simp [Function.comp_def]

theorem operationNames_eq (declared : List (Option String)) :
  operationNames declared = (List.range declared.length).map (nameAt declared)
  := by
  rw [operationNames, operationNamesFrom_eq]
  simp [nameAt]

theorem nameAt_of_declared {declared : List (Option String)} {i : Nat} {name : String}
    (h : declared[i]? = some (some name)) :
  nameAt declared i = name
  := by
  rw [nameAt, List.getD_eq_getElem?_getD, h]
  rfl

/-- The names of operations are the declared ones and those of the next anonymous operations. -/
theorem operationNamesFrom_perm (count : Nat) (declared : List (Option String)) :
  (operationNamesFrom count declared).Perm
    (declared.filterMap id
      ++ (List.range' (count + 1) (declared.countP Option.isNone)).map anonymousName)
  := by
  induction declared generalizing count with
  | nil => rfl
  | cons d rest ih =>
    cases d with
    | some name => simpa [operationNamesFrom] using ih count
    | none =>
      have hperm := (ih (count + 1)).cons (anonymousName (count + 1))
      simpa [operationNamesFrom, List.range'_succ] using hperm.trans List.perm_middle.symm

theorem operationNames_perm {declared declared' : List (Option String)}
    (h : declared.Perm declared') :
  (operationNames declared).Perm (operationNames declared')
  := by
  apply (operationNamesFrom_perm 0 declared).trans
  rw [h.countP_eq]
  apply ((h.filterMap id).append_right _).trans
  apply (operationNamesFrom_perm 0 declared').symm

theorem length_operationNames (declared : List (Option String)) :
  (operationNames declared).length = declared.length
  := length_operationNamesFrom 0 declared

end GraphScribe.Naming
