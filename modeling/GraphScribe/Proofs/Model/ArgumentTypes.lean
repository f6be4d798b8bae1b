import GraphScribe.Model.ArgumentTypes
import GraphScribe.Proofs.Assoc
import GraphScribe.Proofs.Result

/-!
# Names of argument types

`argumentTypes` lists the argument types of all owners under their names, each in its place.  It
succeeds exactly if these names are distinct and none of them is reserved
(`argumentTypes_eq_ok_iff`), and otherwise fails at the first field whose name is taken, by a
reserved name or by a field before it (`argumentTypes_correspond`).
-/

namespace GraphScribe

open Result

/-- An argument type under its name. -/
def ArgumentsType.entry (t : ArgumentsType) : String × ArgumentsType := (t.name, t)

section

variable {reserved : List String}

theorem enterArgumentsType_eq_ok_iff {entered result : Assoc ArgumentsType} {t : ArgumentsType} :
  enterArgumentsType reserved entered t = .ok result
    ↔ t.name ∉ reserved ∧ t.name ∉ entered.keys ∧ entered ++ [t.entry] = result
  := by
  rw [enterArgumentsType]
  by_cases hreserved : t.name ∈ reserved
  · simp [hreserved]
  · by_cases hentered : t.name ∈ entered.keys
    · simp [hreserved, hentered]
    · simp [hreserved, hentered, ArgumentsType.entry]

/-- Argument types are entered one after another if no name is reserved, entered or repeated. -/
theorem foldlM_enterArgumentsType_eq_ok_iff {entered result : Assoc ArgumentsType}
    {ts : List ArgumentsType} :
  ts.foldlM (enterArgumentsType reserved) entered = .ok result
    ↔ (∀ t ∈ ts, t.name ∉ reserved ∧ t.name ∉ entered.keys)
      ∧ (ts.map ArgumentsType.name).Nodup ∧ entered ++ ts.map ArgumentsType.entry = result
  := by
  induction ts generalizing entered with
  | nil => simp [pure, Except.pure]
  | cons t rest ih =>
    have hkeys : (entered ++ [t.entry]).keys = entered.keys ++ [t.name] := by
      rw [Assoc.keys, List.map_append]
      rfl
    rw [List.foldlM_cons, bind_eq_ok_iff]
    simp only [enterArgumentsType_eq_ok_iff, ih, List.forall_mem_cons, List.map_cons,
      List.nodup_cons]
    constructor
    · rintro ⟨_, ⟨hreserved, hentered, rfl⟩, hrest, hnodup, rfl⟩
      rw [hkeys] at hrest
      refine ⟨⟨⟨hreserved, hentered⟩, ?_⟩, ⟨?_, hnodup⟩, by simp⟩
      · intro t' ht'
        use (hrest t' ht').1
        intro hmem
        apply (hrest t' ht').2 (List.mem_append_left _ hmem)
      · intro hmem
        obtain ⟨t', ht', hname⟩ := List.mem_map.mp hmem
        apply (hrest t' ht').2
        rw [hname]
        apply List.mem_append_right _ (List.mem_singleton_self _)
    · rintro ⟨⟨⟨hreserved, hentered⟩, hrest⟩, ⟨hnew, hnodup⟩, rfl⟩
      refine ⟨_, ⟨hreserved, hentered, rfl⟩, ?_, hnodup, by simp⟩
      intro t' ht'
      use (hrest t' ht').1
      rw [hkeys, List.mem_append, List.mem_singleton, not_or]
      use (hrest t' ht').2
      intro hname
      apply hnew
      rw [← hname]
      apply List.mem_map_of_mem ht'

theorem argumentTypes_eq_ok_iff {owners : List FieldOwner} {result : Assoc ArgumentsType} :
  argumentTypes owners reserved = .ok result
    ↔ (∀ t ∈ owners.flatMap FieldOwner.argumentTypes, t.name ∉ reserved)
      ∧ ((owners.flatMap FieldOwner.argumentTypes).map ArgumentsType.name).Nodup
      ∧ (owners.flatMap FieldOwner.argumentTypes).map ArgumentsType.entry = result
  := by
  rw [argumentTypes, foldlM_enterArgumentsType_eq_ok_iff]
  simp [Assoc.keys]

section

variable {owners : List FieldOwner} {result : Assoc ArgumentsType}

/-- The names of argument types are distinct, and none of them is reserved. -/
theorem keys_of_argumentTypes (h : argumentTypes owners reserved = .ok result) :
  result.keys.Nodup ∧ ∀ name ∈ result.keys, name ∉ reserved
  := by
  obtain ⟨hreserved, hnodup, rfl⟩ := argumentTypes_eq_ok_iff.mp h
  rw [Assoc.keys_map]
  use hnodup
  intro name hname
  obtain ⟨t, ht, rfl⟩ := List.mem_map.mp hname
  apply hreserved t ht

theorem name_of_mem_argumentTypes (h : argumentTypes owners reserved = .ok result) {key : String}
    {t : ArgumentsType} (ht : (key, t) ∈ result) :
  t.name = key
  := by
  obtain ⟨-, -, rfl⟩ := argumentTypes_eq_ok_iff.mp h
  obtain ⟨t', -, heq⟩ := List.mem_map.mp ht
  cases heq
  rfl

end

/-! ### Fields and their argument types -/

theorem enterArgumentsType_eq_error_iff {entered : Assoc ArgumentsType} {t : ArgumentsType}
    {e : Failure} :
  enterArgumentsType reserved entered t = .error e
    ↔ (t.name ∈ reserved ∧ e = .nameTaken t.name "schema types")
      ∨ (t.name ∉ reserved ∧ t.name ∈ entered.keys
        ∧ e = .nameTaken t.name "synthesized argument types")
  := by
  rw [enterArgumentsType]
  by_cases hreserved : t.name ∈ reserved
  · simp [hreserved, eq_comm]
  · by_cases hentered : t.name ∈ entered.keys
    · simp [hreserved, hentered, eq_comm]
    · simp [hreserved, hentered]

/-- The fields that take arguments, each with its owner, in the order of the owners and then of the
fields. -/
def fieldsWithArguments (owners : List FieldOwner) : List (FieldOwner × Field) :=
  owners.flatMap fun o => (o.fields.filter fun f => !f.arguments.isEmpty).map fun f => (o, f)

/-- The name for the arguments of a field. -/
def argumentsName (p : FieldOwner × Field) : String :=
  Naming.capitalize p.2.name ++ Naming.capitalize p.1.name ++ "Args"

/-- What is entered for the arguments of a field: the field, its owner and the arguments. -/
def argumentsEntry (p : FieldOwner × Field) : String × ArgumentsType :=
  (argumentsName p,
    { name := argumentsName p
      fieldName := p.2.name
      typeName := p.1.name
      fields := p.2.arguments })

/-- The names for some fields are distinct, and none of them is reserved. -/
def NamesFree (reserved : List String) (ps : List (FieldOwner × Field)) : Prop :=
  (ps.map argumentsName).Nodup ∧ ∀ p ∈ ps, argumentsName p ∉ reserved

theorem flatMap_argumentTypes_eq (owners : List FieldOwner) :
  owners.flatMap FieldOwner.argumentTypes
    = (fieldsWithArguments owners).map fun p => p.2.argumentsType p.1.name
  := by
  simp only [fieldsWithArguments, List.map_flatMap, List.map_map]
  rfl

/-- The argument types of some fields are entered one after another if their names are free. -/
theorem foldlM_enterArgumentsType_map_eq_ok_iff {ps : List (FieldOwner × Field)}
    {result : Assoc ArgumentsType} :
  (ps.map fun p => p.2.argumentsType p.1.name).foldlM (enterArgumentsType reserved) [] = .ok result
    ↔ NamesFree reserved ps ∧ ps.map argumentsEntry = result
  := by
  rw [foldlM_enterArgumentsType_eq_ok_iff, NamesFree, List.forall_mem_map, List.map_map,
    List.map_map, List.nil_append]
  constructor
  · rintro ⟨hreserved, hnodup, hresult⟩
    use ⟨hnodup, fun p hp => (hreserved p hp).1⟩, hresult
  · rintro ⟨⟨hnodup, hreserved⟩, hresult⟩
    use fun p hp => ⟨hreserved p hp, List.not_mem_nil⟩, hnodup, hresult

/-- A field is refused after some fields have been entered if its name is reserved or one of
theirs. -/
theorem exists_enterArgumentsType_eq_error_iff {before : List (FieldOwner × Field)}
    {p : FieldOwner × Field} {e : Failure} :
  (∃ entered, (before.map fun p => p.2.argumentsType p.1.name).foldlM
        (enterArgumentsType reserved) [] = .ok entered
      ∧ enterArgumentsType reserved entered (p.2.argumentsType p.1.name) = .error e)
    ↔ NamesFree reserved before
      ∧ ((argumentsName p ∈ reserved ∧ e = .nameTaken (argumentsName p) "schema types")
        ∨ (argumentsName p ∉ reserved ∧ argumentsName p ∈ before.map argumentsName
          ∧ e = .nameTaken (argumentsName p) "synthesized argument types"))
  := by
  have hkeys : Assoc.keys (before.map argumentsEntry) = before.map argumentsName :=
    Assoc.keys_map argumentsEntry before
  have hname : (p.2.argumentsType p.1.name).name = argumentsName p := rfl
  simp only [foldlM_enterArgumentsType_map_eq_ok_iff, enterArgumentsType_eq_error_iff, hname]
  constructor
  · rintro ⟨_, ⟨hfree, rfl⟩, he⟩
    rw [hkeys] at he
    use hfree, he
  · rintro ⟨hfree, he⟩
    rw [← hkeys] at he
    use before.map argumentsEntry, ⟨hfree, rfl⟩, he

/-- There is one argument type for every field that takes arguments, in the order of the fields and
under a name made of the names of the field and its owner, if no such name is reserved or made
twice.  Otherwise the first field whose name is reserved, or that of a field before it, is
reported. -/
theorem argumentTypes_correspond (owners : List FieldOwner) (reserved : List String) :
  ((∃ result, argumentTypes owners reserved = .ok result)
      ↔ NamesFree reserved (fieldsWithArguments owners))
    ∧ (∀ result, argumentTypes owners reserved = .ok result
      ↔ NamesFree reserved (fieldsWithArguments owners)
        ∧ result = (fieldsWithArguments owners).map argumentsEntry)
    ∧ ∀ e, argumentTypes owners reserved = .error e
      ↔ ∃ before p after, fieldsWithArguments owners = before ++ p :: after
        ∧ NamesFree reserved before
        ∧ ((argumentsName p ∈ reserved ∧ e = .nameTaken (argumentsName p) "schema types")
          ∨ (argumentsName p ∉ reserved ∧ argumentsName p ∈ before.map argumentsName
            ∧ e = .nameTaken (argumentsName p) "synthesized argument types"))
  := by
  have hok (result : Assoc ArgumentsType) : argumentTypes owners reserved = .ok result
      ↔ NamesFree reserved (fieldsWithArguments owners)
        ∧ result = (fieldsWithArguments owners).map argumentsEntry := by
    rw [argumentTypes, flatMap_argumentTypes_eq, foldlM_enterArgumentsType_map_eq_ok_iff, eq_comm]
  constructor
  · simp only [hok, exists_and_left, exists_eq, and_true]
  use hok
  intro e
  rw [argumentTypes, flatMap_argumentTypes_eq, foldlM_eq_error_iff]
  constructor
  · rintro ⟨before', t, after', entered, hsplit, hbefore, he⟩
    obtain ⟨before, rest, howners, rfl, hrest⟩ := List.map_eq_append_iff.mp hsplit
    obtain ⟨p, after, rfl, rfl, rfl⟩ := List.map_eq_cons_iff.mp hrest
    use before, p, after, howners
    apply exists_enterArgumentsType_eq_error_iff.mp ⟨entered, hbefore, he⟩
  · rintro ⟨before, p, after, howners, h⟩
    obtain ⟨entered, hbefore, he⟩ := exists_enterArgumentsType_eq_error_iff.mpr h
    rw [howners, List.map_append, List.map_cons]
    exact ⟨_, _, _, entered, rfl, hbefore, he⟩

end

-- The fields aB of C and a of BC meet in one name.
example :
  let argument : Argument := { name := "n", descriptor := { name := "Int" }, kind := .scalar }
  let field (name : String) : Field :=
    { name, descriptor := { name := "Int" }, kind := .scalar, arguments := [argument] }
  argumentTypes [⟨"C", [field "aB"]⟩, ⟨"BC", [field "a"]⟩] ["C", "BC"]
    = .error (.nameTaken "ABCArgs" "synthesized argument types")
  := rfl

end GraphScribe
