import GraphScribe.Proofs.Batch.Transform
import GraphScribe.Proofs.Shape.Resolution

/-!
# Fields of a batch that the model declares

The fields of a batch are resolved as far as the walk looks at them (`Batch.transform_resolves`).  A
field that stands behind another one with its response key is not looked at, nor is what is selected
below `__typename`, so that fields that no type declares go through (`Batch.transform_unresolved`).
-/

namespace GraphScribe

namespace Batch

open Result Selection

/-- The shape of a selection set has been made only if there is no violation. -/
theorem resolves_of_outcome {c : WalkContext} {name T site : String} {ss : List Selection}
    {t t' : NameTable} {root : Shape}
    (h : (Walk.shape c name T ss site).outcome t = (.ok root, t')) :
  Resolves c.model T ss
  := by
  have hfits : Walk.violation? c T site ss = none := by
    rw [← Walk.failure?_shape]
    apply Walk.failure?_of_ok h
  apply resolves_of_fits hfits

/-- In a batch that is transformed, each field that its merged group stands for is `__typename` or
declared by the type that it stands on; and if the fields of a group are one and the same field and
nothing is selected below `__typename`, then this holds of all fields, at every depth. -/
theorem transform_resolves {model : Model} {documents : List Document} {b : Batch}
    (h : transform model documents = .ok b) :
  (∀ f ∈ documents.flatMap Document.fragments, Resolves model f.on f.selections)
    ∧ ∀ o ∈ documents.flatMap Document.operations,
        ∃ T, model.rootType o.kind.keyword = some T ∧ Resolves model T o.selections
  := by
  obtain ⟨-, hfragments, hoperations⟩ := transform_eq_ok_iff.mp h
  constructor
  · intro f hf
    obtain ⟨n, -, hn⟩ := exists_of_forall₂_left hfragments hf
    obtain ⟨-, -, -, -, t', hwalk⟩ := resolveFragment_eq_ok_iff.mp hn
    apply resolves_of_outcome hwalk
  · intro o ho
    rw [← map_fst_namedOperations, List.mem_map] at ho
    obtain ⟨named, hnamed, rfl⟩ := ho
    obtain ⟨n, -, hn⟩ := exists_of_forall₂_left hoperations hnamed
    obtain ⟨-, -, -, -, -, T, hroot, t', hwalk⟩ := transformOperation_eq_ok_iff.mp hn
    use T, hroot
    apply resolves_of_outcome hwalk

/-- Two fields that are merged, of which each selects the id of a user. -/
def twiceSelections : List Selection :=
  [.field none "me" [] [] [.field none "id" [] [] []],
    .field none "me" [] [] [.field (some "id") "id" [] [] []]]

/-- A query with `twiceSelections`. -/
def twiceDocuments : List Document :=
  [[.operation { kind := .query, name := some "twice", selections := twiceSelections }]]

theorem transform_resolves_twice :
  (transform Walk.sampleModel twiceDocuments).isOk = true
    ∧ IsUniform twiceSelections
    ∧ Occurs Walk.sampleModel "Query" twiceSelections "User" (.field (some "id") "id" [] [] [])
    ∧ IsResolved Walk.sampleModel "User" (.field (some "id") "id" [] [] [])
  := by
  have hok : (transform Walk.sampleModel twiceDocuments).isOk = true := rfl
  have hbelow : IsUniform [.field none "id" [] [] [], .field (some "id") "id" [] [] []] := by
    constructor
    · simp [groups_cons, joins, key?, Group.nodes, fieldName?]
    · simp [children]
    · simp [groups_cons, joins, key?, Group.below, Group.nodes, children, isUniform_nil]
  have huniform : IsUniform twiceSelections := by
    constructor
    · simp [twiceSelections, groups_cons, joins, key?, Group.nodes, fieldName?]
    · simp [twiceSelections, fieldName?, Walk.typenameField]
    · simpa [twiceSelections, groups_cons, joins, key?, Group.below, Group.nodes, children]
        using hbelow
  have hoccurs : Occurs Walk.sampleModel "Query" twiceSelections "User"
      (.field (some "id") "id" [] [] []) := by
    apply Occurs.field (List.mem_cons_of_mem _ List.mem_cons_self) rfl
    apply Occurs.here (List.mem_singleton_self _) rfl
  obtain ⟨b, h⟩ := exists_of_isOk hok
  obtain ⟨T, hroot, hresolves⟩ := (transform_resolves h).2 _ (List.mem_singleton_self _)
  cases hroot
  use hok, huniform, hoccurs
  apply hresolves.uniform huniform _ _ hoccurs

/-- A field that no user has, behind another one with its response key. -/
def hiddenField : Selection := .field (some "id") "nope" [] [] []

/-- `__typename` with a field below it. -/
def hiddenBelow : Selection :=
  .field none Walk.typenameField [] [] [.field none "nope" [] [] []]

/-- The selections of a query for a user with both. -/
def hidingSelections : List Selection :=
  [.field none "me" [] [] [.field none "id" [] [] [], hiddenField, hiddenBelow]]

/-- A query with `hidingSelections`. -/
def hidingDocuments : List Document :=
  [[.operation { kind := .query, name := some "q", selections := hidingSelections }]]

/-- A batch is transformed though it selects a field that no type declares behind another field, and
something below `__typename`. -/
theorem transform_unresolved :
  (transform Walk.sampleModel hidingDocuments).isOk = true
    ∧ ∃ o ∈ hidingDocuments.flatMap Document.operations,
      ∃ T, Walk.sampleModel.rootType o.kind.keyword = some T
        ∧ ∀ s ∈ [hiddenField, hiddenBelow],
          Occurs Walk.sampleModel T o.selections "User" s
            ∧ ¬ s.IsResolved Walk.sampleModel "User"
  := by
  have hoccurs : ∀ s ∈ [hiddenField, hiddenBelow], ∀ key, s.key? = some key →
      Occurs Walk.sampleModel "Query" hidingSelections "User" s := by
    intro s hs key hkey
    apply Occurs.field (List.mem_singleton_self _) rfl
    apply Occurs.here (List.mem_cons_of_mem _ hs) hkey
  refine ⟨rfl, _, List.mem_singleton_self _, "Query", rfl, ?_⟩
  intro s hs
  rcases List.mem_pair.mp hs with rfl | rfl
  · use hoccurs hiddenField hs _ rfl
    have hundeclared : Walk.sampleModel.field? "User" "nope" = none := rfl
    simp [IsResolved, hiddenField, fieldName?, Walk.typenameField, hundeclared]
  · use hoccurs hiddenBelow hs _ rfl
    have hundeclared : Walk.sampleModel.field? "User" Walk.typenameField = none := rfl
    simp [IsResolved, hiddenBelow, fieldName?, children, hundeclared]

end Batch

end GraphScribe
