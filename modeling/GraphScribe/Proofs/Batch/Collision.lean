import GraphScribe.Proofs.Batch.Transform

/-!
# Collisions in a batch

A batch ends in a collision exactly if it asks for a namespace twice, whatever else is wrong with
it.  A batch that succeeds holds one namespace for each of its definitions, in order, and finds it
by its name (`Batch.transform_collision`).
-/

namespace GraphScribe

namespace Batch

open Result

theorem not_isCollision_of_transform {model : Model} {documents : List Document}
    (h : (spaceNames documents).Nodup) {e : Failure} (he : transform model documents = .error e) :
  ¬ e.IsCollision
  := by
  rw [transform_of_nodup h] at he
  rcases bind_eq_error_iff.mp he with he | ⟨fragments, -, he⟩
  · obtain ⟨f, -, he⟩ := exists_of_mapM_eq_error he
    apply not_isCollision_of_resolveFragment he
  · rw [map_eq_error_iff] at he
    obtain ⟨o, -, he⟩ := exists_of_mapM_eq_error he
    apply not_isCollision_of_transformOperation he

theorem exists_collision_iff (model : Model) (documents : List Document) :
  (∃ e, transform model documents = .error e ∧ e.IsCollision) ↔ ¬ (spaceNames documents).Nodup
  := by
  constructor
  · rintro ⟨e, he, hcollision⟩ h
    apply not_isCollision_of_transform h he hcollision
  · apply transform_of_not_nodup

/-- What a batch holds of the definitions of some documents: one namespace for each, in order,
which is found by its name. -/
structure Answers (b : Batch) (documents : List Document) : Prop where
  fragments : List.Forall₂ (fun f n => n.name = f.name ∧ n.on = f.on)
    (documents.flatMap Document.fragments) b.fragments
  operations : List.Forall₂
    (fun o n =>
      n.name = Naming.nameAt ((documents.flatMap Document.operations).map Operation.name) o.2
        ∧ n.kind = o.1.kind ∧ n.anonymous = o.1.name.isNone)
    (documents.flatMap Document.operations).zipIdx b.operations
  spaces : b.fragments.map FragmentNamespace.space ++ b.operations.map OperationNamespace.space
    = spaceNames documents
  distinct : (spaceNames documents).Nodup
  fragment? : ∀ n ∈ b.fragments, b.fragment? n.name = some n
  operation? : ∀ n ∈ b.operations, b.operation? n.name = some n

theorem namedOperations_eq (documents : List Document) :
  namedOperations documents
    = (documents.flatMap Document.operations).zipIdx.map fun o =>
        (o.1, Naming.nameAt ((documents.flatMap Document.operations).map Operation.name) o.2)
  := by
  rw [namedOperations, operationNamesOf, Naming.operationNames_eq, List.length_map,
    List.zip_map_right, List.zipIdx_eq_zip_range', List.range_eq_range']
  rfl

theorem nodup_fragment_names {model : Model} {documents : List Document} {b : Batch}
    (h : transform model documents = .ok b) :
  (b.fragments.map FragmentNamespace.name).Nodup
  := by
  obtain ⟨hnodup, -⟩ := transform_eq_ok_iff.mp h
  rw [spaceNames_eq] at hnodup
  have hkeys := nodup_keys_entries (List.nodup_append.mp hnodup).1
  rw [← namespacesOf, ← entries_of_transform h, Assoc.keys, List.map_map] at hkeys
  apply hkeys

theorem nodup_operation_names {model : Model} {documents : List Document} {b : Batch}
    (h : transform model documents = .ok b) :
  (b.operations.map OperationNamespace.name).Nodup
  := by
  obtain ⟨hnodup, -, hoperations⟩ := transform_eq_ok_iff.mp h
  have hnames : b.operations.map OperationNamespace.name = operationNamesOf documents := by
    rw [← map_snd_namedOperations]
    apply map_eq_of_forall₂ hoperations
    intro o _ n hn
    apply (of_transformOperation_eq_ok hn).1
  rw [spaceNames_eq] at hnodup
  rw [hnames]
  apply List.Nodup.of_map Naming.capitalize (List.nodup_append.mp hnodup).2.1

theorem answers_of_transform {model : Model} {documents : List Document} {b : Batch}
    (h : transform model documents = .ok b) :
  b.Answers documents
  := by
  obtain ⟨hnodup, hfragments, hoperations⟩ := transform_eq_ok_iff.mp h
  have hspaces := spaces_of_transform h
  constructor
  case fragments =>
    apply hfragments.imp
    intro f n hn
    obtain ⟨hname, hon, -⟩ := of_resolveFragment_eq_ok hn
    use hname, hon
  case operations =>
    rw [namedOperations_eq, List.forall₂_map_left_iff] at hoperations
    apply hoperations.imp
    intro o n hn
    obtain ⟨hname, -, hkind, hanonymous, -⟩ := of_transformOperation_eq_ok hn
    use hname, hkind, hanonymous
  case spaces => apply hspaces
  case distinct => apply hnodup
  case fragment? =>
    intro n hn
    apply find?_eq_of_nodup (nodup_fragment_names h) hn
  case operation? =>
    intro n hn
    apply find?_eq_of_nodup (nodup_operation_names h) hn

/-- A batch ends in a collision exactly if it asks for a namespace twice, and then whatever else
fails.  No collision comes from a definition.  A batch that succeeds has one namespace for each
definition, in order, which it finds by name. -/
theorem transform_collision (model : Model) (documents : List Document) :
  ((∃ e, transform model documents = .error e ∧ e.IsCollision) ↔ ¬ (spaceNames documents).Nodup)
    ∧ (∀ namespaces f e, resolveFragment model namespaces f = .error e → ¬ e.IsCollision)
    ∧ (∀ namespaces o name e,
        transformOperation model namespaces o name = .error e → ¬ e.IsCollision)
    ∧ ∀ b, transform model documents = .ok b → b.Answers documents
  := by
  use exists_collision_iff model documents
  constructor
  · intro namespaces f e
    apply not_isCollision_of_resolveFragment
  constructor
  · intro namespaces o name e
    apply not_isCollision_of_transformOperation
  · intro b
    apply answers_of_transform

theorem transform_collision_sample :
  transform Walk.sampleModel sampleDocuments = .ok sampleBatch ∧ sampleBatch.Answers sampleDocuments
  := by
  have h : transform Walk.sampleModel sampleDocuments = .ok sampleBatch := rfl
  use h
  apply (transform_collision Walk.sampleModel sampleDocuments).2.2.2 sampleBatch h

end Batch

end GraphScribe
