import GraphScribe.Proofs.Batch.Linking
import GraphScribe.Proofs.Shape.Keys

/-!
# Names declared in a batch

The shapes of a namespace stand for the selection sets of its definition, one for each, and declare
`__typename` and the response keys of their selection set (`Batch.transform_declares`).  A field that
is answered under the key `__typename` is declared beside the discriminator, so that the object type
has two properties of this name (`Batch.transform_declaresTwice`).
-/

namespace GraphScribe

namespace Batch

open Result Selection

/-- The shapes of a transformed batch, in the order of their trees, belong to the selection sets of
the definitions, in theirs: what a shape declares are `__typename` and the response keys of its
selection set, no two properties under one key, and no name twice unless another field is answered
under the key `__typename`. -/
theorem transform_declares {model : Model} {documents : List Document} {b : Batch}
    (h : transform model documents = .ok b) :
  List.Forall₂ (fun f n => List.Forall₂ Declares (sets f.selections) n.root.shapes)
      (documents.flatMap Document.fragments) b.fragments
    ∧ List.Forall₂ (fun o n => List.Forall₂ Declares (sets o.selections) n.root.shapes)
        (documents.flatMap Document.operations) b.operations
  := by
  obtain ⟨-, hfragments, hoperations⟩ := transform_eq_ok_iff.mp h
  constructor
  · apply hfragments.imp
    intro f n hn
    obtain ⟨-, -, -, t', hwalk⟩ := of_resolveFragment_eq_ok hn
    apply Walk.declares_of_outcome hwalk
  · rw [← map_fst_namedOperations, List.forall₂_map_left_iff]
    apply hoperations.imp
    intro o n hn
    obtain ⟨-, -, -, -, T, t', hwalk⟩ := of_transformOperation_eq_ok hn
    apply Walk.declares_of_outcome hwalk

theorem transform_declares_sample :
  transform Walk.sampleModel sampleDocuments = .ok sampleBatch
    ∧ List.Forall₂ (fun f n => List.Forall₂ Declares (sets f.selections) n.root.shapes)
        (sampleDocuments.flatMap Document.fragments) sampleBatch.fragments
    ∧ List.Forall₂ (fun o n => List.Forall₂ Declares (sets o.selections) n.root.shapes)
        (sampleDocuments.flatMap Document.operations) sampleBatch.operations
  := by
  have h : transform Walk.sampleModel sampleDocuments = .ok sampleBatch := rfl
  use h
  apply transform_declares h

/-- A query in which the id of a user is answered under the key `__typename`. -/
def maskedDocuments : List Document :=
  [[.operation
      { kind := .query, name := some "q"
        selections :=
          [.field none "me" [] [] [.field (some Walk.typenameField) "id" [] [] []]] }]]

/-- The shape of the user in `maskedDocuments`. -/
def maskedShape : Shape :=
  .mk "Me" "User" { literals := ["User"] } false
    [.leaf { name := Walk.typenameField, descriptor := { name := "ID" }, kind := .scalar }]

/-- What comes of `maskedDocuments`. -/
def maskedBatch : Batch :=
  { operations :=
      [{ name := "q", space := "Q", kind := .query, variableProperties := []
         root := .mk "Query" "Query" { literals := ["Query"] } false
          [.nested { name := "me", descriptor := { name := "Me" }, kind := .object }
            maskedShape] }] }

/-- The shape of a user declares `__typename` twice, as its discriminator and as the id. -/
theorem transform_declaresTwice :
  transform Walk.sampleModel maskedDocuments = .ok maskedBatch
    ∧ ∃ root ∈ maskedBatch.roots, ∃ s ∈ root.shapes, ¬ s.declaredNames.Nodup
  := by
  use rfl
  simp only [maskedBatch, roots, List.map_nil, List.map_cons, List.nil_append,
    List.mem_singleton, exists_eq_left]
  use maskedShape
  constructor
  · simp [Shape.shapes, Shape.memberShapes, Shape.shapesOfMember, maskedShape]
  · decide

end Batch

end GraphScribe
