import GraphScribe.Proofs.Batch.Discriminators
import GraphScribe.Proofs.Model.Possible
import GraphScribe.Proofs.Shape.Typenames
import GraphScribe.TypeScript.ObjectType

/-!
# Discriminators by reference in a batch

The discriminator of a shape either lists literals or refers to the inline fragments of the shape.
References are found in the namespace and lead to the literals that the shape spells out
(`Batch.transform_spells`).  A shape refers to its inline fragments if it has any, and otherwise it
lists the object types of its type (`Batch.transform_typename`); on an interface without object types
there is nothing to list (`Batch.transform_unlisted`).
-/

namespace GraphScribe

namespace Batch

open TypeScript

/-! ### Resolving references -/

/-- In a namespace of a batch, to resolve the discriminator of a shape comes to an end with the
literals that the shape spells out, in one list or from inline fragment to inline fragment.  Those of
inline fragments are spelled out without repetitions, in the order in which they first occur. -/
theorem transform_spells {model : Model} {documents : List Document} {b : Batch}
    (h : transform model documents = .ok b) :
  ∀ root ∈ b.roots, ∀ s ∈ root.shapes,
    (∃ literals,
      (∀ depth ≥ s.shapes.length, s.typename.resolve root.shapes depth = some literals)
        ∧ (∀ type, type ∈ literals ↔ type ∈ s.discriminators)
        ∧ (s.inlineFragments ≠ [] → s.discriminators = literals.eraseDups))
      ∧ (s.inlineFragments ≠ [] → s.discriminators.Nodup
        ∧ s.discriminators = (s.inlineFragments.flatMap Shape.discriminators).eraseDups)
      ∧ typenameType false s
        = if s.discriminators = [] then "string"
          else " | ".intercalate (s.discriminators.map fun type => "\"" ++ type ++ "\"")
  := by
  intro root hroot s hs
  have hmade := madeBy_of_transform h root hroot
  have hrefers : ∀ s ∈ root.shapes, s.typename.references = s.inlineFragments.map Shape.name := by
    intro s hs
    apply (hmade s hs).references_eq
  have hparted : s.inlineFragments ≠ [] → s.typename.references ≠ [] := by
    intro hne
    rw [hrefers s hs]
    simpa using hne
  refine ⟨⟨s.spelled, ?_, ?_, ?_⟩, ?_, ?_⟩
  · intro depth hdepth
    apply Shape.resolve_typename (nodup_names_of_transform h root hroot) hrefers hs hdepth
  · intro type
    apply Shape.mem_spelled_iff
  · intro hne
    apply Shape.discriminators_eq_eraseDups (hparted hne)
  · intro hne
    use Shape.nodup_discriminators (hparted hne)
    rw [Shape.discriminators_eq_addNew (hparted hne), Shape.addNew_nil_eq_eraseDups]
  · simp only [typenameType, Bool.false_and, Bool.false_eq_true, if_false, literalUnion,
      List.isEmpty_iff]
    rfl

/-- A query with inline fragments inside each other that name users twice. -/
def overlappingDocuments : List Document :=
  [[.operation
      { kind := .query, name := some "find"
        selections :=
          [.field none "search" [] []
            [.inline none []
              [.inline (some "User") [] [.field none "login" [] [] []],
                .inline (some "Team") [] [.field none "name" [] [] []]],
              .inline (some "User") [] [.field none "login" [] [] []]]] }]]

/-- The property of a text. -/
def textMember (name : String) : Member :=
  .leaf { name, descriptor := { name := "String" }, kind := .scalar }

/-- The shape of what `overlappingDocuments` finds. -/
def overlappingShape : Shape :=
  .mk "Search" "Found" { references := ["FoundInlineFragment", "_UserInlineFragment"] } false
    [.inline (.mk "FoundInlineFragment" "Found"
        { references := ["UserInlineFragment", "TeamInlineFragment"] } false
        [.inline (.mk "UserInlineFragment" "User" { literals := ["User"] } false
            [textMember "login"]),
          .inline (.mk "TeamInlineFragment" "Team" { literals := ["Team"] } false
            [textMember "name"])]),
      .inline (.mk "_UserInlineFragment" "User" { literals := ["User"] } false
        [textMember "login"])]

/-- The root of `overlappingDocuments`. -/
def overlappingRoot : Shape :=
  .mk "Query" "Query" { literals := ["Query"] } false
    [.nested { name := "search", descriptor := { name := "Search" }, kind := .union }
      overlappingShape]

/-- What comes of `overlappingDocuments`. -/
def overlappingBatch : Batch :=
  { operations :=
      [{ name := "find", space := "Find", kind := .query, variableProperties := []
         root := overlappingRoot }] }

theorem transform_spells_overlapping :
  transform searchModel overlappingDocuments = .ok overlappingBatch
    ∧ overlappingShape.typename.resolve overlappingRoot.shapes 5 = some ["User", "Team", "User"]
    ∧ overlappingShape.discriminators = ["User", "Team"]
    ∧ typenameType false overlappingShape = "\"User\" | \"Team\""
  := by
  have h : transform searchModel overlappingDocuments = .ok overlappingBatch := rfl
  have hroot : overlappingRoot ∈ overlappingBatch.roots := List.mem_singleton_self _
  have hs : overlappingShape ∈ overlappingRoot.shapes :=
    List.mem_cons_of_mem _ List.mem_cons_self
  obtain ⟨⟨literals, hresolve, -, hliterals⟩, -, htext⟩ :=
    transform_spells h overlappingRoot hroot overlappingShape hs
  have hfound : some ["User", "Team", "User"] = some literals := hresolve 5 (by decide)
  cases hfound
  have hdiscriminators : overlappingShape.discriminators = ["User", "Team"] :=
    hliterals (List.cons_ne_nil _ _)
  rw [hdiscriminators] at htext
  exact ⟨h, rfl, hdiscriminators, htext⟩

/-! ### Literals or references -/

/-- The discriminator of a shape refers to its inline fragments, and lists nothing, if it has any.
Otherwise it refers to nothing, and lists something exactly if there are object types of its type;
if there are none, it is written as any string. -/
theorem transform_typename {schema : Schema} {model : Model}
    (hmodel : Model.ofSchema schema = .ok model) {documents : List Document} {b : Batch}
    (h : transform model documents = .ok b) :
  ∀ root ∈ b.roots, ∀ s ∈ root.shapes,
    (s.inlineFragments ≠ [] → s.typename.references ≠ [] ∧ s.typename.literals = [])
      ∧ (s.inlineFragments = [] → s.typename.references = []
        ∧ (s.typename.literals ≠ [] ↔ schema.HasObjects s.typeName)
        ∧ (¬ schema.HasObjects s.typeName → ∀ byName, typenameType byName s = "string"))
  := by
  obtain ⟨ts, hts⟩ := Model.exists_describedBy hmodel
  intro root hroot s hs
  have hmade := madeBy_of_transform h root hroot s hs
  constructor
  · intro parted
    rw [hmade.typename_of_parted parted]
    simpa using parted
  · intro whole
    have htypename := hmade.typename_of_whole whole
    have hobjects : model.possibleTypes s.typeName ≠ [] ↔ schema.HasObjects s.typeName :=
      hts.possibleTypes_ne_nil_iff
    rw [htypename]
    refine ⟨rfl, hobjects, ?_⟩
    intro hnone byName
    have hempty : model.possibleTypes s.typeName = [] := by
      by_contra hne
      apply hnone (hobjects.mp hne)
    simp [typenameType, htypename, hmade.discriminators_of_whole whole, hempty, literalUnion]

/-- A query for a friend, once by id and once from an inline fragment. -/
def friendDocuments : List Document :=
  [[.operation
      { kind := .query, name := some "q"
        selections :=
          [.field none "friend" [] [] [.field none "id" [] [] []],
            .field (some "again") "friend" [] []
              [.inline none [] [.field none "id" [] [] []]]] }]]

/-- The property of an id. -/
def idMember : Member := .leaf { name := "id", descriptor := { name := "ID" }, kind := .scalar }

/-- The shape of a friend of whom the id is asked for. -/
def friendShape : Shape := .mk "Friend" "Node" { literals := ["User"] } false [idMember]

/-- The shape of a friend with an inline fragment. -/
def againShape : Shape :=
  .mk "Again" "Node" { references := ["NodeInlineFragment"] } false
    [.inline (.mk "NodeInlineFragment" "Node" { literals := ["User"] } false [idMember])]

/-- The property of a friend. -/
def friendMember (key : String) (s : Shape) : Member :=
  .nested { name := key, descriptor := { name := s.name }, kind := .interface } s

/-- What comes of `friendDocuments`. -/
def friendBatch : Batch :=
  { operations :=
      [{ name := "q", space := "Q", kind := .query, variableProperties := []
         root := .mk "Query" "User" { literals := ["User"] } false
          [friendMember "friend" friendShape, friendMember "again" againShape] }] }

theorem transform_typename_friend :
  Model.ofSchema Model.sampleSchema = .ok Model.sampleModel
    ∧ transform Model.sampleModel friendDocuments = .ok friendBatch
    ∧ Model.sampleSchema.HasObjects friendShape.typeName
    ∧ againShape.typename.references ≠ [] ∧ againShape.typename.literals = []
  := by
  have hmodel : Model.ofSchema Model.sampleSchema = .ok Model.sampleModel := rfl
  have h : transform Model.sampleModel friendDocuments = .ok friendBatch := rfl
  have hfriend := transform_typename hmodel h _ (List.mem_singleton_self _) friendShape
    (List.mem_cons_of_mem _ List.mem_cons_self)
  have hagain := transform_typename hmodel h _ (List.mem_singleton_self _) againShape
    (List.mem_cons_of_mem _ (List.mem_cons_of_mem _ List.mem_cons_self))
  use hmodel, h, (hfriend.2 rfl).2.1.mp (List.cons_ne_nil _ _)
  apply hagain.1 (List.cons_ne_nil _ _)

/-- A schema with an interface that no object type implements. -/
def abstractSchema : Schema where
  types :=
    [{ name := "Node", content := .interface [] [{ name := "id", type := .named "ID" }] },
      { name := "Query", content := .object [] [{ name := "node", type := .named "Node" }] }]
  query := some "Query"
  distinct := by decide

/-- The model of `abstractSchema`. -/
def abstractModel : Model :=
  { types :=
      [("Query",
          { name := "Query"
            fields := [{ name := "node", descriptor := { name := "Node" }, kind := .interface }] })]
    interfaces :=
      [("Node",
          { name := "Node"
            fields := [{ name := "id", descriptor := { name := "ID" }, kind := .scalar }] })]
    queryType := some "Query" }

/-- A query for the id of a node. -/
def abstractDocuments : List Document :=
  [[.operation
      { kind := .query, name := some "q"
        selections := [.field none "node" [] [] [.field none "id" [] [] []]] }]]

/-- The shape of the node in `abstractDocuments`. -/
def abstractShape : Shape := .mk "Node" "Node" {} false [idMember]

/-- What comes of `abstractDocuments`. -/
def abstractBatch : Batch :=
  { operations :=
      [{ name := "q", space := "Q", kind := .query, variableProperties := []
         root := .mk "Query" "Query" { literals := ["Query"] } false
          [.nested { name := "node", descriptor := { name := "Node" }, kind := .interface }
            abstractShape] }] }

/-- The shape of a node has neither literals nor references. -/
theorem transform_unlisted :
  Model.ofSchema abstractSchema = .ok abstractModel
    ∧ transform abstractModel abstractDocuments = .ok abstractBatch
    ∧ ∃ root ∈ abstractBatch.roots, ∃ s ∈ root.shapes,
      s.typename.literals = [] ∧ s.typename.references = []
  := by
  refine ⟨rfl, rfl, _, List.mem_singleton_self _, abstractShape, ?_, rfl, rfl⟩
  apply List.mem_cons_of_mem _ List.mem_cons_self

end Batch

end GraphScribe
