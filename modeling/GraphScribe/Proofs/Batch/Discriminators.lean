import GraphScribe.Proofs.Batch.Linking
import GraphScribe.Proofs.Shape.Discriminators

/-!
# Discriminators in a batch

The discriminator of a shape without inline fragments lists every type that can answer its
selections.  A shape with inline fragments takes over what they list, so that it lists a type
exactly if it offers the type (`Batch.transform_discriminators`).  Inline fragments that leave a
possible type out leave it out of the discriminator as well (`Batch.transform_uncovered`).
-/

namespace GraphScribe

namespace Batch

/-- The discriminator of every shape of a batch lists the types that the shape offers: all possible
types of its own type if it has no inline fragments, and otherwise those that its inline fragments
offer. -/
theorem transform_discriminators {model : Model} {documents : List Document} {b : Batch}
    (h : transform model documents = .ok b) :
  ∀ root ∈ b.roots, ∀ s ∈ root.shapes,
    (s.inlineFragments = [] → s.discriminators = model.possibleTypes s.typeName)
      ∧ ∀ type, type ∈ s.discriminators ↔ s.Offers model type
  := by
  intro root hroot s hs
  have hmade := madeBy_of_transform h root hroot
  have hbelow : ∀ s' ∈ s.shapes, s'.MadeBy ⟨model, namespacesOf documents⟩ :=
    fun s' hs' => hmade s' (Shape.mem_shapes_trans hs hs')
  constructor
  · apply (hmade s hs).discriminators_of_whole
  · intro type
    apply Shape.mem_discriminators_iff hbelow

/-- A model whose query finds users or teams. -/
def searchModel : Model :=
  { types :=
      [("Query",
          { name := "Query"
            fields := [{ name := "search", descriptor := { name := "Found" }, kind := .union }] }),
        ("User",
          { name := "User"
            fields := [{ name := "login", descriptor := { name := "String" }, kind := .scalar }] }),
        ("Team",
          { name := "Team"
            fields := [{ name := "name", descriptor := { name := "String" }, kind := .scalar }] })]
    unions := [("Found", { name := "Found", members := ["User", "Team"] })]
    queryType := some "Query" }

/-- A query that looks at the users that it finds. -/
def searchDocuments : List Document :=
  [[.operation
      { kind := .query, name := some "find"
        selections :=
          [.field none "search" [] []
            [.inline (some "User") [] [.field none "login" [] [] []]]] }]]

/-- The shape of what `searchDocuments` finds, which names the users only. -/
def searchShape : Shape :=
  .mk "Search" "Found" { references := ["UserInlineFragment"] } false
    [.inline (.mk "UserInlineFragment" "User" { literals := ["User"] } false
      [.leaf { name := "login", descriptor := { name := "String" }, kind := .scalar }])]

/-- What comes of `searchDocuments`. -/
def searchBatch : Batch :=
  { operations :=
      [{ name := "find", space := "Find", kind := .query, variableProperties := []
         root := .mk "Query" "Query" { literals := ["Query"] } false
          [.nested { name := "search", descriptor := { name := "Search" }, kind := .union }
            searchShape] }] }

theorem transform_discriminators_search :
  transform searchModel searchDocuments = .ok searchBatch
    ∧ ∀ root ∈ searchBatch.roots, ∀ s ∈ root.shapes,
      (s.inlineFragments = [] → s.discriminators = searchModel.possibleTypes s.typeName)
        ∧ ∀ type, type ∈ s.discriminators ↔ s.Offers searchModel type
  := by
  have h : transform searchModel searchDocuments = .ok searchBatch := rfl
  use h
  apply transform_discriminators h

/-- A team can be found, but the shape of what is found does not list it. -/
theorem transform_uncovered :
  ∃ b, transform searchModel searchDocuments = .ok b
    ∧ ∃ root ∈ b.roots, ∃ s ∈ root.shapes,
      ∃ type ∈ searchModel.possibleTypes s.typeName, type ∉ s.discriminators
  := by
  use searchBatch, rfl
  simp only [searchBatch, roots, List.map_nil, List.map_cons, List.nil_append,
    List.mem_singleton, exists_eq_left]
  use searchShape
  constructor
  · simp [Shape.shapes, Shape.memberShapes, Shape.shapesOfMember, searchShape]
  · use "Team"
    constructor
    · decide
    · decide

end Batch

end GraphScribe
