import GraphScribe.Proofs.Batch.Linking
import GraphScribe.Proofs.Shape.Expansion

/-!
# Expanding the namespaces of a batch

A namespace can be written with the shapes below its root by name, or with everything in place.
The two forms of the namespaces of a batch agree (`Batch.transform_formsAgree`) wherever no leaf
property is of a scalar with a list for its primitive; such a list grows with each type that is
written, so that the order of writing shows (`Batch.transform_formsDisagree`).
-/

namespace GraphScribe

open TypeScript Styled

/-- The two forms of a namespace agree: its definitions stand under distinct names; they can be
written if the object type can that has everything in place; and then this object type is what
comes of expanding the definitions from the root on, the types of the discriminators apart. -/
structure Shape.FormsAgree (style : Style) (root : Shape) : Prop where
  flattened : (root.definitionTexts true style.readonly).run' style
    = ((root.definitions style.readonly).run' style).map fun table : Assoc ObjectExpr =>
        table.map fun e => exportText e.1 e.2.lines
  inlined : (root.definitionTexts false style.readonly).run' style
    = ((root.inPlace style.readonly).run' style).map fun tree => [exportText root.name tree.text]
  writable : (∃ table, (root.definitions style.readonly).run' style = .ok table)
    ↔ ∃ tree, (root.inPlace style.readonly).run' style = .ok tree
  distinct : ∀ table, (root.definitions style.readonly).run' style = .ok table →
    table.keys = root.shapes.map Shape.name ∧ table.keys.Nodup
  expands : ∀ table tree, (root.definitions style.readonly).run' style = .ok table →
    (root.inPlace style.readonly).run' style = .ok tree → ∀ depth ≥ table.length,
    (ObjectExpr.expansion table depth root.name).map ObjectExpr.bare = some tree.bare

namespace Batch

/-- The two forms of each namespace of a batch agree if no leaf property in it is of a scalar with
a list for its primitive; and no shape of an operation has the name of its variables. -/
theorem transform_formsAgree {model : Model} {documents : List Document} {b : Batch}
    (h : transform model documents = .ok b) (c : Config) :
  (∀ root ∈ b.roots, (∀ s ∈ root.shapes, s.Keeps (.ofConfig c)) → root.FormsAgree (.ofConfig c))
    ∧ ∀ n ∈ b.operations, variablesName ∉ n.root.shapes.map Shape.name
  := by
  constructor
  · intro root hroot hkeeps
    have hdistinct := nodup_names_of_transform h root hroot
    constructor
    case flattened => rw [Shape.definitionTexts_true, run'_map]
    case inlined => rw [Shape.definitionTexts_false, run'_map]
    case writable =>
      simp only [run'_eq_ok_iff_of_steady (Shape.steady_definitions hkeeps),
        run'_eq_ok_iff_of_steady (Shape.steady_inPlace hkeeps)]
      apply Shape.exists_definitions_iff hkeeps
    case distinct =>
      intro table htable
      rw [run'_eq_ok_iff_of_steady (Shape.steady_definitions hkeeps)] at htable
      rw [Shape.keys_of_writes_definitions hkeeps htable]
      use rfl
    case expands =>
      intro table tree htable htree depth hdepth
      rw [run'_eq_ok_iff_of_steady (Shape.steady_definitions hkeeps)] at htable
      rw [run'_eq_ok_iff_of_steady (Shape.steady_inPlace hkeeps)] at htree
      apply Shape.expansion_eq hdistinct _ hkeeps htable htree hdepth
      intro s hs p s' hp
      apply (madeBy_of_transform h root hroot s hs).names_of_property hp
      apply p.descriptor.name_mem_names
  · apply variablesName_not_mem_of_transform h

/-! ### Lists among the primitives -/

/-- A model in which a field of the query and one of a type below it have a declared scalar. -/
def datedModel : Model :=
  { types :=
      [("User",
          { name := "User"
            fields := [{ name := "born", descriptor := { name := "Date" }, kind := .scalar }] }),
        ("Query",
          { name := "Query"
            fields :=
              [{ name := "user", descriptor := { name := "User" }, kind := .object },
                { name := "at"
                  descriptor := { name := "Date", nullable := false }
                  kind := .scalar }] })]
    scalars := [("Date", { name := "Date" })]
    queryType := some "Query" }

/-- A query that asks for a date after one below it. -/
def datedDocuments : List Document :=
  [[.operation
      { kind := .query, name := some "q"
        selections :=
          [.field none "user" [] [] [.field none "born" [] [] []],
            .field none "at" [] [] []] }]]

/-- The root shape of `datedDocuments`. -/
def datedShape : Shape :=
  .mk "Query" "Query" { literals := ["Query"] } false
    [.nested { name := "user", descriptor := { name := "User" }, kind := .object }
        (.mk "User" "User" { literals := ["User"] } false
          [.leaf { name := "born", descriptor := { name := "Date" }, kind := .scalar }]),
      .leaf { name := "at", descriptor := { name := "Date", nullable := false }, kind := .scalar }]

/-- What comes of `datedDocuments`. -/
def datedBatch : Batch :=
  { operations :=
      [{ name := "q", space := "Q", kind := .query, variableProperties := []
         root := datedShape }] }

theorem transform_formsAgree_dated :
  transform datedModel datedDocuments = .ok datedBatch
    ∧ (∀ root ∈ datedBatch.roots, ∀ s ∈ root.shapes, s.Keeps (.ofConfig {}))
    ∧ ∀ root ∈ datedBatch.roots, root.FormsAgree (.ofConfig {})
  := by
  have h : transform datedModel datedDocuments = .ok datedBatch := rfl
  have hkeeps : ∀ root ∈ datedBatch.roots, ∀ s ∈ root.shapes, s.Keeps (.ofConfig {}) := by
    intro root _ s _
    apply Shape.keeps_of_primitives
    intro name items hfind
    have hentry := Assoc.mem_of_find?_eq_some hfind
    simp [Style.ofConfig, Value.entries?, defaultPrimitives] at hentry
  use h, hkeeps
  intro root hroot
  apply (transform_formsAgree h {}).1 root hroot (hkeeps root hroot)

/-- A configuration in which a list stands for a scalar. -/
def listedConfig : Config :=
  { primitives := .object (defaultPrimitives ++ [("Date", .list [])]) }

/-- The list for the scalar grows with the type of the field below the root, which is written after
the field of the root if the shape stands by name, and before it if the shape stands in place. -/
theorem transform_formsDisagree :
  transform datedModel datedDocuments = .ok datedBatch
    ∧ datedBatch.roots = [datedShape]
    ∧ Config.ofEntries [("primitives", .object [("Date", .list [])])]
        = .ok listedConfig
    ∧ ∃ table, (datedShape.definitions "").run' (.ofConfig listedConfig) = .ok table
    ∧ ∃ tree, (datedShape.inPlace "").run' (.ofConfig listedConfig) = .ok tree
    ∧ ∀ depth, (ObjectExpr.expansion table depth datedShape.name).map ObjectExpr.bare
        ≠ some tree.bare
  := by
  refine ⟨rfl, rfl, rfl, _, rfl, _, rfl, ?_⟩
  rintro (_ | _ | depth) h
  · cases h
  · cases h
  · cases h

end Batch

end GraphScribe
