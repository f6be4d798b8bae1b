import GraphScribe.Proofs.Batch.Transform
import GraphScribe.Proofs.Shape.Names
import GraphScribe.TypeScript.Property

/-!
# Type names captured in a namespace

A leaf or a variable whose type keeps its name in the target language is written by that name,
and a namespace that declares the same name captures it.  What a namespace declares are the names
that its members want, behind underscores where they are taken, so that only such a type name is
captured (`Batch.transform_captures`).  Nothing keeps the members from wanting the name of a type:
the shape of one field can capture the enum of another (`Batch.transform_captured`).
-/

namespace GraphScribe

/-- The properties of a shape without a shape below them. -/
def Shape.leaves (s : Shape) : List Property :=
  s.properties.filterMap fun p => if p.2.isNone then some p.1 else none

namespace TypeScript.Style

/-- A property without a shape is written by the name that its type has in the schema: it lists no
type names, and is no scalar for which the style has another type. -/
def KeepsName (style : Style) (p : Property) : Prop :=
  p.typenames = [] ∧ (p.kind = .scalar → style.primitives.find? p.descriptor.name = none)

theorem baseType_of_keepsName {style : Style} {p : Property} (h : style.KeepsName p) :
  style.baseType (p.slot false) = .string p.descriptor.name
  := by
  obtain ⟨htypenames, hscalar⟩ := h
  by_cases hkind : p.kind = .scalar
  · simp [baseType, Property.slot, htypenames, hkind, hscalar hkind]
  · simp [baseType, Property.slot, htypenames, hkind]

end TypeScript.Style

namespace Batch

open Result

/-! ### The names of a namespace -/

/-- What one namespace is written from: names that it declares for something else than a shape,
the properties of variables, and the root of its shapes. -/
structure Scope where
  reserved : List String := []
  variableProperties : List Property := []
  root : Shape

namespace Scope

/-- The names that are declared in the namespace. -/
def declared (n : Scope) : List String := n.reserved ++ n.root.shapes.map Shape.name

/-- The names that are wanted in the namespace. -/
def wanted (n : Scope) : List String := n.reserved ++ n.root.name :: n.root.wanted

/-- The properties of the namespace that are written by the name of a type of the schema. -/
def leaves (n : Scope) : List Property := n.variableProperties ++ n.root.shapes.flatMap Shape.leaves

/-- The table of names from which the shapes below the root are named. -/
def table (n : Scope) : NameTable := { scope := "", taken := n.root.name :: n.reserved }

/-- The names declared in the namespace come of claiming the wanted ones. -/
def Claimed (n : Scope) : Prop :=
  ∀ name, name ∈ n.declared ↔ name ∈ (n.table.claimEach n.root.wanted).taken

theorem claimed_of_outcome {c : WalkContext} {name T site : String} {ss : List Selection}
    {t t' : NameTable} {root : Shape}
    (h : (Walk.shape c name T ss site).outcome t = (.ok root, t')) {reserved : List String}
    (ht : t.taken = name :: reserved) (variableProperties : List Property) :
  Claimed { reserved, variableProperties, root }
  := by
  intro n
  have hname : root.name = name := by
    obtain ⟨ms, -, rfl⟩ := Walk.outcome_shape_eq_ok_iff.mp h
    rfl
  have htable : t.taken = (table { reserved, variableProperties, root }).taken := by
    rw [ht, table, hname]
  rw [declared, Walk.mem_names_iff_of_outcome h ht, NameTable.taken_claimEach_congr htable]

theorem Claimed.mem_declared {n : Scope} (h : n.Claimed) {name : String} (hname : name ∈ n.wanted) :
  name ∈ n.declared
  := by
  rw [h name]
  rcases List.mem_append.mp hname with hname | hname
  · apply NameTable.taken_subset_claimEach
    apply List.mem_cons_of_mem _ hname
  · rcases List.mem_cons.mp hname with rfl | hname
    · apply NameTable.taken_subset_claimEach
      apply List.mem_cons_self
    · apply NameTable.mem_taken_claimEach hname

theorem Claimed.exists_wanted {n : Scope} (h : n.Claimed) {name : String}
    (hname : name ∈ n.declared) :
  ∃ w ∈ n.wanted, ∃ i, name = NameTable.underscored i w
    ∧ ∀ j < i, NameTable.underscored j w ∈ n.declared
  := by
  rw [h name] at hname
  simp only [h _]
  rcases NameTable.exists_of_mem_taken_claimEach hname with hname | ⟨w, hw, hname⟩
  · use name
    constructor
    · rw [wanted, List.mem_append, List.mem_cons]
      rcases List.mem_cons.mp hname with rfl | hname
      · apply Or.inr (Or.inl rfl)
      · apply Or.inl hname
    · use 0, rfl
      simp
  · use w
    constructor
    · apply List.mem_append_right
      apply List.mem_cons_of_mem _ hw
    · apply hname

end Scope

/-- The namespaces of a batch; those of operations declare the type of the variables too. -/
def scopes (b : Batch) : List Scope :=
  b.fragments.map (fun n => { root := n.root })
    ++ b.operations.map fun n =>
        { reserved := [variablesName], variableProperties := n.variableProperties, root := n.root }

theorem claimed_of_transform {model : Model} {documents : List Document} {b : Batch}
    (h : transform model documents = .ok b) :
  ∀ n ∈ b.scopes, n.Claimed
  := by
  obtain ⟨-, hfragments, hoperations⟩ := transform_eq_ok_iff.mp h
  intro n hn
  rcases List.mem_append.mp hn with hn | hn
  · obtain ⟨resolved, hresolved, rfl⟩ := List.mem_map.mp hn
    obtain ⟨f, -, hf⟩ := exists_of_forall₂ hfragments hresolved
    obtain ⟨-, -, -, t', hwalk⟩ := of_resolveFragment_eq_ok hf
    apply Scope.claimed_of_outcome hwalk rfl
  · obtain ⟨transformed, htransformed, rfl⟩ := List.mem_map.mp hn
    obtain ⟨o, -, ho⟩ := exists_of_forall₂ hoperations htransformed
    obtain ⟨-, -, -, -, T, t', hwalk⟩ := of_transformOperation_eq_ok ho
    apply Scope.claimed_of_outcome hwalk rfl

/-! ### Captured names -/

/-- A leaf or a variable that keeps the name of its type is written by that name.  The namespace
captures the name if it is wanted there for the variables or for a shape.  Otherwise it captures
the name only if this is a wanted one behind underscores, where all that have fewer of them are
declared as well. -/
theorem transform_captures {model : Model} {documents : List Document} {b : Batch}
    (h : transform model documents = .ok b) (style : TypeScript.Style) :
  ∀ n ∈ b.scopes, ∀ p ∈ n.leaves, style.KeepsName p →
    style.baseType (p.slot false) = .string p.descriptor.name
      ∧ (p.descriptor.name ∈ n.wanted → p.descriptor.name ∈ n.declared)
      ∧ (p.descriptor.name ∈ n.declared →
          ∃ w ∈ n.wanted, ∃ i, p.descriptor.name = NameTable.underscored i w
            ∧ ∀ j < i, NameTable.underscored j w ∈ n.declared)
  := by
  intro n hn p _ hp
  have hclaimed := claimed_of_transform h n hn
  use TypeScript.Style.baseType_of_keepsName hp
  constructor
  · apply hclaimed.mem_declared
  · apply hclaimed.exists_wanted

/-- A model whose query has a field of an enum and a field that is called like the enum. -/
def roleModel : Model :=
  { types :=
      [("User",
          { name := "User"
            fields := [{ name := "id", descriptor := { name := "ID" }, kind := .scalar }] }),
        ("Query",
          { name := "Query"
            fields :=
              [{ name := "level", descriptor := { name := "Role" }, kind := .enum },
                { name := "role", descriptor := { name := "User" }, kind := .object }] })]
    enums := [("Role", { name := "Role", values := [{ name := "ADMIN" }] })]
    queryType := some "Query" }

/-- A query of the enum and of the field that is called like it. -/
def roleDocuments : List Document :=
  [[.operation
      { kind := .query, name := some "q"
        selections :=
          [.field none "level" [] [] [],
            .field none "role" [] [] [.field none "id" [] [] []]] }]]

/-- The property for the enum. -/
def levelProperty : Property := { name := "level", descriptor := { name := "Role" }, kind := .enum }

/-- The root shape of `roleDocuments`: the shape of the second field is called `Role`. -/
def roleRoot : Shape :=
  .mk "Query" "Query" { literals := ["Query"] } false
    [.leaf levelProperty,
      .nested { name := "role", descriptor := { name := "Role" }, kind := .object }
        (.mk "Role" "User" { literals := ["User"] } false
          [.leaf { name := "id", descriptor := { name := "ID" }, kind := .scalar }])]

/-- What comes of `roleDocuments`. -/
def roleBatch : Batch :=
  { operations :=
      [{ name := "q", space := "Q", kind := .query, variableProperties := [], root := roleRoot }] }

theorem transform_captures_role :
  transform roleModel roleDocuments = .ok roleBatch
    ∧ ∀ n ∈ roleBatch.scopes, levelProperty ∈ n.leaves
      ∧ TypeScript.Style.KeepsName {} levelProperty
      ∧ TypeScript.Style.baseType {} (levelProperty.slot false) = .string "Role"
      ∧ ("Role" ∈ n.wanted → "Role" ∈ n.declared)
      ∧ ("Role" ∈ n.declared →
          ∃ w ∈ n.wanted, ∃ i, "Role" = NameTable.underscored i w
            ∧ ∀ j < i, NameTable.underscored j w ∈ n.declared)
  := by
  have h : transform roleModel roleDocuments = .ok roleBatch := rfl
  use h
  intro n hn
  have hleaf : levelProperty ∈ n.leaves := by
    cases List.mem_singleton.mp hn
    apply List.mem_cons_self
  have hkeeps : TypeScript.Style.KeepsName {} levelProperty := by
    simp [TypeScript.Style.KeepsName, levelProperty]
  use hleaf, hkeeps
  apply transform_captures h {} n hn levelProperty hleaf hkeeps

/-- The name of the enum, by which its field is written, is declared for the shape of the field
that is called like it. -/
theorem transform_captured :
  ∃ b, transform roleModel roleDocuments = .ok b
    ∧ ∃ n ∈ b.scopes, ∃ p ∈ n.leaves, TypeScript.Style.KeepsName {} p
      ∧ TypeScript.Style.baseType {} (p.slot false) = .string p.descriptor.name
      ∧ p.descriptor.name ∈ n.root.shapes.map Shape.name
  := by
  use roleBatch, rfl, { reserved := [variablesName], root := roleRoot }, List.mem_cons_self
  use levelProperty, List.mem_cons_self
  constructor
  · simp [TypeScript.Style.KeepsName, levelProperty]
  constructor
  · rfl
  · decide

end Batch

end GraphScribe
