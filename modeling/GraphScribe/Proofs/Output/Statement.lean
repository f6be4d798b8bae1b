import GraphScribe.Generator
import GraphScribe.Proofs.Model.Registries
import GraphScribe.Proofs.Shape.Expansion

/-!
# Statements of the output

The output of the partials is a list of statements: aliases of scalars, interfaces, enums, unions,
and namespaces (`Generator.statements`).  `Statement.write` writes one of them,
`Statement.declared` lists the names that it declares for the whole output, and `Statement.used` the
names that stand in it as types.  A slot uses the name of its type unless this is replaced
(`Slot.reference`): a scalar is written as its target if it has one.
-/

namespace GraphScribe

open TypeScript

namespace TypeScript

/-! ### Names in slots -/

/-- The name that stands in a slot as a type, where `targets` are the scalars that are written as
something else. -/
def Slot.reference (targets : List String) (p : Slot) : Option String :=
  if !p.typenames.isEmpty || p.isNested || (p.kind = .scalar && targets.contains p.descriptor.name)
  then none else some p.descriptor.name

theorem Slot.reference_eq_some_iff {targets : List String} {p : Slot} {name : String} :
  p.reference targets = some name
    ↔ p.typenames = [] ∧ p.isNested = false
        ∧ (p.kind = .scalar → p.descriptor.name ∉ targets) ∧ p.descriptor.name = name
  := by
  simp [Slot.reference]
  grind

/-- A name that stands in a slot is written as it is. -/
theorem Style.baseType_of_reference {s : Style} {p : Slot} {name : String}
    (h : p.reference s.primitives.keys = some name) :
  s.baseType p = .string name
  := by
  obtain ⟨htypenames, hnested, hscalar, rfl⟩ := Slot.reference_eq_some_iff.mp h
  by_cases hkind : p.kind = .scalar
  · have hfind := Assoc.find?_eq_none_iff.mpr (hscalar hkind)
    simp [baseType, htypenames, hnested, hkind, hfind]
  · simp [baseType, htypenames, hnested, hkind]

/-- A scalar that is to be written as something else is written so. -/
theorem Style.baseType_of_mem {s : Style} {p : Slot} (htypenames : p.typenames = [])
    (hnested : p.isNested = false) (hkind : p.kind = .scalar)
    (hmem : p.descriptor.name ∈ s.primitives.keys) :
  ∃ v, s.primitives.find? p.descriptor.name = some v ∧ s.baseType p = v
  := by
  cases hfind : s.primitives.find? p.descriptor.name with
  | none => cases Assoc.find?_eq_none_iff.mp hfind hmem
  | some v =>
    use v, rfl
    simp [baseType, htypenames, hnested, hkind, hfind]

end TypeScript

/-! ### Statements -/

/-- A property of an interface, with what the comment above it says. -/
structure InterfaceLine where
  slot : Slot
  description : Option String := none
  deprecation : Option String := none

/-- A statement of the output, with its name and the description above it. -/
inductive Statement where
  | scalar (name : String) (description : Option String)
  | interface (name : String) (description : Option String) (extended : List String)
      (lines : List InterfaceLine)
  | enum (name : String) (description : Option String) (values : List String)
  | union (name : String) (description : Option String) (members : List String)
  | space (name : String) (variableSlots : Option (List Slot)) (root : Shape)

/-- What the templates see of the settings when they write statements. -/
structure Layout where
  flatten : Bool
  enumsAsTypes : Bool
  marker : String

namespace Statement

/-! ### Texts -/

/-- The comment above a statement, if there is anything to say. -/
def commentText (description : Option String) : String :=
  match description with
  | none => ""
  | some text => if text.isEmpty then "" else docComment text none ++ "\n"

/-- The clause with the interfaces that an interface extends. -/
def extendsText (extended : List String) : String :=
  if extended.isEmpty then "" else " extends " ++ ", ".intercalate extended

/-- A property of an interface, under its comment. -/
def lineText (l : InterfaceLine) : Styled String := do
  let comment := docComment l.description l.deprecation
  let above := if comment.isEmpty then "" else "  " ++ comment ++ "\n"
  return above ++ "  " ++ (← Style.declaration l.slot) ++ "\n"

/-- The declaration of an enum, as an alias or as an enum. -/
def enumText (asAlias : Bool) (name : String) (values : List String) : String :=
  if asAlias then "export type " ++ name ++ " = " ++ unionOf (values.map quoteName) ++ ";\n"
  else
    "export enum " ++ name ++ " \x7b\n" ++
      String.join (values.map fun v => "  " ++ v ++ " = " ++ quoteName v ++ ",\n") ++ "\x7d\n"

/-- The type of the variables of an operation. -/
def variablesText (slots : List Slot) : Styled String := do
  let lines ← slots.mapM fun p => do return "    " ++ (← Style.declaration p) ++ "\n"
  return "  export type " ++ Batch.variablesName ++ " = \x7b\n" ++ String.join lines ++ "  \x7d\n\n"

/-- Writes a statement. -/
def write (l : Layout) : Statement → Styled String
  | scalar name description => do
    let target := ((← get).primitives.find? name).getD (.string "any")
    return commentText description ++ "export type " ++ name ++ " = " ++ target.text ++ ";\n\n"
  | interface name description extended lines => do
    let texts ← lines.mapM lineText
    return commentText description ++ "export interface " ++ name ++ extendsText extended ++
      " \x7b\n" ++ String.join texts ++ "\x7d\n"
  | enum name description values =>
    return commentText description ++ enumText l.enumsAsTypes name values
  | union name description members =>
    return commentText description ++ "export type " ++ name ++ " = " ++
      " | ".intercalate members ++ ";\n\n"
  | space name variableSlots root => do
    let above ← match variableSlots with
      | some slots => variablesText slots
      | none => pure ""
    return Partial.namespaceText name
      (above ++ String.join (← root.definitionTexts l.flatten l.marker))

/-- Writes some statements one after another. -/
def writeAll (l : Layout) (ts : List Statement) : Styled String := do
  return String.join (← ts.mapM (write l))

theorem writeAll_singleton (l : Layout) (t : Statement) :
  writeAll l [t] = write l t
  := by
  simp [writeAll]

theorem writeAll_append (l : Layout) (ts ts' : List Statement) :
  writeAll l (ts ++ ts')
    = do
      let text ← writeAll l ts
      return text ++ (← writeAll l ts')
  := by
  simp [writeAll, List.mapM_append]

/-- The texts of some lists of statements make the text of all of them. -/
theorem join_mapM_writeAll {α : Type} (l : Layout) (f : α → List Statement) (xs : List α) :
  String.join <$> xs.mapM (fun x => writeAll l (f x)) = writeAll l (xs.flatMap f)
  := by
  induction xs with
  | nil => simp [writeAll]
  | cons x rest ih =>
    rw [List.flatMap_cons, writeAll_append, ← ih]
    simp [List.mapM_cons]

/-! ### Names -/

/-- The names of types that a statement declares for the whole output. -/
def declared : Statement → List String
  | scalar name _ => [name]
  | interface name _ _ _ => [name]
  | enum name _ _ => [name]
  | union name _ _ => [name]
  | space _ _ _ => []

/-- The slots that stand in a statement, those of variables before those of the shapes. -/
def slots : Statement → List Slot
  | interface _ _ _ lines => lines.map InterfaceLine.slot
  | space _ variableSlots root =>
    variableSlots.getD [] ++ root.shapes.flatMap fun s =>
      s.properties.map fun p => p.1.slot p.2.isSome
  | _ => []

/-- The names that stand in a statement outside of slots: what an interface extends and the members
of a union. -/
def named : Statement → List String
  | interface _ _ extended _ => extended
  | union _ _ members => members
  | _ => []

/-- The names that stand in a statement as types. -/
def used (targets : List String) (t : Statement) : List String :=
  t.named ++ t.slots.filterMap (Slot.reference targets)

end Statement

/-! ### The statements of a generator -/

/-- The line for a field. -/
def Field.line (f : Field) : InterfaceLine := ⟨f.slot, f.description, f.deprecation⟩

/-- The line for an argument. -/
def Argument.line (a : Argument) : InterfaceLine := ⟨a.slot, a.description, none⟩

/-- The statement for a declared type. -/
def NamedType.statement : NamedType → Statement
  | object t => .interface t.name t.description t.interfaces (t.fields.map Field.line)
  | interface t => .interface t.name t.description [] (t.fields.map Field.line)
  | union t => .union t.name t.description t.members
  | enum t => .enum t.name t.description (t.values.map EnumValue.name)
  | scalar t => .scalar t.name t.description
  | input t => .interface t.name t.description [] (t.fields.map Field.line)

/-- The statement for the type of the arguments of a field. -/
def ArgumentsType.statement (t : ArgumentsType) : Statement :=
  .interface t.name t.description [] (t.fields.map Argument.line)

namespace Batch

/-- The statements for a batch, those of the fragments last. -/
def statements (b : Batch) : List Statement :=
  (b.operations.map fun n =>
      .space n.space (some (n.variableProperties.map fun p => p.slot false)) n.root)
    ++ b.fragments.map fun n => .space n.space none n.root

end Batch

namespace Model

/-- The statements for the types of some kind. -/
def statementsOf (m : Model) (kind : Kind) : List Statement :=
  (m.registryOf kind).values.map NamedType.statement

/-- The statements for a model, in the order in which they are written. -/
def statements (m : Model) : List Statement :=
  m.statementsOf .scalar ++ m.statementsOf .interface ++ m.statementsOf .object
    ++ m.statementsOf .inputObject ++ m.argumentTypes.values.map ArgumentsType.statement
    ++ m.statementsOf .enum ++ m.statementsOf .union

end Model

/-- The statements that a generator writes: those for the whole schema, or for its enums only, and
those for the batches. -/
def Generator.statements (g : Generator) (generateSchema : Bool) : List Statement :=
  (if generateSchema then g.model.statements else g.model.statementsOf .enum)
    ++ g.batches.flatMap Batch.statements

end GraphScribe
