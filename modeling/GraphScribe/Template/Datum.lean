import GraphScribe.Batch
import GraphScribe.Table

/-!
# What templates see

A `Datum` is what an expression of a template stands for: a value, a part of the model or of a
transformed batch (`Node`), a list, a row or a mapping of such data, or nothing at all.  What can
only be called is an operation of a datum or a function; `Datum.isTruthy` says how a datum counts
as a condition.
-/

namespace GraphScribe.Template

/-- A part of the model or of a transformed batch. -/
inductive Node where
  | model (m : Model)
  | type (t : NamedType)
  | arguments (t : ArgumentsType)
  | directive (d : DirectiveDefinition)
  | field (f : Field)
  | argument (a : Argument)
  | enumValue (v : EnumValue)
  | usage (u : DirectiveUsage)
  | descriptor (d : Descriptor)
  | kind (k : Kind)
  | batch (b : Batch)
  | operation (o : OperationNamespace)
  | fragment (f : FragmentNamespace)
  | variableSet (ps : List Property)
  | shape (s : Shape)
  | property (p : Property) (below : Option Shape)
  | spread (r : FragmentReference)
  | typename (t : Typename)
deriving Inhabited

/-- What an expression of a template stands for.  A row is a list that cannot change; `primitives`
stands for the primitives as they are at the moment, an `operation` for what only a datum itself can
do, a `round` for what a loop tells its body, a `template` for the template called `name`, and
`unset` for a variable that another one has taken the place of. -/
inductive Datum where
  | missing
  | value (v : Value)
  | node (n : Node)
  | list (items : List Datum)
  | row (items : List Datum)
  | map (entries : List (Value × Datum))
  | primitives
  | operation (of : Datum) (name : String)
  | function (name : String)
  | round (index count : Nat) (previous next : Datum)
  | template (name : String)
  | unset
deriving Inhabited

namespace Datum

/-- A text. -/
def string (s : String) : Datum := .value (.string s)

/-- A text that may be absent. -/
def textOrNull (s : Option String) : Datum :=
  match s with
  | some s => .value (.string s)
  | none => .value .null

/-- A truth value. -/
def bool (b : Bool) : Datum := .value (.bool b)

/-- A natural number. -/
def nat (n : Nat) : Datum := .value (.int n)

/-- Some texts. -/
def strings (ss : List String) : Datum := .value (.list (ss.map .string))

/-- Some texts in a row. -/
def stringRow (ss : List String) : Datum := .row (ss.map string)

/-- Some nodes. -/
def nodes {α : Type} (node : α → Node) (xs : List α) : Datum :=
  .list (xs.map fun x => .node (node x))

/-- Some nodes in a row. -/
def nodeRow {α : Type} (node : α → Node) (xs : List α) : Datum :=
  .row (xs.map fun x => .node (node x))

/-- Nodes under names. -/
def nodeMap {α : Type} (node : α → Node) (m : Assoc α) : Datum :=
  .map (Table.ofNamed (m.mapValues fun x => .node (node x)))

/-- Whether a datum counts as true. -/
def isTruthy : Datum → Bool
  | missing => false
  | value v => v.isTruthy
  | list items => !items.isEmpty
  | row items => !items.isEmpty
  | map entries => !entries.isEmpty
  | _ => true

/-- The datum as it is when the primitives are `primitives`. -/
def settle (primitives : Assoc Value) : Datum → Datum
  | .primitives => .value (.object primitives)
  | map entries => .map (entries.map fun e => (e.1, match e.2 with
    | .primitives => .value (.object primitives)
    | d => d))
  | d => d

end Datum

end GraphScribe.Template
