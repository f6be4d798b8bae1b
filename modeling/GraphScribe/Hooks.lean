import GraphScribe.Failure
import GraphScribe.Model.Basic
import GraphScribe.Text.Affix

/-!
# Hooks

`Hooks` change what is generated: a `NameFilter` takes entries out of the registries of a model
before it is written, and a header is put in front of the text afterwards.
-/

namespace GraphScribe

/-- Which names stay in the registries; an affix that counts as false says nothing. -/
structure NameFilter where
  excludePrefix : Value := .null
  excludeSuffix : Value := .null
  includePrefix : Value := .null
  includeSuffix : Value := .null
deriving Inhabited

namespace NameFilter

/-- Whether a test holds of an affix; it need not be made of one that says nothing.  An affix that
says something must be a text. -/
def test (affix : Value) (unsaid : Bool) (holds : String → Bool) : Except Failure Bool :=
  match affix with
  | .string s => .ok (if s.isEmpty then unsaid else holds s)
  | v => if v.isTruthy then .error .wrongOperand else .ok unsaid

/-- Whether a name stays. -/
def admits (f : NameFilter) (name : String) : Except Failure Bool := do
  if ← test f.excludePrefix false (Text.startsWith name) then return false
  if ← test f.excludeSuffix false (Text.endsWith name) then return false
  if !(← test f.includePrefix true (Text.startsWith name)) then return false
  test f.includeSuffix true (Text.endsWith name)

/-- The filter with another setting. -/
def set (f : NameFilter) (entry : String × Value) : Except Failure NameFilter :=
  match entry.1 with
  | "exclude_prefix" => .ok { f with excludePrefix := entry.2 }
  | "exclude_suffix" => .ok { f with excludeSuffix := entry.2 }
  | "include_prefix" => .ok { f with includePrefix := entry.2 }
  | "include_suffix" => .ok { f with includeSuffix := entry.2 }
  | _ => .error .invalidSetting

/-- The filter with some settings. -/
def ofSettings (entries : List (String × Value)) : Except Failure NameFilter :=
  entries.foldlM set {}

/-- The entries of a registry whose names the filter admits. -/
def select {α : Type} (f : NameFilter) (registry : Assoc α) : Except Failure (Assoc α) :=
  registry.filterM fun e => f.admits e.1

/-- The model in which the registries keep the names that the filter admits. -/
def apply (f : NameFilter) (m : Model) : Except Failure Model := do
  return { m with
    types := ← f.select m.types
    interfaces := ← f.select m.interfaces
    unions := ← f.select m.unions
    enums := ← f.select m.enums
    scalars := ← f.select m.scalars
    inputs := ← f.select m.inputs
    argumentTypes := ← f.select m.argumentTypes }

end NameFilter

/-- What happens before and after generation, in order. -/
structure Hooks where
  filters : List NameFilter := []
  headers : List Value := []
deriving Inhabited

namespace Hooks

/-- The model that is written. -/
def prepare (h : Hooks) (m : Model) : Except Failure Model :=
  h.filters.foldlM (fun m f => f.apply m) m

/-- A header in front of a text, with an empty line between them unless the header brings one. -/
def putHeader (content header : String) : String :=
  header ++ (if Text.endsWith header "\n" then "\n" else "\n\n") ++ content

/-- A header, which must be a text, in front of a text. -/
def addHeader (content : String) : Value → Except Failure String
  | .string header => .ok (putHeader content header)
  | _ => .error .attributeMissing

/-- The text with all headers, each in front of those before it. -/
def finish (h : Hooks) (content : String) : Except Failure String :=
  h.headers.foldlM addHeader content

end Hooks

end GraphScribe
