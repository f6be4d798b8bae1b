import GraphScribe.Naming
import GraphScribe.Template.Basic
import GraphScribe.Template.Written
import GraphScribe.TypeScript.Comment
import GraphScribe.TypeScript.ObjectType

/-!
# Filters

A filter makes a datum from a datum and arguments, and a test answers a question about one.  There
are filters that write declarations in the style of the output (`Filter.own`), and a user can add
helpers, which come before them (`Filter.apply`).
-/

namespace GraphScribe.Template

open TypeScript

/-- What a user puts in place of a filter or function: a function on texts, or a value, which cannot
be called. -/
inductive Helper where
  | function (f : String → String)
  | value (v : Value)

namespace Filter

/-- The names of the filters that every template can use. -/
def names : List String :=
  ["converted_type", "wrap_type", "get_optionals", "field_declaration", "typename_type",
    "doc_comment", "capitalize_first", "pascal_case", "join"]

/-- The names of the tests that every template can use. -/
def testNames : List String := ["has_directive"]

/-- Whether there is a filter or test; a helper that is null takes the place of a filter but is
none. -/
def isKnown (helpers : Assoc Helper) : Need → Bool
  | .test name => testNames.contains name
  | .filter name =>
    match helpers.find? name with
    | some (.value .null) => false
    | some _ => true
    | none => names.contains name

/-! ### What filters need of data -/

/-- What a property declaration shows of a datum. -/
def slotOf : Datum → Except Failure Slot
  | .missing => .error .undefinedUsed
  | .node n =>
    match n.slot? with
    | some p => .ok p
    | none => .error .attributeMissing
  | _ => .error .attributeMissing

/-- The value of which a type is made, as far as a datum has one. -/
def baseOf : Datum → Except Failure Value
  | .missing => .ok .undefined
  | .value v => .ok v
  | _ => .error .wrongOperand

/-- A type as a datum; one that is missing stays so. -/
def ofType : Value → Datum
  | .undefined => .missing
  | v => .value v

/-- The type of a descriptor around a base type. -/
def wrap (style : Style) (d base : Datum) : Except Failure Datum :=
  match d with
  | .missing => .error .undefinedUsed
  | .node (.descriptor d) =>
    match base with
    | .value (.string b) => .ok (.string (wrapType b style.immutable d))
    | base => do return ofType (← Style.wrapValue (← baseOf base) style.immutable d)
  | _ => .error .attributeMissing

/-- The type of the discriminator of a shape. -/
def typename (byName : Bool) : Datum → Except Failure Datum
  | .missing => .error .undefinedUsed
  | .node (.shape s) => .ok (.string (typenameType byName s))
  | _ => .error .attributeMissing

/-- A text for a comment: what counts as false counts as no text. -/
def commentText : Datum → Except Failure (Option String)
  | .value (.string s) => .ok (some s)
  | d => if d.isTruthy then .error .attributeMissing else .ok none

/-- A reason of deprecation for a comment, which may be any datum. -/
def commentReason (d : Datum) : Option String := if d.isTruthy then some d.text else none

/-- A comment for a description and a reason of deprecation. -/
def comment (d reason : Datum) : Except Failure Datum := do
  return .string (docComment (← commentText d) (commentReason reason))

/-- A text with its first character in upper case.  Lists can be cut but not raised. -/
def capitalize : Datum → Except Failure Datum
  | .missing => .error .undefinedUsed
  | .value (.string s) => .ok (.string (Naming.capitalize s))
  | .value (.list _) => .error .attributeMissing
  | .list _ => .error .attributeMissing
  | .row _ => .error .attributeMissing
  | _ => .error .wrongOperand

/-- A text split into words; nothing but a text can be split. -/
def pascalCase : Datum → Except Failure Datum
  | .value (.string s) => .ok (.string (Naming.pascalCase s))
  | _ => .error .wrongOperand

/-- The texts of the items of a datum, joined by that of another. -/
def join (d separator : Datum) : Except Failure Datum := do
  return .string (separator.text.intercalate ((← d.iterated).map Datum.text))

/-! ### Applying filters -/

/-- Applies one of the filters that every template can use. -/
def own (name : String) (d : Datum) (arguments : List Datum) : Styled Datum := do
  let style ← get
  match name, arguments with
  | "converted_type", [] => return .value (← Style.convertedType (← slotOf d))
  | "get_optionals", [] => return .string (style.optionalMark (← slotOf d))
  | "field_declaration", [] => return .string (← Style.declaration (← slotOf d))
  | "wrap_type", [base] => wrap style d base
  | "typename_type", [] => typename true d
  | "typename_type", [byName] => typename byName.isTruthy d
  | "doc_comment", [] => comment d .missing
  | "doc_comment", [reason] => comment d reason
  | "capitalize_first", [] => capitalize d
  | "pascal_case", [] => pascalCase d
  | "join", [] => join d (.string "")
  | "join", [separator] => join d separator
  | _, _ => throw .wrongOperand

/-- Calls a helper, which takes a single datum. -/
def callHelper (helper : Helper) (arguments : List Datum) : Except Failure Datum :=
  match helper, arguments with
  | .function f, [d] => .ok (.string (f d.text))
  | _, _ => .error .wrongOperand

/-- Applies a filter; a helper comes before the other filters of its name. -/
def apply (helpers : Assoc Helper) (name : String) (d : Datum) (arguments : List Datum) :
    Styled Datum :=
  match helpers.find? name with
  | some helper => callHelper helper (d :: arguments)
  | none => if names.contains name then own name d arguments else throw .unknownFilterUsed

/-- Applies a test. -/
def test (name : String) (d : Datum) (arguments : List Datum) : Except Failure Bool :=
  match name, arguments with
  | "has_directive", [.value (.string directive)] => do
    return DirectiveUsage.has (← d.usages) directive
  | "has_directive", [_] => do
    let _ ← d.usages
    return false
  | "has_directive", _ => .error .wrongOperand
  | _, _ => .error .unknownFilterUsed

end Filter

end GraphScribe.Template
