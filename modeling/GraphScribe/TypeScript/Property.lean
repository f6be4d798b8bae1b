import GraphScribe.Config
import GraphScribe.Shape.Basic
import GraphScribe.TypeScript.Wrapping
import GraphScribe.Value.Text

/-!
# Declaring properties

A `Slot` is what a property declaration shows of a field, an argument, a variable or a property
of a shape.  `Style.declaration` writes it in the style of a configuration: an optional marker
for what may be null, and the type around the target type of the scalar.
-/

namespace GraphScribe.TypeScript

/-- How types are written. -/
structure Style where
  immutable : Bool := false
  avoidOptionals : Bool := false
  primitives : Assoc Value := defaultPrimitives
deriving Inhabited

namespace Style

/-- The style that a configuration asks for. -/
def ofConfig (c : Config) : Style :=
  { immutable := c.immutableTypes.isTruthy
    avoidOptionals := c.avoidOptionals.isTruthy
    primitives := (c.primitives.entries?).getD [] }

/-- The marker in front of what cannot be assigned. -/
def readonly (s : Style) : String := if s.immutable then "readonly " else ""

end Style

/-- What a property declaration shows. -/
structure Slot where
  name : String
  descriptor : Descriptor
  kind : Kind
  isNested : Bool := false
  typenames : List String := []
deriving Inhabited

end TypeScript

open TypeScript in
/-- The slot of an argument. -/
def Argument.slot (a : Argument) : Slot :=
  { name := a.name, descriptor := a.descriptor, kind := a.kind }

open TypeScript in
/-- The slot of a field. -/
def Field.slot (f : Field) : Slot :=
  { name := f.name, descriptor := f.descriptor, kind := f.kind }

open TypeScript in
/-- The slot of a property, which may have a shape below it. -/
def Property.slot (p : Property) (isNested : Bool) : Slot :=
  { name := p.name, descriptor := p.descriptor, kind := p.kind, isNested, typenames := p.typenames }

namespace TypeScript

/-- A name as a string literal. -/
def quoteName (name : String) : String := "\"" ++ name ++ "\""

/-- The union of some types. -/
def unionOf (types : List String) : String := " | ".intercalate types

namespace Style

/-- The type inside the wrappers: the type names it can hold, the target type of a scalar, or the
name itself. -/
def baseType (s : Style) (p : Slot) : Value :=
  if !p.typenames.isEmpty then .string (unionOf (p.typenames.map quoteName))
  else if !p.isNested && p.kind = .scalar then
    (s.primitives.find? p.descriptor.name).getD (.string p.descriptor.name)
  else .string p.descriptor.name

/-- What is put behind a type to admit null. -/
def nullSuffix : String := " | null"

/-- The characters that are added to a list in order to admit null. -/
def nullItems : List Value := nullSuffix.toList.map fun c => .string (String.singleton c)

/-- A type with null, where null is admitted.  Only texts and lists can be added to. -/
def orNullValue (nullable : Bool) (type : Value) : Except Failure Value :=
  match nullable, type with
  | false, v => .ok v
  | true, .string t => .ok (.string (orNull true t))
  | true, .list items => .ok (.list (items ++ nullItems))
  | true, .undefined => .error .undefinedUsed
  | true, _ => .error .wrongOperand

/-- Whether a value is one of the marks that ask for parentheses. -/
def isUnionMark : Value → Bool
  | .string t => t = "|" || t = "&"
  | _ => false

/-- Whether a type has to be put in parentheses before brackets may follow it.  In a list or an
object one looks for the marks themselves; other values cannot be looked at. -/
def needsParenthesesValue : Value → Except Failure Bool
  | .string t => .ok (needsParentheses t)
  | .list items => .ok (items.any isUnionMark)
  | .object entries => .ok (entries.any fun e => isUnionMark (.string e.1))
  | .undefined => .ok false
  | _ => .error .wrongOperand

/-- The text of a type; one that is missing has none. -/
def typeText : Value → String
  | .undefined => ""
  | v => v.text

/-- An array of a type. -/
def arrayOfValue (immutable : Bool) (item : Value) : Except Failure Value := do
  let t := typeText item
  if immutable then return .string (arrayOf true t)
  else if ← needsParenthesesValue item then return .string ("(" ++ t ++ ")[]")
  else return .string (t ++ "[]")

/-- The type of a descriptor around a base type that need not be a text. -/
def wrapValue (base : Value) (immutable : Bool) : Descriptor → Except Failure Value
  | ⟨_, nullable, true, some item⟩ => do
    orNullValue nullable (← arrayOfValue immutable (← wrapValue base immutable item))
  | ⟨_, nullable, _, _⟩ => orNullValue nullable base

end Style

/-- A computation in a style whose primitives can change: a list among them keeps what is added to
it when a type is written. -/
abbrev Styled := StateT Style (Except Failure)

namespace Style

/-- Whether null is admitted directly around the base type. -/
def admitsNullInside : Descriptor → Bool
  | ⟨_, _, true, some item⟩ => admitsNullInside item
  | ⟨_, nullable, _, _⟩ => nullable

/-- The style after a type has been written around a base type. -/
def after (s : Style) (p : Slot) : Value → Style
  | .list items =>
    if admitsNullInside p.descriptor then
      { s with primitives := s.primitives.insert p.descriptor.name (.list (items ++ nullItems)) }
    else s
  | _ => s

/-- The whole type of a property. -/
def convertedType (p : Slot) : Styled Value := do
  let s ← get
  match s.baseType p with
  | .string base => return .string (wrapType base s.immutable p.descriptor)
  | base =>
    let type ← wrapValue base s.immutable p.descriptor
    set (s.after p base)
    return type

/-- Whether a property gets an optional marker. -/
def isOptional (s : Style) (p : Slot) : Bool := p.descriptor.nullable && !s.avoidOptionals

/-- The optional marker of a property. -/
def optionalMark (s : Style) (p : Slot) : String := if s.isOptional p then "?" else ""

/-- The name of a property with its markers. -/
def label (s : Style) (p : Slot) : String := s.readonly ++ p.name ++ s.optionalMark p

/-- The declaration of a property. -/
def declaration (p : Slot) : Styled String := do
  let label := (← get).label p
  return label ++ ": " ++ (← convertedType p).text ++ ";"

end Style

/-! ### All parts of a property -/

/-- The parts from which a property is written, side by side. -/
structure PropertyParts where
  base : Value
  converted : Value
  optional : String
  declaration : String
deriving Inhabited

/-- The parts of a property, written one after another.  A list among the primitives is shown as it
is in the end. -/
def PropertyParts.ofSlot (p : Slot) : Styled PropertyParts := do
  let converted ← Style.convertedType p
  let optional := (← get).optionalMark p
  let declaration ← Style.declaration p
  let base := (← get).baseType p
  let converted := match converted with
    | .list _ => base
    | v => v
  return { base, converted, optional, declaration }

end TypeScript

end GraphScribe
