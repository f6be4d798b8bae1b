import GraphScribe.TypeScript.Property

/-!
# Object types for shapes

An `ObjectExpr` is the object type of a shape, in which the shapes below stand either by name or
as object types in place.  `Shape.namedParts` gives the first form and `Shape.inPlace` the second;
`ObjectExpr.text` writes an object type in one line and `ObjectExpr.lines` over several lines.
-/

namespace GraphScribe.TypeScript

mutual

/-- An object type: the name of a definition, or a body with the marker and the type of its
discriminator, its properties, the namespaces of the fragments it is combined with, and its
alternatives. -/
inductive ObjectExpr where
  | named (name : String)
  | body (marker : String) (discriminates : Bool) (typename : String)
      (properties : List PropertyExpr) (spreads : List String) (alternatives : List ObjectExpr)

/-- A property with its label, and with a type or with wrappers around an object type. -/
inductive PropertyExpr where
  | plain (label type : String)
  | nested (label : String) (descriptor : Descriptor) (immutable : Bool) (type : ObjectExpr)

end

instance : Inhabited ObjectExpr := ⟨.named ""⟩

instance : Inhabited PropertyExpr := ⟨.plain "" ""⟩

/-! ### Writing -/

/-- The fragments with which a body is combined. -/
def spreadTexts (spreads : List String) : String :=
  String.join (spreads.map fun n => " & " ++ n ++ ".Fragment")

/-- The alternatives with which a body is combined. -/
def alternativeTexts (alternatives : List String) : String :=
  if alternatives.isEmpty then "" else " & (" ++ unionOf alternatives ++ ")"

/-- The declaration of the discriminator. -/
def typenameText (marker : String) (discriminates : Bool) (typename : String) : String :=
  marker ++ "__typename" ++ (if discriminates then "" else "?") ++ ": " ++ typename ++ ";"

mutual

/-- An object type in one line. -/
def ObjectExpr.text : ObjectExpr → String
  | .named name => name
  | .body marker discriminates typename properties spreads alternatives =>
    "\x7b " ++ typenameText marker discriminates typename ++ " " ++
      String.join ((propertyTexts properties).map fun t => t ++ " ") ++ "\x7d" ++
      spreadTexts spreads ++ alternativeTexts (objectTexts alternatives)

/-- A property. -/
def PropertyExpr.text : PropertyExpr → String
  | .plain label type => label ++ ": " ++ type ++ ";"
  | .nested label descriptor immutable type =>
    label ++ ": " ++ wrapType type.text immutable descriptor ++ ";"

/-- Some object types. -/
def objectTexts : List ObjectExpr → List String
  | [] => []
  | o :: rest => o.text :: objectTexts rest

/-- Some properties. -/
def propertyTexts : List PropertyExpr → List String
  | [] => []
  | p :: rest => p.text :: propertyTexts rest

end

/-- The body of a definition, over several lines. -/
def ObjectExpr.lines : ObjectExpr → String
  | .named name => name
  | .body marker discriminates typename properties spreads alternatives =>
    "\x7b\n    " ++ typenameText marker discriminates typename ++ "\n" ++
      String.join ((propertyTexts properties).map fun t => "    " ++ t ++ "\n") ++ "  \x7d" ++
      spreadTexts spreads ++ alternativeTexts (objectTexts alternatives)

/-- The definition of an object type in a namespace. -/
def exportText (name type : String) : String :=
  "  export type " ++ name ++ " = " ++ type ++ "\n\n"

/-! ### The discriminator -/

/-- The type of a discriminator that can have some type names. -/
def literalUnion (names : List String) : String :=
  if names.isEmpty then "string" else unionOf (names.map quoteName)

/-- The type of the discriminator of a shape: by reference to the shapes of its inline fragments,
where these can be referred to, else spelled out. -/
def typenameType (byName : Bool) (s : Shape) : String :=
  if byName && !s.typename.references.isEmpty then
    unionOf (s.typename.references.map fun n => n ++ "[\"__typename\"]")
  else
    literalUnion s.discriminators

end TypeScript

open TypeScript

namespace Shape

/-- The namespaces of the fragments that a shape spreads. -/
def spreadSpaces (s : Shape) : List String := s.spreads.map FragmentReference.space

/-- The property of a slot whose type is written in full. -/
def plainProperty (label : String) (slot : Slot) : Styled PropertyExpr := do
  return .plain label (← Style.convertedType slot).text

/-- The property of a slot whose type stands by name or in place. -/
def nestedProperty (label : String) (p : Property) (type : ObjectExpr) : Styled PropertyExpr := do
  return .nested label p.descriptor (← get).immutable type

/-- The property of a shape, in which the shape below stands by name. -/
def namedProperty (p : Property) (below : Option Shape) : Styled PropertyExpr := do
  let slot := p.slot below.isSome
  let label := (← get).label slot
  match below with
  | none => plainProperty label slot
  | some _ => nestedProperty label p (.named p.descriptor.name)

/-- The object type of a shape, in which the shapes below stand by name. -/
def namedParts (marker : String) (s : Shape) : Styled ObjectExpr := do
  let properties ← s.properties.mapM fun p => namedProperty p.1 p.2
  return .body marker s.typenameSelected (typenameType true s) properties s.spreadSpaces
    (s.inlineFragments.map fun f => .named f.name)

/-- The name of a property in place, with its markers. -/
def labelInPlace (marker : String) (slot : Slot) : Styled String := do
  return marker ++ slot.name ++ (← get).optionalMark slot

mutual

/-- The object type of a shape, in which the shapes below stand in place. -/
def inPlace (marker : String) : Shape → Styled ObjectExpr
  | mk name typeName typename selected members => do
    let s := mk name typeName typename selected members
    let properties ← propertiesInPlace marker members
    return .body marker selected (typenameType false s) properties s.spreadSpaces
      (← alternativesInPlace marker members)

/-- The properties among some members. -/
def propertiesInPlace (marker : String) : List Member → Styled (List PropertyExpr)
  | [] => return []
  | m :: rest => do
    let p? ← propertyInPlace marker m
    return p?.toList ++ (← propertiesInPlace marker rest)

/-- The property that a member is. -/
def propertyInPlace (marker : String) : Member → Styled (Option PropertyExpr)
  | .leaf p => do
    let label ← labelInPlace marker (p.slot false)
    return some (← plainProperty label (p.slot false))
  | .nested p s => do
    let label ← labelInPlace marker (p.slot true)
    return some (← nestedProperty label p (← inPlace marker s))
  | .spread _ => return none
  | .inline _ => return none

/-- The alternatives among some members. -/
def alternativesInPlace (marker : String) : List Member → Styled (List ObjectExpr)
  | [] => return []
  | m :: rest => do
    let o? ← alternativeInPlace marker m
    return o?.toList ++ (← alternativesInPlace marker rest)

/-- The alternative that a member is. -/
def alternativeInPlace (marker : String) : Member → Styled (Option ObjectExpr)
  | .leaf _ => return none
  | .nested _ _ => return none
  | .spread _ => return none
  | .inline s => do return some (← inPlace marker s)

end

/-- The definition of a shape over several lines, with the shapes below by name. -/
def flattenedText (marker : String) (s : Shape) : Styled String := do
  return exportText s.name (← s.namedParts marker).lines

/-- The definition of a shape in one line, with the shapes below in place. -/
def inlinedText (marker : String) (s : Shape) : Styled String := do
  return exportText s.name (← s.inPlace marker).text

/-- The definition of a shape.  The marker stands in front of what cannot be assigned. -/
def definitionText (flatten : Bool) (marker : String) (s : Shape) : Styled String :=
  if flatten then s.flattenedText marker else s.inlinedText marker

end Shape

end GraphScribe
