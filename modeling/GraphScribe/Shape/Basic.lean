import GraphScribe.Model.Basic

/-!
# Result shapes

A `Shape` describes the objects that answer one selection set.  Its members stand in the order
of the selections: properties, of which composite ones carry the shape below them, spreads of
fragments, and inline fragments with shapes of their own.  `Shape.shapes` lists a shape and all
shapes below it, and `Shape.discriminators` the type names that its `__typename` can have.
-/

namespace GraphScribe

/-- The type of the `__typename` of a shape: names of object types, or the shapes of inline
fragments whose own type names it takes over. -/
structure Typename where
  literals : List String := []
  references : List String := []
deriving DecidableEq, Inhabited

/-- A fragment and the namespace that exports its shape. -/
structure FragmentReference where
  name : String
  space : String
deriving DecidableEq, Inhabited

/-- A property of a shape, or a variable of an operation.  The property of an aliased
`__typename` lists the type names it can hold. -/
structure Property where
  name : String
  descriptor : Descriptor
  kind : Kind
  description : Option String := none
  default : Option String := none
  typenames : List String := []
deriving Inhabited

mutual

/-- The objects that answer one selection set. -/
inductive Shape where
  | mk (name typeName : String) (typename : Typename) (typenameSelected : Bool)
      (members : List Member)

/-- A member of a shape: a property without or with a shape below it, a spread, or an inline
fragment. -/
inductive Member where
  | leaf (p : Property)
  | nested (p : Property) (s : Shape)
  | spread (r : FragmentReference)
  | inline (s : Shape)

end

instance : Inhabited Shape := ⟨.mk "" "" {} false []⟩

instance : Inhabited Member := ⟨.leaf default⟩

namespace Member

/-- The property that a member is, with the shape below it. -/
def property? : Member → Option (Property × Option Shape)
  | leaf p => some (p, none)
  | nested p s => some (p, some s)
  | spread _ => none
  | inline _ => none

/-- The fragment that a member spreads. -/
def spread? : Member → Option FragmentReference
  | spread r => some r
  | _ => none

/-- The shape of the inline fragment that a member is. -/
def inline? : Member → Option Shape
  | inline s => some s
  | _ => none

/-- The shape directly below a member. -/
def shape? : Member → Option Shape
  | nested _ s => some s
  | inline s => some s
  | _ => none

end Member

namespace Shape

/-- The name of a shape in its namespace. -/
def name : Shape → String
  | mk name _ _ _ _ => name

/-- The type on which the selections of a shape stand. -/
def typeName : Shape → String
  | mk _ typeName _ _ _ => typeName

/-- The type of the `__typename` of a shape. -/
def typename : Shape → Typename
  | mk _ _ typename _ _ => typename

/-- Whether `__typename` is selected under its own name. -/
def typenameSelected : Shape → Bool
  | mk _ _ _ selected _ => selected

/-- The members of a shape. -/
def members : Shape → List Member
  | mk _ _ _ _ members => members

/-- The properties of a shape, with the shapes below them. -/
def properties (s : Shape) : List (Property × Option Shape) := s.members.filterMap Member.property?

/-- The fragments that a shape spreads. -/
def spreads (s : Shape) : List FragmentReference := s.members.filterMap Member.spread?

/-- The inline fragments of a shape. -/
def inlineFragments (s : Shape) : List Shape := s.members.filterMap Member.inline?

/-- The shapes directly below a shape. -/
def nested (s : Shape) : List Shape := s.members.filterMap Member.shape?

mutual

/-- The shape and all shapes below it, each before those below it. -/
def shapes : Shape → List Shape
  | mk name typeName typename selected members =>
    mk name typeName typename selected members :: memberShapes members

/-- The shapes in and below some members. -/
def memberShapes : List Member → List Shape
  | [] => []
  | m :: rest => shapesOfMember m ++ memberShapes rest

/-- The shapes in and below a member. -/
def shapesOfMember : Member → List Shape
  | .leaf _ => []
  | .nested _ s => shapes s
  | .spread _ => []
  | .inline s => shapes s

end

/-- Adds those of `more` that are not yet listed, in order. -/
def addNew (names more : List String) : List String :=
  more.foldl (fun names n => if n ∈ names then names else names ++ [n]) names

mutual

/-- The type names that the `__typename` of a shape can have, collected from its inline
fragments if it refers to them. -/
def discriminators : Shape → List String
  | mk _ _ typename _ members =>
    if typename.references.isEmpty then typename.literals else memberDiscriminators [] members

/-- The type names that the inline fragments among some members add to `names`. -/
def memberDiscriminators (names : List String) : List Member → List String
  | [] => names
  | m :: rest => memberDiscriminators (addNew names (discriminatorsOfMember m)) rest

/-- The type names of an inline fragment. -/
def discriminatorsOfMember : Member → List String
  | .leaf _ => []
  | .nested _ _ => []
  | .spread _ => []
  | .inline s => discriminators s

end

end Shape

end GraphScribe
