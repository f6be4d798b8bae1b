import GraphScribe.NameTable
import GraphScribe.Naming
import GraphScribe.Selection.Groups
import GraphScribe.Shape.Basic

/-!
# From selections to shapes

`Walk.shape` builds the shape of a selection set on a type.  The walk visits the merged
selections in order, takes a name for each shape when it comes to it, and stops at the first
selection that does not fit the model; names taken before stay taken.
-/

namespace GraphScribe

/-- A step of a walk: it may take names, and keeps them taken if it fails. -/
abbrev Walk := ExceptT Failure (StateM NameTable)

/-- What a walk is made against: the model of the schema, and the namespace of each fragment. -/
structure WalkContext where
  model : Model
  fragments : Assoc String := []

namespace Walk

/-- The meta-field that answers with the name of a type. -/
def typenameField : String := "__typename"

/-- Takes a name behind as few underscores as make it free. -/
def claimUnique (name : String) : Walk String := fun table =>
  let (free, table) := table.claimUnique name
  (.ok free, table)

/-- Stops with a selection that does not fit. -/
def reject {α : Type} (cause : Mismatch) (site : String) : Walk α := throw (.mismatch cause site)

/-- Whether a selection is the meta-field under its own name. -/
def isPlainTypename : Selection → Bool
  | .field alias? name _ _ _ => name = typenameField && alias?.getD name = typenameField
  | _ => false

/-- The property of an aliased meta-field on a type. -/
def typenameProperty (model : Model) (typeName key : String) : Property :=
  { name := key
    descriptor := { name := "String", nullable := false }
    kind := .scalar
    typenames := model.possibleTypes typeName }

/-- The property that answers a field under a key. -/
def fieldProperty (f : Field) (key : String) : Property :=
  { name := key, descriptor := f.descriptor, kind := f.kind, description := f.description }

/-- The type of the discriminator of a shape with some members. -/
def typenameOf (model : Model) (typeName : String) (members : List Member) : Typename :=
  match members.filterMap Member.inline? with
  | [] => { literals := model.possibleTypes typeName }
  | fragments => { references := fragments.map Shape.name }

/-- The shape with some members, for a selection set on a type. -/
def shapeOf (model : Model) (name typeName : String) (ss : List Selection)
    (members : List Member) : Shape :=
  .mk name typeName (typenameOf model typeName members) (ss.any isPlainTypename) members

/-- The reference to a fragment that is spread. -/
def spreadReference (c : WalkContext) (name site : String) : Walk FragmentReference :=
  match c.fragments.find? name with
  | some ns => pure ⟨name, ns⟩
  | none => throw (.missingFragment name site)

mutual

/-- The members for merged selections on a type. -/
def members (c : WalkContext) (typeName site : String) : List Selection → Walk (List Member)
  | [] => pure []
  | s :: rest => do
    let m? ← member c typeName site s
    let ms ← members c typeName site rest
    pure (m?.toList ++ ms)

/-- The member for a merged selection on a type; the meta-field under its own name is none. -/
def member (c : WalkContext) (typeName site : String) : Selection → Walk (Option Member)
  | .field alias? name _ _ ss => do
    let key := alias?.getD name
    if name = typenameField then
      if key = typenameField then pure none
      else pure (some (.leaf (typenameProperty c.model typeName key)))
    else
      match c.model.field? typeName name with
      | none => reject (.undeclaredField typeName name) (site ++ "." ++ name)
      | some f =>
        let base := f.descriptor.name
        let below := site ++ "." ++ key
        if ss.isEmpty then
          if f.kind.isComposite then reject (.selectionMissing typeName name base) below
          else pure (some (.leaf (fieldProperty f key)))
        else if !f.kind.isComposite then reject (.selectionOnLeaf typeName name base) below
        else
          let shapeName ← claimUnique (Naming.capitalize key)
          let ms ← members c base below ss
          let p := fieldProperty f key
          pure (some (.nested { p with descriptor := p.descriptor.withName shapeName }
            (shapeOf c.model shapeName base ss ms)))
  | .spread name _ => do
    let r ← spreadReference c name site
    pure (some (.spread r))
  | .inline on? _ ss => do
    let on := on?.getD typeName
    if c.model.isComposite on then
      let shapeName ← claimUnique (Naming.inlineFragmentName on)
      let ms ← members c on site ss
      pure (some (.inline (shapeOf c.model shapeName on ss ms)))
    else reject (.inlineFragmentOnLeaf on) site

end

/-- The shape of a selection set on a type, under a name that is already taken.  `site` says
where the selection set stands, for failures. -/
def shape (c : WalkContext) (name typeName : String) (ss : List Selection) (site : String) :
    Walk Shape := do
  let merged := Selection.normalize ss
  let ms ← members c typeName site merged
  pure (shapeOf c.model name typeName merged ms)

end Walk

end GraphScribe
