import GraphScribe.Template.Parts
import GraphScribe.Value.Text

/-!
# Data as text

`Datum.text` is what a template writes for a datum.  Texts stand for themselves; everything else is
written in the notation of `Datum.quoted`, in which a node is a record that lists its parts in a
fixed order.
-/

namespace GraphScribe

/-! ### Notation -/

namespace Notation

/-- A text in quotes, or the word for its absence. -/
def text? : Option String → String
  | none => Value.null.quoted
  | some s => Value.quote s

/-- The word for a truth value. -/
def bool (b : Bool) : String := (Value.bool b).quoted

/-- A list of what is written already. -/
def list (items : List String) : String := "[" ++ ", ".intercalate items ++ "]"

/-- A row of what is written already; a single item is followed by a comma. -/
def row : List String → String
  | [item] => "(" ++ item ++ ",)"
  | items => "(" ++ ", ".intercalate items ++ ")"

/-- A mapping of what is written already. -/
def mapping (entries : List (String × String)) : String :=
  "\x7b" ++ ", ".intercalate (entries.map fun e => e.1 ++ ": " ++ e.2) ++ "\x7d"

/-- Some texts as a list. -/
def texts (ss : List String) : String := list (ss.map Value.quote)

/-- Some texts in a row. -/
def textRow (ss : List String) : String := row (ss.map Value.quote)

/-- A registry of what is written by `write`. -/
def registryText {α : Type} (write : α → String) (m : Assoc α) : String :=
  mapping (m.map fun e => (Value.quote e.1, write e.2))

/-- A record: its kind, and its parts with their names. -/
def record (kind : String) (parts : List (String × String)) : String :=
  kind ++ "(" ++ ", ".intercalate (parts.map fun p => p.1 ++ "=" ++ p.2) ++ ")"

end Notation

open Notation

/-! ### The model -/

/-- A kind as a record shows it. -/
def Kind.quoted (k : Kind) : String :=
  "<TypeKind." ++ Template.kindTitle k ++ ": " ++ Value.quote k.word ++ ">"

/-- The record of a descriptor, with that of its items. -/
def Descriptor.quoted : Descriptor → String
  | ⟨name, nullable, isList, none⟩ =>
    record "TypeDescriptor" [("name", Value.quote name), ("is_nullable", bool nullable),
      ("is_list", bool isList), ("item", Value.null.quoted)]
  | ⟨name, nullable, isList, some item⟩ =>
    record "TypeDescriptor" [("name", Value.quote name), ("is_nullable", bool nullable),
      ("is_list", bool isList), ("item", item.quoted)]

/-- The record of a directive that is applied. -/
def DirectiveUsage.quoted (u : DirectiveUsage) : String :=
  record "DirectiveUsage" [("name", Value.quote u.name),
    ("arguments", (Value.object u.arguments).quoted)]

/-- Some directives that are applied. -/
def quotedUsages (us : List DirectiveUsage) : String := list (us.map DirectiveUsage.quoted)

/-- The record of an argument. -/
def Argument.quoted (a : Argument) : String :=
  record "Argument" [("name", Value.quote a.name), ("descriptor", a.descriptor.quoted),
    ("kind", a.kind.quoted), ("description", text? a.description),
    ("default_value", text? a.default), ("directives", quotedUsages a.directives)]

/-- The record of a field. -/
def Field.quoted (f : Field) : String :=
  record "Field" [("name", Value.quote f.name), ("descriptor", f.descriptor.quoted),
    ("kind", f.kind.quoted), ("description", text? f.description),
    ("arguments", list (f.arguments.map Argument.quoted)),
    ("directives", quotedUsages f.directives), ("deprecation_reason", text? f.deprecation),
    ("default_value", text? f.default)]

/-- Some fields. -/
def quotedFields (fs : List Field) : String := list (fs.map Field.quoted)

/-- The record of an enum value. -/
def EnumValue.quoted (v : EnumValue) : String :=
  record "EnumValue" [("name", Value.quote v.name), ("description", text? v.description),
    ("deprecation_reason", text? v.deprecation), ("directives", quotedUsages v.directives)]

/-- A record with a description and directives behind its other parts. -/
def describedRecord (kind : String) (parts : List (String × String)) (description : Option String)
    (directives : List DirectiveUsage) : String :=
  record kind (parts ++
    [("description", text? description), ("directives", quotedUsages directives)])

/-- The record of an object type. -/
def ObjectType.quoted (t : ObjectType) : String :=
  describedRecord "ObjectType" [("name", Value.quote t.name), ("fields", quotedFields t.fields),
    ("interfaces", texts t.interfaces)] t.description t.directives

/-- The record of an interface type. -/
def InterfaceType.quoted (t : InterfaceType) : String :=
  describedRecord "InterfaceType" [("name", Value.quote t.name), ("fields", quotedFields t.fields),
    ("implementations", texts t.implementations)] t.description t.directives

/-- The record of a union type. -/
def UnionType.quoted (t : UnionType) : String :=
  describedRecord "UnionType" [("name", Value.quote t.name), ("types", texts t.members)]
    t.description t.directives

/-- The record of an enum type. -/
def EnumType.quoted (t : EnumType) : String :=
  describedRecord "EnumType" [("name", Value.quote t.name),
    ("values", list (t.values.map EnumValue.quoted))] t.description t.directives

/-- The record of a scalar type. -/
def ScalarType.quoted (t : ScalarType) : String :=
  describedRecord "ScalarType" [("name", Value.quote t.name)] t.description t.directives

/-- The record of an input type. -/
def InputType.quoted (t : InputType) : String :=
  describedRecord "InputType" [("name", Value.quote t.name), ("fields", quotedFields t.fields)]
    t.description t.directives

/-- The record of a declared type. -/
def NamedType.quoted : NamedType → String
  | object t => t.quoted
  | interface t => t.quoted
  | union t => t.quoted
  | enum t => t.quoted
  | scalar t => t.quoted
  | input t => t.quoted

/-- The record of an arguments type. -/
def ArgumentsType.quoted (t : ArgumentsType) : String :=
  describedRecord "ArgumentsType" [("name", Value.quote t.name),
    ("field_name", Value.quote t.fieldName), ("type_name", Value.quote t.typeName),
    ("fields", list (t.fields.map Argument.quoted))] t.description t.directives

/-- The record of a directive that is defined. -/
def DirectiveDefinition.quoted (d : DirectiveDefinition) : String :=
  record "DirectiveDefinition" [("name", Value.quote d.name), ("locations", texts d.locations),
    ("arguments", list (d.arguments.map Argument.quoted)), ("description", text? d.description)]

/-- The record of the model. -/
def Model.quoted (m : Model) : String :=
  record "SchemaContext" [("types", registryText ObjectType.quoted m.types),
    ("interfaces", registryText InterfaceType.quoted m.interfaces),
    ("unions", registryText UnionType.quoted m.unions),
    ("enums", registryText EnumType.quoted m.enums),
    ("scalars", registryText ScalarType.quoted m.scalars),
    ("inputs", registryText InputType.quoted m.inputs),
    ("argument_types", registryText ArgumentsType.quoted m.argumentTypes),
    ("query_type", text? m.queryType), ("mutation_type", text? m.mutationType),
    ("subscription_type", text? m.subscriptionType), ("directives", quotedUsages m.directives),
    ("defined_directives", registryText DirectiveDefinition.quoted m.definedDirectives)]

/-! ### Shapes -/

/-- The record of the type of a discriminator. -/
def Typename.quoted (t : Typename) : String :=
  record "Typename" [("literals", textRow t.literals), ("references", textRow t.references)]

/-- The record of a reference to a fragment. -/
def FragmentReference.quoted (r : FragmentReference) : String :=
  record "FragmentReference" [("name", Value.quote r.name), ("namespace", Value.quote r.space)]

/-- The record of a property with what is written for the shape below it. -/
def Property.quoted (p : Property) (below : Option String) : String :=
  record "ShapeField" [("name", Value.quote p.name), ("descriptor", p.descriptor.quoted),
    ("kind", p.kind.quoted), ("description", text? p.description),
    ("shape", below.getD Value.null.quoted), ("default_value", text? p.default),
    ("typename_literals", textRow p.typenames)]

namespace Shape

mutual

/-- The record of a shape, with those of the shapes below it. -/
def quoted : Shape → String
  | mk name typeName typename selected members =>
    record "Shape" [("name", Value.quote name), ("type_name", Value.quote typeName),
      ("typename", typename.quoted), ("fields", row (quotedProperties members)),
      ("fragment_spreads",
        row ((members.filterMap Member.spread?).map FragmentReference.quoted)),
      ("inline_fragments", row (quotedInline members)), ("nested", row (quotedNested members)),
      ("typename_selected", bool selected)]

/-- The properties among some members. -/
def quotedProperties : List Member → List String
  | [] => []
  | m :: rest => (quotedProperty m).toList ++ quotedProperties rest

/-- The property that a member is. -/
def quotedProperty : Member → Option String
  | .leaf p => some (p.quoted none)
  | .nested p s => some (p.quoted (some (quoted s)))
  | .spread _ => none
  | .inline _ => none

/-- The shapes of the inline fragments among some members. -/
def quotedInline : List Member → List String
  | [] => []
  | m :: rest => (quotedFragment m).toList ++ quotedInline rest

/-- The shape of the inline fragment that a member is. -/
def quotedFragment : Member → Option String
  | .leaf _ => none
  | .nested _ _ => none
  | .spread _ => none
  | .inline s => some (quoted s)

/-- The shapes directly below some members. -/
def quotedNested : List Member → List String
  | [] => []
  | m :: rest => (quotedBelow m).toList ++ quotedNested rest

/-- The shape directly below a member. -/
def quotedBelow : Member → Option String
  | .leaf _ => none
  | .nested _ s => some (quoted s)
  | .spread _ => none
  | .inline s => some (quoted s)

end

end Shape

/-- The record of some variables. -/
def quotedVariables (ps : List Property) : String :=
  record "Variables" [("fields", row (ps.map fun p => p.quoted none)),
    ("name", Value.quote Batch.variablesName)]

/-- The record of the namespace of an operation. -/
def OperationNamespace.quoted (o : OperationNamespace) : String :=
  record "OperationNamespace" [("name", Value.quote o.name), ("namespace", Value.quote o.space),
    ("kind", Value.quote o.kind.keyword), ("variables", quotedVariables o.variableProperties),
    ("root", o.root.quoted), ("is_anonymous", bool o.anonymous)]

/-- The record of the namespace of a fragment. -/
def FragmentNamespace.quoted (f : FragmentNamespace) : String :=
  record "FragmentNamespace" [("name", Value.quote f.name), ("namespace", Value.quote f.space),
    ("on_type", Value.quote f.on), ("root", f.root.quoted)]

/-- The record of a batch. -/
def Batch.quoted (b : Batch) : String :=
  record "DocumentContext" [("operations", row (b.operations.map OperationNamespace.quoted)),
    ("fragments", row (b.fragments.map FragmentNamespace.quoted))]

namespace Template

/-! ### Data -/

/-- What is written for a node inside lists and records. -/
def Node.quoted : Node → String
  | model m => m.quoted
  | type t => t.quoted
  | arguments t => t.quoted
  | directive d => d.quoted
  | field f => f.quoted
  | argument a => a.quoted
  | enumValue v => v.quoted
  | usage u => u.quoted
  | descriptor d => d.quoted
  | kind k => k.quoted
  | batch b => b.quoted
  | operation o => o.quoted
  | fragment f => f.quoted
  | variableSet ps => quotedVariables ps
  | shape s => s.quoted
  | property p below => p.quoted (below.map Shape.quoted)
  | spread r => r.quoted
  | typename t => t.quoted

/-- What is written for a node by itself. -/
def Node.text : Node → String
  | kind k => "TypeKind." ++ kindTitle k
  | n => n.quoted

namespace Datum

mutual

/-- What is written for a datum inside lists and mappings.  Nothing is written for what can only be
called. -/
def quoted : Datum → String
  | missing => Value.undefined.quoted
  | value v => v.quoted
  | node n => n.quoted
  | list items => Notation.list (quotedItems items)
  | row items => Notation.row (quotedItems items)
  | map entries => Notation.mapping (quotedEntries entries)
  | round i n _ _ => "<LoopContext " ++ toString (i + 1) ++ "/" ++ toString n ++ ">"
  | template name => "<TemplateReference " ++ Value.quote name ++ ">"
  | unset => "missing"
  | primitives => ""
  | operation _ _ => ""
  | function _ => ""

/-- What is written for some items. -/
def quotedItems : List Datum → List String
  | [] => []
  | d :: rest => quoted d :: quotedItems rest

/-- What is written for some entries. -/
def quotedEntries : List (Value × Datum) → List (String × String)
  | [] => []
  | (k, d) :: rest => (k.quoted, quoted d) :: quotedEntries rest

end

/-- What a template writes for a datum. -/
def text : Datum → String
  | missing => ""
  | value v => v.text
  | node n => n.text
  | d => d.quoted

end Datum

end Template

end GraphScribe
