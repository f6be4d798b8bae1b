import GraphScribe.Template.Operation
import GraphScribe.TypeScript.Property

/-!
# Parts of data

`Node.part?` gives the parts of a node under the names that templates use.  `Datum.member` looks a
name up among the parts and operations of a datum and then among its entries, and `Datum.item` the
other way round; `Datum.iterated` lists the items over which a loop runs.
-/

namespace GraphScribe.Template

open Datum

/-! ### Nodes -/

/-- The word for a kind in capitals. -/
def kindTitle : Kind → String
  | .scalar => "SCALAR"
  | .enum => "ENUM"
  | .object => "OBJECT"
  | .interface => "INTERFACE"
  | .union => "UNION"
  | .inputObject => "INPUT_OBJECT"

/-- The parts of a declared type that do not depend on its kind. -/
def commonParts (name : String) (description : Option String) (usages : List DirectiveUsage) :
    Assoc Datum :=
  [("name", string name), ("description", textOrNull description),
    ("directives", nodes .usage usages)]

/-- The parts of a declared type. -/
def typeParts (t : NamedType) : Assoc Datum :=
  ("kind", .node (.kind t.kind)) :: match t with
  | .object t =>
    commonParts t.name t.description t.directives ++
      [("fields", nodes .field t.fields), ("interfaces", strings t.interfaces)]
  | .interface t =>
    commonParts t.name t.description t.directives ++
      [("fields", nodes .field t.fields), ("implementations", strings t.implementations)]
  | .union t => commonParts t.name t.description t.directives ++ [("types", strings t.members)]
  | .enum t =>
    commonParts t.name t.description t.directives ++ [("values", nodes .enumValue t.values)]
  | .scalar t => commonParts t.name t.description t.directives
  | .input t => commonParts t.name t.description t.directives ++ [("fields", nodes .field t.fields)]

/-- The parts of the model. -/
def modelParts (m : Model) : Assoc Datum :=
  [("types", nodeMap (fun t => .type (.object t)) m.types),
    ("interfaces", nodeMap (fun t => .type (.interface t)) m.interfaces),
    ("unions", nodeMap (fun t => .type (.union t)) m.unions),
    ("enums", nodeMap (fun t => .type (.enum t)) m.enums),
    ("scalars", nodeMap (fun t => .type (.scalar t)) m.scalars),
    ("inputs", nodeMap (fun t => .type (.input t)) m.inputs),
    ("argument_types", nodeMap .arguments m.argumentTypes),
    ("query_type", textOrNull m.queryType), ("mutation_type", textOrNull m.mutationType),
    ("subscription_type", textOrNull m.subscriptionType),
    ("directives", nodes .usage m.directives),
    ("defined_directives", nodeMap .directive m.definedDirectives),
    ("has_types", bool (!m.types.isEmpty)), ("has_enums", bool (!m.enums.isEmpty))]

/-- The parts of a descriptor. -/
def descriptorParts (d : Descriptor) : Assoc Datum :=
  [("name", string d.name), ("is_nullable", bool d.nullable), ("is_list", bool d.isList),
    ("item", match d.item with
      | some item => .node (.descriptor item)
      | none => .value .null),
    ("is_required", bool d.isRequired), ("is_item_nullable", bool d.isItemNullable)]

/-- The parts of an argument, which a field has too. -/
def inputParts (name : String) (d : Descriptor) (kind : Kind) (description default : Option String)
    (usages : List DirectiveUsage) : Assoc Datum :=
  commonParts name description usages ++
    [("descriptor", .node (.descriptor d)), ("kind", .node (.kind kind)),
      ("default_value", textOrNull default)]

/-- The parts of a shape. -/
def shapeParts (s : Shape) : Assoc Datum :=
  [("name", string s.name), ("type_name", string s.typeName),
    ("typename", .node (.typename s.typename)),
    ("fields", nodeRow (fun p => .property p.1 p.2) s.properties),
    ("fragment_spreads", nodeRow .spread s.spreads),
    ("inline_fragments", nodeRow .shape s.inlineFragments), ("nested", nodeRow .shape s.nested),
    ("typename_selected", bool s.typenameSelected)]

/-- The parts of a property. -/
def propertyParts (p : Property) (below : Option Shape) : Assoc Datum :=
  [("name", string p.name), ("descriptor", .node (.descriptor p.descriptor)),
    ("kind", .node (.kind p.kind)), ("description", textOrNull p.description),
    ("shape", match below with
      | some s => .node (.shape s)
      | none => .value .null),
    ("default_value", textOrNull p.default), ("typename_literals", stringRow p.typenames),
    ("is_nested", bool below.isSome)]

/-- The parts of a kind, from which the other kinds can be reached. -/
def kindParts (k : Kind) : Assoc Datum :=
  ("name", string (kindTitle k)) :: ("value", string k.word) ::
    Kind.all.map fun other => (kindTitle other, .node (.kind other))

namespace Node

/-- The parts of a node. -/
def parts : Node → Assoc Datum
  | model m => modelParts m
  | type t => typeParts t
  | arguments t =>
    commonParts t.name t.description t.directives ++
      [("field_name", string t.fieldName), ("type_name", string t.typeName),
        ("fields", nodes .argument t.fields)]
  | directive d =>
    [("name", string d.name), ("locations", strings d.locations),
      ("arguments", nodes .argument d.arguments), ("description", textOrNull d.description)]
  | field f =>
    inputParts f.name f.descriptor f.kind f.description f.default f.directives ++
      [("arguments", nodes .argument f.arguments), ("deprecation_reason", textOrNull f.deprecation),
        ("has_arguments", bool (!f.arguments.isEmpty))]
  | argument a => inputParts a.name a.descriptor a.kind a.description a.default a.directives
  | enumValue v =>
    commonParts v.name v.description v.directives ++
      [("value", string v.name), ("deprecation_reason", textOrNull v.deprecation)]
  | usage u => [("name", string u.name), ("arguments", .value (.object u.arguments))]
  | descriptor d => descriptorParts d
  | kind k => kindParts k
  | batch b =>
    [("operations", nodeRow .operation b.operations), ("fragments", nodeRow .fragment b.fragments),
      ("has_operations", bool (!b.operations.isEmpty)),
      ("has_fragments", bool (!b.fragments.isEmpty))]
  | operation o =>
    [("name", string o.name), ("namespace", string o.space), ("kind", string o.kind.keyword),
      ("variables", .node (.variableSet o.variableProperties)), ("root", .node (.shape o.root)),
      ("is_anonymous", bool o.anonymous), ("shapes", nodeRow .shape o.root.shapes)]
  | fragment f =>
    [("name", string f.name), ("namespace", string f.space), ("on_type", string f.on),
      ("root", .node (.shape f.root)), ("shapes", nodeRow .shape f.root.shapes)]
  | variableSet ps =>
    [("fields", nodeRow (fun p => .property p none) ps), ("name", string Batch.variablesName)]
  | shape s => shapeParts s
  | property p below => propertyParts p below
  | spread r => [("name", string r.name), ("namespace", string r.space)]
  | typename t => [("literals", stringRow t.literals), ("references", stringRow t.references)]

/-- The part of a node under a name. -/
def part? (n : Node) (name : String) : Option Datum := n.parts.find? name

/-- Whether a node can be a key of a mapping: kinds, descriptors and what operations and fragments
are made into can. -/
def isKey : Node → Bool
  | descriptor _ => true
  | kind _ => true
  | batch _ => true
  | operation _ => true
  | fragment _ => true
  | variableSet _ => true
  | shape _ => true
  | property _ _ => true
  | spread _ => true
  | typename _ => true
  | _ => false

/-- What a property declaration shows of a node. -/
def slot? : Node → Option TypeScript.Slot
  | field f => some f.slot
  | argument a => some a.slot
  | property p below => some (p.slot below.isSome)
  | _ => none

/-- The directives applied to a node. -/
def usages : Node → List DirectiveUsage
  | model m => m.directives
  | type (.object t) => t.directives
  | type (.interface t) => t.directives
  | type (.union t) => t.directives
  | type (.enum t) => t.directives
  | type (.scalar t) => t.directives
  | type (.input t) => t.directives
  | arguments t => t.directives
  | field f => f.directives
  | argument a => a.directives
  | enumValue v => v.directives
  | _ => []

end Node

/-! ### Values and loops -/

/-- The parts of an integer. -/
def integerPart? (n : Int) : String → Option Value
  | "real" => some (.int n)
  | "imag" => some (.int 0)
  | "numerator" => some (.int n)
  | "denominator" => some (.int 1)
  | _ => none

/-- The parts of a value, which only numbers have. -/
def valuePart? : Value → String → Option Value
  | .bool b, name => integerPart? (if b then 1 else 0) name
  | .int n, name => integerPart? n name
  | .float x, "real" => some (.float x)
  | .float _, "imag" => some (.float (Double.ofMagnitude false 0))
  | _, _ => none

/-- What a loop tells its body about the item at place `i` of `n`. -/
def roundParts (i n : Nat) (previous next : Datum) : Assoc Datum :=
  [("index", nat (i + 1)), ("index0", nat i), ("revindex", nat (n - i)),
    ("revindex0", nat (n - i - 1)), ("first", bool (i = 0)), ("last", bool (i + 1 = n)),
    ("length", nat n), ("depth", nat 1), ("depth0", nat 0), ("previtem", previous),
    ("nextitem", next)]

namespace Datum

/-! ### Parts and entries -/

/-- The part or operation of a datum under a name. -/
def attribute? (d : Datum) (name : String) : Option Datum :=
  let part? := match d with
    | value v => (valuePart? v name).map value
    | node n => n.part? name
    | round i n previous next => (roundParts i n previous next).find? name
    | _ => none
  part? <|> if d.hasOperation name then some (operation d name) else none

/-- The item of a list at an index, counted from the end if it is negative. -/
def atIndex {α : Type} (items : List α) (i : Int) : Option α :=
  if 0 ≤ i then items[i.toNat]? else items.reverse[(-i).toNat - 1]?

mutual

/-- Whether a datum can be a key of a mapping: lists, mappings and what can change cannot. -/
def isKey : Datum → Bool
  | value .undefined => true
  | value v => v.key?.isSome
  | node n => n.isKey
  | list _ => false
  | map _ => false
  | row items => areKeys items
  | _ => true

/-- Whether some data can all be keys of a mapping. -/
def areKeys : List Datum → Bool
  | [] => true
  | d :: rest => isKey d && areKeys rest

end

/-- The place that an index names. -/
def place? : Datum → Option Int
  | value (.int i) => some i
  | value (.bool b) => some (if b then 1 else 0)
  | _ => none

/-- The entry of a datum at an index: at a place of a list or text, or under a key of a mapping. -/
def entry? (d index : Datum) : Option Datum :=
  match d, index with
  | value (.list items), index => index.place?.bind fun i => (atIndex items i).map value
  | value (.string s), index =>
    index.place?.bind fun i => (atIndex (Surrogate.split s) i).map string
  | value (.object entries), value (.string name) => (Assoc.find? entries name).map value
  | list items, index => index.place?.bind (atIndex items)
  | row items, index => index.place?.bind (atIndex items)
  | map entries, value key => if key.key?.isSome then Table.find? entries key else none
  | _, _ => none

/-- What a datum has under a name: a part or an operation, or else an entry.  What is missing has
nothing, not even that. -/
def member (d : Datum) (name : String) : Except Failure Datum :=
  match d with
  | missing => .error .undefinedUsed
  | d => .ok ((d.attribute? name <|> d.entry? (string name)).getD missing)

/-- What a datum has at an index: an entry, or else, under a name, a part or an operation. -/
def item (d index : Datum) : Except Failure Datum :=
  match d with
  | missing => .error .undefinedUsed
  | d =>
    let attribute? := match index with
      | value (.string name) => d.attribute? name
      | _ => none
    .ok ((d.entry? index <|> attribute?).getD missing)

/-! ### Items -/

/-- The items over which a loop runs.  A template takes any place for the name of a part, but has no
parts. -/
def iterated : Datum → Except Failure (List Datum)
  | missing => .ok []
  | template _ => .error (.keyMissing "0")
  | list items => .ok items
  | row items => .ok items
  | map entries => .ok (entries.map fun e => value e.1)
  | value (.list items) => .ok (items.map value)
  | value (.object entries) => .ok (entries.map fun e => string e.1)
  | value (.string s) => .ok ((Surrogate.split s).map string)
  | _ => .error .wrongOperand

/-! ### Directives -/

/-- The directives applied to a datum. -/
def usages : Datum → Except Failure (List DirectiveUsage)
  | missing => .error .undefinedUsed
  | node n => .ok n.usages
  | _ => .ok []

end Datum

end GraphScribe.Template
