import GraphScribe.Document.Literal
import GraphScribe.Document.TypeRef

/-!
# Documents

A `Document` is a list of definitions.  Executable definitions are operations and fragments,
whose `Selection`s name fields, spread fragments and branch on types; a selection set is
never empty, so an empty list stands for one that is absent.  Type-system definitions declare
a schema, its types and its directives (`TypeDeclaration`, `DirectiveDeclaration`), and may
extend what another definition declares.
-/

namespace GraphScribe

/-- A directive as it is applied. -/
structure Directive where
  name : String
  arguments : List (String × Literal) := []
deriving Inhabited

/-! ### Executable definitions -/

/-- A selection: a field with its own selections, a spread, or an inline fragment. -/
inductive Selection where
  | field (alias? : Option String) (name : String) (arguments : List (String × Literal))
      (directives : List Directive) (selections : List Selection)
  | spread (name : String) (directives : List Directive)
  | inline (on? : Option String) (directives : List Directive) (selections : List Selection)
deriving Inhabited

/-- The three kinds of operation. -/
inductive OperationKind where
  | query
  | mutation
  | subscription
deriving DecidableEq, Inhabited

namespace OperationKind

/-- The keyword of a kind of operation. -/
def keyword : OperationKind → String
  | query => "query"
  | mutation => "mutation"
  | subscription => "subscription"

/-- The kind with the given keyword. -/
def ofKeyword? : String → Option OperationKind
  | "query" => some query
  | "mutation" => some mutation
  | "subscription" => some subscription
  | _ => none

/-- All kinds of operation. -/
def all : List OperationKind := [query, mutation, subscription]

end OperationKind

/-- A variable that an operation declares. -/
structure VariableDeclaration where
  name : String
  type : TypeRef
  default : Option Literal := none
  directives : List Directive := []
deriving Inhabited

/-- An operation; an anonymous one has no name. -/
structure Operation where
  kind : OperationKind
  name : Option String := none
  variableDeclarations : List VariableDeclaration := []
  directives : List Directive := []
  selections : List Selection := []
deriving Inhabited

/-- A fragment on the values of a type. -/
structure Fragment where
  name : String
  on : String
  directives : List Directive := []
  selections : List Selection := []
deriving Inhabited

/-! ### Type-system definitions -/

/-- An argument, or a field of an input type. -/
structure InputDeclaration where
  name : String
  type : TypeRef
  description : Option String := none
  default : Option Literal := none
  directives : List Directive := []
deriving Inhabited

/-- A field of an object or interface type. -/
structure FieldDeclaration where
  name : String
  type : TypeRef
  description : Option String := none
  arguments : List InputDeclaration := []
  directives : List Directive := []
deriving Inhabited

/-- A value of an enum type. -/
structure EnumValueDeclaration where
  name : String
  description : Option String := none
  directives : List Directive := []
deriving Inhabited

/-- What a type definition declares besides name, description and directives. -/
inductive TypeBody where
  | scalar
  | object (interfaces : List String) (fields : List FieldDeclaration)
  | interface (interfaces : List String) (fields : List FieldDeclaration)
  | union (members : List String)
  | enum (values : List EnumValueDeclaration)
  | input (fields : List InputDeclaration)
deriving Inhabited

/-- The definition of a type, or an extension of one. -/
structure TypeDeclaration where
  name : String
  description : Option String := none
  directives : List Directive := []
  body : TypeBody
deriving Inhabited

/-- The definition of a schema, or an extension of it: the types at the roots of operations. -/
structure SchemaDeclaration where
  directives : List Directive := []
  roots : List (OperationKind × String) := []
deriving Inhabited

/-- The definition of a directive. -/
structure DirectiveDeclaration where
  name : String
  description : Option String := none
  arguments : List InputDeclaration := []
  repeatable : Bool := false
  locations : List String := []
deriving Inhabited

/-- A definition of a document. -/
inductive Definition where
  | operation (o : Operation)
  | fragment (f : Fragment)
  | schema (s : SchemaDeclaration)
  | type (t : TypeDeclaration)
  | directive (d : DirectiveDeclaration)
  | extendSchema (s : SchemaDeclaration)
  | extendType (t : TypeDeclaration)
deriving Inhabited

/-- A document: its definitions in order. -/
abbrev Document := List Definition

namespace TypeBody

/-- The word for the kind of type. -/
def keyword : TypeBody → String
  | scalar => "scalar"
  | object _ _ => "object"
  | interface _ _ => "interface"
  | union _ => "union"
  | enum _ => "enum"
  | input _ => "input_object"

end TypeBody

namespace Definition

/-- The directives applied to the definition as a whole. -/
def directives : Definition → List Directive
  | operation o => o.directives
  | fragment f => f.directives
  | schema s => s.directives
  | type t => t.directives
  | directive _ => []
  | extendSchema s => s.directives
  | extendType t => t.directives

/-- The name of what is defined. -/
def name? : Definition → Option String
  | operation o => o.name
  | fragment f => some f.name
  | schema _ => none
  | type t => some t.name
  | directive d => some d.name
  | extendSchema _ => none
  | extendType t => some t.name

/-- The place for a name: a definition of the schema has none, not even an empty one. -/
def nameSlot? : Definition → Option (Option String)
  | schema _ => none
  | extendSchema _ => none
  | d => some d.name?

/-- The operation, if it is one. -/
def operation? : Definition → Option Operation
  | operation o => some o
  | _ => none

/-- The fragment, if it is one. -/
def fragment? : Definition → Option Fragment
  | fragment f => some f
  | _ => none

/-- What is selected, by a definition that selects something. -/
def selections? : Definition → Option (List Selection)
  | operation o => some o.selections
  | fragment f => some f.selections
  | _ => none

end Definition

namespace Document

/-- The operations of a document, in order. -/
def operations (d : Document) : List Operation := d.filterMap Definition.operation?

/-- The fragments of a document, in order. -/
def fragments (d : Document) : List Fragment := d.filterMap Definition.fragment?

/-- What the first definition of a document selects, if it selects something. -/
def firstSelections? (d : Document) : Option (List Selection) :=
  d.head?.bind Definition.selections?

end Document

end GraphScribe
