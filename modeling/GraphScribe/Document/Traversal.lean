import GraphScribe.Document.Basic

/-!
# What occurs in a document

The functions of this module list all occurrences of something in a document, however deep:
`Document.applied` the directives with the place at which they stand, `Document.typeNames` the
names of types that are referred to, `Document.argumentLists` the arguments that are given
together, and `Document.literals` the values.
-/

namespace GraphScribe

/-- Directives applied to one thing, and the sort of place that it is. -/
structure Applied where
  location : String
  directives : List Directive

/-! ### Selections -/

mutual

/-- The directives applied within a selection. -/
def Selection.applied : Selection → List Applied
  | .field _ _ _ ds ss => ⟨"FIELD", ds⟩ :: Selection.appliedAll ss
  | .spread _ ds => [⟨"FRAGMENT_SPREAD", ds⟩]
  | .inline _ ds ss => ⟨"INLINE_FRAGMENT", ds⟩ :: Selection.appliedAll ss

/-- The directives applied within some selections. -/
def Selection.appliedAll : List Selection → List Applied
  | [] => []
  | s :: rest => s.applied ++ Selection.appliedAll rest

end

mutual

/-- The type conditions within a selection. -/
def Selection.conditions : Selection → List String
  | .field _ _ _ _ ss => Selection.conditionsAll ss
  | .spread _ _ => []
  | .inline on? _ ss => on?.toList ++ Selection.conditionsAll ss

/-- The type conditions within some selections. -/
def Selection.conditionsAll : List Selection → List String
  | [] => []
  | s :: rest => s.conditions ++ Selection.conditionsAll rest

end

mutual

/-- The arguments of the fields within a selection. -/
def Selection.fieldArguments : Selection → List (List (String × Literal))
  | .field _ _ args _ ss => args :: Selection.fieldArgumentsAll ss
  | .spread _ _ => []
  | .inline _ _ ss => Selection.fieldArgumentsAll ss

/-- The arguments of the fields within some selections. -/
def Selection.fieldArgumentsAll : List Selection → List (List (String × Literal))
  | [] => []
  | s :: rest => s.fieldArguments ++ Selection.fieldArgumentsAll rest

end

/-! ### Definitions -/

/-- The place that a definition or extension of a type is. -/
def TypeBody.location : TypeBody → String
  | .scalar => "SCALAR"
  | .object _ _ => "OBJECT"
  | .interface _ _ => "INTERFACE"
  | .union _ => "UNION"
  | .enum _ => "ENUM"
  | .input _ => "INPUT_OBJECT"

/-- The fields that a type body declares. -/
def TypeBody.fields : TypeBody → List FieldDeclaration
  | .object _ fs => fs
  | .interface _ fs => fs
  | _ => []

/-- The interfaces that a type body names. -/
def TypeBody.interfaces : TypeBody → List String
  | .object is _ => is
  | .interface is _ => is
  | _ => []

/-- The members that a type body names. -/
def TypeBody.members : TypeBody → List String
  | .union ms => ms
  | _ => []

/-- The enum values that a type body declares. -/
def TypeBody.values : TypeBody → List EnumValueDeclaration
  | .enum vs => vs
  | _ => []

/-- The input fields that a type body declares. -/
def TypeBody.inputFields : TypeBody → List InputDeclaration
  | .input fs => fs
  | _ => []

/-- The directives applied to arguments or input fields that stand at a place. -/
def InputDeclaration.applied (location : String) (i : InputDeclaration) : Applied :=
  ⟨location, i.directives⟩

/-- The directives applied to a field and its arguments. -/
def FieldDeclaration.applied (f : FieldDeclaration) : List Applied :=
  ⟨"FIELD_DEFINITION", f.directives⟩ ::
    f.arguments.map (InputDeclaration.applied "ARGUMENT_DEFINITION")

/-- The directives applied within a type body.  The fields that an extension adds to an input
type count as arguments. -/
def TypeBody.applied (extension : Bool) (b : TypeBody) : List Applied :=
  b.fields.flatMap FieldDeclaration.applied ++
    (b.values.map fun v => ⟨"ENUM_VALUE", v.directives⟩) ++
    b.inputFields.map (InputDeclaration.applied
      (if extension then "ARGUMENT_DEFINITION" else "INPUT_FIELD_DEFINITION"))

/-- The place that an operation is. -/
def OperationKind.location : OperationKind → String
  | .query => "QUERY"
  | .mutation => "MUTATION"
  | .subscription => "SUBSCRIPTION"

/-- The directives applied below a definition, to parts of it. -/
def Definition.appliedBelow : Definition → List Applied
  | .operation o =>
    (o.variableDeclarations.map fun v => ⟨"VARIABLE_DEFINITION", v.directives⟩) ++
      Selection.appliedAll o.selections
  | .fragment f => Selection.appliedAll f.selections
  | .schema _ => []
  | .type t => t.body.applied false
  | .directive d => d.arguments.map (InputDeclaration.applied "ARGUMENT_DEFINITION")
  | .extendSchema _ => []
  | .extendType t => t.body.applied true

/-- The place that a definition is, if directives may stand there. -/
def Definition.location? : Definition → Option String
  | .operation o => some o.kind.location
  | .fragment _ => some "FRAGMENT_DEFINITION"
  | .schema _ => some "SCHEMA"
  | .type t => some t.body.location
  | .directive _ => none
  | .extendSchema _ => some "SCHEMA"
  | .extendType t => some t.body.location

/-- The types to which an argument or input field refers. -/
def InputDeclaration.typeNames (i : InputDeclaration) : List String := [i.type.base]

/-- The types to which a field and its arguments refer. -/
def FieldDeclaration.typeNames (f : FieldDeclaration) : List String :=
  f.type.base :: f.arguments.flatMap InputDeclaration.typeNames

/-- The types to which a type body refers. -/
def TypeBody.typeNames (b : TypeBody) : List String :=
  b.interfaces ++ b.members ++ b.fields.flatMap FieldDeclaration.typeNames ++
    b.inputFields.flatMap InputDeclaration.typeNames

/-- The types to which a definition refers. -/
def Definition.typeNames : Definition → List String
  | .operation o =>
    (o.variableDeclarations.map fun v => v.type.base) ++ Selection.conditionsAll o.selections
  | .fragment f => f.on :: Selection.conditionsAll f.selections
  | .schema s => s.roots.map Prod.snd
  | .type t => t.body.typeNames
  | .directive d => d.arguments.flatMap InputDeclaration.typeNames
  | .extendSchema s => s.roots.map Prod.snd
  | .extendType t => t.body.typeNames

/-- Whether the definition is executable. -/
def Definition.isExecutable : Definition → Bool
  | .operation _ => true
  | .fragment _ => true
  | _ => false

/-- The arguments of the fields that a definition selects. -/
def Definition.fieldArguments : Definition → List (List (String × Literal))
  | .operation o => Selection.fieldArgumentsAll o.selections
  | .fragment f => Selection.fieldArgumentsAll f.selections
  | _ => []

/-- The default values that a type body declares. -/
def TypeBody.defaults (b : TypeBody) : List Literal :=
  (b.fields.flatMap fun f => f.arguments.filterMap InputDeclaration.default) ++
    b.inputFields.filterMap InputDeclaration.default

/-- The default values that a definition declares. -/
def Definition.defaults : Definition → List Literal
  | .operation o => o.variableDeclarations.filterMap VariableDeclaration.default
  | .type t => t.body.defaults
  | .extendType t => t.body.defaults
  | .directive d => d.arguments.filterMap InputDeclaration.default
  | _ => []

namespace Document

/-- All directives applied in a document, by the thing to which they are applied. -/
def applied (d : Document) : List Applied :=
  d.flatMap fun x => (x.location?.toList.map fun l => ⟨l, x.directives⟩) ++ x.appliedBelow

/-- The arguments given to each field and each directive. -/
def argumentLists (d : Document) : List (List (String × Literal)) :=
  d.flatMap Definition.fieldArguments ++
    d.applied.flatMap fun a => a.directives.map Directive.arguments

/-- All values that stand as arguments or defaults. -/
def literals (d : Document) : List Literal :=
  (d.argumentLists.flatMap fun args => args.map Prod.snd) ++ d.flatMap Definition.defaults

end Document

mutual

/-- Whether no object within a literal names a field twice. -/
def Literal.hasDistinctFields : Literal → Bool
  | .list items => Literal.allHaveDistinctFields items
  | .object fields => decide (fields.map Prod.fst).Nodup && Literal.fieldsHaveDistinctFields fields
  | _ => true

/-- Whether no object within some literals names a field twice. -/
def Literal.allHaveDistinctFields : List Literal → Bool
  | [] => true
  | l :: rest => l.hasDistinctFields && Literal.allHaveDistinctFields rest

/-- Whether no object within the values of some fields names a field twice. -/
def Literal.fieldsHaveDistinctFields : List (String × Literal) → Bool
  | [] => true
  | (_, l) :: rest => l.hasDistinctFields && Literal.fieldsHaveDistinctFields rest

end

end GraphScribe
