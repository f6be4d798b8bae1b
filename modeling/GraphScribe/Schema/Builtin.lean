import GraphScribe.Model.Basic

/-!
# Built-in types and directives

Every schema knows the built-in scalars, the types in which a schema describes itself, and five
directives.  `Builtin.kindOf` gives the kind of a built-in type and `Builtin.directives` lists the
directives with the places where they may stand.
-/

namespace GraphScribe.Builtin

/-- The types in which a schema describes itself, with their kinds. -/
def selfDescription : Assoc Kind :=
  [("__Schema", .object), ("__Directive", .object), ("__DirectiveLocation", .enum),
    ("__Type", .object), ("__Field", .object), ("__InputValue", .object),
    ("__EnumValue", .object), ("__TypeKind", .enum)]

/-- Whether a name is that of a built-in type. -/
def isType (name : String) : Bool := builtinScalars.contains name || selfDescription.contains name

/-- The kind of a built-in type. -/
def kindOf (name : String) : Option Kind :=
  if builtinScalars.contains name then some .scalar else selfDescription.find? name

/-- The places at which a directive may be applied. -/
def locations : List String :=
  ["QUERY", "MUTATION", "SUBSCRIPTION", "FIELD", "FRAGMENT_DEFINITION", "FRAGMENT_SPREAD",
    "INLINE_FRAGMENT", "VARIABLE_DEFINITION", "SCHEMA", "SCALAR", "OBJECT", "FIELD_DEFINITION",
    "ARGUMENT_DEFINITION", "INTERFACE", "UNION", "ENUM", "ENUM_VALUE", "INPUT_OBJECT",
    "INPUT_FIELD_DEFINITION", "DIRECTIVE_DEFINITION"]

/-- The values of a built-in enum type. -/
def enumValues : String → List String
  | "__DirectiveLocation" => locations
  | "__TypeKind" =>
    ["SCALAR", "OBJECT", "INTERFACE", "UNION", "ENUM", "INPUT_OBJECT", "LIST", "NON_NULL"]
  | _ => []

/-- A directive that every schema has: where it may stand, its arguments and those it needs. -/
structure BuiltinDirective where
  name : String
  locations : List String
  arguments : List String
  required : List String

/-- The name of the directive on input types of whose fields exactly one is given. -/
def choice : String := "oneOf"

/-- The directives that every schema has. -/
def directives : List BuiltinDirective :=
  [⟨"include", ["FIELD", "FRAGMENT_SPREAD", "INLINE_FRAGMENT"], ["if"], ["if"]⟩,
    ⟨"skip", ["FIELD", "FRAGMENT_SPREAD", "INLINE_FRAGMENT"], ["if"], ["if"]⟩,
    ⟨"deprecated",
      ["FIELD_DEFINITION", "ARGUMENT_DEFINITION", "INPUT_FIELD_DEFINITION", "ENUM_VALUE"],
      ["reason"], []⟩,
    ⟨"specifiedBy", ["SCALAR"], ["url"], ["url"]⟩,
    ⟨choice, ["INPUT_OBJECT"], [], []⟩]

/-- Whether a name is that of a built-in directive. -/
def isDirective (name : String) : Bool := directives.any fun d => d.name = name

/-- The reason of a deprecation that gives none. -/
def defaultReason : String := "No longer supported"

end GraphScribe.Builtin
