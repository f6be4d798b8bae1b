import GraphScribe.Template.Rendering

/-!
# The parts of the output

The output is made of seven partials, each of which a user can replace by a template of the same
name.  `Partial.text` writes a partial from what is in scope, whatever that may be: a template can
put any data in the variables of a partial before it includes it.  A partial includes others by
name, so that replacements take effect wherever they occur.
-/

namespace GraphScribe

open TypeScript Template

/-- The partials of the output. -/
inductive Partial where
  | index
  | schema
  | type
  | enum
  | documents
  | selectionSet
  | fragments
deriving DecidableEq, Inhabited

namespace Partial

/-- The name of a partial. -/
def name : Partial → String
  | index => "index"
  | schema => "schema"
  | type => "type"
  | enum => "enum"
  | documents => "documents"
  | selectionSet => "selection_set"
  | fragments => "fragments"

/-- All partials. -/
def all : List Partial := [index, schema, type, enum, documents, selectionSet, fragments]

/-- The ending of the names of templates. -/
def suffix : String := ".ts.j2"

/-- The name of the template that takes the place of a partial. -/
def templateName (p : Partial) : String := p.name ++ suffix

/-- The filters that a partial needs in any case. -/
def needs : Partial → List Need
  | schema => [.filter "join"]
  | type => [.filter "doc_comment", .filter "field_declaration"]
  | documents => [.filter "field_declaration"]
  | selectionSet =>
    [.filter "typename_type", .filter "get_optionals", .filter "field_declaration"]
  | _ => []

/-! ### What partials are written with -/

variable (env : Environment) (scope : Scope)

/-- The text of a partial that is included. -/
def included (p : Partial) : Styled String := env.inclusion p.templateName scope

/-- The texts of a partial for the items of a datum, each in the variable `var`. -/
def includedFor (p : Partial) (var : String) (items : Datum) : Styled String := do
  let texts ← (← items.iterated).mapM fun d => p.included env (scope.set var d)
  return String.join texts

/-- The texts that `write` gives for the items of a datum, one after another. -/
def joined (items : Datum) (write : Datum → Styled String) : Styled String := do
  return String.join (← (← items.iterated).mapM write)

/-- The text that a filter makes of a datum and arguments. -/
def filtered (filter : String) (d : Datum) (arguments : List Datum) : Styled String := do
  return (← Filter.apply env.helpers filter d arguments).text

/-- The setting under a name. -/
def setting (name : String) : Styled Datum := do (← look scope "config").member name

/-- The comment for the description of a datum, if it says anything. -/
def commentOf (d : Datum) : Styled String := do
  let description ← d.member "description"
  if description.isTruthy then return (← filtered env "doc_comment" description []) ++ "\n"
  else return ""

/-! ### Types of the schema -/

/-- The alias for a scalar type. -/
def scalarText (d : Datum) : Styled String := do
  let comment ← commentOf env d
  let name ← d.member "name"
  let target ← call env.helpers (← (← look scope "primitives").member "get") [name, .string "any"]
  return comment ++ "export type " ++ name.text ++ " = " ++ target.text ++ ";\n\n"

/-- The union for a union type. -/
def unionText (d : Datum) : Styled String := do
  let comment ← commentOf env d
  let name ← d.member "name"
  let members ← filtered env "join" (← d.member "types") [.string " | "]
  return comment ++ "export type " ++ name.text ++ " = " ++ members ++ ";\n\n"

/-- Everything that the schema declares. -/
def schemaText : Styled String := do
  let scalars ← joined (← look scope "scalars") (scalarText env scope)
  let interfaces ← type.includedFor env scope "type" (← look scope "interfaces")
  let types ← type.includedFor env scope "type" (← look scope "types")
  let inputs ← type.includedFor env scope "type" (← look scope "inputs")
  let arguments ← type.includedFor env scope "type" (← look scope "argument_types")
  let enums ← enum.includedFor env scope "enum" (← look scope "enums")
  let unions ← joined (← look scope "unions") (unionText env)
  return scalars ++ interfaces ++ types ++ inputs ++ arguments ++ enums ++ unions

/-- The clause with the interfaces that an interface extends. -/
def extendsClause (interfaces : Datum) : Styled String := do
  if interfaces.isTruthy then
    return " extends " ++ (← filtered env "join" interfaces [.string ", "])
  else return ""

/-- A field in an interface, under its comment. -/
def fieldText (d : Datum) : Styled String := do
  let comment ← Filter.apply env.helpers "doc_comment" (← d.member "description")
    [← d.member "deprecation_reason"]
  let above := if comment.isTruthy then "  " ++ comment.text ++ "\n" else ""
  return above ++ "  " ++ (← filtered env "field_declaration" d []) ++ "\n"

/-- The interface for what has fields. -/
def typeText : Styled String := do
  let d ← look scope "type"
  let comment ← commentOf env d
  let name ← d.member "name"
  let clause ← extendsClause env (← d.member "interfaces")
  let fields ← joined (← d.member "fields") (fieldText env)
  return comment ++ "export interface " ++ name.text ++ clause ++ " \x7b\n" ++ fields ++ "\x7d\n"

/-- The literal for a value of an enum. -/
def literalText (d : Datum) : Styled String := do return quoteName (← d.member "value").text

/-- A value of an enum in its declaration. -/
def enumeratorText (d : Datum) : Styled String := do
  return "  " ++ (← d.member "name").text ++ " = " ++ (← literalText d) ++ ",\n"

/-- The declaration of an enum, as an alias or as an enum. -/
def enumText : Styled String := do
  let d ← look scope "enum"
  let comment ← commentOf env d
  let asAlias := (← setting scope "enums_as_types").isTruthy
  let name ← d.member "name"
  let values ← (← d.member "values").iterated
  if asAlias then
    let literals ← values.mapM literalText
    return comment ++ "export type " ++ name.text ++ " = " ++ unionOf literals ++ ";\n"
  else
    let enumerators ← values.mapM enumeratorText
    return comment ++ "export enum " ++ name.text ++ " \x7b\n" ++ String.join enumerators ++
      "\x7d\n"

/-! ### Operations and fragments -/

/-- The definitions of the shapes of a datum, or of its root alone if the shapes below it are to
stand in place. -/
def shapesText (d : Datum) : Styled String := do
  if (← setting scope "flatten_types").isTruthy then
    selectionSet.includedFor env scope "shape" (← d.member "shapes")
  else selectionSet.included env (scope.set "shape" (← d.member "root"))

/-- A namespace with some contents. -/
def namespaceText (name contents : String) : String :=
  "export namespace " ++ name ++ " \x7b\n" ++ contents ++ "\x7d\n\n"

/-- A variable in the type of the variables. -/
def variableText (d : Datum) : Styled String := do
  return "    " ++ (← filtered env "field_declaration" d []) ++ "\n"

/-- The namespace of an operation. -/
def operationText (d : Datum) : Styled String := do
  let space ← d.member "namespace"
  let lines ← joined (← (← d.member "variables").member "fields") (variableText env)
  let shapes ← shapesText env (scope.set "operation" d) d
  return namespaceText space.text
    ("  export type " ++ Batch.variablesName ++ " = \x7b\n" ++ lines ++ "  \x7d\n\n" ++ shapes)

/-- The namespace of a fragment. -/
def fragmentText (d : Datum) : Styled String := do
  let space ← d.member "namespace"
  return namespaceText space.text (← shapesText env (scope.set "fragment" d) d)

/-- The namespaces of a batch, those of the fragments last. -/
def documentsText : Styled String := do
  let operations ← joined (← (← look scope "document").member "operations")
    (operationText env scope)
  return operations ++ (← fragments.included env scope)

/-- The namespaces of the fragments of a batch. -/
def fragmentsText : Styled String := do
  joined (← (← look scope "document").member "fragments") (fragmentText env scope)

/-! ### Shapes -/

/-- The filters that take part in writing a shape. -/
def shapeFilters (flatten : Bool) (s : Shape) : List String :=
  let properties := if flatten then s.properties else s.shapes.flatMap Shape.properties
  "typename_type" ::
    if flatten then properties.map fun _ => "field_declaration"
    else properties.flatMap fun p =>
      ["get_optionals", if p.2.isSome then "wrap_type" else "converted_type"]

/-- Fails if a helper takes the place of one of some filters: what shapes are written with has to be
the filters that every template can use. -/
def demandOwn (filters : List String) : Except Failure Unit :=
  if filters.any env.helpers.contains then .error .wrongOperand else .ok ()

/-- The shape that a datum is; nothing else has a discriminator. -/
def shapeOf : Datum → Except Failure Shape
  | .missing => .error .undefinedUsed
  | .node (.shape s) => .ok s
  | _ => do
    demandOwn env ["typename_type"]
    .error .attributeMissing

/-- The definition of a shape. -/
def selectionSetText : Styled String := do
  let flatten := (← setting scope "flatten_types").isTruthy
  let s ← shapeOf env (← look scope "shape")
  demandOwn env (shapeFilters flatten s)
  s.definitionText flatten (← look scope "readonly").text

/-! ### The whole output -/

/-- The whole output. -/
def indexText : Styled String := do
  let declarations ←
    if (← look scope "generate_schema").isTruthy then schema.included env scope
    else enum.includedFor env scope "enum" (← look scope "enums")
  let batches ← documents.includedFor env scope "document" (← look scope "documents")
  return "/* tslint:disable */\n" ++ declarations ++ batches

/-- The text of a partial. -/
def text : Partial → Styled String
  | index => indexText env scope
  | schema => schemaText env scope
  | type => typeText env scope
  | enum => enumText env scope
  | documents => documentsText env scope
  | selectionSet => selectionSetText env scope
  | fragments => fragmentsText env scope

end Partial

end GraphScribe
