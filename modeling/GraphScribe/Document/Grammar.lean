import GraphScribe.Document.Basic
import GraphScribe.Document.Token
import GraphScribe.Failure
import GraphScribe.Rule
import GraphScribe.Schema.Builtin

/-!
# The grammar of documents

`Document.read`, `TypeRef.read` and `Literal.read` read a whole text by the rules
`Grammar.allDefinitions`, `Grammar.typeRef` and `Grammar.literal`; each fails for a text that is not
exactly of that form.  Selection sets, lists and objects are nested at most `Grammar.nestingLimit`
deep, and rules that nest are given how deep they may still go.
-/

namespace GraphScribe

namespace Grammar

open Rule

variable {α : Type}

/-- A name. -/
def anyName : Rule Token String := do
  match ← next with
  | .name n => pure n
  | _ => failure

/-- Items up to the mark `close`, at most `bound` of them. -/
def itemsUntil (close : Char) (item : Rule Token α) : Nat → Rule Token (List α)
  | 0 => failure
  | bound + 1 => do
    if ← accept (.mark close) then pure []
    else
      let x ← item
      let xs ← itemsUntil close item bound
      pure (x :: xs)

/-- Any number of items and the mark `close`. -/
def manyUntil (close : Char) (item : Rule Token α) : Rule Token (List α) := do
  itemsUntil close item ((← get).length + 1)

/-- At least one item between the marks `opening` and `close`. -/
def someBetween (opening close : Char) (item : Rule Token α) : Rule Token (List α) := do
  expect (.mark opening)
  let x ← item
  let xs ← manyUntil close item
  pure (x :: xs)

/-- At least one item between the marks `opening` and `close`, or nothing at all. -/
def optionalBetween (opening close : Char) (item : Rule Token α) : Rule Token (List α) := do
  if (← peek?) = some (.mark opening) then someBetween opening close item else pure []

/-- Further items, each behind the mark `mark`, at most `bound` of them. -/
def furtherBehind (mark : Char) (item : Rule Token α) : Nat → Rule Token (List α)
  | 0 => failure
  | bound + 1 => do
    if ← accept (.mark mark) then
      let x ← item
      let xs ← furtherBehind mark item bound
      pure (x :: xs)
    else pure []

/-- At least one item, with the mark `mark` between them and perhaps in front. -/
def someSeparated (mark : Char) (item : Rule Token α) : Rule Token (List α) := do
  let _ ← accept (.mark mark)
  let x ← item
  let xs ← furtherBehind mark item ((← get).length + 1)
  pure (x :: xs)

/-- Items as long as the mark `mark` comes next, at most `bound` of them. -/
def whileMark (mark : Char) (item : Rule Token α) : Nat → Rule Token (List α)
  | 0 => failure
  | bound + 1 => do
    if (← peek?) = some (.mark mark) then
      let x ← item
      let xs ← whileMark mark item bound
      pure (x :: xs)
    else pure []

/-- The result of a rule that takes all tokens of a text. -/
def run (rule : Rule Token α) (source : String) : Except Failure α :=
  match (Token.scan source).bind rule.runAll with
  | some x => .ok x
  | none => .error .notGraphQL

/-- How deep selection sets, lists and objects may be nested, all taken together. -/
def nestingLimit : Nat := 200

/-! ### Values and types -/

/-- A value without parts, no variable if it is `constant`. -/
def plainLiteral (constant : Bool) : Rule Token Literal := do
  match ← next with
  | .mark '$' => if constant then failure else return .var (← anyName)
  | .int t => return .int t
  | .float t => return .float t
  | .string t => return .string t
  | .block t => return .block t
  | .name "true" => return .boolean true
  | .name "false" => return .boolean false
  | .name "null" => return .null
  | .name n => return .enum n
  | _ => failure

/-- A value nested at most `depth` deep, without variables if it is `constant`. -/
def literal (constant : Bool) : Nat → Rule Token Literal
  | 0 => plainLiteral constant
  | depth + 1 => do
    if ← accept (.mark '[') then return .list (← manyUntil ']' (literal constant depth))
    else if ← accept (.mark '\x7b') then
      let field : Rule Token (String × Literal) := do
        let name ← anyName
        expect (.mark ':')
        return (name, ← literal constant depth)
      return .object (← manyUntil '\x7d' field)
    else plainLiteral constant

/-- A type, and whether null is excluded. -/
def markedType (inner : Rule Token TypeRef) : Rule Token TypeRef := do
  let type ← inner
  if ← accept (.mark '!') then return .nonNull type else return type

/-- The name of a type. -/
def namedType : Rule Token TypeRef := do return .named (← anyName)

/-- A type reference nested at most `depth` deep. -/
def typeRef : Nat → Rule Token TypeRef
  | 0 => markedType namedType
  | depth + 1 => markedType do
    if ← accept (.mark '[') then
      let item ← typeRef depth
      expect (.mark ']')
      return .list item
    else namedType

/-- The arguments of a field or a directive. -/
def arguments (constant : Bool) (depth : Nat) : Rule Token (List (String × Literal)) :=
  optionalBetween '(' ')' do
    let name ← anyName
    expect (.mark ':')
    return (name, ← literal constant depth)

/-- The directives that are applied here. -/
def directives (constant : Bool) (depth : Nat) : Rule Token (List Directive) := do
  let directive : Rule Token Directive := do
    expect (.mark '@')
    let name ← anyName
    return ⟨name, ← arguments constant depth⟩
  whileMark '@' directive ((← get).length + 1)

/-- A description, if there is one. -/
def description? : Rule Token (Option String) := do
  match ← peek? with
  | some (.string t) =>
    let _ ← next
    return some t
  | some (.block t) =>
    let _ ← next
    return some t
  | _ => return none

/-! ### Executable definitions -/

/-- The name of a fragment: any name but `on`. -/
def fragmentName : Rule Token String := do
  let name ← anyName
  if name = "on" then failure else return name

/-- A selection.  Selection sets in it are taken by `inner`, and values are nested at most `depth`
deep. -/
def selection (depth : Nat) (inner : Rule Token (List Selection)) : Rule Token Selection := do
  if ← accept .ellipsis then
    if ← accept (.name "on") then
      let on ← anyName
      let ds ← directives false depth
      return .inline (some on) ds (← inner)
    else
      match ← peek? with
      | some (.name _) =>
        let name ← fragmentName
        return .spread name (← directives false depth)
      | _ =>
        let ds ← directives false depth
        return .inline none ds (← inner)
  else
    let first ← anyName
    let (alias?, name) ← do
      if ← accept (.mark ':') then
        let name ← anyName
        pure (some first, name)
      else pure (none, first)
    let args ← arguments false depth
    let ds ← directives false depth
    if (← peek?) = some (.mark '\x7b') then return .field alias? name args ds (← inner)
    else return .field alias? name args ds []

/-- A selection set nested at most `depth` deep. -/
def selectionSet : Nat → Rule Token (List Selection)
  | 0 => failure
  | depth + 1 => someBetween '\x7b' '\x7d' (selection depth (selectionSet depth))

/-- The keyword of an operation. -/
def operationKind : Rule Token OperationKind := do
  match OperationKind.ofKeyword? (← anyName) with
  | some k => return k
  | none => failure

/-- The declaration of a variable; nothing depends on its description. -/
def variableDeclaration (depth : Nat) : Rule Token VariableDeclaration := do
  let _ ← description?
  expect (.mark '$')
  let name ← anyName
  expect (.mark ':')
  let type ← typeRef depth
  let default ← do
    if ← accept (.mark '=') then
      let l ← literal true depth
      pure (some l)
    else pure none
  return { name, type, default, directives := ← directives true depth }

/-- The short form of an anonymous query: its selection set alone. -/
def shortQuery (depth : Nat) : Rule Token Operation := do
  return { kind := .query, selections := ← selectionSet depth }

/-- An operation, from behind its keyword on. -/
def operation (kind : OperationKind) (depth : Nat) : Rule Token Operation := do
  let name ← do
    match ← peek? with
    | some (.name n) =>
      let _ ← next
      pure (some n)
    | _ => pure none
  let variableDeclarations ← optionalBetween '(' ')' (variableDeclaration depth)
  let directives ← directives false depth
  return { kind, name, variableDeclarations, directives, selections := ← selectionSet depth }

/-- A fragment, from behind its keyword on. -/
def fragment (depth : Nat) : Rule Token Fragment := do
  let name ← fragmentName
  expect (.name "on")
  let on ← anyName
  let directives ← directives false depth
  return { name, on, directives, selections := ← selectionSet depth }

/-! ### Type-system definitions -/

/-- The declaration of an argument or an input field. -/
def inputDeclaration (depth : Nat) : Rule Token InputDeclaration := do
  let description ← description?
  let name ← anyName
  expect (.mark ':')
  let type ← typeRef depth
  let default ← do
    if ← accept (.mark '=') then
      let l ← literal true depth
      pure (some l)
    else pure none
  return { name, type, description, default, directives := ← directives true depth }

/-- The declaration of a field. -/
def fieldDeclaration (depth : Nat) : Rule Token FieldDeclaration := do
  let description ← description?
  let name ← anyName
  let arguments ← optionalBetween '(' ')' (inputDeclaration depth)
  expect (.mark ':')
  let type ← typeRef depth
  return { name, type, description, arguments, directives := ← directives true depth }

/-- The declaration of an enum value, which is no word for another literal. -/
def enumValue (depth : Nat) : Rule Token EnumValueDeclaration := do
  let description ← description?
  let name ← anyName
  if name = "true" || name = "false" || name = "null" then failure
  else return { name, description, directives := ← directives true depth }

/-- The interfaces that a type implements. -/
def interfaces : Rule Token (List String) := do
  if ← accept (.name "implements") then someSeparated '&' anyName else return []

/-- The operation types of a schema. -/
def rootDeclaration : Rule Token (OperationKind × String) := do
  let kind ← operationKind
  expect (.mark ':')
  return (kind, ← anyName)

/-- The part of a type definition that its keyword opens, from the name on. -/
def typeDeclaration (keyword : String) (description : Option String) (depth : Nat) :
    Rule Token TypeDeclaration := do
  let name ← anyName
  match keyword with
  | "scalar" => return { name, description, directives := ← directives true depth, body := .scalar }
  | "type" =>
    let is ← interfaces
    let directives ← directives true depth
    let fs ← optionalBetween '\x7b' '\x7d' (fieldDeclaration depth)
    return { name, description, directives, body := .object is fs }
  | "interface" =>
    let is ← interfaces
    let directives ← directives true depth
    let fs ← optionalBetween '\x7b' '\x7d' (fieldDeclaration depth)
    return { name, description, directives, body := .interface is fs }
  | "union" =>
    let directives ← directives true depth
    let members ← do
      if ← accept (.mark '=') then someSeparated '|' anyName else pure []
    return { name, description, directives, body := .union members }
  | "enum" =>
    let directives ← directives true depth
    let vs ← optionalBetween '\x7b' '\x7d' (enumValue depth)
    return { name, description, directives, body := .enum vs }
  | "input" =>
    let directives ← directives true depth
    let fs ← optionalBetween '\x7b' '\x7d' (inputDeclaration depth)
    return { name, description, directives, body := .input fs }
  | _ => failure

/-- The keywords that open a type definition. -/
def typeKeywords : List String := ["scalar", "type", "interface", "union", "enum", "input"]

/-- A place at which a directive may be applied. -/
def location : Rule Token String := do
  let name ← anyName
  if Builtin.locations.contains name then return name else failure

/-- The definition of a directive, from the mark on. -/
def directiveDeclaration (description : Option String) (depth : Nat) :
    Rule Token DirectiveDeclaration := do
  expect (.mark '@')
  let name ← anyName
  let arguments ← optionalBetween '(' ')' (inputDeclaration depth)
  let repeatable ← accept (.name "repeatable")
  expect (.name "on")
  return { name, description, arguments, repeatable, locations := ← someSeparated '|' location }

/-- Whether an extension of a type says anything. -/
def isInformative (t : TypeDeclaration) : Bool :=
  !t.directives.isEmpty || match t.body with
    | .scalar => false
    | .object is fs => !is.isEmpty || !fs.isEmpty
    | .interface is fs => !is.isEmpty || !fs.isEmpty
    | .union members => !members.isEmpty
    | .enum values => !values.isEmpty
    | .input fields => !fields.isEmpty

/-- An extension, from behind its keyword on; it has to say something. -/
def extension (depth : Nat) : Rule Token Definition := do
  let keyword ← anyName
  if keyword = "schema" then
    let directives ← directives true depth
    let roots ← optionalBetween '\x7b' '\x7d' rootDeclaration
    if directives.isEmpty && roots.isEmpty then failure
    else return .extendSchema { directives, roots }
  else if typeKeywords.contains keyword then
    let t ← typeDeclaration keyword none depth
    if isInformative t then return .extendType t else failure
  else failure

/-- A definition that may carry a description; only those of types and directives are kept. -/
def describedDefinition (depth : Nat) : Rule Token Definition := do
  let description ← description?
  let keyword ← anyName
  if let some kind := OperationKind.ofKeyword? keyword then
    return .operation (← operation kind depth)
  else if keyword = "fragment" then return .fragment (← fragment depth)
  else if keyword = "schema" then
    let directives ← directives true depth
    return .schema { directives, roots := ← someBetween '\x7b' '\x7d' rootDeclaration }
  else if keyword = "directive" then return .directive (← directiveDeclaration description depth)
  else return .type (← typeDeclaration keyword description depth)

/-- A definition.  A short query and an extension carry no description. -/
def definition (depth : Nat) : Rule Token Definition := do
  match ← peek? with
  | some (.mark '\x7b') => return .operation (← shortQuery depth)
  | some (.name "extend") =>
    let _ ← next
    extension depth
  | _ => describedDefinition depth

/-- Definitions up to the last token, at most `bound` of them. -/
def definitions : Nat → Rule Token (List Definition)
  | 0 => failure
  | bound + 1 => do
    let d ← definition nestingLimit
    if (← get).isEmpty then return [d] else return d :: (← definitions bound)

/-- Definitions up to the last token. -/
def allDefinitions : Rule Token (List Definition) := do definitions ((← get).length + 1)

end Grammar

/-- The document that a text holds. -/
def Document.read (source : String) : Except Failure Document :=
  Grammar.run Grammar.allDefinitions source

/-- The type reference that a text holds. -/
def TypeRef.read (source : String) : Except Failure TypeRef :=
  Grammar.run (Grammar.typeRef Grammar.nestingLimit) source

/-- The value that a text holds, which may name variables. -/
def Literal.read (source : String) : Except Failure Literal :=
  Grammar.run (Grammar.literal false Grammar.nestingLimit) source

end GraphScribe
