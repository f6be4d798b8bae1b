import GraphScribe.Failure
import GraphScribe.Rule
import GraphScribe.Template.Basic
import GraphScribe.Template.Token

/-!
# The grammar of templates

`Template.read` reads the source of a template: `Grammar.expr` is the rule for expressions over the
tokens of a tag, and `Grammar.pieces` the one for pieces over the parts of a source.  Both are
given a bound on their steps, for which the length of the input is enough.
-/

namespace GraphScribe.Template

/-! ### Expressions -/

namespace Grammar

open Rule

/-- A name. -/
def anyName : Rule Token String := do
  match ← next with
  | .name n => pure n
  | _ => failure

/-- The names behind a name, each with the dot in front of it. -/
def moreNames : Nat → Rule Token String
  | 0 => failure
  | bound + 1 => do
    if ← accept (.mark '.') then
      let name ← anyName
      return "." ++ name ++ (← moreNames bound)
    else return ""

/-- A name of a filter or test, which may be made of several with dots between them. -/
def dottedName (bound : Nat) : Rule Token String := do return (← anyName) ++ (← moreNames bound)

/-- The words that stand for constants. -/
def constants : List String := ["true", "True", "false", "False", "none", "None"]

/-- A name that a template can give to a variable. -/
def variableName : Rule Token String := do
  let name ← anyName
  if constants.contains name then failure else return name

/-- The expression that a word stands for. -/
def word (w : String) : Expr :=
  match w with
  | "true" => .constant (.bool true)
  | "True" => .constant (.bool true)
  | "false" => .constant (.bool false)
  | "False" => .constant (.bool false)
  | "none" => .constant .null
  | "None" => .constant .null
  | w => .var w

/-- The strings that directly follow a string. -/
def moreStrings : List Token → String × List Token
  | .string s :: ts =>
    let (more, ts) := moreStrings ts
    (s ++ more, ts)
  | ts => ("", ts)

/-- The words that end a test and so cannot be its argument. -/
def testEnds : List String := ["else", "or", "and"]

/-- A single string, written in one or more parts. -/
def strings : Rule Token String := fun ts => some (moreStrings ts)

mutual

/-- An expression. -/
def expr : Nat → Rule Token Expr
  | 0 => failure
  | bound + 1 => do
    if ← accept (.name "not") then return .negation (← expr bound)
    else filtered bound (← postfixed bound (← primary bound))

/-- A name, a constant, or an expression in parentheses. -/
def primary : Nat → Rule Token Expr
  | 0 => failure
  | bound + 1 => do
    match ← next with
    | .name w => return word w
    | .string s => return .constant (.string (s ++ (← strings)))
    | .integer n => return .constant (.int n)
    | .fraction x => return .constant (.float x)
    | .mark '(' => do
      let e ← expr bound
      expect (.mark ')')
      return e
    | .mark _ => failure

/-- Attributes, items and calls behind an expression. -/
def postfixed : Nat → Expr → Rule Token Expr
  | 0, _ => failure
  | bound + 1, e => do
    if ← accept (.mark '.') then
      match ← next with
      | .name n => postfixed bound (.member e n)
      | .integer n => postfixed bound (.item e (.constant (.int n)))
      | _ => failure
    else if ← accept (.mark '[') then
      let index ← expr bound
      expect (.mark ']')
      postfixed bound (.item e index)
    else if ← accept (.mark '(') then
      postfixed bound (.call e (← arguments bound))
    else return e

/-- The arguments of a call up to the closing parenthesis. -/
def arguments : Nat → Rule Token (List Expr)
  | 0 => failure
  | bound + 1 => do
    if ← accept (.mark ')') then return []
    else
      let e ← expr bound
      if ← accept (.mark ',') then return e :: (← arguments bound)
      else
        expect (.mark ')')
        return [e]

/-- The arguments of a filter or test, which may be absent. -/
def optionalArguments : Nat → Rule Token (List Expr)
  | 0 => failure
  | bound + 1 => do
    if ← accept (.mark '(') then arguments bound else return []

/-- Filters, tests and calls behind an expression. -/
def filtered : Nat → Expr → Rule Token Expr
  | 0, _ => failure
  | bound + 1, e => do
    if ← accept (.mark '|') then
      let name ← dottedName bound
      filtered bound (.filter e name (← optionalArguments bound))
    else if ← accept (.name "is") then
      let negated ← accept (.name "not")
      let name ← dottedName bound
      let test := .test e name (← testArguments bound)
      filtered bound (if negated then .negation test else test)
    else if ← accept (.mark '(') then
      filtered bound (.call e (← arguments bound))
    else return e

/-- The arguments of a test: in parentheses, or a single plain one.  Another test cannot follow
unless they are in parentheses. -/
def testArguments : Nat → Rule Token (List Expr)
  | 0 => failure
  | bound + 1 => do
    match ← peek? with
    | some (.mark '(') => optionalArguments bound
    | some (.string _) => return [← postfixed bound (← primary bound)]
    | some (.integer _) => return [← postfixed bound (← primary bound)]
    | some (.fraction _) => return [← postfixed bound (← primary bound)]
    | some (.name "is") => failure
    | some (.name w) =>
      if testEnds.contains w then return [] else return [← postfixed bound (← primary bound)]
    | _ => return []

end

/-- An expression of any size. -/
def anyExpr : Rule Token Expr := do expr (4 * (← get).length + 4)

/-- Names separated by commas up to the closing parenthesis. -/
def parameters : Nat → Rule Token (List String)
  | 0 => failure
  | bound + 1 => do
    if ← accept (.mark ')') then return []
    else
      let name ← variableName
      if ← accept (.mark ',') then return name :: (← parameters bound)
      else
        expect (.mark ')')
        return [name]

/-- The parameters of a block, which may be absent. -/
def optionalParameters : Rule Token (List String) := do
  if ← accept (.mark '(') then parameters ((← get).length + 1) else return []

/-- The head of a loop. -/
def loopHead : Rule Token (String × Expr × Option Expr) := do
  let var ← variableName
  if var = "in" then failure
  expect (.name "in")
  let items ← anyExpr
  if ← accept (.name "if") then return (var, items, some (← anyExpr))
  else return (var, items, none)

/-- The head of a block: its parameters and the call it belongs to. -/
def blockHead : Rule Token (List String × Expr × List Expr) := do
  let parameters ← optionalParameters
  match ← anyExpr with
  | .call function arguments => return (parameters, function, arguments)
  | _ => failure

/-! ### Pieces -/

/-- Reads the tokens of a tag by a rule. -/
def within {α : Type} (rule : Rule Token α) (ts : List Token) : Rule Tag α := fun tags =>
  (rule.runAll ts).map fun x => (x, tags)

/-- The keyword that a tag starts with, and the other tokens. -/
def keyword : List Token → Option (String × List Token)
  | .name k :: rest => some (k, rest)
  | _ => none

mutual

/-- Pieces up to a tag that starts with one of `ends`, or up to the end of the template if `ends`
is empty; and the tokens of that tag. -/
def pieces (ends : List String) : Nat → Rule Tag (List Piece × String × List Token)
  | 0 => failure
  | bound + 1 => do
    if (← get).isEmpty && ends.isEmpty then return ([], "", [])
    match ← next with
    | .text s => withRest ends bound (.text s)
    | .output tokens => withRest ends bound (.output (← within anyExpr tokens))
    | .control tokens =>
      let some (k, rest) := keyword tokens | failure
      if ends.contains k then return ([], k, rest)
      else withRest ends bound (← statement k rest bound)

/-- A piece and those that follow it. -/
def withRest (ends : List String) : Nat → Piece → Rule Tag (List Piece × String × List Token)
  | 0, _ => failure
  | bound + 1, p => do
    let (ps, k, rest) ← pieces ends bound
    return (p :: ps, k, rest)

/-- The piece that starts with a keyword. -/
def statement (k : String) (tokens : List Token) : Nat → Rule Tag Piece
  | 0 => failure
  | bound + 1 => do
    match k with
    | "for" =>
      let (var, items, condition) ← within loopHead tokens
      let (body, k, rest) ← pieces ["endfor", "else"] bound
      within finish rest
      let otherwise ← if k = "else" then closed "endfor" bound else pure []
      return .loop var items condition body otherwise
    | "if" => conditional tokens bound
    | "call" =>
      let (parameters, function, arguments) ← within blockHead tokens
      return .block parameters function arguments (← closed "endcall" bound)
    | "include" => return .inclusion (← within anyExpr tokens)
    | _ => failure

/-- The branches of a condition. -/
def conditional (tokens : List Token) : Nat → Rule Tag Piece
  | 0 => failure
  | bound + 1 => do
    let condition ← within anyExpr tokens
    let (yes, k, rest) ← pieces ["elif", "else", "endif"] bound
    if k = "elif" then return .branch condition yes [← conditional rest bound]
    else
      within finish rest
      let no ← if k = "else" then closed "endif" bound else pure []
      return .branch condition yes no

/-- Pieces up to the tag with the keyword `close`. -/
def closed (close : String) : Nat → Rule Tag (List Piece)
  | 0 => failure
  | bound + 1 => do
    let (ps, _, rest) ← pieces [close] bound
    within finish rest
    return ps

end

end Grammar

/-- The template with the given source. -/
def read (source : String) : Except Failure Template :=
  let parts? := (Tag.scan source).bind fun tags =>
    (Grammar.pieces [] (4 * tags.length + 4)).runAll tags
  match parts? with
  | some (ps, _) => .ok ps
  | none => .error .templateMalformed

end GraphScribe.Template
