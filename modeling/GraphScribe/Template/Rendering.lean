import GraphScribe.Template.Bounds
import GraphScribe.Template.Filter
import GraphScribe.Template.Grammar
import GraphScribe.Template.Scope

/-!
# Rendering templates

`Expr.eval` evaluates an expression in a `Scope`, and `render` writes the pieces of a template in
the style of the output.  An `Environment` gives the helpers that a user adds, and finds other
templates.  What is not in scope is missing, which writes nothing; only its parts and its use as a
function fail.
-/

namespace GraphScribe.Template

open TypeScript

/-- A template that has been found: its text, given the variables from the start. -/
abbrev Loaded := Assoc Datum → Styled String

/-- What templates are rendered with: the helpers, and a way to find a template. -/
structure Environment where
  helpers : Assoc Helper := []
  load : String → Except Failure Loaded

/-- The text of the template with a name, as it is included at a place. -/
def Environment.inclusion (env : Environment) (name : String) (scope : Scope) : Styled String := do
  (← env.load name) scope.handed

/-! ### Functions -/

/-- The function that writes a block where a directive is applied. -/
def blockFunction : String := "if_directive"

/-- The functions that can be named but are of no use here. -/
def otherFunctions : List String := ["range", "dict", "lipsum", "cycler", "joiner", "namespace"]

/-- The datum for a helper called `name`. -/
def Helper.datum (name : String) : Helper → Datum
  | function _ => .function name
  | value v => .value v

/-- The variables below all others: helpers and functions under their names. -/
def globals (helpers : Assoc Helper) : Assoc Datum :=
  helpers.map (fun h => (h.1, h.2.datum h.1)) ++
    (blockFunction :: otherFunctions).map fun n => (n, .function n)

/-- The usages and the directive that the arguments of the block function name. -/
def blockTarget : List Datum → Except Failure (List DirectiveUsage × String)
  | [d, .value (.string directive)] => do return (← d.usages, directive)
  | [d, _] => do
    let _ ← d.usages
    return ([], "")
  | _ => .error .wrongOperand

/-- Calls a function. -/
def callFunction (helpers : Assoc Helper) (name : String) (arguments : List Datum) :
    Except Failure Datum :=
  match helpers.find? name with
  | some helper => Filter.callHelper helper arguments
  | none =>
    if name = blockFunction then do
      let _ ← blockTarget arguments
      return .string ""
    else .error .wrongOperand

/-- What a mapping has under a key, or else another datum. -/
def entryOr (d key otherwise : Datum) : Except Failure Datum :=
  if key.isKey then .ok ((d.entry? key).getD otherwise) else .error .wrongOperand

/-- Calls an operation of a datum.  Of all operations only those can be called that read a mapping
or choose by the round of a loop. -/
def callOperation (d : Datum) (name : String) (arguments : List Datum) : Except Failure Datum :=
  match d, name, arguments with
  | .round i _ _ _, "cycle", first :: rest =>
    .ok ((arguments[i % (rest.length + 1)]?).getD first)
  | d, "get", [key] => entryOr d key (.value .null)
  | d, "get", [key, otherwise] => entryOr d key otherwise
  | _, _, _ => .error .wrongOperand

/-- Calls a datum, which should be a function or an operation. -/
def call (helpers : Assoc Helper) (d : Datum) (arguments : List Datum) : Except Failure Datum :=
  match d with
  | .function name => callFunction helpers name arguments
  | .operation of name => callOperation of name arguments
  | .missing => .error .undefinedUsed
  | _ => .error .wrongOperand

/-! ### Expressions -/

/-- The datum of a variable as it is at the moment. -/
def look (scope : Scope) (name : String) : Styled Datum := do
  return (scope.datum name).settle (← get).primitives

mutual

/-- The datum that an expression stands for. -/
def Expr.eval (env : Environment) (scope : Scope) : Expr → Styled Datum
  | .var name => look scope name
  | .constant v => return .value v
  | .member e name => do (← e.eval env scope).member name
  | .item e index => do
    let d ← e.eval env scope
    d.item (← index.eval env scope)
  | .call f arguments => do
    let d ← f.eval env scope
    call env.helpers d (← evalAll env scope arguments)
  | .filter e name arguments => do
    let d ← e.eval env scope
    Filter.apply env.helpers name d (← evalAll env scope arguments)
  | .test e name arguments => do
    let d ← e.eval env scope
    return .bool (← Filter.test name d (← evalAll env scope arguments))
  | .negation e => do return .bool !(← e.eval env scope).isTruthy

/-- The data that some expressions stand for. -/
def evalAll (env : Environment) (scope : Scope) : List Expr → Styled (List Datum)
  | [] => return []
  | e :: rest => do
    let d ← e.eval env scope
    return d :: (← evalAll env scope rest)

end

/-! ### Loops and blocks -/

/-- Whether an item satisfies the condition of a loop. -/
def isSelected (env : Environment) (scope : Scope) (var : String) (condition : Option Expr)
    (d : Datum) : Styled Bool :=
  match condition with
  | none => return true
  | some c => do return (← c.eval env (scope.enter .unset [] c.reads [(var, d)])).isTruthy

/-- The items that satisfy the condition of a loop. -/
def selectItems (env : Environment) (scope : Scope) (var : String) (condition : Option Expr)
    (items : List Datum) : Styled (List Datum) :=
  items.filterM (isSelected env scope var condition)

/-- What a loop over `items` tells its body about the item at place `i`. -/
def roundAt (items : List Datum) (i : Nat) : Datum :=
  .round i items.length (if i = 0 then .missing else (items[i - 1]?).getD .missing)
    ((items[i + 1]?).getD .missing)

/-- The variables of a block that is given the arguments of a usage. -/
def parametersOf (parameters : List String) (arguments : Option (Assoc Value)) : Assoc Datum :=
  match parameters, arguments with
  | p :: rest, some given => (p, .value (.object given)) :: rest.map fun q => (q, .missing)
  | parameters, _ => parameters.map fun q => (q, .missing)

/-- What a block is given besides its parameters: nothing. -/
def surplusDatum (name : String) : Datum :=
  if name = surplusNames.1 then .map [] else if name = surplusNames.2 then .row [] else .missing

/-- The scope of a block that is given the arguments of a usage. -/
def blockScope (scope : Scope) (parameters : List String) (body : List Piece)
    (arguments : Option (Assoc Value)) : Scope :=
  scope.enter .missing
    (parametersOf parameters arguments ++
      (surplus parameters body).map fun n => (n, surplusDatum n))
    (ownReads body) []

/-! ### Inclusion -/

/-- Finds the first of several templates that exists. -/
def loadFirst (env : Environment) : List Datum → Except Failure Loaded
  | [] => .error .noTemplateFound
  | .value (.string name) :: rest =>
    match env.load name with
    | .error .templateMissing => loadFirst env rest
    | found => found
  | .missing :: rest => loadFirst env rest
  | d :: _ => .error (if d.isKey then .attributeMissing else .wrongOperand)

/-- Finds the template that a datum names, or the first one that exists of those it names. -/
def loadNamed (env : Environment) (d : Datum) : Except Failure Loaded :=
  match d with
  | .value (.string name) => env.load name
  | .missing => .error .undefinedUsed
  | d => if d.isTruthy then do loadFirst env (← d.iterated) else .error .noTemplateFound

/-! ### Pieces -/

mutual

/-- The text of a piece.  A loop whose body asks about its items selects them all beforehand, any
other one by one. -/
def Piece.render (env : Environment) (scope : Scope) : Piece → Styled String
  | .text s => return s
  | .output e => do return (← e.eval env scope).text
  | .loop var items condition body otherwise => do
    let items ← (← items.eval env scope).iterated
    if asksFor body roundName then
      let items ← selectItems env scope var condition items
      if items.isEmpty then render env (scope.enter .unset [] (ownReads otherwise) []) otherwise
      else
        let texts ← items.zipIdx.mapM fun x =>
          let own := [(var, x.1), (roundName, roundAt items x.2)]
          render env (scope.enter .unset own (ownReads body) []) body
        return String.join texts
    else
      let texts ← items.mapM fun d => do
        if ← isSelected env scope var condition d then
          return some (← render env (scope.enter .unset [(var, d)] (ownReads body) []) body)
        else return none
      if texts.all Option.isNone then
        render env (scope.enter .unset [] (ownReads otherwise) []) otherwise
      else return String.join (texts.filterMap id)
  | .branch condition yes no => do
    if (← condition.eval env scope).isTruthy then render env scope yes else render env scope no
  | .block parameters function arguments body => do
    let f ← function.eval env scope
    let arguments ← evalAll env scope arguments
    match f with
    | .function name =>
      if name ≠ blockFunction then throw .wrongOperand
      let (usages, directive) ← blockTarget arguments
      DirectiveUsage.call usages directive (some
        { takesArguments := !parameters.isEmpty
          render := fun given => render env (blockScope scope parameters body given) body })
    | .missing => throw .undefinedUsed
    | _ => throw .wrongOperand
  | .inclusion name => do (← loadNamed env (← name.eval env scope)) scope.handed

/-- The text of some pieces. -/
def render (env : Environment) (scope : Scope) : List Piece → Styled String
  | [] => return ""
  | p :: rest => do
    let text ← p.render env scope
    return text ++ (← render env scope rest)

end

/-- The text of the template called `name`. -/
def text (env : Environment) (name : String) (t : Template) : Loaded := fun start =>
  let itself := if asksFor t selfName then [(selfName, .template name)] else []
  render env (Scope.enter { start } .unset itself (ownReads t) []) t

/-- Fails unless the helpers and the filters that every template can use are all that is needed. -/
def demand (helpers : Assoc Helper) (needs : List Need) : Except Failure Unit :=
  if needs.all (Filter.isKnown helpers) then .ok () else .error .unknownFilter

/-- The template with the given source, if all that it needs is there. -/
def compile (helpers : Assoc Helper) (source : String) : Except Failure Template := do
  let t ← read source
  demand helpers t.needs
  check t
  return t

end GraphScribe.Template
