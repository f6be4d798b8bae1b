import GraphScribe.Value

/-!
# Templates

A `Template` is a list of `Piece`s: text that is copied, expressions whose value is written, and
blocks that repeat, choose, or call for text.  `Template.needs` lists the filters and tests that a
template needs in any case; what stands directly in a branch is needed only when the branch is
taken.  `Template.asksFor` tells whether pieces read a variable that they do not make themselves.
-/

namespace GraphScribe

namespace Template

/-- An expression. -/
inductive Expr where
  | var (name : String)
  | constant (v : Value)
  | member (e : Expr) (name : String)
  | item (e index : Expr)
  | call (function : Expr) (arguments : List Expr)
  | filter (e : Expr) (name : String) (arguments : List Expr)
  | test (e : Expr) (name : String) (arguments : List Expr)
  | negation (e : Expr)
deriving Inhabited

/-- A piece of a template. -/
inductive Piece where
  | text (s : String)
  | output (e : Expr)
  | loop (var : String) (items : Expr) (condition : Option Expr) (body otherwise : List Piece)
  | branch (condition : Expr) (yes no : List Piece)
  | block (parameters : List String) (function : Expr) (arguments : List Expr) (body : List Piece)
  | inclusion (name : Expr)
deriving Inhabited

end Template

/-- A template. -/
abbrev Template := List Template.Piece

namespace Template

/-! ### What a template needs -/

/-- Something that a template uses by name besides its variables. -/
inductive Need where
  | filter (name : String)
  | test (name : String)
deriving DecidableEq, Inhabited

mutual

/-- The filters and tests in an expression. -/
def Expr.needs : Expr → List Need
  | .var _ => []
  | .constant _ => []
  | .member e _ => e.needs
  | .item e index => e.needs ++ index.needs
  | .call f arguments => f.needs ++ needsOfAll arguments
  | .filter e name arguments => .filter name :: e.needs ++ needsOfAll arguments
  | .test e name arguments => .test name :: e.needs ++ needsOfAll arguments
  | .negation e => e.needs

/-- The filters and tests in some expressions. -/
def needsOfAll : List Expr → List Need
  | [] => []
  | e :: rest => e.needs ++ needsOfAll rest

end

mutual

/-- What a piece needs.  In a branch (`soft`) its own expressions do not count. -/
def Piece.needs (soft : Bool) : Piece → List Need
  | .text _ => []
  | .output e => if soft then [] else e.needs
  | .loop _ items condition body otherwise =>
    (if soft then [] else items.needs) ++
      (match condition with
        | some c => c.needs
        | none => []) ++
      pieceNeeds false body ++ pieceNeeds false otherwise
  | .branch _ yes no => pieceNeeds true yes ++ pieceNeeds true no
  | .block _ function arguments body =>
    pieceNeeds false body ++
      if soft then [] else function.needs ++ needsOfAll arguments
  | .inclusion name => if soft then [] else name.needs

/-- What some pieces need. -/
def pieceNeeds (soft : Bool) : List Piece → List Need
  | [] => []
  | p :: rest => p.needs soft ++ pieceNeeds soft rest

end

/-- The filters and tests that a template needs in any case. -/
def needs (t : Template) : List Need := pieceNeeds false t

/-! ### Which variables occur -/

/-- An occurrence of a name: a variable is read, or a piece takes the name for a variable of its
own. -/
inductive Use where
  | read (name : String)
  | taken (name : String)
deriving DecidableEq, Inhabited

/-- The name that occurs. -/
def Use.name : Use → String
  | .read name => name
  | .taken name => name

mutual

/-- The variables that an expression reads, in order. -/
def Expr.reads : Expr → List String
  | .var name => [name]
  | .constant _ => []
  | .member e _ => e.reads
  | .item e index => e.reads ++ index.reads
  | .call f arguments => f.reads ++ readsOfAll arguments
  | .filter e _ arguments => e.reads ++ readsOfAll arguments
  | .test e _ arguments => e.reads ++ readsOfAll arguments
  | .negation e => e.reads

/-- The variables that some expressions read, in order. -/
def readsOfAll : List Expr → List String
  | [] => []
  | e :: rest => e.reads ++ readsOfAll rest

end

/-- The variables that the condition of a loop reads. -/
def conditionReads (condition : Option Expr) : List String :=
  match condition with
  | some c => c.reads
  | none => []

mutual

/-- The occurrences of variables in a piece, the condition of a loop last. -/
def Piece.uses : Piece → List Use
  | .text _ => []
  | .output e => e.reads.map .read
  | .loop var items condition body otherwise =>
    .taken var :: items.reads.map .read ++ usesOfAll body ++ usesOfAll otherwise ++
      (conditionReads condition).map .read
  | .branch condition yes no => condition.reads.map .read ++ usesOfAll yes ++ usesOfAll no
  | .block parameters function arguments body =>
    (function.reads ++ readsOfAll arguments).map .read ++ parameters.map .taken ++ usesOfAll body
  | .inclusion name => name.reads.map .read

/-- The occurrences of variables in some pieces. -/
def usesOfAll : List Piece → List Use
  | [] => []
  | p :: rest => p.uses ++ usesOfAll rest

end

/-- Whether some pieces read a variable before any of them takes its name. -/
def asksFor (ps : List Piece) (name : String) : Bool :=
  (usesOfAll ps).find? (fun u => u.name = name) == some (.read name)

mutual

/-- The variables that a piece reads itself, and not only within a loop or block. -/
def Piece.ownReads : Piece → List String
  | .text _ => []
  | .output e => e.reads
  | .loop _ items _ _ _ => items.reads
  | .branch condition yes no => condition.reads ++ ownReads yes ++ ownReads no
  | .block _ function arguments _ => function.reads ++ readsOfAll arguments
  | .inclusion name => name.reads

/-- The variables that some pieces read themselves. -/
def ownReads : List Piece → List String
  | [] => []
  | p :: rest => p.ownReads ++ ownReads rest

end

/-! ### Variables with a meaning of their own -/

/-- The variable that tells the body of a loop about the items. -/
def roundName : String := "loop"

/-- The variable that stands for the template itself. -/
def selfName : String := "self"

/-- The variable of a block for the block that is given to it, which is none. -/
def callerName : String := "caller"

/-- The variables of a block for what it is given beyond its parameters, by name and in a row. -/
def surplusNames : String × String := ("kwargs", "varargs")

end Template

end GraphScribe
