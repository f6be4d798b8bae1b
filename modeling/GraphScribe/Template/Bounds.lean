import GraphScribe.Failure
import GraphScribe.Template.Basic
import GraphScribe.Text.Alike

/-!
# What templates may not do

A loop must not take the variable that tells about its items, and a block that reads the variable
for a block given to it must not take that.  The parameters of a block must all look different.
Loops are nested up to a depth, and so is everything.  `Template.check` fails for a template that
does otherwise.
-/

namespace GraphScribe.Template

/-! ### Names that are taken -/

/-- The variables that a block has besides its parameters, as far as it reads them. -/
def surplus (parameters : List String) (body : List Piece) : List String :=
  [callerName, surplusNames.1, surplusNames.2].filter fun n =>
    !parameters.contains n && asksFor body n

/-- Whether no two of some names look alike. -/
def allDiffer : List String → Bool
  | [] => true
  | n :: rest => rest.all (fun m => !Text.alike n m) && allDiffer rest

mutual

/-- Whether a piece leaves alone the variables that it must not take. -/
def Piece.keepsNames : Piece → Bool
  | .text _ => true
  | .output _ => true
  | .loop var _ _ body otherwise => var ≠ roundName && keepNames body && keepNames otherwise
  | .branch _ yes no => keepNames yes && keepNames no
  | .block parameters _ _ body =>
    !(parameters.contains callerName && asksFor body callerName) && keepNames body
  | .inclusion _ => true

/-- Whether some pieces leave alone the variables that they must not take. -/
def keepNames : List Piece → Bool
  | [] => true
  | p :: rest => p.keepsNames && keepNames rest

end

mutual

/-- Whether the variables of every block in a piece look different. -/
def Piece.parametersDiffer : Piece → Bool
  | .text _ => true
  | .output _ => true
  | .loop _ _ _ body otherwise => parametersDiffer body && parametersDiffer otherwise
  | .branch _ yes no => parametersDiffer yes && parametersDiffer no
  | .block parameters _ _ body =>
    allDiffer (parameters ++ surplus parameters body) && parametersDiffer body
  | .inclusion _ => true

/-- Whether the variables of every block in some pieces look different. -/
def parametersDiffer : List Piece → Bool
  | [] => true
  | p :: rest => p.parametersDiffer && parametersDiffer rest

end

/-! ### How deep pieces are nested -/

/-- How deep loops may be nested. -/
def loopLimit : Nat := 20

/-- How deep pieces may be nested. -/
def levelLimit : Nat := 98

/-- How deep pieces may be nested to be read at all. -/
def readLimit : Nat := 238

mutual

/-- Whether the loops of a piece are nested at most `depth` deep, where an inclusion counts as a loop
and each block as a template of its own. -/
def Piece.loopsFit (depth : Nat) : Piece → Bool
  | .text _ => true
  | .output _ => true
  | .loop _ _ _ body otherwise =>
    match depth with
    | 0 => false
    | rest + 1 => loopsFit rest body && loopsFit (rest + 1) otherwise
  | .branch _ yes no => loopsFit depth yes && loopsFit depth no
  | .block _ _ _ body => loopsFit loopLimit body
  | .inclusion _ => depth ≠ 0

/-- Whether the loops of some pieces are nested at most `depth` deep. -/
def loopsFit (depth : Nat) : List Piece → Bool
  | [] => true
  | p :: rest => p.loopsFit depth && loopsFit depth rest

end

/-- Whether a piece is a choice. -/
def Piece.isBranch : Piece → Bool
  | .branch _ _ _ => true
  | _ => false

mutual

/-- How many levels a piece takes.  A condition makes a loop take three, and parameters or an
inclusion take one of their own. -/
def Piece.levels : Piece → Nat
  | .text _ => 0
  | .output _ => 0
  | .loop _ _ condition body otherwise =>
    max (if condition.isSome then 3 else 0) (1 + max (levels body) (levels otherwise))
  | .branch _ yes no => max (1 + levels yes) (otherLevels no)
  | .block parameters _ _ body => 1 + max (if parameters.isEmpty then 0 else 1) (levels body)
  | .inclusion _ => 1

/-- How many levels the pieces take that stand in place of others.  Another choice by itself stands
on the level of the first one. -/
def otherLevels : List Piece → Nat
  | [] => 0
  | [p] => if p.isBranch then p.levels else 1 + p.levels
  | p :: q :: rest => 1 + max p.levels (max q.levels (levels rest))

/-- How many levels some pieces take. -/
def levels : List Piece → Nat
  | [] => 0
  | p :: rest => max p.levels (levels rest)

end

/-- Fails if a template does what it must not. -/
def check (t : Template) : Except Failure Unit :=
  if readLimit < levels t then .error .nestedTooDeep
  else if !keepNames t then .error .variableTaken
  else if levelLimit < levels t then .error .templateTooDeep
  else if parametersDiffer t && loopsFit loopLimit t then .ok ()
  else .error .templateUnusable

end GraphScribe.Template
