import GraphScribe.Template.Basic
import GraphScribe.Template.Datum
import GraphScribe.Text.Alike

/-!
# Scopes

A `Scope` holds the variables of a place in a template.  A template, a body of a loop and a block
are entered by `Scope.enter`: all variables that they read are looked up at once, unless something
around knows them already.  Names that look alike are one variable, in which the last datum counts.
What a template includes sees the variables from the start and those that were set
(`Scope.handed`).
-/

namespace GraphScribe.Template

/-- The variables of a place in a template: those that are there from the start, those that have
been set on the way, and those that are known already as they are known, inner ones first. -/
structure Scope where
  start : Assoc Datum
  own : Assoc Datum := []
  known : Assoc Datum := []
deriving Inhabited

namespace Scope

/-- The datum of a variable, which may be missing. -/
def datum (s : Scope) (name : String) : Datum :=
  (s.known.find? name <|> s.start.find? name).getD .missing

/-- Sets a variable. -/
def set (s : Scope) (name : String) (d : Datum) : Scope :=
  { s with own := (name, d) :: s.own, known := (name, d) :: s.known }

/-- The last of some variables whose name looks like `name`. -/
def lastAlike? (vs : Assoc Datum) (name : String) : Option Datum :=
  (vs.reverse.find? fun v => Text.alike v.1 name).map Prod.snd

/-- The variables that are looked up for `names`: what is missing from the start is missing. -/
def lookedUp (s : Scope) (set names : List String) : Assoc Datum :=
  (names.filter fun n => !set.contains n && !(s.known.contains n)).eraseDups.map fun n =>
    (n, (s.start.find? n).getD .missing)

/-- What a variable stands for that was set to `d`: if one that looks like it has been looked up
later in vain, only the remnant is left of it. -/
def ownDatum (remnant : Datum) (later : Assoc Datum) (d : Datum) (name : String) : Datum :=
  match lastAlike? later name with
  | some .missing => remnant
  | some found => found
  | none => d

/-- The variables of `vs` with what they stand for when the variables of `later` follow. -/
def settled (remnant : Datum) (vs later : Assoc Datum) : Assoc Datum :=
  vs.map fun v => (v.1, ownDatum remnant later ((lastAlike? vs v.1).getD v.2) v.1)

/-- Enters a part of a template that reads `names`.  It sets variables, some of them before the others
are looked up and some of them afterwards. -/
def enter (s : Scope) (remnant : Datum) (before : Assoc Datum) (names : List String)
    (after : Assoc Datum) : Scope :=
  let read := s.lookedUp ((before ++ after).map Prod.fst) names
  let all := before ++ read ++ after
  let own := settled remnant before (read ++ after) ++ settled remnant after []
  { s with
    own := own ++ s.own
    known := own ++ read.map (fun v => (v.1, (lastAlike? all v.1).getD v.2)) ++ s.known }

/-- The variables that are given to a template that is included. -/
def handed (s : Scope) : Assoc Datum :=
  (s.own.filter fun v => match v.2 with
    | .unset => false
    | _ => true) ++ s.start

end Scope

end GraphScribe.Template
