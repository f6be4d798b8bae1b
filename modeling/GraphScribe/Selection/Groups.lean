import GraphScribe.Document.Basic

/-!
# Merging selections

Fields of a selection set that share a response key are selected together: `Selection.groups`
gathers them, each group standing where its first node stands.  `Selection.normalize` replaces
each group by its first node, with the selections of all nodes of the group one after
another, at every depth.
-/

namespace GraphScribe

namespace Selection

/-- The key under which the value of a field is answered. -/
def key? : Selection → Option String
  | field alias? name _ _ _ => some (alias?.getD name)
  | spread _ _ => none
  | inline _ _ _ => none

/-- The selections below a selection. -/
def children : Selection → List Selection
  | field _ _ _ _ ss => ss
  | spread _ _ => []
  | inline _ _ ss => ss

/-- The selection with other selections below it. -/
def withChildren (ss : List Selection) : Selection → Selection
  | field alias? name args ds _ => field alias? name args ds ss
  | spread name ds => spread name ds
  | inline on? ds _ => inline on? ds ss

mutual

/-- The number of selections above and including the deepest one. -/
def depth : Selection → Nat
  | field _ _ _ _ ss => depths ss + 1
  | spread _ _ => 1
  | inline _ _ ss => depths ss + 1

/-- The depth of the deepest of some selections. -/
def depths : List Selection → Nat
  | [] => 0
  | s :: rest => max (depth s) (depths rest)

end

end Selection

/-- Selections that belong together: the fields of one response key, or a single other one. -/
structure Group where
  first : Selection
  more : List Selection := []
deriving Inhabited

namespace Group

/-- All selections of a group, in order. -/
def nodes (g : Group) : List Selection := g.first :: g.more

/-- The response key of a group of fields. -/
def key? (g : Group) : Option String := g.first.key?

/-- Adds a field with the response key `key` to the group of that key, or as a new group. -/
def add (key : String) (s : Selection) : List Group → List Group
  | [] => [{ first := s }]
  | g :: rest =>
    if g.key? = some key then { g with more := g.more ++ [s] } :: rest else g :: add key s rest

/-- Adds a selection to the groups it follows. -/
def push (gs : List Group) (s : Selection) : List Group :=
  match s.key? with
  | some key => add key s gs
  | none => gs ++ [{ first := s }]

end Group

namespace Selection

/-- The groups of a selection set, in the order of their first nodes. -/
def groups (ss : List Selection) : List Group := ss.foldl Group.push []

/-- One selection for each group, with the selections below the group merged `depth` deep. -/
def normalizeTo : Nat → List Selection → List Selection
  | 0, _ => []
  | depth + 1, ss => (groups ss).map fun g =>
    g.first.withChildren (normalizeTo depth (g.nodes.flatMap children))

/-- The selection set with each group merged into its first node, at every depth. -/
def normalize (ss : List Selection) : List Selection := normalizeTo (depths ss) ss

end Selection

end GraphScribe
