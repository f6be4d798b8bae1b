/-!
# Rules of grammars

A `Rule` takes what it describes from the front of a list of tokens, or fails.  `Rule.next`,
`Rule.accept` and `Rule.expect` take single tokens, and `Rule.runAll` reads a whole list.
-/

namespace GraphScribe

/-- A rule over tokens of some type: takes tokens from the front, or fails. -/
abbrev Rule (τ : Type) := StateT (List τ) Option

namespace Rule

variable {τ α : Type}

/-- The next token. -/
def next : Rule τ τ := fun
  | t :: ts => some (t, ts)
  | [] => none

/-- The next token, left where it is. -/
def peek? : Rule τ (Option τ) := fun ts => some (ts.head?, ts)

/-- The end of the tokens. -/
def finish : Rule τ Unit := fun
  | [] => some ((), [])
  | _ => none

/-- The token `t`. -/
def expect [DecidableEq τ] (t : τ) : Rule τ Unit := do
  if (← next) = t then pure () else failure

/-- The token `t` if it comes next, and whether it did. -/
def accept [DecidableEq τ] (t : τ) : Rule τ Bool := fun
  | u :: ts => if u = t then some (true, ts) else some (false, u :: ts)
  | [] => some (false, [])

/-- Reads all of some tokens by a rule. -/
def runAll (rule : Rule τ α) (ts : List τ) : Option α :=
  match rule ts with
  | some (x, []) => some x
  | _ => none

end Rule

end GraphScribe
