import GraphScribe.Proofs.Config.Layers
import GraphScribe.Proofs.Output.Statement

/-!
# Targets of scalars

A scalar has a target if there is an entry for it among the primitives.  Every configuration gives
targets to the built-in scalars (`Config.builtinScalars_subset`), and no target is lost while
statements are written (`Statement.keepsTargets_writeAll`).
-/

namespace GraphScribe

open Result TypeScript Styled

/-! ### Targets -/

namespace Config

/-- A configuration gives targets to the built-in scalars. -/
theorem builtinScalars_subset {entries : List (String × Value)} {c : Config}
    (h : ofEntries entries = .ok c) :
  builtinScalars ⊆ (Style.ofConfig c).primitives.keys
  := by
  change builtinScalars ⊆ Assoc.keys ((c.primitives.entries?).getD [])
  rw [primitives_of_ofEntries h]
  exact Assoc.keys_subset_insertAll defaultPrimitives _

end Config

namespace Shape

/-! ### Writing keeps the targets -/

theorem keepsTargets_plainProperty (label : String) (slot : Slot) :
  KeepsTargets (plainProperty label slot)
  := by
  apply keepsTargets_bind (Style.keepsTargets_convertedType slot)
  intro v
  apply keepsTargets_pure

theorem keepsTargets_nestedProperty (label : String) (p : Property) (o : ObjectExpr) :
  KeepsTargets (nestedProperty label p o)
  := by
  apply keepsTargets_bind keepsTargets_get
  intro style
  apply keepsTargets_pure

theorem keepsTargets_labelInPlace (marker : String) (slot : Slot) :
  KeepsTargets (labelInPlace marker slot)
  := by
  apply keepsTargets_bind keepsTargets_get
  intro style
  apply keepsTargets_pure

theorem keepsTargets_namedParts (s : Shape) (marker : String) :
  KeepsTargets (s.namedParts marker)
  := by
  apply keepsTargets_bind
  · apply keepsTargets_mapM
    rintro ⟨p, _ | s'⟩ -
    · apply keepsTargets_bind keepsTargets_get
      intro style
      apply keepsTargets_plainProperty
    · apply keepsTargets_bind keepsTargets_get
      intro style
      apply keepsTargets_nestedProperty
  · intro ps
    apply keepsTargets_pure

theorem keepsTargets_inPlace (s : Shape) (marker : String) :
  KeepsTargets (s.inPlace marker)
  := by
  have hbelow : ∀ s', s.Holds s' → KeepsTargets (s'.inPlace marker) := by
    intro s' hs'
    apply keepsTargets_inPlace
  rw [inPlace_eq]
  apply keepsTargets_bind
  · apply keepsTargets_mapM
    rintro ⟨p, _ | s'⟩ hp
    · apply keepsTargets_bind (keepsTargets_labelInPlace marker _)
      intro label
      apply keepsTargets_plainProperty
    · apply keepsTargets_bind (keepsTargets_labelInPlace marker _)
      intro label
      apply keepsTargets_bind (hbelow s' (Or.inl ⟨p, hp⟩))
      intro o
      apply keepsTargets_nestedProperty
  · intro ps
    apply keepsTargets_bind
    · apply keepsTargets_mapM
      intro s' hs'
      apply hbelow s' (Or.inr hs')
    · intro os
      apply keepsTargets_pure
termination_by sizeOf s
decreasing_by
  apply sizeOf_lt_of_holds hs'

theorem keepsTargets_definitionTexts (flatten : Bool) (marker : String) (root : Shape) :
  KeepsTargets (root.definitionTexts flatten marker)
  := by
  cases flatten with
  | true =>
    rw [definitionTexts_true, ← bind_pure_comp]
    apply keepsTargets_bind
    · apply keepsTargets_mapM
      intro s _
      apply keepsTargets_bind (s.keepsTargets_namedParts marker)
      intro o
      apply keepsTargets_pure
    · intro table
      apply keepsTargets_pure
  | false =>
    rw [definitionTexts_false, ← bind_pure_comp]
    apply keepsTargets_bind (root.keepsTargets_inPlace marker)
    intro tree
    apply keepsTargets_pure

end Shape

namespace Statement

theorem keepsTargets_lineText (line : InterfaceLine) :
  KeepsTargets (lineText line)
  := by
  apply keepsTargets_bind (Style.keepsTargets_declaration line.slot)
  intro declaration
  apply keepsTargets_pure

theorem keepsTargets_variablesText (slots : List Slot) :
  KeepsTargets (variablesText slots)
  := by
  apply keepsTargets_bind
  · apply keepsTargets_mapM
    intro p _
    apply keepsTargets_bind (Style.keepsTargets_declaration p)
    intro declaration
    apply keepsTargets_pure
  · intro lines
    apply keepsTargets_pure

theorem keepsTargets_write (l : Layout) (t : Statement) :
  KeepsTargets (write l t)
  := by
  cases t with
  | scalar name description =>
    apply keepsTargets_bind keepsTargets_get
    intro style
    apply keepsTargets_pure
  | interface name description extended lines =>
    apply keepsTargets_bind (keepsTargets_mapM fun line _ => keepsTargets_lineText line)
    intro texts
    apply keepsTargets_pure
  | enum name description values => apply keepsTargets_pure
  | union name description members => apply keepsTargets_pure
  | space name variableSlots root =>
    have habove : ∀ above : String, KeepsTargets (do
        return Partial.namespaceText name
          (above ++ String.join (← root.definitionTexts l.flatten l.marker))) := by
      intro above
      apply keepsTargets_bind (root.keepsTargets_definitionTexts l.flatten l.marker)
      intro texts
      apply keepsTargets_pure
    cases variableSlots with
    | none => apply habove
    | some slots => exact keepsTargets_bind (keepsTargets_variablesText slots) habove

theorem keepsTargets_writeAll (l : Layout) (ts : List Statement) :
  KeepsTargets (writeAll l ts)
  := by
  apply keepsTargets_bind (keepsTargets_mapM fun t _ => keepsTargets_write l t)
  intro texts
  apply keepsTargets_pure

end Statement

end GraphScribe
