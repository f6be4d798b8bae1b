import GraphScribe.Proofs.Batch.Transform
import GraphScribe.Proofs.Shape.Linking

/-!
# Links inside a batch

The shapes of a namespace refer to each other, and to the fragments of the batch, by name.
`Batch.Linked` says that each of these names is found, and belongs to nothing else; it holds of
every namespace of a batch (`Batch.transform_linked`).
-/

namespace GraphScribe

namespace Batch

open Result

/-! ### The shapes of a batch -/

/-- The root shapes of the namespaces of a batch. -/
def roots (b : Batch) : List Shape :=
  b.fragments.map FragmentNamespace.root ++ b.operations.map OperationNamespace.root

theorem nodup_taken_operationTable (o : Operation) (name : String) :
  (operationTable o name).taken.Nodup
  := by
  simpa [operationTable] using capitalize_keyword_ne o.kind

/-- The root of every namespace comes of a walk that knows the namespaces of the fragments and starts
from a table of distinct names, its own among them. -/
theorem exists_walk_of_transform {model : Model} {documents : List Document} {b : Batch}
    (h : transform model documents = .ok b) :
  ∀ root ∈ b.roots, ∃ (name T site : String) (ss : List Selection) (t t' : NameTable)
    (reserved : List String),
    (Walk.shape ⟨model, namespacesOf documents⟩ name T ss site).outcome t = (.ok root, t')
      ∧ t.taken = name :: reserved ∧ t.taken.Nodup
  := by
  obtain ⟨-, hfragments, hoperations⟩ := transform_eq_ok_iff.mp h
  intro root hroot
  rcases List.mem_append.mp hroot with hroot | hroot
  · obtain ⟨n, hn, rfl⟩ := List.mem_map.mp hroot
    obtain ⟨f, -, hf⟩ := exists_of_forall₂ hfragments hn
    obtain ⟨-, -, -, t', hwalk⟩ := of_resolveFragment_eq_ok hf
    exact ⟨_, _, _, _, _, t', _, hwalk, rfl, List.nodup_singleton _⟩
  · obtain ⟨n, hn, rfl⟩ := List.mem_map.mp hroot
    obtain ⟨o, -, ho⟩ := exists_of_forall₂ hoperations hn
    obtain ⟨-, -, -, -, T, t', hwalk⟩ := of_transformOperation_eq_ok ho
    exact ⟨_, _, _, _, _, t', _, hwalk, rfl, nodup_taken_operationTable o.1 o.2⟩

/-- Every shape of a batch is made by a walk that knows the namespaces of the fragments. -/
theorem madeBy_of_transform {model : Model} {documents : List Document} {b : Batch}
    (h : transform model documents = .ok b) :
  ∀ root ∈ b.roots, ∀ s ∈ root.shapes, s.MadeBy ⟨model, namespacesOf documents⟩
  := by
  intro root hroot
  obtain ⟨name, T, site, ss, t, t', reserved, hwalk, -, -⟩ := exists_walk_of_transform h root hroot
  apply Walk.madeBy_of_outcome hwalk

/-- The shapes of a namespace have distinct names. -/
theorem nodup_names_of_transform {model : Model} {documents : List Document} {b : Batch}
    (h : transform model documents = .ok b) :
  ∀ root ∈ b.roots, (root.shapes.map Shape.name).Nodup
  := by
  intro root hroot
  obtain ⟨name, T, site, ss, t, t', reserved, hwalk, htaken, hnodup⟩ :=
    exists_walk_of_transform h root hroot
  apply (Walk.nodup_names_of_outcome hwalk htaken hnodup).1

/-- No shape of an operation has the name of its variables. -/
theorem variablesName_not_mem_of_transform {model : Model} {documents : List Document} {b : Batch}
    (h : transform model documents = .ok b) :
  ∀ n ∈ b.operations, variablesName ∉ n.root.shapes.map Shape.name
  := by
  obtain ⟨-, -, hoperations⟩ := transform_eq_ok_iff.mp h
  intro n hn
  obtain ⟨o, -, ho⟩ := exists_of_forall₂ hoperations hn
  obtain ⟨-, -, -, -, T, t', hwalk⟩ := of_transformOperation_eq_ok ho
  apply (Walk.nodup_names_of_outcome hwalk rfl (nodup_taken_operationTable o.1 o.2)).2
  apply List.mem_singleton_self

/-! ### Links -/

/-- The names in the shapes of a namespace are found, each in one place: the name of a nested
shape stands at every level of the descriptor of its property, the `__typename` of a shape refers
to its inline fragments, and what a shape spreads is a fragment among `fragments`. -/
structure Linked (fragments : List FragmentNamespace) (root : Shape) : Prop where
  distinct : (root.shapes.map Shape.name).Nodup
  reachable : ∀ s, s ∈ root.shapes ↔ Relation.ReflTransGen Shape.Holds root s
  once : root.shapes.Nodup
  nested : ∀ s ∈ root.shapes, ∀ p s', (p, some s') ∈ s.properties →
    (∀ n ∈ p.descriptor.names, n = s'.name)
      ∧ root.shapes.filter (fun x => x.name = p.descriptor.name) = [s']
  inline : ∀ s ∈ root.shapes, s.typename.references = s.inlineFragments.map Shape.name
    ∧ ∀ s' ∈ s.inlineFragments, root.shapes.filter (fun x => x.name = s'.name) = [s']
  spread : ∀ s ∈ root.shapes, ∀ r ∈ s.spreads,
    ∃ n, fragments.filter (fun x => (x.name, x.space) = (r.name, r.space)) = [n]

/-- The root of a walk is linked if the walk knows the namespaces of the fragments. -/
theorem linked_of_outcome {c : WalkContext} {name T site : String} {ss : List Selection}
    {t t' : NameTable} {root : Shape}
    (h : (Walk.shape c name T ss site).outcome t = (.ok root, t'))
    {reserved : List String} (ht : t.taken = name :: reserved) (hnodup : t.taken.Nodup)
    {fragments : List FragmentNamespace}
    (hentries : fragments.map (fun n => (n.name, n.space)) = c.fragments)
    (hspaces : (fragments.map FragmentNamespace.space).Nodup) :
  Linked fragments root
  := by
  have hnames := (Walk.nodup_names_of_outcome h ht hnodup).1
  have hmade := Walk.madeBy_of_outcome h
  have hbelow : ∀ s ∈ root.shapes, ∀ s', s.Holds s' → s' ∈ root.shapes := by
    intro s hs s' hs'
    apply Shape.mem_shapes_iff.mpr
    apply (Shape.mem_shapes_iff.mp hs).tail hs'
  constructor
  case distinct => apply hnames
  case reachable =>
    intro s
    apply Shape.mem_shapes_iff
  case once => apply List.Nodup.of_map Shape.name hnames
  case nested =>
    intro s hs p s' hp
    have hlevels := (hmade s hs).names_of_property hp
    use hlevels
    rw [hlevels p.descriptor.name p.descriptor.name_mem_names]
    apply filter_eq_singleton_of_nodup hnames
    apply hbelow s hs s' (Or.inl ⟨p, hp⟩)
  case inline =>
    intro s hs
    use (hmade s hs).references_eq
    intro s' hs'
    apply filter_eq_singleton_of_nodup hnames
    apply hbelow s hs s' (Or.inr hs')
  case spread =>
    intro s hs r hr
    have hentry := Assoc.mem_of_find?_eq_some ((hmade s hs).find?_of_spread hr)
    rw [← hentries] at hentry
    obtain ⟨n, hn, hpair⟩ := List.mem_map.mp hentry
    have hpairs : (fragments.map fun n => (n.name, n.space)).Nodup := by
      apply List.Nodup.of_map Prod.snd
      rw [List.map_map]
      apply hspaces
    use n
    rw [← hpair]
    apply filter_eq_singleton_of_nodup hpairs hn

/-- The namespaces of a batch are linked, and no shape of an operation has the name of its
variables. -/
theorem transform_linked {model : Model} {documents : List Document} {b : Batch}
    (h : transform model documents = .ok b) :
  (∀ n ∈ b.fragments, Linked b.fragments n.root)
    ∧ ∀ n ∈ b.operations,
        Linked b.fragments n.root ∧ variablesName ∉ n.root.shapes.map Shape.name
  := by
  obtain ⟨-, hfragments, hoperations⟩ := transform_eq_ok_iff.mp h
  have hentries := entries_of_transform h
  have hspaces := nodup_fragmentSpaces_of_transform h
  constructor
  · intro n hn
    obtain ⟨f, -, hf⟩ := exists_of_forall₂ hfragments hn
    obtain ⟨-, -, -, t', hroot⟩ := of_resolveFragment_eq_ok hf
    apply linked_of_outcome hroot rfl (List.nodup_singleton _) hentries hspaces
  · intro n hn
    obtain ⟨o, -, ho⟩ := exists_of_forall₂ hoperations hn
    obtain ⟨-, -, -, -, T, t', hroot⟩ := of_transformOperation_eq_ok ho
    have htable : (operationTable o.1 o.2).taken.Nodup := by
      simpa [operationTable] using capitalize_keyword_ne o.1.kind
    constructor
    · apply linked_of_outcome hroot rfl htable hentries hspaces
    · apply (Walk.nodup_names_of_outcome hroot rfl htable).2
      apply List.mem_singleton_self

theorem transform_linked_sample :
  transform Walk.sampleModel sampleDocuments = .ok sampleBatch
    ∧ (∀ n ∈ sampleBatch.fragments, Linked sampleBatch.fragments n.root)
    ∧ ∀ n ∈ sampleBatch.operations,
        Linked sampleBatch.fragments n.root ∧ variablesName ∉ n.root.shapes.map Shape.name
  := by
  have h : transform Walk.sampleModel sampleDocuments = .ok sampleBatch := rfl
  use h
  apply transform_linked h

end Batch

end GraphScribe
