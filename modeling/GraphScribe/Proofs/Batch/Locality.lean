import GraphScribe.Proofs.Batch.Collision

/-!
# Locality of a batch

What a batch makes of a definition depends on the rest of the batch only in whether it succeeds:
a walk that knows more fragments, under another site, makes the same shapes
(`Walked.elsewhere`).  So a definition comes to the same namespace in every batch that succeeds,
where an anonymous operation is called after its place, and the order of the definitions does not
matter to whether a batch succeeds (`Batch.transform_local`).
-/

namespace GraphScribe

/-! ### The same walk elsewhere -/

/-- The names of a table, taken in another scope. -/
def NameTable.inScope (t : NameTable) (scope : String) : NameTable := { t with scope }

section

variable {model : Model} {fragments fragments' : Assoc String} {T site : String}
  {ss : List Selection} {t t' : NameTable}

/-- A walk looks at the fragments that it spreads, and at the names that are taken.  It goes the
same way where more fragments are known, under another site and in another scope. -/
theorem Walked.elsewhere (hle : fragments.Within fragments') {ms : List Member}
    (h : Walked ⟨model, fragments⟩ T site ss t ms t') (site' scope : String) :
  Walked ⟨model, fragments'⟩ T site' ss (t.inScope scope) ms (t'.inScope scope)
  := by
  induction h generalizing site' with
  | nil => exact Walked.nil
  | typename key _ ih => exact Walked.typename key (ih site')
  | aliasedTypename key _ ih => exact Walked.aliasedTypename key (ih site')
  | leaf ordinary declared kind _ ih => exact Walked.leaf ordinary declared kind (ih site')
  | nested ordinary declared kind selected claimed _ _ ihInside ih =>
    exact Walked.nested ordinary declared kind selected claimed (ihInside _) (ih site')
  | spread entered _ ih => exact Walked.spread (hle _ _ entered) (ih site')
  | inline composite claimed _ _ ihInside ih =>
    exact Walked.inline composite claimed (ihInside site') (ih site')

theorem Walk.outcome_shape_elsewhere (hle : fragments.Within fragments') {name : String}
    {root : Shape} (h : (shape ⟨model, fragments⟩ name T ss site).outcome t = (.ok root, t'))
    (site' scope : String) :
  (shape ⟨model, fragments'⟩ name T ss site').outcome (t.inScope scope)
    = (.ok root, t'.inScope scope)
  := by
  obtain ⟨ms, hwalk, rfl⟩ := outcome_shape_eq_ok_iff.mp h
  apply outcome_shape_eq_ok_iff.mpr
  use ms, hwalk.elsewhere hle site' scope

end

/-- The namespace of an operation under another name. -/
def OperationNamespace.called (n : OperationNamespace) (name : String) : OperationNamespace :=
  { n with name, space := Naming.capitalize name }

namespace Batch

open Result

/-! ### The same definition in another batch -/

theorem within_entries {fragments fragments' : List Fragment}
    (h : fragments.map Fragment.name ⊆ fragments'.map Fragment.name) :
  (entries fragments).Within (entries fragments')
  := by
  intro name ns hns
  obtain ⟨hname, hspace⟩ := find?_entries_eq_some_iff.mp hns
  apply find?_entries_eq_some_iff.mpr ⟨h hname, hspace⟩

/-- The namespaces of the fragments of two batches agree, so that some namespaces extend both. -/
theorem exists_within (fragments fragments' : List Fragment) :
  ∃ namespaces, (entries fragments).Within namespaces ∧ (entries fragments').Within namespaces
  := by
  use entries (fragments ++ fragments')
  constructor
  · apply within_entries (List.map_subset _ (List.subset_append_left fragments fragments'))
  · apply within_entries (List.map_subset _ (List.subset_append_right fragments fragments'))

section

variable {model : Model} {namespaces namespaces' : Assoc String}

theorem resolveFragment_elsewhere (hle : namespaces.Within namespaces') {f : Fragment}
    {n : FragmentNamespace} (h : resolveFragment model namespaces f = .ok n) :
  resolveFragment model namespaces' f = .ok n
  := by
  obtain ⟨hcomposite, hname, hon, hspace, t', hwalk⟩ := resolveFragment_eq_ok_iff.mp h
  apply resolveFragment_eq_ok_iff.mpr
  use hcomposite, hname, hon, hle _ _ hspace
  apply Exists.intro
  apply Walk.outcome_shape_elsewhere hle hwalk

theorem variableProperty_elsewhere {ns : String} {v : VariableDeclaration} {p : Property}
    (h : variableProperty model ns v = .ok p) (ns' : String) :
  variableProperty model ns' v = .ok p
  := by
  rw [variableProperty] at h ⊢
  cases hkind : model.kindOf v.type.descriptor.name with
  | none =>
    rw [hkind] at h
    cases h
  | some kind =>
    rw [hkind] at h
    apply h

/-- An operation under another name comes to the same variables and shapes. -/
theorem transformOperation_elsewhere (hle : namespaces.Within namespaces') {o : Operation}
    {name : String} {n : OperationNamespace}
    (h : transformOperation model namespaces o name = .ok n) (name' : String) :
  transformOperation model namespaces' o name' = .ok (n.called name')
  := by
  obtain ⟨-, -, hkind, hanonymous, hvariables, T, hT, t', hwalk⟩ :=
    transformOperation_eq_ok_iff.mp h
  apply transformOperation_eq_ok_iff.mpr
  use rfl, rfl, hkind, hanonymous
  constructor
  · rw [mapM_eq_ok_iff] at hvariables ⊢
    apply hvariables.imp
    intro v p hp
    apply variableProperty_elsewhere hp
  · use T, hT
    apply Exists.intro
    apply Walk.outcome_shape_elsewhere hle hwalk

end

section

variable {model : Model} {fragments fragments' : List Fragment}

theorem resolveFragment_unique {f : Fragment} {n n' : FragmentNamespace}
    (h : resolveFragment model (entries fragments) f = .ok n)
    (h' : resolveFragment model (entries fragments') f = .ok n') :
  n = n'
  := by
  obtain ⟨namespaces, hle, hle'⟩ := exists_within fragments fragments'
  have hboth := resolveFragment_elsewhere hle h
  rw [resolveFragment_elsewhere hle' h'] at hboth
  apply (Except.ok.inj hboth).symm

theorem transformOperation_unique {o : Operation} {name name' : String}
    {n n' : OperationNamespace}
    (h : transformOperation model (entries fragments) o name = .ok n)
    (h' : transformOperation model (entries fragments') o name' = .ok n') :
  n' = n.called name'
  := by
  obtain ⟨namespaces, hle, hle'⟩ := exists_within fragments fragments'
  have hboth := transformOperation_elsewhere hle h name'
  rw [transformOperation_elsewhere hle' h' name'] at hboth
  have hcalled : n'.called name' = n' := by
    obtain ⟨rfl, hspace, -⟩ := of_transformOperation_eq_ok h'
    rw [OperationNamespace.called, ← hspace]
  rw [← hcalled, Except.ok.inj hboth]

end

/-! ### Batches of the same definitions -/

/-- The batch consists of what `F` makes of each fragment, and of what `G` makes of each
operation, called by the name that the operation has at its place. -/
structure MadeAs (F : Fragment → FragmentNamespace) (G : Operation → OperationNamespace)
    (documents : List Document) (b : Batch) : Prop where
  fragments : b.fragments = (documents.flatMap Document.fragments).map F
  operations : b.operations
    = (documents.flatMap Document.operations).zipIdx.map fun o =>
        (G o.1).called
          (Naming.nameAt ((documents.flatMap Document.operations).map Operation.name) o.2)

/-- Two batches have the same namespace for a fragment, or for an operation with a name, wherever
it stands in their documents. -/
structure Agree (documents : List Document) (b : Batch) (documents' : List Document)
    (b' : Batch) : Prop where
  fragment : ∀ (i j : Nat) f, (documents.flatMap Document.fragments)[i]? = some f →
    (documents'.flatMap Document.fragments)[j]? = some f →
    ∃ n, b.fragments[i]? = some n ∧ b'.fragments[j]? = some n
  operation : ∀ (i j : Nat) o, (documents.flatMap Document.operations)[i]? = some o →
    (documents'.flatMap Document.operations)[j]? = some o → o.name.isSome →
    ∃ n, b.operations[i]? = some n ∧ b'.operations[j]? = some n

/-- Every batch that succeeds makes the same of a fragment. -/
theorem exists_resolved (model : Model) (f : Fragment) :
  ∃ n, ∀ fragments n', resolveFragment model (entries fragments) f = .ok n' → n' = n
  := by
  by_cases h : ∃ fragments n, resolveFragment model (entries fragments) f = .ok n
  · obtain ⟨fragments, n, hn⟩ := h
    use n
    intro fragments' n' hn'
    apply resolveFragment_unique hn' hn
  · use default
    intro fragments n hn
    apply absurd ⟨fragments, n, hn⟩ h

/-- Every batch that succeeds makes the same of an operation, up to its name. -/
theorem exists_transformed (model : Model) (o : Operation) :
  ∃ n : OperationNamespace, ∀ fragments name n',
    transformOperation model (entries fragments) o name = .ok n' → n' = n.called name
  := by
  by_cases h : ∃ fragments name n, transformOperation model (entries fragments) o name = .ok n
  · obtain ⟨fragments, name, n, hn⟩ := h
    use n
    intro fragments' name' n' hn'
    apply transformOperation_unique hn hn'
  · use default
    intro fragments name n hn
    apply absurd ⟨fragments, name, n, hn⟩ h

theorem exists_madeAs (model : Model) :
  ∃ F G, ∀ documents b, transform model documents = .ok b → MadeAs F G documents b
  := by
  choose F hF using exists_resolved model
  choose G hG using exists_transformed model
  use F, G
  intro documents b h
  obtain ⟨-, hfragments, hoperations⟩ := transform_eq_ok_iff.mp h
  constructor
  case fragments =>
    rw [← List.map_id b.fragments]
    apply map_eq_of_forall₂ hfragments
    intro f _ n hn
    apply hF f _ n hn
  case operations =>
    rw [namedOperations_eq, List.forall₂_map_left_iff] at hoperations
    rw [← List.map_id b.operations]
    apply map_eq_of_forall₂ hoperations
    intro o _ n hn
    apply hG o.1 _ _ n hn

theorem MadeAs.agree {F : Fragment → FragmentNamespace} {G : Operation → OperationNamespace}
    {documents documents' : List Document} {b b' : Batch} (h : MadeAs F G documents b)
    (h' : MadeAs F G documents' b') :
  Agree documents b documents' b'
  := by
  constructor
  case fragment =>
    intro i j f hi hj
    use F f
    rw [h.fragments, h'.fragments, List.getElem?_map, List.getElem?_map, hi, hj]
    use rfl
    rfl
  case operation =>
    intro i j o hi hj hname
    obtain ⟨name, hname⟩ := Option.isSome_iff_exists.mp hname
    have hplace : ∀ (operations : List Operation) (k : Nat), operations[k]? = some o →
        Naming.nameAt (operations.map Operation.name) k = name := by
      intro operations k hk
      apply Naming.nameAt_of_declared
      rw [List.getElem?_map, hk, Option.map_some, hname]
    use (G o).called name
    rw [h.operations, h'.operations, List.getElem?_map, List.getElem?_map, List.getElem?_zipIdx,
      List.getElem?_zipIdx, hi, hj]
    simp only [Option.map_some, Nat.zero_add, hplace _ _ hi, hplace _ _ hj, and_self]

/-! ### Success in any order -/

/-- A batch succeeds if the namespaces it asks for are distinct and each definition succeeds, an
operation under whatever name. -/
theorem exists_transform_iff {model : Model} {documents : List Document} :
  (∃ b, transform model documents = .ok b)
    ↔ (spaceNames documents).Nodup
      ∧ (∀ f ∈ documents.flatMap Document.fragments,
          ∃ n, resolveFragment model (namespacesOf documents) f = .ok n)
      ∧ ∀ o ∈ documents.flatMap Document.operations, ∀ name,
          ∃ n, transformOperation model (namespacesOf documents) o name = .ok n
  := by
  constructor
  · rintro ⟨b, h⟩
    obtain ⟨hnodup, hfragments, hoperations⟩ := transform_eq_ok_iff.mp h
    use hnodup, exists_forall₂_iff.mp ⟨_, hfragments⟩
    intro o ho name
    rw [← map_fst_namedOperations] at ho
    obtain ⟨named, hnamed, rfl⟩ := List.mem_map.mp ho
    obtain ⟨n, -, hn⟩ := exists_of_forall₂_left hoperations hnamed
    use n.called name
    apply transformOperation_elsewhere (Assoc.Within.refl _) hn
  · rintro ⟨hnodup, hfragments, hoperations⟩
    obtain ⟨fragments, hfragments⟩ := exists_forall₂_iff.mpr hfragments
    have hnamed : ∀ o ∈ namedOperations documents,
        ∃ n, transformOperation model (namespacesOf documents) o.1 o.2 = .ok n := by
      intro o ho
      apply hoperations
      rw [← map_fst_namedOperations]
      apply List.mem_map_of_mem ho
    obtain ⟨operations, hoperations⟩ := exists_forall₂_iff.mpr hnamed
    use { operations, fragments }
    apply transform_eq_ok_iff.mpr ⟨hnodup, hfragments, hoperations⟩

section

variable {documents documents' : List Document} (h : documents.flatten.Perm documents'.flatten)

include h

theorem fragments_perm :
  (documents.flatMap Document.fragments).Perm (documents'.flatMap Document.fragments)
  := by
  have hperm := h.filterMap Definition.fragment?
  rw [List.filterMap_flatten, List.filterMap_flatten] at hperm
  apply hperm

theorem operations_perm :
  (documents.flatMap Document.operations).Perm (documents'.flatMap Document.operations)
  := by
  have hperm := h.filterMap Definition.operation?
  rw [List.filterMap_flatten, List.filterMap_flatten] at hperm
  apply hperm

theorem spaceNames_perm :
  (spaceNames documents).Perm (spaceNames documents')
  := by
  rw [spaceNames_eq, spaceNames_eq]
  apply ((fragments_perm h).map fragmentSpace).append
  apply (Naming.operationNames_perm ((operations_perm h).map Operation.name)).map

theorem exists_transform_of_perm {model : Model} (hb : ∃ b, transform model documents = .ok b) :
  ∃ b, transform model documents' = .ok b
  := by
  obtain ⟨hnodup, hfragments, hoperations⟩ := exists_transform_iff.mp hb
  have hle : (namespacesOf documents).Within (namespacesOf documents') :=
    within_entries ((fragments_perm h).map Fragment.name).subset
  apply exists_transform_iff.mpr
  use (spaceNames_perm h).nodup_iff.mp hnodup
  constructor
  · intro f hf
    obtain ⟨n, hn⟩ := hfragments f ((fragments_perm h).mem_iff.mpr hf)
    use n, resolveFragment_elsewhere hle hn
  · intro o ho name
    obtain ⟨n, hn⟩ := hoperations o ((operations_perm h).mem_iff.mpr ho) name
    use n.called name, transformOperation_elsewhere hle hn name

end

/-- What a batch makes of a fragment or an operation depends on that definition alone, but for the
name of an anonymous operation.  So any two batches that succeed have the same namespaces for the
definitions they share, and definitions in another order, spread over other documents, succeed
together as well. -/
theorem transform_local (model : Model) :
  (∃ F G, ∀ documents b, transform model documents = .ok b → MadeAs F G documents b)
    ∧ (∀ documents documents' b b', transform model documents = .ok b →
        transform model documents' = .ok b' → Agree documents b documents' b')
    ∧ ∀ documents documents' : List Document, documents.flatten.Perm documents'.flatten →
        ((∃ b, transform model documents = .ok b) ↔ ∃ b, transform model documents' = .ok b)
  := by
  obtain ⟨F, G, hmade⟩ := exists_madeAs model
  constructor
  · use F, G
  constructor
  · intro documents documents' b b' hb hb'
    apply (hmade documents b hb).agree (hmade documents' b' hb')
  · intro documents documents' h
    constructor
    · apply exists_transform_of_perm h
    · apply exists_transform_of_perm h.symm

/-- An anonymous query that spreads a fragment, a query with a name, and an anonymous query. -/
def groupedDocuments : List Document :=
  [[.operation { kind := .query, selections := [.field none "me" [] [] [.spread "card" []]] }],
    [.fragment { name := "card", on := "User", selections := [.field none "id" [] [] []] },
      .operation
        { kind := .query, name := some "names"
          selections := [.field none "__typename" [] [] []] },
      .operation { kind := .query, selections := [.field none "me" [] [] [.spread "card" []],
        .field none "__typename" [] [] []] }]]

/-- The definitions of `groupedDocuments` in reverse order in one document. -/
def regroupedDocuments : List Document := [groupedDocuments.flatten.reverse]

theorem transform_local_regrouped :
  groupedDocuments.flatten.Perm regroupedDocuments.flatten
    ∧ ∃ b b', transform Walk.sampleModel groupedDocuments = .ok b
      ∧ transform Walk.sampleModel regroupedDocuments = .ok b'
      ∧ Agree groupedDocuments b regroupedDocuments b'
      ∧ (b.operations.map fun n => (n.name, n.root.typenameSelected))
        = [("AnonymousQuery_1", false), ("names", true), ("AnonymousQuery_2", true)]
      ∧ (b'.operations.map fun n => (n.name, n.root.typenameSelected))
        = [("AnonymousQuery_1", true), ("names", true), ("AnonymousQuery_2", false)]
  := by
  obtain ⟨-, hagree, hperm⟩ := transform_local Walk.sampleModel
  have hregrouped : groupedDocuments.flatten.Perm regroupedDocuments.flatten := by
    rw [regroupedDocuments, List.flatten_singleton]
    apply (List.reverse_perm _).symm
  use hregrouped
  obtain ⟨b, hb⟩ : ∃ b, transform Walk.sampleModel groupedDocuments = .ok b := ⟨_, rfl⟩
  obtain ⟨b', hb'⟩ := (hperm _ _ hregrouped).mp ⟨b, hb⟩
  use b, b', hb, hb', hagree _ _ _ _ hb hb'
  cases hb
  cases hb'
  use rfl
  rfl

end Batch

end GraphScribe
