import GraphScribe.Batch
import GraphScribe.Proofs.Assoc
import GraphScribe.Proofs.Naming
import GraphScribe.Proofs.Result
import GraphScribe.Proofs.Shape.Violation

/-!
# Transforming a batch in two phases

A batch first takes the namespaces of its fragments and operations, `Batch.spaceNames`, and
then makes the shapes.  If a namespace is wanted twice the first phase fails with a collision
(`Batch.transform_of_not_nodup`).  Otherwise the batch consists of what the second phase makes of
each definition (`Batch.transform_eq_ok_iff`), which never ends in a collision.
-/

namespace GraphScribe

/-- The failure of a name that is wanted twice. -/
def Failure.IsCollision (e : Failure) : Prop := ∃ name scope, e = .nameTaken name scope

/-- A selection that does not fit the model is no collision. -/
theorem Walk.not_isCollision_of_violation? {c : WalkContext} {ss : List Selection} :
  ∀ {T site : String} {e : Failure}, Walk.violation? c T site ss = some e → ¬ e.IsCollision
  := by
  induction ss using Selection.belowInduction with
  | step ss ih =>
    intro T site e he
    rw [Walk.violation?_eq] at he
    obtain ⟨g, hg, he⟩ := List.exists_of_findSome?_eq_some he
    have hbelow := @ih g hg
    rw [Walk.groupViolation?] at he
    grind [Failure.IsCollision]

namespace Batch

open Result

/-! ### Taking the namespaces -/

/-- The namespace of a fragment. -/
def fragmentSpace (f : Fragment) : String := Naming.capitalize f.name

/-- The namespaces entered for some fragments. -/
def entries (fragments : List Fragment) : Assoc String :=
  fragments.map fun f => (f.name, fragmentSpace f)

theorem entries_cons (f : Fragment) (rest : List Fragment) :
  entries (f :: rest) = (f.name, fragmentSpace f) :: entries rest
  := rfl

theorem keys_entries (fragments : List Fragment) :
  (entries fragments).keys = fragments.map Fragment.name
  := by
  simp [entries, Assoc.keys]

/-- Fragments with distinct namespaces have distinct names. -/
theorem nodup_keys_entries {fragments : List Fragment}
    (h : (fragments.map fragmentSpace).Nodup) :
  (entries fragments).keys.Nodup
  := by
  rw [keys_entries]
  apply List.Nodup.of_map Naming.capitalize
  rw [List.map_map]
  apply h

/-- A namespace is found under the name of each fragment, and depends on the name only. -/
theorem find?_entries_eq_some_iff {fragments : List Fragment} {name ns : String} :
  (entries fragments).find? name = some ns
    ↔ name ∈ fragments.map Fragment.name ∧ ns = Naming.capitalize name
  := by
  induction fragments with
  | nil => simp [entries]
  | cons f rest ih =>
    by_cases h : f.name = name
    · simp [entries_cons, Assoc.find?_cons, fragmentSpace, h, eq_comm]
    · simp [entries_cons, Assoc.find?_cons, h, Ne.symm h, ih]

theorem claimAll_of_admits {t : NameTable} {names : List String} (h : t.Admits names) :
  claimAll t names = .ok (t.addAll names)
  := by
  induction names generalizing t with
  | nil => rfl
  | cons name rest ih =>
    obtain ⟨hname, hrest⟩ := NameTable.admits_cons_iff.mp h
    rw [claimAll, List.foldlM_cons, NameTable.claim_of_not_mem hname]
    apply ih hrest

theorem claimAll_of_not_admits {t : NameTable} {names : List String} (h : ¬ t.Admits names) :
  ∃ e, claimAll t names = .error e ∧ e.IsCollision
  := by
  induction names generalizing t with
  | nil => exact absurd (NameTable.admits_nil t) h
  | cons name rest ih =>
    rw [claimAll, List.foldlM_cons]
    by_cases hname : name ∈ t.taken
    · rw [NameTable.claim_of_mem hname]
      use .nameTaken name t.scope, rfl, name, t.scope
    · rw [NameTable.claim_of_not_mem hname]
      apply ih
      intro hrest
      apply h (NameTable.admits_cons_iff.mpr ⟨hname, hrest⟩)

/-- The names under which namespaces are entered have theirs in the table. -/
def Entered (t : NameTable) (entered : Assoc String) : Prop :=
  ∀ name, entered.contains name = true → Naming.capitalize name ∈ t.taken

theorem entered_nil {t : NameTable} :
  Entered t []
  := by
  intro name hname
  cases hname

theorem Entered.add {t : NameTable} {entered : Assoc String} (h : Entered t entered)
    (f : Fragment) :
  Entered (t.add (fragmentSpace f)) (entered ++ [(f.name, fragmentSpace f)])
  := by
  intro name hname
  rw [NameTable.mem_taken_add]
  by_cases hf : f.name = name
  · subst hf
    apply Or.inl rfl
  · apply Or.inr
    apply h
    simpa [Assoc.contains, Assoc.find?_append, Assoc.find?_cons, hf] using hname

theorem claimFragments_cons {t : NameTable} {entered : Assoc String} {f : Fragment}
    {rest : List Fragment} :
  claimFragments t entered (f :: rest)
    = if entered.contains f.name then .error (.nameTaken f.name "fragment definitions")
      else t.claim (fragmentSpace f) >>= fun t' =>
        claimFragments t' (entered ++ [(f.name, fragmentSpace f)]) rest
  := rfl

theorem claimFragments_of_admits {t : NameTable} {entered : Assoc String}
    {fragments : List Fragment} (he : Entered t entered)
    (h : t.Admits (fragments.map fragmentSpace)) :
  claimFragments t entered fragments
    = .ok (t.addAll (fragments.map fragmentSpace), entered ++ entries fragments)
  := by
  induction fragments generalizing t entered with
  | nil => simp [claimFragments, NameTable.addAll, entries]
  | cons f rest ih =>
    rw [List.map_cons] at h
    obtain ⟨hf, hrest⟩ := NameTable.admits_cons_iff.mp h
    have hnew : ¬ entered.contains f.name = true := fun hname => hf (he f.name hname)
    rw [claimFragments_cons, if_neg hnew, NameTable.claim_of_not_mem hf]
    have hih := ih (he.add f) hrest
    rw [List.append_assoc] at hih
    apply hih

theorem claimFragments_of_not_admits {t : NameTable} {entered : Assoc String}
    {fragments : List Fragment} (he : Entered t entered)
    (h : ¬ t.Admits (fragments.map fragmentSpace)) :
  ∃ e, claimFragments t entered fragments = .error e ∧ e.IsCollision
  := by
  induction fragments generalizing t entered with
  | nil => exact absurd (NameTable.admits_nil t) h
  | cons f rest ih =>
    by_cases hentered : entered.contains f.name = true
    · rw [claimFragments_cons, if_pos hentered]
      use .nameTaken f.name "fragment definitions", rfl, f.name, "fragment definitions"
    · rw [claimFragments_cons, if_neg hentered]
      by_cases hf : fragmentSpace f ∈ t.taken
      · rw [NameTable.claim_of_mem hf]
        use .nameTaken (fragmentSpace f) t.scope, rfl, fragmentSpace f, t.scope
      · rw [NameTable.claim_of_not_mem hf]
        apply ih (he.add f)
        intro hrest
        apply h (NameTable.admits_cons_iff.mpr ⟨hf, hrest⟩)

/-! ### Making the shapes -/

section

variable {α : Type} {x : Walk α} {t : NameTable}

theorem runWalk_eq :
  runWalk x t = (x.outcome t).1
  := rfl

theorem runWalk_eq_ok_iff {a : α} :
  runWalk x t = .ok a ↔ ∃ t', x.outcome t = (.ok a, t')
  := by
  rw [runWalk_eq]
  rcases x.outcome t with ⟨e | a', t'⟩
  · simp
  · simp

theorem runWalk_eq_error_iff {e : Failure} :
  runWalk x t = .error e ↔ x.failure? t = some e
  := by
  rw [runWalk_eq, Walk.failure?]
  rcases x.outcome t with ⟨e' | a, t'⟩
  · simp
  · simp

end

section

variable {model : Model} {namespaces : Assoc String}

/-- The table with which the walk of a fragment starts. -/
def fragmentTable (f : Fragment) : NameTable :=
  { scope := "fragment '" ++ f.name ++ "'", taken := [fragmentShapeName] }

/-- The table with which the walk of an operation starts. -/
def operationTable (o : Operation) (name : String) : NameTable :=
  { scope := "operation '" ++ name ++ "'"
    taken := [Naming.capitalize o.kind.keyword, variablesName] }

/-- A fragment takes the name of its root from a table of its own, where it is free. -/
theorem resolveFragment_eq (f : Fragment) :
  resolveFragment model namespaces f
    = match namespaces.find? f.name with
      | none => .error (.keyMissing f.name)
      | some ns =>
        if model.isComposite f.on = true then
          (runWalk (Walk.shape ⟨model, namespaces⟩ fragmentShapeName f.on f.selections ns)
              (fragmentTable f)).map
            fun root => { name := f.name, space := ns, on := f.on, root }
        else .error (.mismatch (.fragmentOnLeaf f.name f.on) ns)
  := by
  rw [resolveFragment]
  cases namespaces.find? f.name with
  | none => rfl
  | some ns =>
    cases model.isComposite f.on with
    | false => rfl
    | true => rfl

/-- No root shape of an operation has the name of the variables. -/
theorem capitalize_keyword_ne (kind : OperationKind) :
  Naming.capitalize kind.keyword ≠ variablesName
  := by
  cases kind <;> decide

/-- An operation takes the names of its variables and its root from a table of its own, where
they are free. -/
theorem transformOperation_eq (o : Operation) (name : String) :
  transformOperation model namespaces o name
    = match model.rootType o.kind.keyword with
      | none => .error (.mismatch (.noRootType o.kind.keyword) (Naming.capitalize name))
      | some T =>
        o.variableDeclarations.mapM (variableProperty model (Naming.capitalize name))
          >>= fun variableProperties =>
            (runWalk (Walk.shape ⟨model, namespaces⟩ (Naming.capitalize o.kind.keyword) T
                o.selections (Naming.capitalize name)) (operationTable o name)).map
              fun root =>
                { name, space := Naming.capitalize name, kind := o.kind, variableProperties, root
                  anonymous := o.name.isNone }
  := by
  rw [transformOperation]
  cases model.rootType o.kind.keyword with
  | none => rfl
  | some T =>
    have hvariables : NameTable.claim { scope := "operation '" ++ name ++ "'" } variablesName
        = .ok { scope := "operation '" ++ name ++ "'", taken := [variablesName] } := rfl
    have hroot : NameTable.claim { scope := "operation '" ++ name ++ "'", taken := [variablesName] }
          (Naming.capitalize o.kind.keyword)
        = .ok (operationTable o name) := by
      apply NameTable.claim_of_not_mem
      simpa using capitalize_keyword_ne o.kind
    simp only [hvariables, bind, Except.bind, hroot]
    rfl

theorem resolveFragment_eq_ok_iff {f : Fragment} {n : FragmentNamespace} :
  resolveFragment model namespaces f = .ok n
    ↔ model.isComposite f.on = true
      ∧ n.name = f.name ∧ n.on = f.on ∧ namespaces.find? f.name = some n.space
      ∧ ∃ t', (Walk.shape ⟨model, namespaces⟩ fragmentShapeName f.on f.selections n.space).outcome
          (fragmentTable f) = (.ok n.root, t')
  := by
  rcases n with ⟨name, space, on, root⟩
  rw [resolveFragment_eq]
  cases namespaces.find? f.name with
  | none => simp
  | some ns =>
    by_cases hon : model.isComposite f.on = true
    · simp only [hon, if_true, map_eq_ok_iff, runWalk_eq_ok_iff, FragmentNamespace.mk.injEq]
      grind
    · simp [hon]

theorem of_resolveFragment_eq_ok {f : Fragment} {n : FragmentNamespace}
    (h : resolveFragment model namespaces f = .ok n) :
  n.name = f.name ∧ n.on = f.on ∧ namespaces.find? f.name = some n.space
    ∧ ∃ t', (Walk.shape ⟨model, namespaces⟩ fragmentShapeName f.on f.selections n.space).outcome
        (fragmentTable f) = (.ok n.root, t')
  := (resolveFragment_eq_ok_iff.mp h).2

theorem not_isCollision_of_resolveFragment {f : Fragment} {e : Failure}
    (h : resolveFragment model namespaces f = .error e) :
  ¬ e.IsCollision
  := by
  rw [resolveFragment_eq] at h
  split at h
  · cases h
    simp [Failure.IsCollision]
  · split_ifs at h
    · rw [map_eq_error_iff, runWalk_eq_error_iff, Walk.failure?_shape] at h
      apply Walk.not_isCollision_of_violation? h
    · cases h
      simp [Failure.IsCollision]

theorem transformOperation_eq_ok_iff {o : Operation} {name : String} {n : OperationNamespace} :
  transformOperation model namespaces o name = .ok n
    ↔ n.name = name ∧ n.space = Naming.capitalize name ∧ n.kind = o.kind
      ∧ n.anonymous = o.name.isNone
      ∧ o.variableDeclarations.mapM (variableProperty model n.space) = .ok n.variableProperties
      ∧ ∃ T, model.rootType o.kind.keyword = some T
        ∧ ∃ t', (Walk.shape ⟨model, namespaces⟩ (Naming.capitalize o.kind.keyword) T o.selections
            n.space).outcome (operationTable o name) = (.ok n.root, t')
  := by
  rcases n with ⟨name', space, kind, variableProperties, root, anonymous⟩
  rw [transformOperation_eq]
  cases model.rootType o.kind.keyword with
  | none => simp
  | some T =>
    simp only [bind_eq_ok_iff, map_eq_ok_iff, runWalk_eq_ok_iff, OperationNamespace.mk.injEq]
    grind

theorem of_transformOperation_eq_ok {o : Operation} {name : String} {n : OperationNamespace}
    (h : transformOperation model namespaces o name = .ok n) :
  n.name = name ∧ n.space = Naming.capitalize name ∧ n.kind = o.kind
    ∧ n.anonymous = o.name.isNone
    ∧ ∃ T t', (Walk.shape ⟨model, namespaces⟩ (Naming.capitalize o.kind.keyword) T o.selections
        n.space).outcome (operationTable o name) = (.ok n.root, t')
  := by
  obtain ⟨hname, hspace, hkind, hanonymous, -, T, -, hwalk⟩ := transformOperation_eq_ok_iff.mp h
  use hname, hspace, hkind, hanonymous, T

theorem not_isCollision_of_variableProperty {ns : String} {v : VariableDeclaration} {e : Failure}
    (h : variableProperty model ns v = .error e) :
  ¬ e.IsCollision
  := by
  rw [variableProperty] at h
  split at h
  · cases h
    simp [Failure.IsCollision]
  · cases h

theorem not_isCollision_of_transformOperation {o : Operation} {name : String} {e : Failure}
    (h : transformOperation model namespaces o name = .error e) :
  ¬ e.IsCollision
  := by
  rw [transformOperation_eq] at h
  split at h
  · cases h
    simp [Failure.IsCollision]
  · rcases bind_eq_error_iff.mp h with h | ⟨variableProperties, -, h⟩
    · obtain ⟨v, -, h⟩ := exists_of_mapM_eq_error h
      apply not_isCollision_of_variableProperty h
    · rw [map_eq_error_iff, runWalk_eq_error_iff, Walk.failure?_shape] at h
      apply Walk.not_isCollision_of_violation? h

end

/-! ### Both phases -/

/-- Fragments with distinct names come to one namespace each. -/
theorem resolveDefinitions_fragments {model : Model} {namespaces : Assoc String}
    {fragments : List Fragment} (h : (fragments.map Fragment.name).Nodup) :
  resolveDefinitions model namespaces (fragments.map .fragment)
    = (fragments.mapM (resolveFragment model namespaces)).map fun resolved =>
        resolved.map fun n => (n.name, n)
  := by
  rw [resolveDefinitions, List.mapM_map]
  change fragments.mapM (resolveFragment model namespaces) >>= _ = _
  cases hresolved : fragments.mapM (resolveFragment model namespaces) with
  | error e => rfl
  | ok resolved =>
    have hnames : resolved.map FragmentNamespace.name = fragments.map Fragment.name := by
      apply map_eq_of_forall₂ (mapM_eq_ok_iff.mp hresolved)
      intro f _ n hn
      apply (of_resolveFragment_eq_ok hn).1
    have hkeys : Assoc.keys (resolved.map fun n => (n.name, n)) = fragments.map Fragment.name := by
      rw [← hnames, Assoc.keys, List.map_map]
      rfl
    rw [← hkeys] at h
    change Except.ok (Assoc.ofList _) = _
    rw [Assoc.ofList_eq_self h]
    rfl

/-- The namespaces that a batch asks for: those of its fragments, and those of its operations. -/
def spaceNames (documents : List Document) : List String :=
  let fragments := documents.flatMap Document.fragments
  let operations := documents.flatMap Document.operations
  fragments.map fragmentSpace
    ++ (List.range operations.length).map fun i =>
        Naming.capitalize (Naming.nameAt (operations.map Operation.name) i)

/-- The namespaces under which the second phase looks up the fragments. -/
def namespacesOf (documents : List Document) : Assoc String :=
  entries (documents.flatMap Document.fragments)

/-- The names of the operations of a batch. -/
def operationNamesOf (documents : List Document) : List String :=
  Naming.operationNames ((documents.flatMap Document.operations).map Operation.name)

/-- The operations of a batch with their names. -/
def namedOperations (documents : List Document) : List (Operation × String) :=
  (documents.flatMap Document.operations).zip (operationNamesOf documents)

section

variable {model : Model} {documents : List Document}

theorem spaceNames_eq :
  spaceNames documents
    = (documents.flatMap Document.fragments).map fragmentSpace
      ++ (operationNamesOf documents).map Naming.capitalize
  := by
  rw [operationNamesOf, Naming.operationNames_eq, List.map_map, List.length_map]
  rfl

theorem map_fst_namedOperations :
  (namedOperations documents).map Prod.fst = documents.flatMap Document.operations
  := by
  apply List.map_fst_zip
  apply Nat.le_of_eq
  rw [operationNamesOf, Naming.length_operationNames, List.length_map]

theorem map_snd_namedOperations :
  (namedOperations documents).map Prod.snd = operationNamesOf documents
  := by
  apply List.map_snd_zip
  apply Nat.le_of_eq
  rw [operationNamesOf, Naming.length_operationNames, List.length_map]

/-- A batch that asks for a namespace twice fails before any shape is made. -/
theorem transform_of_not_nodup (h : ¬ (spaceNames documents).Nodup) :
  ∃ e, transform model documents = .error e ∧ e.IsCollision
  := by
  rw [← NameTable.admits_iff_of_taken_eq_nil (t := { scope := "document batch" }) rfl,
    spaceNames_eq, NameTable.admits_append_iff] at h
  by_cases hfragments : NameTable.Admits { scope := "document batch" }
      ((documents.flatMap Document.fragments).map fragmentSpace)
  · have hoperations := fun hadmits => h ⟨hfragments, hadmits⟩
    obtain ⟨e, he, hcollision⟩ := claimAll_of_not_admits hoperations
    use e
    constructor
    · rw [transform]
      rw [operationNamesOf] at he
      simp only [claimFragments_of_admits entered_nil hfragments, bind, Except.bind, he]
    · apply hcollision
  · obtain ⟨e, he, hcollision⟩ := claimFragments_of_not_admits entered_nil hfragments
    use e
    constructor
    · rw [transform, he]
      rfl
    · apply hcollision

/-- A batch that asks for distinct namespaces comes to what the second phase makes of it. -/
theorem transform_of_nodup (h : (spaceNames documents).Nodup) :
  transform model documents
    = (documents.flatMap Document.fragments).mapM (resolveFragment model (namespacesOf documents))
        >>= fun fragments =>
          ((namedOperations documents).mapM fun o =>
            transformOperation model (namespacesOf documents) o.1 o.2).map
            fun operations => { operations, fragments }
  := by
  rw [← NameTable.admits_iff_of_taken_eq_nil (t := { scope := "document batch" }) rfl,
    spaceNames_eq, NameTable.admits_append_iff] at h
  obtain ⟨hfragments, hoperations⟩ := h
  have hnames := nodup_keys_entries hfragments.1
  rw [keys_entries] at hnames
  rw [operationNamesOf] at hoperations
  simp only [transform, claimFragments_of_admits entered_nil hfragments, bind, Except.bind,
    claimAll_of_admits hoperations, List.nil_append, resolveDefinitions_fragments hnames]
  rw [← namespacesOf]
  cases (documents.flatMap Document.fragments).mapM
      (resolveFragment model (namespacesOf documents)) with
  | error e => rfl
  | ok fragments =>
    have hvalues : Assoc.values (fragments.map fun n => (n.name, n)) = fragments := by
      rw [Assoc.values, List.map_map]
      apply List.map_id
    simp only [Except.map, hvalues]
    rfl

/-- A batch succeeds if it asks for distinct namespaces and each of its definitions succeeds. -/
theorem transform_eq_ok_iff {b : Batch} :
  transform model documents = .ok b
    ↔ (spaceNames documents).Nodup
      ∧ List.Forall₂ (fun f n => resolveFragment model (namespacesOf documents) f = .ok n)
          (documents.flatMap Document.fragments) b.fragments
      ∧ List.Forall₂
          (fun o n => transformOperation model (namespacesOf documents) o.1 o.2 = .ok n)
          (namedOperations documents) b.operations
  := by
  by_cases h : (spaceNames documents).Nodup
  · simp only [transform_of_nodup h, bind_eq_ok_iff, map_eq_ok_iff, mapM_eq_ok_iff, h, true_and]
    constructor
    · rintro ⟨fragments, hfragments, operations, hoperations, rfl⟩
      use hfragments
    · rintro ⟨hfragments, hoperations⟩
      use b.fragments, hfragments, b.operations, hoperations
  · obtain ⟨e, he, -⟩ : ∃ e, transform model documents = .error e ∧ e.IsCollision :=
      transform_of_not_nodup h
    simp [he, h]

/-- A fragment, and an anonymous query with an inline fragment. -/
def sampleDocuments : List Document :=
  [[.fragment { name := "card", on := "User", selections := [.field none "id" [] [] []] },
    .operation
      { kind := .query
        selections :=
          [.field none "me" [] []
            [.spread "card" [], .inline none [] [.field none "__typename" [] [] []]]] }]]

/-- What comes of `sampleDocuments`. -/
def sampleBatch : Batch :=
  { fragments :=
      [{ name := "card", space := "Card", on := "User"
         root := .mk "Fragment" "User" { literals := ["User"] } false
          [.leaf { name := "id", descriptor := { name := "ID" }, kind := .scalar }] }]
    operations :=
      [{ name := "AnonymousQuery_1", space := "AnonymousQuery_1", kind := .query
         variableProperties := [], anonymous := true
         root := .mk "Query" "Query" { literals := ["Query"] } false
          [.nested { name := "me", descriptor := { name := "Me" }, kind := .object }
            (.mk "Me" "User" { references := ["UserInlineFragment"] } false
              [.spread ⟨"card", "Card"⟩,
                .inline (.mk "UserInlineFragment" "User" { literals := ["User"] } true [])])] }] }

example :
  transform Walk.sampleModel sampleDocuments = .ok sampleBatch
  := rfl

/-- The fragments of a batch are those under which the namespaces were entered. -/
theorem entries_of_transform {b : Batch} (h : transform model documents = .ok b) :
  b.fragments.map (fun n => (n.name, n.space)) = namespacesOf documents
  := by
  obtain ⟨-, hfragments, -⟩ := transform_eq_ok_iff.mp h
  apply map_eq_of_forall₂ hfragments
  intro f _ n hn
  obtain ⟨hname, -, hspace, -⟩ := of_resolveFragment_eq_ok hn
  rw [hname, (find?_entries_eq_some_iff.mp hspace).2, fragmentSpace]

theorem operationSpaces_of_transform {b : Batch} (h : transform model documents = .ok b) :
  b.operations.map OperationNamespace.space
    = (operationNamesOf documents).map Naming.capitalize
  := by
  obtain ⟨-, -, hoperations⟩ := transform_eq_ok_iff.mp h
  rw [← map_snd_namedOperations, List.map_map]
  apply map_eq_of_forall₂ hoperations
  intro o _ n hn
  apply (of_transformOperation_eq_ok hn).2.1

/-- The namespaces of a batch are those that it asks for. -/
theorem spaces_of_transform {b : Batch} (h : transform model documents = .ok b) :
  b.fragments.map FragmentNamespace.space ++ b.operations.map OperationNamespace.space
    = spaceNames documents
  := by
  rw [spaceNames_eq, operationSpaces_of_transform h]
  congr 1
  have hsnd := congrArg (List.map Prod.snd) (entries_of_transform h)
  simpa [namespacesOf, entries, Function.comp_def] using hsnd

theorem nodup_fragmentSpaces_of_transform {b : Batch} (h : transform model documents = .ok b) :
  (b.fragments.map FragmentNamespace.space).Nodup
  := by
  have hnodup := (transform_eq_ok_iff.mp h).1
  rw [← spaces_of_transform h] at hnodup
  apply (List.nodup_append.mp hnodup).1

end

end Batch

end GraphScribe
