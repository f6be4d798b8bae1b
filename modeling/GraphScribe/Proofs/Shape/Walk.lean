import GraphScribe.Proofs.NameTable
import GraphScribe.Shape.OfSelection

/-!
# Runs of walks

`Walked c T site ss t ms t'` says that the walk of the selections `ss` on the type `T` makes
the members `ms` and turns the table `t` into `t'`; it has one rule for each kind of selection.
A walk succeeds exactly as these rules say (`Walk.members_eq_ok_iff`), so what holds of the
shapes of all walks is shown by induction on the rules.
-/

namespace GraphScribe

namespace Walk

/-- What a walk comes to when it starts with a table: its result, and the table it leaves. -/
def outcome {α : Type} (x : Walk α) (t : NameTable) : Except Failure α × NameTable := x t

/-! ### Sequences of steps -/

section

variable {α β : Type} {x : Walk α} {f : α → Walk β} {t : NameTable}

theorem outcome_bind :
  (x >>= f).outcome t
    = match x.outcome t with
      | (.ok a, t') => (f a).outcome t'
      | (.error e, t') => (.error e, t')
  := by
  simp only [outcome, bind, ExceptT.bind, ExceptT.mk, StateT.bind]
  rcases x t with ⟨e | a, t'⟩
  · rfl
  · rfl

theorem outcome_bind_pure (g : α → β) :
  (x >>= fun a => pure (g a)).outcome t = Prod.map (Except.map g) id (x.outcome t)
  := by
  rw [outcome_bind]
  rcases x.outcome t with ⟨e | a, t'⟩
  · rfl
  · rfl

theorem map_eq_ok_iff {g : α → β} {o : Except Failure α × NameTable} {b : β} {t' : NameTable} :
  Prod.map (Except.map g) id o = (.ok b, t') ↔ ∃ a, o = (.ok a, t') ∧ g a = b
  := by
  rcases o with ⟨e | a, t₁⟩
  · simp [Except.map]
  · simp only [Prod.map, Except.map]
    grind

theorem outcome_pure (a : α) :
  (pure a : Walk α).outcome t = (.ok a, t)
  := rfl

theorem outcome_throw (e : Failure) :
  (throw e : Walk α).outcome t = (.error e, t)
  := rfl

theorem outcome_claimUnique (name : String) :
  (claimUnique name).outcome t = (.ok (t.claimUnique name).1, t.add (t.claimUnique name).1)
  := rfl

theorem bind_eq_ok_iff {b : β} {t' : NameTable} :
  (x >>= f).outcome t = (.ok b, t')
    ↔ ∃ a t₁, x.outcome t = (.ok a, t₁) ∧ (f a).outcome t₁ = (.ok b, t')
  := by
  rw [outcome_bind]
  rcases x.outcome t with ⟨e | a, t₁⟩
  · simp
  · simp

theorem pure_eq_ok_iff {a b : α} {t' : NameTable} :
  (pure a : Walk α).outcome t = (.ok b, t') ↔ a = b ∧ t = t'
  := by
  simp [outcome_pure]

end

end Walk

open Walk

/-- The property that answers a field under a key by a shape. -/
def nestedProperty (f : Field) (key shapeName : String) : Property :=
  { fieldProperty f key with descriptor := f.descriptor.withName shapeName }

namespace Walk

section

variable {c : WalkContext} {T site : String} {t : NameTable} {alias? on? : Option String}
  {name : String} {args : List (String × Literal)} {ds : List Directive} {ss : List Selection}
  {f : Field}

/-! ### Equations of the walk -/

theorem members_nil :
  members c T site [] = pure []
  := rfl

theorem members_cons {s : Selection} {rest : List Selection} :
  members c T site (s :: rest)
    = member c T site s >>= fun m? =>
        members c T site rest >>= fun ms => pure (m?.toList ++ ms)
  := rfl

theorem member_typename (isMeta : name = typenameField) :
  member c T site (.field alias? name args ds ss)
    = if alias?.getD name = typenameField then pure none
      else pure (some (.leaf (typenameProperty c.model T (alias?.getD name))))
  := if_pos isMeta

theorem member_undeclared (ordinary : name ≠ typenameField)
    (undeclared : c.model.field? T name = none) :
  member c T site (.field alias? name args ds ss)
    = reject (.undeclaredField T name) (site ++ "." ++ name)
  := by
  refine Eq.trans (if_neg ordinary) ?_
  rw [undeclared]

/-- The walk of a declared field decides by its kind and by whether there is something below. -/
theorem member_declared (ordinary : name ≠ typenameField)
    (declared : c.model.field? T name = some f) :
  member c T site (.field alias? name args ds ss)
    = if ss.isEmpty then
        if f.kind.isComposite then
          reject (.selectionMissing T name f.descriptor.name) (site ++ "." ++ alias?.getD name)
        else pure (some (.leaf (fieldProperty f (alias?.getD name))))
      else if !f.kind.isComposite then
        reject (.selectionOnLeaf T name f.descriptor.name) (site ++ "." ++ alias?.getD name)
      else
        claimUnique (Naming.capitalize (alias?.getD name)) >>= fun shapeName =>
          members c f.descriptor.name (site ++ "." ++ alias?.getD name) ss >>= fun ms =>
            pure (some (.nested (nestedProperty f (alias?.getD name) shapeName)
              (shapeOf c.model shapeName f.descriptor.name ss ms)))
  := by
  refine Eq.trans (if_neg ordinary) ?_
  rw [declared]
  rfl

theorem member_spread :
  member c T site (.spread name ds)
    = spreadReference c name site >>= fun r => pure (some (.spread r))
  := rfl

theorem member_inline :
  member c T site (.inline on? ds ss)
    = if c.model.isComposite (on?.getD T) then
        claimUnique (Naming.inlineFragmentName (on?.getD T)) >>= fun shapeName =>
          members c (on?.getD T) site ss >>= fun ms =>
            pure (some (.inline (shapeOf c.model shapeName (on?.getD T) ss ms)))
      else reject (.inlineFragmentOnLeaf (on?.getD T)) site
  := rfl

/-! ### Single steps -/

theorem outcome_member_typename (key : alias?.getD typenameField = typenameField) :
  (member c T site (.field alias? typenameField args ds ss)).outcome t = (.ok none, t)
  := by
  rw [member_typename rfl, if_pos key, outcome_pure]

theorem outcome_member_aliasedTypename (key : alias?.getD typenameField ≠ typenameField) :
  (member c T site (.field alias? typenameField args ds ss)).outcome t
    = (.ok (some (.leaf (typenameProperty c.model T (alias?.getD typenameField)))), t)
  := by
  rw [member_typename rfl, if_neg key, outcome_pure]

theorem outcome_member_undeclared (ordinary : name ≠ typenameField)
    (undeclared : c.model.field? T name = none) :
  (member c T site (.field alias? name args ds ss)).outcome t
    = (.error (.mismatch (.undeclaredField T name) (site ++ "." ++ name)), t)
  := by
  rw [member_undeclared ordinary undeclared]
  apply outcome_throw

theorem outcome_member_leaf (ordinary : name ≠ typenameField)
    (declared : c.model.field? T name = some f) (kind : f.kind.isComposite = false) :
  (member c T site (.field alias? name args ds [])).outcome t
    = (.ok (some (.leaf (fieldProperty f (alias?.getD name)))), t)
  := by
  rw [member_declared ordinary declared, kind]
  apply outcome_pure

theorem outcome_member_selectionMissing (ordinary : name ≠ typenameField)
    (declared : c.model.field? T name = some f) (kind : f.kind.isComposite = true) :
  (member c T site (.field alias? name args ds [])).outcome t
    = (.error (.mismatch (.selectionMissing T name f.descriptor.name)
        (site ++ "." ++ alias?.getD name)), t)
  := by
  rw [member_declared ordinary declared, kind]
  apply outcome_throw

theorem outcome_member_selectionOnLeaf (ordinary : name ≠ typenameField)
    (declared : c.model.field? T name = some f) (kind : f.kind.isComposite = false)
    (selected : ss ≠ []) :
  (member c T site (.field alias? name args ds ss)).outcome t
    = (.error (.mismatch (.selectionOnLeaf T name f.descriptor.name)
        (site ++ "." ++ alias?.getD name)), t)
  := by
  rw [member_declared ordinary declared, if_neg (by simpa using selected), kind]
  apply outcome_throw

/-- A field of a composite type takes the name of its shape first, and then walks below. -/
theorem outcome_member_nested (ordinary : name ≠ typenameField)
    (declared : c.model.field? T name = some f) (kind : f.kind.isComposite = true)
    (selected : ss ≠ []) {shapeName : String}
    (claimed : (t.claimUnique (Naming.capitalize (alias?.getD name))).1 = shapeName) :
  (member c T site (.field alias? name args ds ss)).outcome t
    = Prod.map (Except.map fun ms =>
          some (.nested (nestedProperty f (alias?.getD name) shapeName)
            (shapeOf c.model shapeName f.descriptor.name ss ms))) id
        ((members c f.descriptor.name (site ++ "." ++ alias?.getD name) ss).outcome
          (t.add shapeName))
  := by
  subst claimed
  rw [member_declared ordinary declared, if_neg (by simpa using selected), kind,
    if_neg (by simp), outcome_bind, outcome_claimUnique]
  apply outcome_bind_pure

theorem outcome_member_spread {ns : String} (entered : c.fragments.find? name = some ns) :
  (member c T site (.spread name ds)).outcome t = (.ok (some (.spread ⟨name, ns⟩)), t)
  := by
  rw [member_spread, spreadReference, entered]
  rfl

theorem outcome_member_missingFragment (missing : c.fragments.find? name = none) :
  (member c T site (.spread name ds)).outcome t = (.error (.missingFragment name site), t)
  := by
  rw [member_spread, spreadReference, missing]
  rfl

/-- An inline fragment takes the name of its shape first, and then walks below. -/
theorem outcome_member_inline (composite : c.model.isComposite (on?.getD T) = true)
    {shapeName : String}
    (claimed : (t.claimUnique (Naming.inlineFragmentName (on?.getD T))).1 = shapeName) :
  (member c T site (.inline on? ds ss)).outcome t
    = Prod.map (Except.map fun ms =>
          some (.inline (shapeOf c.model shapeName (on?.getD T) ss ms))) id
        ((members c (on?.getD T) site ss).outcome (t.add shapeName))
  := by
  subst claimed
  rw [member_inline, if_pos composite, outcome_bind, outcome_claimUnique]
  apply outcome_bind_pure

theorem outcome_member_inlineOnLeaf (leaf : c.model.isComposite (on?.getD T) = false) :
  (member c T site (.inline on? ds ss)).outcome t
    = (.error (.mismatch (.inlineFragmentOnLeaf (on?.getD T)) site), t)
  := by
  rw [member_inline, if_neg (by simp [leaf])]
  apply outcome_throw

theorem outcome_members_nil :
  (members c T site []).outcome t = (.ok [], t)
  := by
  rw [members_nil, outcome_pure]

theorem outcome_members_cons {s : Selection} {rest : List Selection} :
  (members c T site (s :: rest)).outcome t
    = match (member c T site s).outcome t with
      | (.ok m?, t') =>
        Prod.map (Except.map fun ms => m?.toList ++ ms) id
          ((members c T site rest).outcome t')
      | (.error e, t') => (.error e, t')
  := by
  rw [members_cons, outcome_bind]
  rcases (member c T site s).outcome t with ⟨e | m?, t'⟩
  · rfl
  · apply outcome_bind_pure

theorem outcome_members_cons_eq_ok_iff {s : Selection} {rest : List Selection} {ms : List Member}
    {t' : NameTable} :
  (members c T site (s :: rest)).outcome t = (.ok ms, t')
    ↔ ∃ m? t₁ ms', (member c T site s).outcome t = (.ok m?, t₁)
        ∧ (members c T site rest).outcome t₁ = (.ok ms', t') ∧ m?.toList ++ ms' = ms
  := by
  simp only [members_cons, bind_eq_ok_iff, pure_eq_ok_iff]
  grind

end

end Walk

/-! ### The rules -/

section

variable (c : WalkContext)

/-- `Walked c T site ss t ms t'`: the walk of `ss` on the type `T` makes the members `ms` and
turns the table `t` into `t'`.  The names of shapes are taken when the walk comes to them,
before those of the shapes below. -/
inductive Walked : String → String → List Selection → NameTable → List Member → NameTable → Prop
  | nil {T site t} : Walked T site [] t [] t
  | typename {T site alias? args ds ss rest t ms t'}
      (key : alias?.getD typenameField = typenameField)
      (after : Walked T site rest t ms t') :
      Walked T site (.field alias? typenameField args ds ss :: rest) t ms t'
  | aliasedTypename {T site alias? args ds ss rest t ms t'}
      (key : alias?.getD typenameField ≠ typenameField)
      (after : Walked T site rest t ms t') :
      Walked T site (.field alias? typenameField args ds ss :: rest) t
        (.leaf (typenameProperty c.model T (alias?.getD typenameField)) :: ms) t'
  | leaf {T site alias? name args ds rest t ms t' f}
      (ordinary : name ≠ typenameField) (declared : c.model.field? T name = some f)
      (kind : f.kind.isComposite = false)
      (after : Walked T site rest t ms t') :
      Walked T site (.field alias? name args ds [] :: rest) t
        (.leaf (fieldProperty f (alias?.getD name)) :: ms) t'
  | nested {T site alias? name args ds ss rest t below t₁ ms t' f shapeName}
      (ordinary : name ≠ typenameField) (declared : c.model.field? T name = some f)
      (kind : f.kind.isComposite = true) (selected : ss ≠ [])
      (claimed : (t.claimUnique (Naming.capitalize (alias?.getD name))).1 = shapeName)
      (inside : Walked f.descriptor.name (site ++ "." ++ alias?.getD name) ss (t.add shapeName)
        below t₁)
      (after : Walked T site rest t₁ ms t') :
      Walked T site (.field alias? name args ds ss :: rest) t
        (.nested (nestedProperty f (alias?.getD name) shapeName)
          (shapeOf c.model shapeName f.descriptor.name ss below) :: ms) t'
  | spread {T site name ds rest t ms t' ns}
      (entered : c.fragments.find? name = some ns)
      (after : Walked T site rest t ms t') :
      Walked T site (.spread name ds :: rest) t (.spread ⟨name, ns⟩ :: ms) t'
  | inline {T site on? ds ss rest t below t₁ ms t' shapeName}
      (composite : c.model.isComposite (on?.getD T) = true)
      (claimed : (t.claimUnique (Naming.inlineFragmentName (on?.getD T))).1 = shapeName)
      (inside : Walked (on?.getD T) site ss (t.add shapeName) below t₁)
      (after : Walked T site rest t₁ ms t') :
      Walked T site (.inline on? ds ss :: rest) t
        (.inline (shapeOf c.model shapeName (on?.getD T) ss below) :: ms) t'

end

namespace Walk

variable {c : WalkContext}

/-- A walk that follows the rules succeeds. -/
theorem outcome_members_of_walked {T site : String} {ss : List Selection} {t t' : NameTable}
    {ms : List Member} (h : Walked c T site ss t ms t') :
  (members c T site ss).outcome t = (.ok ms, t')
  := by
  induction h with
  | nil => apply outcome_members_nil
  | typename key _ ih =>
    apply outcome_members_cons_eq_ok_iff.mpr ⟨none, _, _, outcome_member_typename key, ih, rfl⟩
  | aliasedTypename key _ ih =>
    apply outcome_members_cons_eq_ok_iff.mpr
      ⟨some _, _, _, outcome_member_aliasedTypename key, ih, rfl⟩
  | leaf ordinary declared kind _ ih =>
    apply outcome_members_cons_eq_ok_iff.mpr
      ⟨some _, _, _, outcome_member_leaf ordinary declared kind, ih, rfl⟩
  | nested ordinary declared kind selected claimed _ _ ihInside ih =>
    refine outcome_members_cons_eq_ok_iff.mpr ⟨some _, _, _, ?_, ih, rfl⟩
    rw [outcome_member_nested ordinary declared kind selected claimed, ihInside]
    rfl
  | spread entered _ ih =>
    apply outcome_members_cons_eq_ok_iff.mpr
      ⟨some _, _, _, outcome_member_spread entered, ih, rfl⟩
  | inline composite claimed _ _ ihInside ih =>
    refine outcome_members_cons_eq_ok_iff.mpr ⟨some _, _, _, ?_, ih, rfl⟩
    rw [outcome_member_inline composite claimed, ihInside]
    rfl

/-- A walk that succeeds follows the rules. -/
theorem walked_of_outcome_members :
  ∀ (ss : List Selection) {T site : String} {t t' : NameTable} {ms : List Member},
    (members c T site ss).outcome t = (.ok ms, t') → Walked c T site ss t ms t'
  | [], T, site, t, t', ms, h => by
      rw [members_nil, pure_eq_ok_iff] at h
      obtain ⟨rfl, rfl⟩ := h
      apply Walked.nil
  | .field alias? name args ds ss :: rest, T, site, t, t', ms, h => by
      obtain ⟨m?, t₁, ms', hm, hrest, rfl⟩ := outcome_members_cons_eq_ok_iff.mp h
      have after := walked_of_outcome_members rest hrest
      by_cases ordinary : name = typenameField
      · subst ordinary
        by_cases key : alias?.getD typenameField = typenameField
        · rw [outcome_member_typename key] at hm
          cases hm
          apply Walked.typename key after
        · rw [outcome_member_aliasedTypename key] at hm
          cases hm
          apply Walked.aliasedTypename key after
      · cases declared : c.model.field? T name with
        | none =>
          rw [outcome_member_undeclared ordinary declared] at hm
          cases hm
        | some f =>
          cases kind : f.kind.isComposite with
          | false =>
            by_cases selected : ss = []
            · subst selected
              rw [outcome_member_leaf ordinary declared kind] at hm
              cases hm
              apply Walked.leaf ordinary declared kind after
            · rw [outcome_member_selectionOnLeaf ordinary declared kind selected] at hm
              cases hm
          | true =>
            by_cases selected : ss = []
            · subst selected
              rw [outcome_member_selectionMissing ordinary declared kind] at hm
              cases hm
            · rw [outcome_member_nested ordinary declared kind selected rfl] at hm
              obtain ⟨below, hbelow, rfl⟩ := map_eq_ok_iff.mp hm
              apply Walked.nested ordinary declared kind selected rfl
                (walked_of_outcome_members ss hbelow) after
  | .spread name ds :: rest, T, site, t, t', ms, h => by
      obtain ⟨m?, t₁, ms', hm, hrest, rfl⟩ := outcome_members_cons_eq_ok_iff.mp h
      have after := walked_of_outcome_members rest hrest
      cases entered : c.fragments.find? name with
      | none =>
        rw [outcome_member_missingFragment entered] at hm
        cases hm
      | some ns =>
        rw [outcome_member_spread entered] at hm
        cases hm
        apply Walked.spread entered after
  | .inline on? ds ss :: rest, T, site, t, t', ms, h => by
      obtain ⟨m?, t₁, ms', hm, hrest, rfl⟩ := outcome_members_cons_eq_ok_iff.mp h
      have after := walked_of_outcome_members rest hrest
      cases composite : c.model.isComposite (on?.getD T) with
      | false =>
        rw [outcome_member_inlineOnLeaf composite] at hm
        cases hm
      | true =>
        rw [outcome_member_inline composite rfl] at hm
        obtain ⟨below, hbelow, rfl⟩ := map_eq_ok_iff.mp hm
        apply Walked.inline composite rfl (walked_of_outcome_members ss hbelow) after

theorem outcome_members_eq_ok_iff {T site : String} {ss : List Selection} {t t' : NameTable}
    {ms : List Member} :
  (members c T site ss).outcome t = (.ok ms, t') ↔ Walked c T site ss t ms t'
  := ⟨walked_of_outcome_members ss, outcome_members_of_walked⟩

/-- The shape of a selection set is made from the members of its merged selections. -/
theorem outcome_shape_eq_ok_iff {name T site : String} {ss : List Selection}
    {t t' : NameTable} {s : Shape} :
  (shape c name T ss site).outcome t = (.ok s, t')
    ↔ ∃ ms, Walked c T site (Selection.normalize ss) t ms t'
        ∧ s = shapeOf c.model name T (Selection.normalize ss) ms
  := by
  rw [shape, outcome_bind_pure, map_eq_ok_iff]
  apply exists_congr
  intro ms
  rw [outcome_members_eq_ok_iff, eq_comm (b := s)]

/-- A model with one object type below its root. -/
def sampleModel : Model :=
  { types :=
      [("Query",
          { name := "Query"
            fields := [{ name := "me", descriptor := { name := "User" }, kind := .object }] }),
        ("User",
          { name := "User"
            fields := [{ name := "id", descriptor := { name := "ID" }, kind := .scalar }] })]
    queryType := some "Query" }

-- The shape of the second field of a name in pascal case has an underscore.
example :
  (shape ⟨sampleModel, []⟩ "Query" "Query"
      [.field none "me" [] [] [.field none "id" [] [] []],
        .field (some "Me") "me" [] [] [.spread "card" []]] "Users").outcome { scope := "" }
    = (.error (.missingFragment "card" "Users.Me"), { scope := "", taken := ["_Me", "Me"] })
  := rfl

end Walk

end GraphScribe
