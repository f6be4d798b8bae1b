import GraphScribe.Proofs.Result
import GraphScribe.Proofs.Shape.Names
import GraphScribe.Proofs.Shape.Violation

/-!
# The order in which names are taken

`NameTable.claimed` lists what comes of claiming some names one after another.  A walk claims the
names that its shapes want in the order in which the shapes stand in their tree, so that the names
of the shapes are the claimed ones (`Walk.names_in_order`).  A walk that fails has claimed the names
wanted for the shapes that it has entered, `Walk.entered`, and keeps them taken.
-/

namespace GraphScribe

namespace NameTable

/-- The names that come of claiming some names one after another. -/
def claimed (t : NameTable) : List String → List String
  | [] => []
  | name :: rest => (t.claimUnique name).1 :: (t.claimUnique name).2.claimed rest

/-- Claims take the names that come of them, and nothing else. -/
theorem claimEach_eq (t : NameTable) (names : List String) :
  t.claimEach names = t.addAll (t.claimed names)
  := by
  induction names generalizing t with
  | nil => rfl
  | cons name rest ih => apply ih

theorem taken_addAll (t : NameTable) (names : List String) :
  (t.addAll names).taken = names.reverse ++ t.taken
  := by
  induction names generalizing t with
  | nil => rfl
  | cons name rest ih =>
    rw [List.reverse_cons, List.append_assoc]
    apply ih

end NameTable

namespace Walk

open Selection

/-! ### The shapes that a walk enters -/

section

variable (c : WalkContext)

/-- The groups of a selection set up to the first one with a violation, which is reached too. -/
def reached (T site : String) : List Group → List Group
  | [] => []
  | g :: rest =>
    match groupViolation? c T site g with
    | none => g :: reached T site rest
    | some _ => [g]

theorem reached_subset (T site : String) (gs : List Group) :
  reached c T site gs ⊆ gs
  := by
  induction gs with
  | nil => apply List.Subset.refl
  | cons g rest ih =>
    rw [reached]
    cases groupViolation? c T site g with
    | none => apply List.cons_subset_cons g ih
    | some e => simp

mutual

/-- The names wanted for the shapes that are entered for some selections on a type, up to the first
violation. -/
def entered (T site : String) (ss : List Selection) : List String :=
  (reached c T site (groups ss)).attach.flatMap fun g => enteredOf T site g.1
termination_by 2 * depths ss
decreasing_by
  have := depths_below_lt (reached_subset c T site _ g.2)
  omega

/-- The names wanted for the shapes that are entered for a group, that of the group first. -/
def enteredOf (T site : String) (g : Group) : List String :=
  match g.first with
  | .field alias? name _ _ _ =>
    if name = typenameField then []
    else
      match c.model.field? T name with
      | none => []
      | some f =>
        let key := alias?.getD name
        if f.kind.isComposite ∧ g.below ≠ [] then
          Naming.capitalize key :: entered f.descriptor.name (site ++ "." ++ key) g.below
        else []
  | .spread _ _ => []
  | .inline on? _ _ =>
    if c.model.isComposite (on?.getD T) then
      Naming.inlineFragmentName (on?.getD T) :: entered (on?.getD T) site g.below
    else []
termination_by 2 * depths g.below + 1

end

end

variable {c : WalkContext} {T site : String}

theorem entered_eq {ss : List Selection} :
  entered c T site ss = (reached c T site (groups ss)).flatMap (enteredOf c T site)
  := by
  rw [entered, List.flatMap_subtype fun _ _ => rfl, List.unattach_attach]

/-! ### What a walk claims -/

/-- A step that starts with a table claims some names, which are those that its result wants if it
succeeds. -/
def Claims {α : Type} (x : Walk α) (t : NameTable) (wanted : α → List String)
    (names : List String) : Prop :=
  (x.outcome t).2 = t.claimEach names ∧ ∀ a, (x.outcome t).1 = .ok a → wanted a = names

section

variable {α β : Type} {x : Walk α} {t : NameTable} {wanted : α → List String}

theorem claims_of_ok {a : α} (h : x.outcome t = (.ok a, t)) (ha : wanted a = []) :
  x.Claims t wanted []
  := by
  rw [Claims, h]
  constructor
  · rfl
  · rintro _ ⟨⟩
    apply ha

theorem claims_of_error {e : Failure} (h : x.outcome t = (.error e, t)) :
  x.Claims t wanted []
  := by
  rw [Claims, h]
  constructor
  · rfl
  · rintro _ ⟨⟩

theorem claims_of_map {y : Walk β} {u : NameTable} {g : β → α} {names below : List String}
    (h : x.outcome t = Prod.map (Except.map g) id (y.outcome u))
    (htable : u.claimEach below = t.claimEach names) {wanted' : β → List String}
    (hy : y.Claims u wanted' below) (hg : ∀ b, wanted' b = below → wanted (g b) = names) :
  x.Claims t wanted names
  := by
  obtain ⟨hleft, hresult⟩ := hy
  rw [Claims, h]
  constructor
  · apply hleft.trans htable
  · intro a ha
    obtain ⟨b, hb, rfl⟩ := Result.map_eq_ok_iff.mp ha
    apply hg b (hresult b hb)

/-- A step that claims a name first claims it before the names below. -/
theorem claims_cons {y : Walk β} {g : β → α} {name : String} {names : List String}
    {wanted' : β → List String}
    (h : x.outcome t
      = Prod.map (Except.map g) id (y.outcome (t.add (t.claimUnique name).1)))
    (hy : y.Claims (t.add (t.claimUnique name).1) wanted' names)
    (hg : ∀ b, wanted (g b) = name :: wanted' b) :
  x.Claims t wanted (name :: names)
  := by
  apply claims_of_map h (NameTable.claimEach_cons rfl _).symm hy
  rintro b rfl
  apply hg

end

/-- The walk of a merged group claims the names of the shapes entered for it, if so it is below. -/
theorem claims_member_merged {g : Group} {t : NameTable}
    (below : ∀ {T site : String} {t : NameTable},
      (members c T site (normalize g.below)).Claims t Shape.wantedNames
        (entered c T site g.below)) :
  (member c T site g.merged).Claims t (fun m? => m?.elim [] Shape.wantedOfMember)
    (enteredOf c T site g)
  := by
  cases hg : g.first with
  | field alias? name args ds ss =>
    simp only [enteredOf, Group.merged, hg, withChildren]
    by_cases ordinary : name = typenameField
    · subst ordinary
      rw [if_pos rfl]
      by_cases key : alias?.getD typenameField = typenameField
      · apply claims_of_ok (outcome_member_typename key) rfl
      · apply claims_of_ok (outcome_member_aliasedTypename key) rfl
    · rw [if_neg ordinary]
      cases declared : c.model.field? T name with
      | none => apply claims_of_error (outcome_member_undeclared ordinary declared)
      | some f =>
        by_cases selected : g.below = []
        · rw [selected, normalize_eq_nil_iff.mpr rfl]
          cases kind : f.kind.isComposite with
          | false =>
            simpa [kind] using claims_of_ok (outcome_member_leaf ordinary declared kind) rfl
          | true =>
            simpa [kind] using
              claims_of_error (outcome_member_selectionMissing ordinary declared kind)
        · have selected' : normalize g.below ≠ [] := by simpa using selected
          cases kind : f.kind.isComposite with
          | false =>
            simpa [kind] using
              claims_of_error (outcome_member_selectionOnLeaf ordinary declared kind selected')
          | true =>
            dsimp only
            rw [if_pos ⟨kind, selected⟩]
            apply claims_cons (outcome_member_nested ordinary declared kind selected' rfl) below
            intro ms
            rfl
  | spread name ds =>
    simp only [enteredOf, Group.merged, hg, withChildren]
    cases entered : c.fragments.find? name with
    | none => apply claims_of_error (outcome_member_missingFragment entered)
    | some ns => apply claims_of_ok (outcome_member_spread entered) rfl
  | inline on? ds ss =>
    simp only [enteredOf, Group.merged, hg, withChildren]
    cases composite : c.model.isComposite (on?.getD T) with
    | false => simpa using claims_of_error (outcome_member_inlineOnLeaf composite)
    | true =>
      simp only [if_true]
      apply claims_cons (outcome_member_inline composite rfl) below
      intro ms
      rfl

/-- The walk of merged selections claims the names of the shapes entered for the selections. -/
theorem claims_members_normalize (ss : List Selection) :
  ∀ {T site : String} {t : NameTable},
    (members c T site (normalize ss)).Claims t Shape.wantedNames (entered c T site ss)
  := by
  induction ss using belowInduction with
  | step ss ih =>
    intro T site t
    rw [normalize_eq, entered_eq]
    revert ih
    generalize groups ss = gs
    intro ih
    -- The walk comes to the groups one after another, each with the table that the last left.
    induction gs generalizing t with
    | nil => apply claims_of_ok outcome_members_nil rfl
    | cons g rest ihRest =>
      have hfirst : (member c T site g.merged).Claims t _ _ :=
        claims_member_merged (ih g List.mem_cons_self)
      have hfails : (member c T site g.merged).failure? t = groupViolation? c T site g :=
        failure?_member_merged (failure?_members_normalize g.below)
      have hcons : (members c T site (g.merged :: rest.map Group.merged)).outcome t = _ :=
        outcome_members_cons
      rw [List.map_cons, reached, ← hfails]
      rcases hm : (member c T site g.merged).outcome t with ⟨e | m?, t'⟩
      · rw [failure?_of_error hm]
        rw [hm] at hcons
        rw [Claims, hm] at hfirst
        rw [Claims, hcons, List.flatMap_singleton]
        use hfirst.1
        rintro _ ⟨⟩
      · rw [failure?_of_ok hm]
        rw [hm] at hcons
        rw [Claims, hm] at hfirst
        obtain ⟨htable, hresult⟩ := hfirst
        have hrest := ihRest (t := t') fun g hg => ih g (List.mem_cons_of_mem _ hg)
        rw [List.flatMap_cons]
        apply claims_of_map hcons _ hrest
        · intro ms hms
          rw [← hms, ← hresult m? rfl]
          cases m? <;> rfl
        · rw [NameTable.claimEach_append, ← htable]

/-- The names of the shapes of a walk are what comes of claiming the names that they want, from one
shape to the next in the order of their tree, and these names are taken afterwards besides those
that were taken before.  A walk that fails has claimed the names wanted for the shapes that it has
entered, in the same order, and keeps them taken. -/
theorem names_in_order (c : WalkContext) (name T site : String) (ss : List Selection)
    (t : NameTable) :
  (∀ root t', (shape c name T ss site).outcome t = (.ok root, t') →
      root.shapes.map Shape.name = name :: t.claimed root.wanted
        ∧ t' = t.addAll (t.claimed root.wanted)
        ∧ root.wanted = entered c T site ss)
    ∧ ∀ e t', (shape c name T ss site).outcome t = (.error e, t') →
        t' = t.addAll (t.claimed (entered c T site ss))
  := by
  have hclaims : (shape c name T ss site).Claims t Shape.wanted (entered c T site ss) := by
    apply claims_of_map (outcome_bind_pure _) rfl (claims_members_normalize ss)
    intro ms hms
    apply hms
  obtain ⟨htable, hresult⟩ := hclaims
  rw [NameTable.claimEach_eq] at htable
  constructor
  · intro root t' h
    rw [h] at htable hresult
    have hwanted := hresult root rfl
    rw [hwanted]
    refine ⟨?_, htable, rfl⟩
    obtain ⟨ms, hwalk, rfl⟩ := outcome_shape_eq_ok_iff.mp h
    -- The table holds the names of the shapes as it holds the claimed ones, the last one first.
    have htaken := hwalk.taken_eq
    change t' = _ at htable
    rw [htable, NameTable.taken_addAll] at htaken
    rw [map_name_shapes_shapeOf, List.reverse_injective (List.append_cancel_right htaken)]
  · intro e t' h
    rw [h] at htable
    apply htable

/-- Two fields of a user, whose keys come to one name when capitalized, with what is selected below
the second one. -/
def twoUsers (ss : List Selection) : List Selection :=
  [.field none "me" [] [] [.field none "id" [] [] []], .field (some "Me") "me" [] [] ss]

/-- The shape of two users with their ids. -/
def twoUsersShape : Shape :=
  let user := fun key name => Member.nested
    { name := key, descriptor := { name }, kind := .object }
    (.mk name "User" { literals := ["User"] } false
      [.leaf { name := "id", descriptor := { name := "ID" }, kind := .scalar }])
  .mk "Query" "Query" { literals := ["Query"] } false [user "me" "Me", user "Me" "_Me"]

/-- The table after the walk of two users. -/
def twoUsersTable : NameTable := { scope := "", taken := ["_Me", "Me"] }

theorem names_in_order_twoUsers :
  (shape ⟨sampleModel, []⟩ "Query" "Query" (twoUsers [.field none "id" [] [] []]) "Users").outcome
        { scope := "" } = (.ok twoUsersShape, twoUsersTable)
    ∧ twoUsersShape.shapes.map Shape.name
      = "Query" :: NameTable.claimed { scope := "" } twoUsersShape.wanted
    ∧ (shape ⟨sampleModel, []⟩ "Query" "Query" (twoUsers [.spread "card" []]) "Users").outcome
        { scope := "" } = (.error (.missingFragment "card" "Users.Me"), twoUsersTable)
    ∧ twoUsersTable = NameTable.addAll { scope := "" } (NameTable.claimed { scope := "" }
        (entered ⟨sampleModel, []⟩ "Query" "Users" (twoUsers [.spread "card" []])))
  := by
  have hok : (shape ⟨sampleModel, []⟩ "Query" "Query" (twoUsers [.field none "id" [] [] []])
      "Users").outcome { scope := "" } = (.ok twoUsersShape, twoUsersTable) := rfl
  have herror : (shape ⟨sampleModel, []⟩ "Query" "Query" (twoUsers [.spread "card" []])
      "Users").outcome { scope := "" }
    = (.error (.missingFragment "card" "Users.Me"), twoUsersTable) := rfl
  refine ⟨hok, ?_, herror, ?_⟩
  · apply ((names_in_order _ _ _ _ _ _).1 _ _ hok).1
  · apply (names_in_order _ _ _ _ _ _).2 _ _ herror

end Walk

end GraphScribe
