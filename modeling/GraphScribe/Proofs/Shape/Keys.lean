import GraphScribe.Proofs.Shape.Response
import Mathlib.Data.List.ReduceOption

/-!
# Response keys and declared names

`Selection.sets` lists a selection set and the selection sets in it, fields with one response key
taken together.  A walk makes one shape of each of them, in this order.  The object type of a shape
declares `__typename` and its properties, `Shape.declaredNames`: these are `__typename` and the
response keys of the selection set (`Selection.Declares`).  A name stands among them twice only if
the response key `__typename` is that of another field, `Selection.MasksTypename`.
-/

namespace GraphScribe

open Walk

/-- The names that the object type of a shape declares, in order. -/
def Shape.declaredNames (s : Shape) : List String :=
  typenameField :: s.properties.map fun q => q.1.name

/-- Whether a selection set of its own stands below a group; what stands below `__typename` is not
looked at. -/
def Group.hasSet (g : Group) : Bool :=
  match g.first with
  | .field _ name _ _ _ => name ≠ typenameField && !g.below.isEmpty
  | .spread _ _ => false
  | .inline _ _ _ => true

namespace Selection

/-! ### The selection sets in a selection set -/

/-- The selection set and those below its groups, each before those below it. -/
def sets (ss : List Selection) : List (List Selection) :=
  ss :: (groups ss).attach.flatMap fun g => if g.1.hasSet then sets g.1.below else []
termination_by depths ss
decreasing_by
  apply depths_below_lt g.2

/-- The selection sets below a group. -/
def setsOf (g : Group) : List (List Selection) := if g.hasSet then sets g.below else []

theorem sets_eq (ss : List Selection) :
  sets ss = ss :: (groups ss).flatMap setsOf
  := by
  rw [sets, List.flatMap_subtype (g := setsOf) fun _ _ => rfl, List.unattach_attach]

/-- The first field that is answered under the key `__typename` is another one. -/
def MasksTypename (ss : List Selection) : Prop :=
  ∃ name ≠ typenameField, (fieldsAt ss typenameField).head?.bind fieldName? = some name

/-- What a shape declares for a selection set: `__typename` and the response keys, the properties
under one key each, and `__typename` once unless it is masked. -/
structure Declares (ss : List Selection) (s : Shape) : Prop where
  names : ∀ key, key ∈ s.declaredNames ↔ key = typenameField ∨ ∃ x ∈ ss, x.key? = some key
  properties : (s.properties.map fun q => q.1.name).Nodup
  once : s.declaredNames.Nodup ↔ ¬ MasksTypename ss

/-! ### The keys of the properties -/

/-- The response keys other than that of the meta-field under its own name, in order. -/
def propertyKeys (gs : List Group) : List String :=
  (gs.filter fun g => !isPlainTypename g.first).filterMap Group.key?

section

variable {ss : List Selection}

theorem nodup_propertyKeys (ss : List Selection) :
  (propertyKeys (groups ss)).Nodup
  := by
  have hsublist : ((groups ss).filter fun g => !isPlainTypename g.first).Sublist (groups ss) :=
    List.filter_sublist
  apply (nodup_keys ss).sublist (hsublist.filterMap Group.key?)

theorem mem_propertyKeys_iff {gs : List Group} {key : String} :
  key ∈ propertyKeys gs
    ↔ ∃ g ∈ gs, isPlainTypename g.first = false ∧ g.key? = some key
  := by
  simp [propertyKeys, and_assoc]

/-- The keys of the properties are the response keys, but for the key `__typename`. -/
theorem mem_typename_cons_propertyKeys_iff {key : String} :
  key ∈ typenameField :: propertyKeys (groups ss)
    ↔ key = typenameField ∨ ∃ x ∈ ss, x.key? = some key
  := by
  rw [List.mem_cons, mem_propertyKeys_iff]
  constructor
  · rintro (rfl | ⟨g, hg, -, hkey⟩)
    · apply Or.inl rfl
    · apply Or.inr ⟨g.first, first_mem hg, hkey⟩
  · rintro (rfl | ⟨x, hx, hkey⟩)
    · apply Or.inl rfl
    · obtain ⟨g, hg, hgkey⟩ := exists_group hx hkey
      cases hplain : isPlainTypename g.first with
      | true =>
        have htypename : g.key? = some typenameField := (key?_of_isPlainTypename hplain).1
        rw [hgkey] at htypename
        apply Or.inl (Option.some.inj htypename)
      | false => apply Or.inr ⟨g, hg, hplain, hgkey⟩

/-- A group under the key `__typename` is the meta-field, or masks it. -/
theorem isPlainTypename_eq_false_iff {g : Group} (hkey : g.key? = some typenameField) :
  isPlainTypename g.first = false
    ↔ ∃ name ≠ typenameField, g.first.fieldName? = some name
  := by
  rw [Group.key?] at hkey
  cases hfirst : g.first with
  | field alias? name args ds below =>
    rw [hfirst] at hkey
    have halias : alias?.getD name = typenameField := Option.some.inj hkey
    constructor
    · intro hplain
      use name
      have hne : name ≠ typenameField := by
        rintro rfl
        simp [isPlainTypename, halias] at hplain
      use hne
      rfl
    · rintro ⟨name', hne, hname⟩
      cases hname
      simp [isPlainTypename, hne]
  | spread name ds =>
    rw [hfirst] at hkey
    cases hkey
  | inline on? ds below =>
    rw [hfirst] at hkey
    cases hkey

theorem masksTypename_iff :
  MasksTypename ss ↔ typenameField ∈ propertyKeys (groups ss)
  := by
  rw [mem_propertyKeys_iff]
  constructor
  · rintro ⟨name, hne, hname⟩
    obtain ⟨x, hx, hxname⟩ := Option.bind_eq_some_iff.mp hname
    obtain ⟨hmem, hxkey⟩ := List.mem_filter.mp (List.mem_of_mem_head? hx)
    obtain ⟨g, hg, hkey⟩ := exists_group hmem (of_decide_eq_true hxkey)
    rw [fieldsAt_eq hg hkey] at hx
    obtain rfl : g.first = x := Option.some.inj hx
    use g, hg
    use (isPlainTypename_eq_false_iff hkey).mpr ⟨name, hne, hxname⟩, hkey
  · rintro ⟨g, hg, hplain, hkey⟩
    obtain ⟨name, hne, hname⟩ := (isPlainTypename_eq_false_iff hkey).mp hplain
    use name, hne
    rw [fieldsAt_eq hg hkey]
    apply hname

/-- A shape whose properties stand under the keys of the groups declares what it should. -/
theorem declares_of_keys {s : Shape}
    (h : s.properties.map (fun q => q.1.name) = propertyKeys (groups ss)) :
  Declares ss s
  := by
  have hnames : s.declaredNames = typenameField :: propertyKeys (groups ss) := by
    rw [Shape.declaredNames, h]
  constructor
  case names =>
    intro key
    rw [hnames]
    apply mem_typename_cons_propertyKeys_iff
  case properties =>
    rw [h]
    apply nodup_propertyKeys
  case once =>
    rw [hnames, List.nodup_cons, masksTypename_iff]
    apply and_iff_left (nodup_propertyKeys ss)

end

end Selection

open Selection

/-! ### What a walk makes of a group -/

/-- `Group.Makes c g m?`: what a walk makes of a group is nothing for the meta-field under its own
name, and otherwise a member under the key of the group, with a shape below it exactly if there is a
selection set below the group. -/
inductive Group.Makes (c : WalkContext) (g : Group) : Option Member → Prop
  | typename (plain : isPlainTypename g.first = true) (bare : g.hasSet = false) : Makes c g none
  | leaf {p} (other : isPlainTypename g.first = false) (answered : g.key? = some p.name)
      (bare : g.hasSet = false) :
      Makes c g (some (.leaf p))
  | nested {p name T site t below t'} (other : isPlainTypename g.first = false)
      (answered : g.key? = some p.name) (selected : g.hasSet = true)
      (inside : Walked c T site (normalize g.below) t below t') :
      Makes c g (some (.nested p (shapeOf c.model name T (normalize g.below) below)))
  | spread {r} (other : isPlainTypename g.first = false) (unanswered : g.key? = none)
      (bare : g.hasSet = false) :
      Makes c g (some (.spread r))
  | inline {name T site t below t'} (other : isPlainTypename g.first = false)
      (unanswered : g.key? = none) (selected : g.hasSet = true)
      (inside : Walked c T site (normalize g.below) t below t') :
      Makes c g (some (.inline (shapeOf c.model name T (normalize g.below) below)))

section

variable {c : WalkContext} {T site : String}

/-- A walk makes something of its first group, and then goes on with the others. -/
theorem makes_of_walked_cons {g : Group} {rest : List Selection} {t t' : NameTable}
    {ms : List Member} (h : Walked c T site (g.merged :: rest) t ms t') :
  ∃ m? t₁ ms', g.Makes c m? ∧ Walked c T site rest t₁ ms' t' ∧ ms = m?.toList ++ ms'
  := by
  rw [Group.merged] at h
  cases hg : g.first with
  | field alias? name args ds ss =>
    have hkey : g.key? = some (alias?.getD name) := by
      rw [Group.key?, hg]
      rfl
    rw [hg, withChildren] at h
    -- The rule for leaves asks for no selections below, which a variable can stand for.
    generalize hbelow : normalize g.below = below at h
    cases h with
    | typename key after =>
      refine ⟨none, _, _, Group.Makes.typename ?_ ?_, after, rfl⟩
      · simp [hg, isPlainTypename, key]
      · simp [Group.hasSet, hg]
    | aliasedTypename key after =>
      refine ⟨some _, _, _, Group.Makes.leaf ?_ ?_ ?_, after, rfl⟩
      · simp [hg, isPlainTypename, key]
      · apply hkey
      · simp [Group.hasSet, hg]
    | leaf ordinary declared kind after =>
      refine ⟨some _, _, _, Group.Makes.leaf ?_ ?_ ?_, after, rfl⟩
      · simp [hg, isPlainTypename, ordinary]
      · apply hkey
      · simp [Group.hasSet, hg, normalize_eq_nil_iff.mp hbelow]
    | nested ordinary declared kind selected claimed inside after =>
      subst hbelow
      refine ⟨some _, _, _, Group.Makes.nested ?_ ?_ ?_ inside, after, rfl⟩
      · simp [hg, isPlainTypename, ordinary]
      · apply hkey
      · simpa [Group.hasSet, hg, ordinary] using selected
  | spread name ds =>
    rw [hg, withChildren] at h
    cases h with
    | spread entered after =>
      refine ⟨some _, _, _, Group.Makes.spread ?_ ?_ ?_, after, rfl⟩
      · simp [hg, isPlainTypename]
      · simp [Group.key?, hg, Selection.key?]
      · simp [Group.hasSet, hg]
  | inline on? ds ss =>
    rw [hg, withChildren] at h
    cases h with
    | inline composite claimed inside after =>
      refine ⟨some _, _, _, Group.Makes.inline ?_ ?_ ?_ inside, after, rfl⟩
      · simp [hg, isPlainTypename]
      · simp [Group.key?, hg, Selection.key?]
      · simp [Group.hasSet, hg]

theorem makes_of_walked {gs : List Group} {t t' : NameTable} {ms : List Member}
    (h : Walked c T site (gs.map Group.merged) t ms t') :
  ∃ m?s, List.Forall₂ (Group.Makes c) gs m?s ∧ ms = m?s.reduceOption
  := by
  induction gs generalizing t ms with
  | nil =>
    cases h
    use [], List.Forall₂.nil
    rfl
  | cons g rest ih =>
    obtain ⟨m?, t₁, ms', hmakes, hrest, rfl⟩ := makes_of_walked_cons h
    obtain ⟨m?s, hm?s, rfl⟩ := ih hrest
    use m? :: m?s, List.Forall₂.cons hmakes hm?s
    cases m? <;> rfl

/-- The properties that a walk makes stand under the keys of the groups. -/
theorem names_of_makes {gs : List Group} {m?s : List (Option Member)}
    (h : List.Forall₂ (Group.Makes c) gs m?s) :
  (m?s.reduceOption.filterMap Member.property?).map (fun q => q.1.name) = propertyKeys gs
  := by
  induction h with
  | nil => rfl
  | cons hmakes _ ih =>
    rw [propertyKeys] at ih ⊢
    cases hmakes with
    | typename plain _ => simpa [plain] using ih
    | leaf other answered _ => simpa [other, answered, Member.property?] using ih
    | nested other answered _ _ => simpa [other, answered, Member.property?] using ih
    | spread other unanswered _ =>
      simpa [other, unanswered, Member.property?, List.filterMap_cons] using ih
    | inline other unanswered _ _ =>
      simpa [other, unanswered, Member.property?, List.filterMap_cons] using ih

/-- The shapes that a walk makes of groups declare what the selection sets below the groups ask for,
if so do those of each selection set on its own. -/
theorem declares_of_makes {gs : List Group} {m?s : List (Option Member)}
    (h : List.Forall₂ (Group.Makes c) gs m?s)
    (below : ∀ g ∈ gs, ∀ {T site name : String} {t t' : NameTable} {ms : List Member},
      Walked c T site (normalize g.below) t ms t' →
        List.Forall₂ Declares (sets g.below)
          (shapeOf c.model name T (normalize g.below) ms).shapes) :
  List.Forall₂ Declares (gs.flatMap setsOf) (Shape.memberShapes m?s.reduceOption)
  := by
  induction h with
  | nil => apply List.Forall₂.nil
  | cons hmakes _ ih =>
    rw [List.forall_mem_cons] at below
    have hrest := ih below.2
    rw [List.flatMap_cons, setsOf]
    cases hmakes with
    | typename _ bare =>
      simpa [bare] using hrest
    | leaf _ _ bare =>
      simpa [bare, Shape.memberShapes, Shape.shapesOfMember] using hrest
    | nested _ _ selected inside =>
      rw [if_pos selected]
      apply List.rel_append (below.1 inside) hrest
    | spread _ _ bare =>
      simpa [bare, Shape.memberShapes, Shape.shapesOfMember] using hrest
    | inline _ _ selected inside =>
      rw [if_pos selected]
      apply List.rel_append (below.1 inside) hrest

/-- The shapes of a walk declare what the selection sets in its selection set ask for. -/
theorem declares_of_walked (ss : List Selection) :
  ∀ {T site name : String} {t t' : NameTable} {ms : List Member},
    Walked c T site (normalize ss) t ms t' →
      List.Forall₂ Declares (sets ss) (shapeOf c.model name T (normalize ss) ms).shapes
  := by
  induction ss using belowInduction with
  | step ss ih =>
    intro T site name t t' ms h
    have hgroups := h
    rw [normalize_eq] at hgroups
    obtain ⟨m?s, hmakes, rfl⟩ := makes_of_walked hgroups
    rw [sets_eq, Shape.shapes_eq]
    apply List.Forall₂.cons
    · apply declares_of_keys
      apply names_of_makes hmakes
    · apply declares_of_makes hmakes
      intro g hg T site name t t' ms
      apply ih g hg

theorem Walk.declares_of_outcome {name : String} {ss : List Selection} {t t' : NameTable}
    {root : Shape} (h : (shape c name T ss site).outcome t = (.ok root, t')) :
  List.Forall₂ Declares (sets ss) root.shapes
  := by
  obtain ⟨ms, hwalk, rfl⟩ := outcome_shape_eq_ok_iff.mp h
  apply declares_of_walked ss hwalk

end

end GraphScribe
