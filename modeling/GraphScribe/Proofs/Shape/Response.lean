import GraphScribe.Proofs.Result
import GraphScribe.Proofs.Shape.Answer

/-!
# Shapes and responses

The shape of a selection set of fields describes exactly the values that answer the selections
(`Walk.conforms_iff_isResponse`).  The walk makes one member of each group of fields
(`madeOf_of_walked`), the meta-field under its own name apart, and the member describes what is
answered under the key of the group (`MadeOf.isInner_iff`).
-/

namespace GraphScribe

open Walk

namespace Selection

/-- Selections that are fields, at every depth. -/
inductive OnlyFields : List Selection → Prop
  | nil : OnlyFields []
  | cons {alias? name args ds ss rest} (below : OnlyFields ss) (after : OnlyFields rest) :
      OnlyFields (.field alias? name args ds ss :: rest)

/-- A composite type on which something is selected: that of the selections, or that of a field
at some depth. -/
inductive SelectedOn (m : Model) : String → List Selection → String → Prop
  | here {T ss} : SelectedOn m T ss T
  | field {T ss key name f T'} (first : (fieldsAt ss key).head?.bind fieldName? = some name)
      (ordinary : name ≠ typenameField) (declared : m.field? T name = some f)
      (kind : f.kind.isComposite = true)
      (inside : SelectedOn m f.descriptor.name ((fieldsAt ss key).flatMap children) T') :
      SelectedOn m T ss T'

namespace OnlyFields

theorem append {ss ss' : List Selection} (h : OnlyFields ss) (h' : OnlyFields ss') :
  OnlyFields (ss ++ ss')
  := by
  induction h with
  | nil => apply h'
  | cons below _ _ ih => apply OnlyFields.cons below ih

theorem of_mem {ss : List Selection} (h : OnlyFields ss) {s : Selection} (hs : s ∈ ss) :
  s.key?.isSome = true ∧ OnlyFields s.children
  := by
  induction h with
  | nil => cases hs
  | cons below _ _ ih =>
    rcases List.mem_cons.mp hs with rfl | hs
    · use rfl, below
    · apply ih hs

theorem flatMap_children {nodes : List Selection} (h : ∀ s ∈ nodes, OnlyFields s.children) :
  OnlyFields (nodes.flatMap children)
  := by
  induction nodes with
  | nil => apply OnlyFields.nil
  | cons s rest ih =>
    rw [List.forall_mem_cons] at h
    apply append h.1 (ih h.2)

theorem below_group {ss : List Selection} (h : OnlyFields ss) {g : Group} (hg : g ∈ groups ss) :
  OnlyFields g.below
  := by
  apply flatMap_children
  intro s hs
  apply (h.of_mem (mem_of_mem_nodes hg hs)).2

end OnlyFields

section

variable {ss : List Selection} {g g' : Group} {key : String}

theorem fieldsAt_eq (hg : g ∈ groups ss) (hkey : g.key? = some key) :
  fieldsAt ss key = g.nodes
  := by
  rw [nodes_eq_filter hg hkey, fieldsAt]

/-- A key belongs to one group. -/
theorem group_eq (hg : g ∈ groups ss) (hkey : g.key? = some key) (hg' : g' ∈ groups ss)
    (hkey' : g'.key? = some key) :
  g = g'
  := by
  have hnodes : g.nodes = g'.nodes := by
    rw [← fieldsAt_eq hg hkey, fieldsAt_eq hg' hkey']
  cases g
  cases g'
  cases hnodes
  rfl

/-- What is answered under the key of a group is decided by its first node, and by what is selected
below the group. -/
theorem isAnswer_iff {m : Model} {leaf : String → Value → Prop} {T : String} (hg : g ∈ groups ss)
    (hkey : g.key? = some key) {name : String} (first : g.first.fieldName? = some name)
    {x : Value} :
  IsAnswer m leaf T ss key x
    ↔ if name = typenameField then ∃ type ∈ m.possibleTypes T, x = .string type
      else ∃ f, m.field? T name = some f ∧ f.descriptor.Admits (fun y =>
        if f.kind.isComposite then IsResponse m leaf f.descriptor.name g.below y
        else leaf f.descriptor.name y) x
  := by
  rw [IsAnswer, fieldsAt_eq hg hkey]
  simp [Group.nodes, first, Group.below]

theorem selectedOn_of_group {m : Model} {T : String} (hg : g ∈ groups ss)
    (hkey : g.key? = some key) {name : String} (first : g.first.fieldName? = some name)
    (ordinary : name ≠ typenameField) {f : Field} (declared : m.field? T name = some f)
    (kind : f.kind.isComposite = true) {T' : String}
    (inside : SelectedOn m f.descriptor.name g.below T') :
  SelectedOn m T ss T'
  := by
  have hfirst : (fieldsAt ss key).head?.bind fieldName? = some name := by
    rw [fieldsAt_eq hg hkey]
    apply first
  apply SelectedOn.field hfirst ordinary declared kind
  rw [fieldsAt_eq hg hkey]
  apply inside

theorem exists_key_iff :
  (∃ s ∈ ss, s.key? = some key) ↔ ∃ g ∈ groups ss, g.key? = some key
  := by
  constructor
  · rintro ⟨s, hs, hkey⟩
    apply exists_group hs hkey
  · rintro ⟨g, hg, hkey⟩
    use g.first, first_mem hg
    apply hkey

end

end Selection

open Selection

/-! ### The member of a group -/

/-- `MadeOf c T g m`: of the group `g` of fields on the type `T` a walk makes the member `m`. -/
inductive MadeOf (c : WalkContext) (T : String) : Group → Member → Prop
  | aliasedTypename {g key} (first : g.first.fieldName? = some typenameField)
      (answered : g.key? = some key) :
      MadeOf c T g (.leaf (typenameProperty c.model T key))
  | leaf {g key name f} (first : g.first.fieldName? = some name) (answered : g.key? = some key)
      (ordinary : name ≠ typenameField) (declared : c.model.field? T name = some f)
      (kind : f.kind.isComposite = false) :
      MadeOf c T g (.leaf (fieldProperty f key))
  | nested {g key name f shapeName site t below t'} (first : g.first.fieldName? = some name)
      (answered : g.key? = some key) (ordinary : name ≠ typenameField)
      (declared : c.model.field? T name = some f) (kind : f.kind.isComposite = true)
      (inside : Walked c f.descriptor.name site (normalize g.below) t below t') :
      MadeOf c T g (.nested (nestedProperty f key shapeName)
        (shapeOf c.model shapeName f.descriptor.name (normalize g.below) below))

/-- The property of an aliased meta-field admits the names of the possible types. -/
theorem admits_typenameProperty {m : Model} {T key : String} (possible : m.possibleTypes T ≠ [])
    {leaf : String → Value → Prop} {x : Value} :
  (typenameProperty m T key).descriptor.Admits ((typenameProperty m T key).IsLeafValue leaf) x
    ↔ ∃ type ∈ m.possibleTypes T, x = .string type
  := by
  simp only [typenameProperty, Descriptor.Admits, Property.IsLeafValue, possible, if_false]
  constructor
  · rintro (⟨hnull, -⟩ | ⟨-, hstring⟩)
    · cases hnull
    · apply hstring
  · rintro ⟨type, htype, rfl⟩
    apply Or.inr
    constructor
    · apply Value.noConfusion
    · use type

section

variable {c : WalkContext} {T site : String}

/-- A walk makes one member of each group of fields, apart from the meta-field under its own
name. -/
theorem madeOf_of_walked {gs : List Group} {t t' : NameTable} {ms : List Member}
    (hgs : ∀ g ∈ gs, g.key?.isSome = true) (h : Walked c T site (gs.map Group.merged) t ms t') :
  List.Forall₂ (MadeOf c T) (gs.filter fun g => !isPlainTypename g.first) ms
  := by
  induction gs generalizing t ms with
  | nil =>
    cases h
    apply List.Forall₂.nil
  | cons g rest ih =>
    rw [List.forall_mem_cons] at hgs
    rw [List.map_cons] at h
    cases hg : g.first with
    | field alias? name args ds ss =>
      have hmerged : g.merged = .field alias? name args ds (normalize g.below) := by
        rw [Group.merged, hg]
        rfl
      have first : g.first.fieldName? = some name := by
        rw [hg]
        rfl
      have answered : g.key? = some (alias?.getD name) := by
        rw [Group.key?, hg]
        rfl
      rw [hmerged] at h
      -- The rule for leaves asks for no selections below, which a variable can stand for.
      generalize hbelow : normalize g.below = below at h
      cases h with
      | typename key after =>
        rw [List.filter_cons_of_neg (by simp [isPlainTypename, hg, key])]
        apply ih hgs.2 after
      | aliasedTypename key after =>
        rw [List.filter_cons_of_pos (by simp [isPlainTypename, hg, key])]
        apply List.Forall₂.cons (MadeOf.aliasedTypename first answered) (ih hgs.2 after)
      | leaf ordinary declared kind after =>
        rw [List.filter_cons_of_pos (by simp [isPlainTypename, hg, ordinary])]
        apply List.Forall₂.cons (MadeOf.leaf first answered ordinary declared kind) (ih hgs.2 after)
      | nested ordinary declared kind selected claimed inside after =>
        subst hbelow
        rw [List.filter_cons_of_pos (by simp [isPlainTypename, hg, ordinary])]
        apply List.Forall₂.cons _ (ih hgs.2 after)
        apply MadeOf.nested first answered ordinary declared kind inside
    | spread name ds => simp [Group.key?, hg, Selection.key?] at hgs
    | inline on? ds ss => simp [Group.key?, hg, Selection.key?] at hgs

namespace MadeOf

variable {g : Group} {m : Member}

theorem exists_property (h : MadeOf c T g m) :
  ∃ q, m.property? = some q
  := by
  cases h <;> exact ⟨_, rfl⟩

theorem key?_eq (h : MadeOf c T g m) {q : Property × Option Shape} (hq : m.property? = some q) :
  g.key? = some q.1.name
  := by
  cases h with
  | aliasedTypename _ answered =>
    cases hq
    apply answered
  | leaf _ answered _ _ _ =>
    cases hq
    apply answered
  | nested _ answered _ _ _ _ =>
    cases hq
    apply answered

/-- A member admits under the key of its group what is answered there. -/
theorem isInner_iff {leaf : String → Value → Prop} {ss : List Selection} (hg : g ∈ groups ss)
    (h : MadeOf c T g m) {q : Property × Option Shape} (hq : m.property? = some q)
    (possible : ∀ T', SelectedOn c.model T ss T' → c.model.possibleTypes T' ≠ [])
    (below : ∀ {T site name : String} {t t' : NameTable} {ms : List Member},
      Walked c T site (normalize g.below) t ms t' →
        (∀ T', SelectedOn c.model T g.below T' → c.model.possibleTypes T' ≠ []) →
        ∀ y, (shapeOf c.model name T (normalize g.below) ms).Conforms leaf y
          ↔ IsResponse c.model leaf T g.below y) (x : Value) :
  q.1.descriptor.Admits (Shape.IsInner leaf q) x ↔ IsAnswer c.model leaf T ss q.1.name x
  := by
  have hkey := h.key?_eq hq
  cases h with
  | aliasedTypename first _ =>
    rw [isAnswer_iff hg hkey first, if_pos rfl]
    cases hq
    apply admits_typenameProperty (possible T SelectedOn.here)
  | leaf first _ ordinary declared kind =>
    rw [isAnswer_iff hg hkey first, if_neg ordinary]
    cases hq
    simp only [declared, Option.some.injEq, exists_eq_left', kind, Bool.false_eq_true, if_false]
    apply Descriptor.admits_congr
    intro y
    simp [Shape.IsInner, Property.IsLeafValue, fieldProperty]
  | @nested _ _ f shapeName _ _ _ _ first _ ordinary declared kind inside =>
    rw [isAnswer_iff hg hkey first, if_neg ordinary]
    cases hq
    simp only [declared, Option.some.injEq, exists_eq_left', kind, if_true]
    apply (Descriptor.admits_withName shapeName f.descriptor x).trans
    apply Descriptor.admits_congr
    intro y
    apply below inside
    intro T' hT'
    apply possible T' (selectedOn_of_group hg hkey first ordinary declared kind hT')

end MadeOf

/-! ### The shape of a selection set -/

theorem key?_of_isPlainTypename {s : Selection} (h : isPlainTypename s = true) :
  s.key? = some typenameField ∧ s.fieldName? = some typenameField
  := by
  cases s with
  | field alias? name args ds ss =>
    simp only [isPlainTypename, Bool.and_eq_true, decide_eq_true_eq] at h
    obtain ⟨rfl, hkey⟩ := h
    constructor
    · apply congrArg some hkey
    · rfl
  | spread name ds => cases h
  | inline on? ds ss => cases h

theorem isPlainTypename_merged (g : Group) :
  isPlainTypename g.merged = isPlainTypename g.first
  := by
  rw [Group.merged]
  cases g.first <;> rfl

section

variable {ss : List Selection} {name : String} {t t' : NameTable} {ms : List Member}

theorem typenameSelected_iff :
  (shapeOf c.model name T (normalize ss) ms).typenameSelected = true
    ↔ ∃ g ∈ groups ss, isPlainTypename g.first = true
  := by
  change (normalize ss).any isPlainTypename = true ↔ _
  rw [normalize_eq, List.any_map, List.any_eq_true]
  simp [isPlainTypename_merged]

theorem madeOf_of_walked_normalize (h : Walked c T site (normalize ss) t ms t')
    (fields : OnlyFields ss) :
  List.Forall₂ (MadeOf c T) ((groups ss).filter fun g => !isPlainTypename g.first) ms
  := by
  rw [normalize_eq] at h
  apply madeOf_of_walked _ h
  intro g hg
  apply (fields.of_mem (first_mem hg)).1

theorem literals_of_madeOf {gs : List Group} (h : List.Forall₂ (MadeOf c T) gs ms) :
  (shapeOf c.model name T (normalize ss) ms).typename.literals = c.model.possibleTypes T
  := by
  have hinline : ms.filterMap Member.inline? = [] := by
    apply List.filterMap_eq_nil_iff.mpr
    intro m hm
    obtain ⟨g, -, hg⟩ := Result.exists_of_forall₂ h hm
    cases hg <;> rfl
  change (typenameOf c.model T ms).literals = _
  rw [typenameOf, hinline]

section

variable
  (made : List.Forall₂ (MadeOf c T) ((groups ss).filter fun g => !isPlainTypename g.first) ms)

include made

/-- A property of the shape comes from a group. -/
theorem exists_group_of_property {q : Property × Option Shape}
    (hq : q ∈ (shapeOf c.model name T (normalize ss) ms).properties) :
  ∃ g ∈ groups ss, isPlainTypename g.first = false ∧ ∃ m, MadeOf c T g m ∧ m.property? = some q
  := by
  obtain ⟨m, hm, hmq⟩ := List.mem_filterMap.mp hq
  obtain ⟨g, hg, hgm⟩ := Result.exists_of_forall₂ made hm
  obtain ⟨hg, hplain⟩ := List.mem_filter.mp hg
  use g, hg, by simpa using hplain, m

/-- A group has a property of the shape, unless it is the meta-field under its own name. -/
theorem exists_property_of_group {g : Group} (hg : g ∈ groups ss)
    (hplain : isPlainTypename g.first = false) :
  ∃ q ∈ (shapeOf c.model name T (normalize ss) ms).properties,
    ∃ m, MadeOf c T g m ∧ m.property? = some q
  := by
  have hfilter : g ∈ (groups ss).filter fun g => !isPlainTypename g.first := by
    simp [hg, hplain]
  obtain ⟨m, hm, hgm⟩ := Result.exists_of_forall₂_left made hfilter
  obtain ⟨q, hq⟩ := hgm.exists_property
  use q, List.mem_filterMap.mpr ⟨m, hm, hq⟩, m

/-- The shape has the keys of the groups. -/
theorem exists_key_iff_of_madeOf (key : String) :
  ((∃ q ∈ (shapeOf c.model name T (normalize ss) ms).properties, q.1.name = key)
      ∨ (shapeOf c.model name T (normalize ss) ms).typenameSelected = true ∧ key = typenameField)
    ↔ ∃ g ∈ groups ss, g.key? = some key
  := by
  rw [typenameSelected_iff]
  constructor
  · rintro (⟨q, hq, rfl⟩ | ⟨⟨g, hg, hplain⟩, rfl⟩)
    · obtain ⟨g, hg, -, m, hgm, hmq⟩ := exists_group_of_property made hq
      use g, hg, hgm.key?_eq hmq
    · use g, hg, (key?_of_isPlainTypename hplain).1
  · rintro ⟨g, hg, hkey⟩
    cases hplain : isPlainTypename g.first with
    | true =>
      have hname := (key?_of_isPlainTypename hplain).1
      rw [← Group.key?, hkey] at hname
      apply Or.inr ⟨⟨g, hg, hplain⟩, Option.some.inj hname⟩
    | false =>
      obtain ⟨q, hq, m, hgm, hmq⟩ := exists_property_of_group made hg hplain
      have hname := hgm.key?_eq hmq
      rw [hkey] at hname
      apply Or.inl ⟨q, hq, (Option.some.inj hname).symm⟩

/-- Under the key of the meta-field the shape describes the names of the possible types. -/
theorem describes_iff_of_plain {leaf : String → Value → Prop} {g : Group} (hg : g ∈ groups ss)
    (hplain : isPlainTypename g.first = true) (x : Value) :
  (shapeOf c.model name T (normalize ss) ms).Describes leaf typenameField x
    ↔ IsAnswer c.model leaf T ss typenameField x
  := by
  obtain ⟨hkey, hname⟩ := key?_of_isPlainTypename hplain
  rw [isAnswer_iff hg hkey hname, if_pos rfl, Shape.Describes, literals_of_madeOf made]
  constructor
  · rintro ⟨hliteral, -⟩
    apply hliteral (typenameSelected_iff.mpr ⟨g, hg, hplain⟩) rfl
  · intro hliteral
    use fun _ _ => hliteral
    intro q hq hname'
    obtain ⟨g', hg', hplain', m, hgm, hmq⟩ := exists_group_of_property made hq
    have hkey' := hgm.key?_eq hmq
    rw [hname'] at hkey'
    rw [group_eq hg hkey hg' hkey', hplain'] at hplain
    cases hplain

/-- Under another key the shape describes what its property does. -/
theorem describes_iff_of_not_plain {leaf : String → Value → Prop} {g : Group}
    (hg : g ∈ groups ss) (hplain : isPlainTypename g.first = false) {key : String}
    (hkey : g.key? = some key) {x : Value} {answer : Prop}
    (hanswer : ∀ m q, MadeOf c T g m → m.property? = some q →
      (q.1.descriptor.Admits (Shape.IsInner leaf q) x ↔ answer)) :
  (shapeOf c.model name T (normalize ss) ms).Describes leaf key x ↔ answer
  := by
  constructor
  · rintro ⟨-, hproperty⟩
    obtain ⟨q, hq, m, hgm, hmq⟩ := exists_property_of_group made hg hplain
    apply (hanswer m q hgm hmq).mp
    apply hproperty q hq
    apply Option.some.inj
    rw [← hkey, hgm.key?_eq hmq]
  · intro hx
    constructor
    · intro hselected hname
      obtain ⟨g', hg', hplain'⟩ := typenameSelected_iff.mp hselected
      have hkey' := (key?_of_isPlainTypename hplain').1
      rw [← hname] at hkey'
      rw [group_eq hg' hkey' hg hkey, hplain] at hplain'
      cases hplain'
    · rintro q hq rfl
      obtain ⟨g', hg', -, m, hgm, hmq⟩ := exists_group_of_property made hq
      rw [group_eq hg' (hgm.key?_eq hmq) hg hkey] at hgm
      apply (hanswer m q hgm hmq).mpr hx

end

end

/-- The values with the shape that a walk makes are the responses. -/
theorem conforms_shapeOf_iff (leaf : String → Value → Prop) (ss : List Selection) :
  ∀ {T site name : String} {t t' : NameTable} {ms : List Member},
    Walked c T site (normalize ss) t ms t' → OnlyFields ss →
      (∀ T', SelectedOn c.model T ss T' → c.model.possibleTypes T' ≠ []) →
      ∀ v, (shapeOf c.model name T (normalize ss) ms).Conforms leaf v
        ↔ IsResponse c.model leaf T ss v
  := by
  induction ss using belowInduction with
  | step ss ih =>
    intro T site name t t' ms h fields possible v
    -- Objects are compared key by key, and each key has one group.
    have hmade := madeOf_of_walked_normalize h fields
    rw [Shape.conforms_iff, isResponse_iff]
    apply Value.isObject_congr
    · intro key
      rw [exists_key_iff]
      apply exists_key_iff_of_madeOf hmade
    · intro key hkey x
      obtain ⟨g, hg, hkey⟩ := (exists_key_iff_of_madeOf hmade key).mp hkey
      cases hplain : isPlainTypename g.first with
      | true =>
        have hname := (key?_of_isPlainTypename hplain).1
        rw [← Group.key?, hkey] at hname
        obtain rfl := Option.some.inj hname
        apply describes_iff_of_plain hmade hg hplain
      | false =>
        apply describes_iff_of_not_plain hmade hg hplain hkey
        intro m q hgm hmq
        have hname := hgm.key?_eq hmq
        rw [hkey] at hname
        obtain rfl := Option.some.inj hname
        apply hgm.isInner_iff hg hmq possible
        intro T' site' name' t₁ t₁' ms' hwalked
        apply ih g hg hwalked (fields.below_group hg)

/-- The shape of a selection set of fields describes exactly the values that answer it, if every
composite type on which something is selected has an object type. -/
theorem Walk.conforms_iff_isResponse {name : String} {ss : List Selection} {t t' : NameTable}
    {s : Shape} {leaf : String → Value → Prop}
    (h : (shape c name T ss site).outcome t = (.ok s, t')) (fields : OnlyFields ss)
    (possible : ∀ T', SelectedOn c.model T ss T' → c.model.possibleTypes T' ≠ []) (v : Value) :
  s.Conforms leaf v ↔ IsResponse c.model leaf T ss v
  := by
  obtain ⟨ms, hwalked, rfl⟩ := outcome_shape_eq_ok_iff.mp h
  apply conforms_shapeOf_iff leaf ss hwalked fields possible

end

/-! ### A field that is selected twice -/

/-- What is selected below both nodes of `me` in `sampleSelections`. -/
def sampleBelow : List Selection :=
  [.field none "id" [] [] [], .field (some "kind") "__typename" [] [] []]

/-- A field that is selected twice. -/
def sampleSelections : List Selection :=
  [.field none "me" [] [] [.field none "id" [] [] []],
    .field none "me" [] [] [.field (some "kind") "__typename" [] [] []]]

/-- The shape of `sampleBelow`. -/
def sampleUserShape : Shape :=
  .mk "Me" "User" { literals := ["User"] } false
    [.leaf { name := "id", descriptor := { name := "ID" }, kind := .scalar },
      .leaf (typenameProperty sampleModel "User" "kind")]

/-- The shape of `sampleSelections`. -/
def sampleShape : Shape :=
  .mk "Query" "Query" { literals := ["Query"] } false
    [.nested { name := "me", descriptor := { name := "Me" }, kind := .object } sampleUserShape]

/-- The user in an answer to `sampleSelections`. -/
def sampleUser : Value := .object [("kind", .string "User"), ("id", .string "7")]

theorem conforms_sampleUserShape :
  sampleUserShape.Conforms (fun _ x => x = .string "7") sampleUser
  := by
  rw [Shape.conforms_iff]
  use [("kind", .string "User"), ("id", .string "7")]
  have hproperties : sampleUserShape.properties
      = [({ name := "id", descriptor := { name := "ID" }, kind := .scalar }, none),
          (typenameProperty sampleModel "User" "kind", none)] := rfl
  have hselected : sampleUserShape.typenameSelected = false := rfl
  have hpossible : sampleModel.possibleTypes "User" = ["User"] := rfl
  simp [sampleUser, Shape.Describes, hproperties, hselected, hpossible, typenameProperty,
    Descriptor.Admits, Shape.IsInner, Property.IsLeafValue]
  grind

theorem conforms_sampleShape :
  sampleShape.Conforms (fun _ x => x = .string "7") (.object [("me", sampleUser)])
  := by
  rw [Shape.conforms_iff]
  use [("me", sampleUser)]
  have hproperties : sampleShape.properties
      = [({ name := "me", descriptor := { name := "Me" }, kind := .object },
          some sampleUserShape)] := rfl
  have hselected : sampleShape.typenameSelected = false := rfl
  have hnull : sampleUser ≠ .null := by
    apply Value.noConfusion
  simp [Shape.Describes, hproperties, hselected, Descriptor.Admits, Shape.IsInner, hnull,
    conforms_sampleUserShape]
  grind

theorem possible_sampleBelow {T : String} (h : SelectedOn sampleModel "User" sampleBelow T) :
  sampleModel.possibleTypes T ≠ []
  := by
  cases h with
  | here => decide
  | @field _ _ key name f _ first ordinary declared kind inside =>
    by_cases hid : "id" = key
    · subst hid
      cases first
      cases declared
      cases kind
    · by_cases hkind : "kind" = key
      · subst hkind
        cases first
        contradiction
      · simp [sampleBelow, fieldsAt, Selection.key?, hid, hkind] at first

theorem possible_sampleSelections {T : String}
    (h : SelectedOn sampleModel "Query" sampleSelections T) :
  sampleModel.possibleTypes T ≠ []
  := by
  cases h with
  | here => decide
  | @field _ _ key name f _ first ordinary declared kind inside =>
    by_cases hme : "me" = key
    · subst hme
      cases first
      cases declared
      apply possible_sampleBelow inside
    · simp [sampleSelections, fieldsAt, Selection.key?, hme] at first

theorem Walk.conforms_iff_isResponse_sample :
  (shape ⟨sampleModel, []⟩ "Query" "Query" sampleSelections "Users").outcome { scope := "" }
      = (.ok sampleShape, { scope := "", taken := ["Me"] })
    ∧ OnlyFields sampleSelections
    ∧ IsResponse sampleModel (fun _ x => x = .string "7") "Query" sampleSelections
        (.object [("me", sampleUser)])
  := by
  have h :
      (shape ⟨sampleModel, []⟩ "Query" "Query" sampleSelections "Users").outcome { scope := "" }
        = (.ok sampleShape, { scope := "", taken := ["Me"] }) := rfl
  have fields : OnlyFields sampleSelections :=
    .cons (.cons .nil .nil) (.cons (.cons .nil .nil) .nil)
  have possible : ∀ T, SelectedOn sampleModel "Query" sampleSelections T →
      sampleModel.possibleTypes T ≠ [] := by
    intro T
    apply possible_sampleSelections
  use h, fields
  apply (Walk.conforms_iff_isResponse h fields possible _).mp conforms_sampleShape

end GraphScribe
