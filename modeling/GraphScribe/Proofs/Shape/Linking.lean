import GraphScribe.Proofs.Shape.Walk
import Mathlib.Logic.Relation

/-!
# Shapes and the names that link them

`Shape.mem_shapes_iff` says that the shapes of a namespace are those that hang together with its
root.  A walk takes exactly the names of the shapes it makes, in their order
(`Walked.taken_eq`), so that these names are distinct, and every shape it makes is made by a
walk of its own (`Walked.madeBy`), so that its members refer to other shapes as
`Member.RefersTo` says.
-/

namespace GraphScribe

namespace Shape

/-! ### The tree below a shape -/

/-- `s'` stands directly below `s`, as the shape of a property or as an inline fragment. -/
def Holds (s s' : Shape) : Prop :=
  (∃ p, (p, some s') ∈ s.properties) ∨ s' ∈ s.inlineFragments

theorem shape?_eq_some_iff {m : Member} {s : Shape} :
  m.shape? = some s ↔ (∃ p, m.property? = some (p, some s)) ∨ m.inline? = some s
  := by
  cases m <;> simp [Member.shape?, Member.property?, Member.inline?]

theorem holds_iff {s s' : Shape} :
  s.Holds s' ↔ ∃ m ∈ s.members, m.shape? = some s'
  := by
  simp only [Holds, properties, inlineFragments, List.mem_filterMap, shape?_eq_some_iff]
  constructor
  · rintro (⟨p, m, hm, h⟩ | ⟨m, hm, h⟩)
    · use m, hm, Or.inl ⟨p, h⟩
    · use m, hm, Or.inr h
  · rintro ⟨m, hm, ⟨p, h⟩ | h⟩
    · apply Or.inl ⟨p, m, hm, h⟩
    · apply Or.inr ⟨m, hm, h⟩

theorem shapes_eq (s : Shape) :
  s.shapes = s :: memberShapes s.members
  := by
  cases s
  rfl

theorem self_mem_shapes (s : Shape) :
  s ∈ s.shapes
  := by
  rw [shapes_eq]
  apply List.mem_cons_self

theorem forall_mem_shapes {P : Shape → Prop} {s : Shape} (hs : P s)
    (hbelow : ∀ s' ∈ memberShapes s.members, P s') :
  ∀ s' ∈ s.shapes, P s'
  := by
  rw [shapes_eq, List.forall_mem_cons]
  use hs

theorem memberShapes_nil :
  memberShapes [] = []
  := rfl

theorem memberShapes_cons (m : Member) (rest : List Member) :
  memberShapes (m :: rest) = shapesOfMember m ++ memberShapes rest
  := rfl

theorem shapesOfMember_eq (m : Member) :
  shapesOfMember m = m.shape?.elim [] shapes
  := by
  cases m <;> rfl

theorem mem_memberShapes_iff {ms : List Member} {s : Shape} :
  s ∈ memberShapes ms ↔ ∃ m ∈ ms, ∃ s', m.shape? = some s' ∧ s ∈ s'.shapes
  := by
  induction ms with
  | nil => simp [memberShapes_nil]
  | cons m rest ih =>
    rw [memberShapes_cons, List.mem_append, ih, shapesOfMember_eq]
    cases hm : m.shape? <;> simp [hm]

theorem sizeOf_lt_of_shape? {m : Member} {s : Shape} (h : m.shape? = some s) :
  sizeOf s < sizeOf m
  := by
  cases m with
  | leaf p => cases h
  | nested p s' =>
    cases h
    simp only [Member.nested.sizeOf_spec]
    omega
  | spread r => cases h
  | inline s' =>
    cases h
    simp

theorem sizeOf_lt_of_holds {s s' : Shape} (h : s.Holds s') :
  sizeOf s' < sizeOf s
  := by
  obtain ⟨m, hm, hs'⟩ := holds_iff.mp h
  have hlt := sizeOf_lt_of_shape? hs'
  have hmem := List.sizeOf_lt_of_mem hm
  cases s
  simp only [members] at hmem
  simp only [mk.sizeOf_spec]
  omega

theorem mem_shapes_of_holds {s s' s'' : Shape} (h : s.Holds s') (hs : s'' ∈ s'.shapes) :
  s'' ∈ s.shapes
  := by
  obtain ⟨m, hm, hs'⟩ := holds_iff.mp h
  rw [shapes_eq s]
  apply List.mem_cons_of_mem
  apply mem_memberShapes_iff.mpr
  use m, hm, s'

theorem length_shapesOfMember_le {m : Member} {ms : List Member} (h : m ∈ ms) :
  (shapesOfMember m).length ≤ (memberShapes ms).length
  := by
  induction ms with
  | nil => cases h
  | cons first rest ih =>
    rw [memberShapes_cons, List.length_append]
    rcases List.mem_cons.mp h with rfl | h
    · omega
    · have := ih h
      omega

theorem length_shapes_lt_of_holds {s s' : Shape} (h : s.Holds s') :
  s'.shapes.length < s.shapes.length
  := by
  obtain ⟨m, hm, hs'⟩ := holds_iff.mp h
  have hle := length_shapesOfMember_le hm
  rw [shapesOfMember_eq, hs'] at hle
  rw [shapes_eq s, List.length_cons]
  exact Nat.lt_succ_of_le hle

/-- What holds of all shapes below a shape holds of those below a shape that it holds. -/
theorem forall_shapes_of_holds {P : Shape → Prop} {s s' : Shape} (h : ∀ s'' ∈ s.shapes, P s'')
    (hs' : s.Holds s') :
  ∀ s'' ∈ s'.shapes, P s''
  := by
  intro s'' hs''
  apply h s'' (mem_shapes_of_holds hs' hs'')

theorem mem_shapes_cases {s s' : Shape} (h : s' ∈ s.shapes) :
  s' = s ∨ ∃ s₁, s.Holds s₁ ∧ s' ∈ s₁.shapes
  := by
  rw [shapes_eq, List.mem_cons] at h
  rcases h with rfl | h
  · apply Or.inl rfl
  · obtain ⟨m, hm, s₁, hs₁, hs'⟩ := mem_memberShapes_iff.mp h
    apply Or.inr
    use s₁
    constructor
    · apply holds_iff.mpr
      use m
    · apply hs'

theorem reaches_of_mem_shapes {s s' : Shape} (h : s' ∈ s.shapes) :
  Relation.ReflTransGen Holds s s'
  := by
  rcases mem_shapes_cases h with rfl | ⟨s₁, hs₁, h₁⟩
  · apply Relation.ReflTransGen.refl
  · apply Relation.ReflTransGen.head hs₁
    apply reaches_of_mem_shapes h₁
termination_by sizeOf s
decreasing_by
  apply sizeOf_lt_of_holds hs₁

/-- The shapes listed for a shape are those that can be reached from it. -/
theorem mem_shapes_iff {s s' : Shape} :
  s' ∈ s.shapes ↔ Relation.ReflTransGen Holds s s'
  := by
  constructor
  · apply reaches_of_mem_shapes
  · intro h
    induction h using Relation.ReflTransGen.head_induction_on with
    | refl => simp [shapes_eq]
    | head h _ ih => apply mem_shapes_of_holds h ih

theorem mem_shapes_trans {s s' s'' : Shape} (h : s' ∈ s.shapes) (h' : s'' ∈ s'.shapes) :
  s'' ∈ s.shapes
  := by
  rw [mem_shapes_iff] at h h' ⊢
  apply h.trans h'

end Shape

namespace Descriptor

/-- The names at the levels of a descriptor, from outside in. -/
def names : Descriptor → List String
  | ⟨name, _, _, none⟩ => [name]
  | ⟨name, _, _, some item⟩ => name :: names item

theorem names_withName (name : String) :
  ∀ (d : Descriptor), ∀ n ∈ (d.withName name).names, n = name
  | ⟨_, _, _, none⟩, n, h => by
      simpa [withName, names] using h
  | ⟨_, _, _, some item⟩, n, h => by
      rw [withName, names, List.mem_cons] at h
      rcases h with rfl | h
      · rfl
      · apply names_withName name item n h

theorem name_mem_names (d : Descriptor) :
  d.name ∈ d.names
  := by
  rcases d with ⟨name, nullable, isList, _ | item⟩ <;> simp [names]

end Descriptor

/-! ### What a walk makes -/

/-- The names by which a member refers to others: a property with a shape has the name of the
shape at every level of its descriptor, and a spread the namespace entered for the fragment. -/
def Member.RefersTo (fragments : Assoc String) : Member → Prop
  | .leaf _ => True
  | .nested p s => ∀ n ∈ p.descriptor.names, n = s.name
  | .spread r => fragments.find? r.name = some r.space
  | .inline _ => True

/-- The property is that of the meta-field, or that of a field of the model whose values have no
fields to select. -/
def Property.IsLeafOf (model : Model) (p : Property) : Prop :=
  (∃ T key, p = Walk.typenameProperty model T key)
    ∨ ∃ T name f key, model.field? T name = some f ∧ f.kind.isComposite = false
        ∧ p = Walk.fieldProperty f key

/-- A shape that a walk of some selections on its type makes. -/
def Shape.MadeBy (c : WalkContext) (s : Shape) : Prop :=
  ∃ name T site ss t ms t', Walked c T site ss t ms t' ∧ s = Walk.shapeOf c.model name T ss ms

namespace Walked

variable {c : WalkContext} {T site : String} {ss : List Selection} {t t' : NameTable}
  {ms : List Member}

/-- A walk takes the names of the shapes it makes, each before those of the shapes below. -/
theorem taken_eq (h : Walked c T site ss t ms t') :
  t'.taken = ((Shape.memberShapes ms).map Shape.name).reverse ++ t.taken
  := by
  induction h with
  | nil => rfl
  | typename _ _ ih => apply ih
  | aliasedTypename _ _ ih => apply ih
  | leaf _ _ _ _ ih => apply ih
  | nested _ _ _ _ _ _ _ ihInside ih =>
    rw [ih, ihInside]
    simp [Shape.memberShapes_cons, Shape.shapesOfMember_eq, Member.shape?, Shape.shapes_eq,
      Walk.shapeOf, Shape.name, Shape.members]
  | spread _ _ ih => apply ih
  | inline _ _ _ _ ihInside ih =>
    rw [ih, ihInside]
    simp [Shape.memberShapes_cons, Shape.shapesOfMember_eq, Member.shape?, Shape.shapes_eq,
      Walk.shapeOf, Shape.name, Shape.members]

/-- A walk keeps the names of the table distinct. -/
theorem nodup_taken (h : Walked c T site ss t ms t') (ht : t.taken.Nodup) :
  t'.taken.Nodup
  := by
  induction h with
  | nil => apply ht
  | typename _ _ ih => apply ih ht
  | aliasedTypename _ _ ih => apply ih ht
  | leaf _ _ _ _ ih => apply ih ht
  | nested _ _ _ _ claimed _ _ ihInside ih => apply ih (ihInside (NameTable.nodup_add ht claimed))
  | spread _ _ ih => apply ih ht
  | inline _ claimed _ _ ihInside ih => apply ih (ihInside (NameTable.nodup_add ht claimed))

theorem madeBy_shapeOf (h : Walked c T site ss t ms t')
    (hbelow : ∀ s ∈ Shape.memberShapes ms, s.MadeBy c) (name : String) :
  ∀ s ∈ (Walk.shapeOf c.model name T ss ms).shapes, s.MadeBy c
  := by
  apply Shape.forall_mem_shapes
  · use name, T, site, ss, t, ms, t'
  · apply hbelow

/-- Every shape that a walk makes is made by a walk of its own. -/
theorem madeBy (h : Walked c T site ss t ms t') :
  ∀ s ∈ Shape.memberShapes ms, s.MadeBy c
  := by
  induction h with
  | nil => simp [Shape.memberShapes_nil]
  | typename _ _ ih => apply ih
  | aliasedTypename _ _ ih => apply ih
  | leaf _ _ _ _ ih => apply ih
  | nested _ _ _ _ _ inside _ ihInside ih =>
    intro s hs
    rcases List.mem_append.mp hs with hs | hs
    · apply inside.madeBy_shapeOf ihInside _ s hs
    · apply ih s hs
  | spread _ _ ih => apply ih
  | inline _ _ inside _ ihInside ih =>
    intro s hs
    rcases List.mem_append.mp hs with hs | hs
    · apply inside.madeBy_shapeOf ihInside _ s hs
    · apply ih s hs

/-- The members that a walk makes refer to the shapes below them. -/
theorem refersTo (h : Walked c T site ss t ms t') :
  ∀ m ∈ ms, m.RefersTo c.fragments
  := by
  induction h with
  | nil => simp
  | typename _ _ ih => apply ih
  | aliasedTypename _ _ ih => simpa [Member.RefersTo] using ih
  | leaf _ _ _ _ ih => simpa [Member.RefersTo] using ih
  | nested _ _ _ _ _ _ _ _ ih =>
    rw [List.forall_mem_cons]
    constructor
    · apply Descriptor.names_withName
    · apply ih
  | spread entered _ ih =>
    rw [List.forall_mem_cons]
    use entered
  | inline _ _ _ _ _ ih => simpa [Member.RefersTo] using ih

/-- The properties that a walk makes without a shape below them are leaves of the model. -/
theorem isLeafOf (h : Walked c T site ss t ms t') {p : Property} (hp : .leaf p ∈ ms) :
  p.IsLeafOf c.model
  := by
  induction h with
  | nil => cases hp
  | typename _ _ ih => apply ih hp
  | aliasedTypename _ _ ih =>
    rcases List.mem_cons.mp hp with h | hp
    · cases h
      apply Or.inl ⟨_, _, rfl⟩
    · apply ih hp
  | leaf _ declared kind _ ih =>
    rcases List.mem_cons.mp hp with h | hp
    · cases h
      apply Or.inr ⟨_, _, _, _, declared, kind, rfl⟩
    · apply ih hp
  | nested _ _ _ _ _ _ _ _ ih => apply ih (List.mem_of_ne_of_mem (by simp) hp)
  | spread _ _ ih => apply ih (List.mem_of_ne_of_mem (by simp) hp)
  | inline _ _ _ _ _ ih => apply ih (List.mem_of_ne_of_mem (by simp) hp)

end Walked

namespace Walk

variable {c : WalkContext} {name T site : String} {ss : List Selection} {t t' : NameTable}
  {root : Shape}

theorem map_name_shapes_shapeOf (model : Model) (ms : List Member) :
  (shapeOf model name T ss ms).shapes.map Shape.name
    = name :: (Shape.memberShapes ms).map Shape.name
  := by
  rw [Shape.shapes_eq]
  rfl

/-- The names of the shapes below a root are distinct, and other than the names that the walk
finds taken beside that of the root. -/
theorem nodup_names_of_outcome (h : (shape c name T ss site).outcome t = (.ok root, t'))
    {reserved : List String} (ht : t.taken = name :: reserved) (hnodup : t.taken.Nodup) :
  (root.shapes.map Shape.name).Nodup ∧ ∀ n ∈ reserved, n ∉ root.shapes.map Shape.name
  := by
  obtain ⟨ms, hwalk, rfl⟩ := outcome_shape_eq_ok_iff.mp h
  have htaken := hwalk.nodup_taken hnodup
  rw [hwalk.taken_eq, ht, List.nodup_middle, List.nodup_cons, List.nodup_append,
    List.nodup_reverse] at htaken
  obtain ⟨hname, hbelow, -, hdisjoint⟩ := htaken
  simp only [List.mem_append, List.mem_reverse, not_or] at hname
  rw [map_name_shapes_shapeOf]
  constructor
  · apply List.nodup_cons.mpr
    use hname.1
  · intro n hn hmem
    rcases List.mem_cons.mp hmem with rfl | hmem
    · apply hname.2 hn
    · apply hdisjoint n (List.mem_reverse.mpr hmem) n hn rfl

theorem madeBy_of_outcome (h : (shape c name T ss site).outcome t = (.ok root, t')) :
  ∀ s ∈ root.shapes, s.MadeBy c
  := by
  obtain ⟨ms, hwalk, rfl⟩ := outcome_shape_eq_ok_iff.mp h
  apply hwalk.madeBy_shapeOf hwalk.madeBy

end Walk

/-! ### What the shapes of a walk refer to -/

namespace Shape.MadeBy

variable {c : WalkContext} {s : Shape}

theorem refersTo (h : s.MadeBy c) :
  ∀ m ∈ s.members, m.RefersTo c.fragments
  := by
  obtain ⟨name, T, site, ss, t, ms, t', hwalk, rfl⟩ := h
  apply hwalk.refersTo

theorem names_of_property (h : s.MadeBy c) {p : Property} {s' : Shape}
    (hp : (p, some s') ∈ s.properties) :
  ∀ n ∈ p.descriptor.names, n = s'.name
  := by
  obtain ⟨m, hm, hmp⟩ := List.mem_filterMap.mp hp
  have hrefers := h.refersTo m hm
  cases m <;> cases hmp
  apply hrefers

theorem isLeafOf (h : s.MadeBy c) {p : Property} (hp : (p, none) ∈ s.properties) :
  p.IsLeafOf c.model
  := by
  obtain ⟨name, T, site, ss, t, ms, t', hwalk, rfl⟩ := h
  obtain ⟨m, hm, hmp⟩ := List.mem_filterMap.mp hp
  cases m <;> cases hmp
  apply hwalk.isLeafOf hm

theorem find?_of_spread (h : s.MadeBy c) {r : FragmentReference} (hr : r ∈ s.spreads) :
  c.fragments.find? r.name = some r.space
  := by
  obtain ⟨m, hm, hmr⟩ := List.mem_filterMap.mp hr
  have hrefers := h.refersTo m hm
  cases m <;> cases hmr
  apply hrefers

theorem references_eq (h : s.MadeBy c) :
  s.typename.references = s.inlineFragments.map Shape.name
  := by
  obtain ⟨name, T, site, ss, t, ms, t', -, rfl⟩ := h
  change (Walk.typenameOf c.model T ms).references = (ms.filterMap Member.inline?).map Shape.name
  rw [Walk.typenameOf]
  cases ms.filterMap Member.inline? with
  | nil => rfl
  | cons s rest => rfl

end Shape.MadeBy

end GraphScribe
