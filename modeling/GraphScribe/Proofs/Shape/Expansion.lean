import GraphScribe.Proofs.Assoc
import GraphScribe.Proofs.Shape.Linking
import GraphScribe.Proofs.TypeScript.Styled
import GraphScribe.TypeScript.ObjectType

/-!
# Expanding the definitions of a namespace

The shapes of a namespace are written as definitions in which the shapes below stand by name
(`Shape.definitions`), or in place of each other as one object type (`Shape.inPlace`).
`ObjectExpr.expansion` puts definitions in place of their names, from a name on and to a certain
depth.  If the names of the shapes are distinct and each property has the name of the shape below
it, then the expansion of the root is the object type with everything in place, but for the types
of the discriminators (`Shape.expansion_eq`), and the definitions can be written if and only if
this object type can (`Shape.exists_definitions_iff`).
-/

namespace GraphScribe

open TypeScript Styled

namespace TypeScript

/-! ### Expansion -/

mutual

/-- The object type in which `f` gives what stands for each name. -/
def ObjectExpr.resolve (f : String → Option ObjectExpr) : ObjectExpr → Option ObjectExpr
  | .named name => f name
  | .body marker discriminates typename properties spreads alternatives => do
    let properties ← resolveProperties f properties
    return .body marker discriminates typename properties spreads (← resolveAll f alternatives)

/-- The property in which `f` gives what stands for each name. -/
def PropertyExpr.resolve (f : String → Option ObjectExpr) : PropertyExpr → Option PropertyExpr
  | .plain label type => some (.plain label type)
  | .nested label descriptor immutable type => do
    return .nested label descriptor immutable (← type.resolve f)

/-- The object types in which `f` gives what stands for each name. -/
def resolveAll (f : String → Option ObjectExpr) : List ObjectExpr → Option (List ObjectExpr)
  | [] => some []
  | o :: rest => do return (← o.resolve f) :: (← resolveAll f rest)

/-- The properties in which `f` gives what stands for each name. -/
def resolveProperties (f : String → Option ObjectExpr) :
    List PropertyExpr → Option (List PropertyExpr)
  | [] => some []
  | p :: rest => do return (← p.resolve f) :: (← resolveProperties f rest)

end

/-- What a name stands for when definitions are put in place of names, at most `depth` of them
inside each other. -/
def ObjectExpr.expansion (definitions : Assoc ObjectExpr) : Nat → String → Option ObjectExpr
  | 0, _ => none
  | depth + 1, name => do (← definitions.find? name).resolve (expansion definitions depth)

mutual

/-- The object type with the types of its discriminators set aside. -/
def ObjectExpr.bare : ObjectExpr → ObjectExpr
  | .named name => .named name
  | .body marker discriminates _ properties spreads alternatives =>
    .body marker discriminates "" (bareProperties properties) spreads (bareAll alternatives)

/-- The property with the types of discriminators set aside. -/
def PropertyExpr.bare : PropertyExpr → PropertyExpr
  | .plain label type => .plain label type
  | .nested label descriptor immutable type => .nested label descriptor immutable type.bare

/-- The object types with the types of their discriminators set aside. -/
def bareAll : List ObjectExpr → List ObjectExpr
  | [] => []
  | o :: rest => o.bare :: bareAll rest

/-- The properties with the types of discriminators set aside. -/
def bareProperties : List PropertyExpr → List PropertyExpr
  | [] => []
  | p :: rest => p.bare :: bareProperties rest

end

section

variable {α : Type} {f : String → Option ObjectExpr}

/-- A property of which nothing but a name has to be resolved is resolved with the name. -/
theorem resolve_nested_named {label name : String} {descriptor : Descriptor} {immutable : Bool}
    {o : ObjectExpr} (h : (f name).map ObjectExpr.bare = some o.bare) :
  ((PropertyExpr.nested label descriptor immutable (.named name)).resolve f).map PropertyExpr.bare
    = some (PropertyExpr.nested label descriptor immutable o).bare
  := by
  obtain ⟨o', ho', hbare⟩ := Option.map_eq_some_iff.mp h
  simp [PropertyExpr.resolve, ObjectExpr.resolve, PropertyExpr.bare, ho', hbare]

theorem resolveProperties_of_forall₂ {ps qs : List PropertyExpr}
    (h : List.Forall₂ (fun p q => (p.resolve f).map PropertyExpr.bare = some q.bare) ps qs) :
  (resolveProperties f ps).map bareProperties = some (bareProperties qs)
  := by
  induction h with
  | nil => rfl
  | cons hp _ ih =>
    obtain ⟨p', hp', hbare⟩ := Option.map_eq_some_iff.mp hp
    obtain ⟨ps', hps', hbares⟩ := Option.map_eq_some_iff.mp ih
    simp [resolveProperties, bareProperties, hp', hps', hbare, hbares]

theorem resolveAll_of_forall₂ {os os' : List ObjectExpr}
    (h : List.Forall₂ (fun o o' => (o.resolve f).map ObjectExpr.bare = some o'.bare) os os') :
  (resolveAll f os).map bareAll = some (bareAll os')
  := by
  induction h with
  | nil => rfl
  | cons ho _ ih =>
    obtain ⟨o', ho', hbare⟩ := Option.map_eq_some_iff.mp ho
    obtain ⟨os', hos', hbares⟩ := Option.map_eq_some_iff.mp ih
    simp [resolveAll, bareAll, ho', hos', hbare, hbares]

/-- A body is resolved part by part. -/
theorem resolve_body_of_forall₂ {marker typename typename' : String} {discriminates : Bool}
    {ps qs : List PropertyExpr} {spreads : List String} {os os' : List ObjectExpr}
    (hps : List.Forall₂ (fun p q => (p.resolve f).map PropertyExpr.bare = some q.bare) ps qs)
    (hos : List.Forall₂ (fun o o' => (o.resolve f).map ObjectExpr.bare = some o'.bare) os os') :
  ((ObjectExpr.body marker discriminates typename ps spreads os).resolve f).map ObjectExpr.bare
    = some (ObjectExpr.body marker discriminates typename' qs spreads os').bare
  := by
  obtain ⟨ps', hps', hbares⟩ := Option.map_eq_some_iff.mp (resolveProperties_of_forall₂ hps)
  obtain ⟨os'', hos', hbares'⟩ := Option.map_eq_some_iff.mp (resolveAll_of_forall₂ hos)
  simp [ObjectExpr.resolve, ObjectExpr.bare, hps', hos', hbares, hbares']

end

end TypeScript

namespace Shape

/-! ### The two forms of a namespace -/

/-- The definitions of the shapes of a namespace, in which the shapes below stand by name. -/
def definitions (marker : String) (root : Shape) : Styled (Assoc ObjectExpr) :=
  root.shapes.mapM fun s => do return (s.name, ← s.namedParts marker)

/-- The texts of the definitions of a namespace: those of all shapes, or of the root alone if the
shapes below it stand in place. -/
def definitionTexts (flatten : Bool) (marker : String) (root : Shape) : Styled (List String) :=
  if flatten then root.shapes.mapM (definitionText true marker)
  else return [← root.definitionText false marker]

/-- The property of a shape, in which the shape below stands in place. -/
def placedProperty (marker : String) (p : Property) (below : Option Shape) :
    Styled PropertyExpr := do
  let label ← labelInPlace marker (p.slot below.isSome)
  match below with
  | none => plainProperty label (p.slot false)
  | some s => nestedProperty label p (← s.inPlace marker)

theorem propertyInPlace_eq (marker : String) (m : Member) :
  propertyInPlace marker m
    = match m.property? with
      | none => return none
      | some p => return some (← placedProperty marker p.1 p.2)
  := by
  cases m <;> simp [propertyInPlace, Member.property?, placedProperty]

theorem propertiesInPlace_eq (marker : String) (ms : List Member) :
  propertiesInPlace marker ms
    = (ms.filterMap Member.property?).mapM fun p => placedProperty marker p.1 p.2
  := by
  induction ms with
  | nil => rfl
  | cons m rest ih =>
    rw [propertiesInPlace, propertyInPlace_eq, ih, List.filterMap_cons]
    cases m.property? with
    | none => simp
    | some p => simp [List.mapM_cons]

theorem alternativesInPlace_eq (marker : String) (ms : List Member) :
  alternativesInPlace marker ms = (ms.filterMap Member.inline?).mapM (inPlace marker)
  := by
  induction ms with
  | nil => rfl
  | cons m rest ih =>
    rw [alternativesInPlace, ih]
    cases m <;> simp [alternativeInPlace, Member.inline?, List.filterMap_cons, List.mapM_cons]

/-- An object type with everything in place is made of its properties and alternatives. -/
theorem inPlace_eq (marker : String) (s : Shape) :
  s.inPlace marker
    = do
      let properties ← s.properties.mapM fun p => placedProperty marker p.1 p.2
      return .body marker s.typenameSelected (typenameType false s) properties s.spreadSpaces
        (← s.inlineFragments.mapM (inPlace marker))
  := by
  cases s
  rw [inPlace, propertiesInPlace_eq, alternativesInPlace_eq]
  rfl

/-! ### Writing the two forms -/

variable {style : Style} {s : Shape}

/-- No leaf property of the shape is of a scalar with a list for its primitive, so that to write
the types of its properties leaves the style as it is. -/
def Keeps (style : Style) (s : Shape) : Prop :=
  ∀ p, (p, none) ∈ s.properties → ∀ items, style.baseType (p.slot false) ≠ .list items

theorem keeps_of_primitives (h : ∀ name items, style.primitives.find? name ≠ some (.list items)) :
  s.Keeps style
  := by
  intro p _ items hbase
  rw [Style.baseType] at hbase
  split_ifs at hbase
  cases hfind : style.primitives.find? (p.slot false).descriptor.name with
  | none => simp [hfind] at hbase
  | some v =>
    rw [hfind, Option.getD_some] at hbase
    apply h _ items (hbase ▸ hfind)

theorem steady_plainProperty {label : String} {slot : Slot}
    (h : ∀ items, style.baseType slot ≠ .list items) :
  Steady style (plainProperty label slot)
  := by
  apply steady_bind (Style.steady_convertedType h)
  intro v
  apply steady_pure

theorem steady_namedProperty (h : s.Keeps style) {p : Property × Option Shape}
    (hp : p ∈ s.properties) :
  Steady style (namedProperty p.1 p.2)
  := by
  rcases p with ⟨p, _ | s'⟩
  · exact steady_plainProperty (h p hp)
  · exact steady_pure (PropertyExpr.nested (style.label (p.slot true)) p.descriptor
      style.immutable (.named p.descriptor.name))

theorem steady_namedParts (h : s.Keeps style) {marker : String} :
  Steady style (s.namedParts marker)
  := by
  apply steady_bind
  · apply steady_mapM
    intro p hp
    apply steady_namedProperty h hp
  · intro ps
    apply steady_pure

theorem writes_namedParts_iff (h : s.Keeps style) {marker : String} {o : ObjectExpr} :
  Writes style (s.namedParts marker) o
    ↔ ∃ ps, List.Forall₂ (fun p q => Writes style (namedProperty p.1 p.2) q) s.properties ps
        ∧ o = .body marker s.typenameSelected (typenameType true s) ps s.spreadSpaces
            (s.inlineFragments.map fun f => .named f.name)
  := by
  have hsteady : ∀ p ∈ s.properties, Steady style (namedProperty p.1 p.2) := by
    intro p hp
    apply steady_namedProperty h hp
  rw [namedParts, writes_bind_iff (steady_mapM hsteady)]
  simp only [writes_mapM_iff hsteady, writes_pure_iff]

theorem steady_placedProperty (h : s.Keeps style) {marker : String}
    {p : Property × Option Shape} (hp : p ∈ s.properties)
    (hbelow : ∀ s', s.Holds s' → Steady style (s'.inPlace marker)) :
  Steady style (placedProperty marker p.1 p.2)
  := by
  rcases p with ⟨p, _ | s'⟩
  · exact steady_plainProperty (h p hp)
  · apply steady_bind
    · exact steady_pure (marker ++ (p.slot true).name ++ style.optionalMark (p.slot true))
    · intro label
      apply steady_bind (hbelow s' (Or.inl ⟨p, hp⟩))
      intro o
      exact steady_pure (PropertyExpr.nested label p.descriptor style.immutable o)

theorem steady_inPlace {s : Shape} (h : ∀ s' ∈ s.shapes, s'.Keeps style) {marker : String} :
  Steady style (s.inPlace marker)
  := by
  have hbelow : ∀ s', s.Holds s' → Steady style (s'.inPlace marker) := by
    intro s' hs'
    apply steady_inPlace (forall_shapes_of_holds h hs')
  rw [inPlace_eq]
  apply steady_bind
  · apply steady_mapM
    intro p hp
    apply steady_placedProperty (h s s.self_mem_shapes) hp hbelow
  · intro ps
    apply steady_bind
    · apply steady_mapM
      intro s' hs'
      apply hbelow s' (Or.inr hs')
    · intro os
      apply steady_pure
termination_by sizeOf s
decreasing_by
  apply sizeOf_lt_of_holds hs'

theorem writes_inPlace_iff (h : ∀ s' ∈ s.shapes, s'.Keeps style) {marker : String}
    {o : ObjectExpr} :
  Writes style (s.inPlace marker) o
    ↔ ∃ ps, List.Forall₂ (fun p q => Writes style (placedProperty marker p.1 p.2) q)
          s.properties ps
        ∧ ∃ os, List.Forall₂ (fun f o => Writes style (inPlace marker f) o) s.inlineFragments os
        ∧ o = .body marker s.typenameSelected (typenameType false s) ps s.spreadSpaces os
  := by
  have hbelow : ∀ s', s.Holds s' → Steady style (s'.inPlace marker) := by
    intro s' hs'
    apply steady_inPlace (forall_shapes_of_holds h hs')
  have hproperties : ∀ p ∈ s.properties, Steady style (placedProperty marker p.1 p.2) := by
    intro p hp
    apply steady_placedProperty (h s s.self_mem_shapes) hp hbelow
  have halternatives : ∀ s' ∈ s.inlineFragments, Steady style (s'.inPlace marker) := by
    intro s' hs'
    apply hbelow s' (Or.inr hs')
  rw [inPlace_eq, writes_bind_iff (steady_mapM hproperties)]
  simp only [writes_mapM_iff hproperties, writes_bind_iff (steady_mapM halternatives),
    writes_mapM_iff halternatives, writes_pure_iff]

/-! ### Properties in the two forms -/

/-- A property without a shape below it is the same in both forms. -/
theorem writes_placedProperty_none_iff {p : Property} {q : PropertyExpr} :
  Writes style (placedProperty style.readonly p none) q
    ↔ Writes style (namedProperty p none) q
  := Iff.rfl

theorem writes_namedProperty_none_iff {p : Property} {q : PropertyExpr} :
  Writes style (namedProperty p none) q
    ↔ ∃ v, Writes style (Style.convertedType (p.slot false)) v
        ∧ q = .plain (style.label (p.slot false)) v.text
  := by
  change Writes style (plainProperty (style.label (p.slot false)) (p.slot false)) q ↔ _
  rw [plainProperty, writes_bind_pure_iff]

theorem writes_namedProperty_some_iff {p : Property} {s' : Shape} {q : PropertyExpr} :
  Writes style (namedProperty p (some s')) q
    ↔ q = .nested (style.label (p.slot true)) p.descriptor style.immutable
        (.named p.descriptor.name)
  := writes_pure_iff

theorem writes_placedProperty_some_iff {p : Property} {s' : Shape} {q : PropertyExpr}
    (h : Steady style (s'.inPlace style.readonly)) :
  Writes style (placedProperty style.readonly p (some s')) q
    ↔ ∃ o, Writes style (s'.inPlace style.readonly) o
        ∧ q = .nested (style.label (p.slot true)) p.descriptor style.immutable o
  := by
  change Writes style (s'.inPlace style.readonly
    >>= fun o => nestedProperty (style.label (p.slot true)) p o) q ↔ _
  rw [writes_bind_iff h]
  apply exists_congr
  intro o
  apply and_congr_right
  intro _
  exact writes_pure_iff

/-! ### The expansion of a shape -/

section

variable {f : String → Option ObjectExpr}

/-- Resolving the names in a property puts in place what stands below it. -/
theorem resolve_property {p : Property} {below : Option Shape} {q q' : PropertyExpr}
    (hsteady : ∀ s', below = some s' → Steady style (s'.inPlace style.readonly))
    (hbelow : ∀ s', below = some s' → ∀ o, Writes style (s'.inPlace style.readonly) o →
      (f p.descriptor.name).map ObjectExpr.bare = some o.bare)
    (hq : Writes style (namedProperty p below) q)
    (hq' : Writes style (placedProperty style.readonly p below) q') :
  (q.resolve f).map PropertyExpr.bare = some q'.bare
  := by
  cases below with
  | none =>
    obtain ⟨v, hv, rfl⟩ := writes_namedProperty_none_iff.mp hq
    obtain ⟨v', hv', rfl⟩ := writes_namedProperty_none_iff.mp
      (writes_placedProperty_none_iff.mp hq')
    cases hv.symm.trans hv'
    rfl
  | some s' =>
    obtain ⟨o, ho, rfl⟩ := (writes_placedProperty_some_iff (hsteady s' rfl)).mp hq'
    rw [writes_namedProperty_some_iff.mp hq]
    apply resolve_nested_named (hbelow s' rfl o ho)

/-- Resolving the names in the definition of a shape puts in place what the shape holds. -/
theorem resolve_namedParts (h : ∀ s' ∈ s.shapes, s'.Keeps style)
    (hproperties : ∀ p s', (p, some s') ∈ s.properties →
      ∀ o, Writes style (s'.inPlace style.readonly) o →
        (f p.descriptor.name).map ObjectExpr.bare = some o.bare)
    (halternatives : ∀ s' ∈ s.inlineFragments, ∀ o, Writes style (s'.inPlace style.readonly) o →
      (f s'.name).map ObjectExpr.bare = some o.bare)
    {o o' : ObjectExpr} (ho : Writes style (s.namedParts style.readonly) o)
    (ho' : Writes style (s.inPlace style.readonly) o') :
  (o.resolve f).map ObjectExpr.bare = some o'.bare
  := by
  obtain ⟨ps, hps, rfl⟩ := (writes_namedParts_iff (h s s.self_mem_shapes)).mp ho
  obtain ⟨qs, hqs, os, hos, rfl⟩ := (writes_inPlace_iff h).mp ho'
  apply resolve_body_of_forall₂
  · apply Result.forall₂_of_forall₂ hps hqs
    rintro ⟨p, below⟩ hp q q'
    apply resolve_property
    · rintro s' rfl
      apply steady_inPlace (forall_shapes_of_holds h (Or.inl ⟨p, hp⟩))
    · rintro s' rfl
      apply hproperties p s' hp
  · have hnamed : List.Forall₂ (fun s' o => o = .named s'.name) s.inlineFragments
        (s.inlineFragments.map fun s' => ObjectExpr.named s'.name) := by
      simp [List.forall₂_map_right_iff, List.forall₂_same]
    apply Result.forall₂_of_forall₂ hnamed hos
    rintro s' hs' _ o rfl ho
    apply halternatives s' hs' o ho

end

section

variable {table : Assoc ObjectExpr} {root : Shape}

/-- If the definitions of all shapes are found under their names, then expanding them from a shape
on, to the depth of the shapes below it, gives the object type with everything in place. -/
theorem expansion_eq_of_mem (hkeeps : ∀ s ∈ root.shapes, s.Keeps style)
    (hnames : ∀ s ∈ root.shapes, ∀ p s', (p, some s') ∈ s.properties →
      p.descriptor.name = s'.name)
    (htable : ∀ s ∈ root.shapes, ∃ o, table.find? s.name = some o
      ∧ Writes style (s.namedParts style.readonly) o)
    {s : Shape} (hs : s ∈ root.shapes) {o : ObjectExpr}
    (ho : Writes style (s.inPlace style.readonly) o) {depth : Nat}
    (hdepth : s.shapes.length ≤ depth) :
  (ObjectExpr.expansion table depth s.name).map ObjectExpr.bare = some o.bare
  := by
  have hbelow : ∀ s', s.Holds s' → s' ∈ root.shapes := by
    intro s' hs'
    apply mem_shapes_trans hs (mem_shapes_of_holds hs' s'.self_mem_shapes)
  have hkeepsBelow : ∀ s' ∈ s.shapes, s'.Keeps style := by
    intro s' hs'
    apply hkeeps s' (mem_shapes_trans hs hs')
  obtain ⟨depth, rfl⟩ : ∃ d, depth = d + 1 := by
    apply Nat.exists_eq_succ_of_ne_zero
    have := List.length_pos_of_mem s.self_mem_shapes
    omega
  have ih : ∀ s', s.Holds s' → ∀ o', Writes style (s'.inPlace style.readonly) o' →
      (ObjectExpr.expansion table depth s'.name).map ObjectExpr.bare = some o'.bare := by
    intro s' hs' o' ho'
    apply expansion_eq_of_mem hkeeps hnames htable (hbelow s' hs') ho'
    have := length_shapes_lt_of_holds hs'
    omega
  obtain ⟨o', hfind, ho'⟩ := htable s hs
  rw [ObjectExpr.expansion, hfind]
  apply resolve_namedParts hkeepsBelow _ _ ho' ho
  · intro p s' hp o' ho'
    rw [hnames s hs p s' hp]
    apply ih s' (Or.inl ⟨p, hp⟩) o' ho'
  · intro s' hs' o' ho'
    apply ih s' (Or.inr hs') o' ho'
termination_by sizeOf s
decreasing_by
  apply sizeOf_lt_of_holds hs'

end

/-! ### The definitions of a namespace -/

section

variable {root : Shape}

theorem steady_definition (h : s.Keeps style) {marker : String} :
  Steady style (do return (s.name, ← s.namedParts marker) : Styled (String × ObjectExpr))
  := by
  apply steady_bind (steady_namedParts h)
  intro o
  apply steady_pure

theorem steady_definitions (h : ∀ s ∈ root.shapes, s.Keeps style) {marker : String} :
  Steady style (root.definitions marker)
  := by
  apply steady_mapM
  intro s hs
  apply steady_definition (h s hs)

theorem writes_definitions_iff (h : ∀ s ∈ root.shapes, s.Keeps style) {marker : String}
    {table : Assoc ObjectExpr} :
  Writes style (root.definitions marker) table
    ↔ List.Forall₂ (fun s e => ∃ o, Writes style (s.namedParts marker) o ∧ e = (s.name, o))
        root.shapes table
  := by
  rw [definitions, writes_mapM_iff fun s hs => steady_definition (h s hs)]
  simp only [writes_bind_pure_iff]

/-- The definitions of a namespace stand under the names of its shapes. -/
theorem keys_of_writes_definitions (hkeeps : ∀ s ∈ root.shapes, s.Keeps style) {marker : String}
    {table : Assoc ObjectExpr} (h : Writes style (root.definitions marker) table) :
  table.keys = root.shapes.map Shape.name
  := by
  apply Result.map_eq_of_forall₂ ((writes_definitions_iff hkeeps).mp h)
  rintro s - e ⟨o, -, rfl⟩
  rfl

/-- Expanding the definitions of a namespace from its root on gives the object type of the root
with everything in place. -/
theorem expansion_eq (hdistinct : (root.shapes.map Shape.name).Nodup)
    (hnames : ∀ s ∈ root.shapes, ∀ p s', (p, some s') ∈ s.properties →
      p.descriptor.name = s'.name)
    (hkeeps : ∀ s ∈ root.shapes, s.Keeps style) {table : Assoc ObjectExpr} {tree : ObjectExpr}
    (htable : Writes style (root.definitions style.readonly) table)
    (htree : Writes style (root.inPlace style.readonly) tree) {depth : Nat}
    (hdepth : table.length ≤ depth) :
  (ObjectExpr.expansion table depth root.name).map ObjectExpr.bare = some tree.bare
  := by
  have hdefined := (writes_definitions_iff hkeeps).mp htable
  have hkeys := keys_of_writes_definitions hkeeps htable
  apply expansion_eq_of_mem hkeeps hnames _ root.self_mem_shapes htree
  · rw [hdefined.length_eq]
    apply hdepth
  · intro s hs
    obtain ⟨e, he, o, ho, rfl⟩ := Result.exists_of_forall₂_left hdefined hs
    use o
    constructor
    · apply Assoc.find?_of_mem _ he
      rw [hkeys]
      apply hdistinct
    · apply ho

end

/-! ### When the two forms can be written -/

/-- The types of the leaf properties of the shape can be written. -/
def Writable (style : Style) (s : Shape) : Prop :=
  ∀ p, (p, none) ∈ s.properties → ∃ v, Writes style (Style.convertedType (p.slot false)) v

theorem exists_namedProperty_iff {p : Property} {below : Option Shape} :
  (∃ q, Writes style (namedProperty p below) q)
    ↔ (below = none → ∃ v, Writes style (Style.convertedType (p.slot false)) v)
  := by
  cases below with
  | none => simp [writes_namedProperty_none_iff]
  | some s' => simp [writes_namedProperty_some_iff]

theorem exists_placedProperty_iff {p : Property} {below : Option Shape}
    (h : ∀ s', below = some s' → Steady style (s'.inPlace style.readonly)) :
  (∃ q, Writes style (placedProperty style.readonly p below) q)
    ↔ (below = none → ∃ v, Writes style (Style.convertedType (p.slot false)) v)
      ∧ ∀ s', below = some s' → ∃ o, Writes style (s'.inPlace style.readonly) o
  := by
  cases below with
  | none => simp [writes_placedProperty_none_iff, writes_namedProperty_none_iff]
  | some s' => simp [writes_placedProperty_some_iff (h s' rfl)]

theorem exists_namedParts_iff (h : s.Keeps style) (marker : String) :
  (∃ o, Writes style (s.namedParts marker) o) ↔ s.Writable style
  := by
  simp only [writes_namedParts_iff h]
  rw [exists_comm]
  simp only [exists_and_left, exists_eq, and_true, Result.exists_forall₂_iff,
    exists_namedProperty_iff, Prod.forall, Writable]
  grind

/-- A shape can be written in place if its leaf properties and the shapes that it holds can. -/
theorem exists_inPlace_iff_of_holds (h : ∀ s' ∈ s.shapes, s'.Keeps style) :
  (∃ o, Writes style (s.inPlace style.readonly) o)
    ↔ s.Writable style ∧ ∀ s', s.Holds s' → ∃ o, Writes style (s'.inPlace style.readonly) o
  := by
  have hproperties : ∀ e ∈ s.properties,
      ((∃ q, Writes style (placedProperty style.readonly e.1 e.2) q)
        ↔ (e.2 = none → ∃ v, Writes style (Style.convertedType (e.1.slot false)) v)
          ∧ ∀ s', e.2 = some s' → ∃ o, Writes style (s'.inPlace style.readonly) o) := by
    rintro ⟨p, below⟩ hp
    apply exists_placedProperty_iff
    rintro s' rfl
    apply steady_inPlace (forall_shapes_of_holds h (Or.inl ⟨p, hp⟩))
  have hparts : (∃ o, Writes style (s.inPlace style.readonly) o)
      ↔ (∀ e ∈ s.properties, ∃ q, Writes style (placedProperty style.readonly e.1 e.2) q)
        ∧ ∀ s' ∈ s.inlineFragments, ∃ o, Writes style (s'.inPlace style.readonly) o := by
    simp only [writes_inPlace_iff h, ← Result.exists_forall₂_iff]
    grind
  rw [hparts, forall₂_congr hproperties]
  simp only [Writable, Holds, Prod.forall]
  grind

theorem exists_inPlace_iff {s : Shape} (h : ∀ s' ∈ s.shapes, s'.Keeps style) :
  (∃ o, Writes style (s.inPlace style.readonly) o) ↔ ∀ s' ∈ s.shapes, s'.Writable style
  := by
  have ih : ∀ s', s.Holds s' →
      ((∃ o, Writes style (s'.inPlace style.readonly) o)
        ↔ ∀ s'' ∈ s'.shapes, s''.Writable style) := by
    intro s' hs'
    apply exists_inPlace_iff (forall_shapes_of_holds h hs')
  rw [exists_inPlace_iff_of_holds h]
  constructor
  · rintro ⟨hwritable, hbelow⟩ s' hs'
    rcases mem_shapes_cases hs' with rfl | ⟨s₁, hs₁, hs'⟩
    · apply hwritable
    · apply (ih s₁ hs₁).mp (hbelow s₁ hs₁) s' hs'
  · intro hwritable
    use hwritable s s.self_mem_shapes
    intro s' hs'
    apply (ih s' hs').mpr (forall_shapes_of_holds hwritable hs')
termination_by sizeOf s
decreasing_by
  apply sizeOf_lt_of_holds hs'

theorem exists_definitions_iff {root : Shape} (h : ∀ s ∈ root.shapes, s.Keeps style) :
  (∃ table, Writes style (root.definitions style.readonly) table)
    ↔ ∃ tree, Writes style (root.inPlace style.readonly) tree
  := by
  simp only [writes_definitions_iff h, exists_inPlace_iff h, Result.exists_forall₂_iff]
  apply forall₂_congr
  intro s hs
  rw [← exists_namedParts_iff (h s hs) style.readonly]
  grind

/-! ### The texts of the two forms -/

theorem definitionTexts_true (marker : String) (root : Shape) :
  root.definitionTexts true marker
    = (fun table : Assoc ObjectExpr => table.map fun e => exportText e.1 e.2.lines)
        <$> root.definitions marker
  := by
  rw [definitions]
  change root.shapes.mapM (definitionText true marker) = _
  induction root.shapes with
  | nil => simp
  | cons s rest ih => simp [List.mapM_cons, ih, definitionText, flattenedText]

theorem definitionTexts_false (marker : String) (root : Shape) :
  root.definitionTexts false marker
    = (fun tree => [exportText root.name tree.text]) <$> root.inPlace marker
  := by
  simp [definitionTexts, definitionText, inlinedText]

end Shape

end GraphScribe
