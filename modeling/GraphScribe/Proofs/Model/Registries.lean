import GraphScribe.Model.OfSchema
import GraphScribe.Proofs.Assoc
import GraphScribe.Proofs.Model.ArgumentTypes

/-!
# Registries of a model

`Model.registryOf` shows the six registries of declared types as one family over the kinds.  A
model lists some types (`Model.Lists`) if the registry of each kind holds those of its kind, in
order, under their names.  If these names are distinct, then each is found in one registry only,
so that it does not matter in which order the registries are searched.  What becomes of each type of
a schema is said by `Schema.namedType_cases`.  The model of a schema lists the declared types of the
schema, and its argument types have names of their own (`Model.ofSchema_partitioned`).
-/

namespace GraphScribe

open Result

namespace NamedType

/-- The object types that a value of a declared type can have. -/
def possible : NamedType → List String
  | object t => [t.name]
  | interface t => t.implementations
  | union t => t.members
  | _ => []

/-- A declared type under its name. -/
def entry (t : NamedType) : String × NamedType := (t.name, t)

end NamedType

namespace Model

/-- The kinds in the order in which their registries are searched. -/
def searched : List Kind := [.object, .interface, .union, .enum, .scalar, .inputObject]

/-- The registry of a kind. -/
def registryOf (m : Model) : Kind → Assoc NamedType
  | .object => m.types.mapValues .object
  | .interface => m.interfaces.mapValues .interface
  | .union => m.unions.mapValues .union
  | .enum => m.enums.mapValues .enum
  | .scalar => m.scalars.mapValues .scalar
  | .inputObject => m.inputs.mapValues .input

section

variable (m : Model)

/-- The registries in the order in which they are searched. -/
theorem map_registryOf {β : Type} (f : Assoc NamedType → β) :
  searched.map (fun kind => f (m.registryOf kind))
    = [f (m.types.mapValues .object), f (m.interfaces.mapValues .interface),
        f (m.unions.mapValues .union), f (m.enums.mapValues .enum),
        f (m.scalars.mapValues .scalar), f (m.inputs.mapValues .input)]
  := rfl

theorem allNames_eq :
  m.allNames = (searched.flatMap fun kind => (m.registryOf kind).keys) ++ m.argumentTypes.keys
  := by
  rw [List.flatMap_def, map_registryOf m Assoc.keys]
  simp [allNames, Assoc.keys_mapValues]

theorem typeNamed?_eq (name : String) :
  m.typeNamed? name = searched.findSome? fun kind => (m.registryOf kind).find? name
  := by
  have hsearched : (searched.findSome? fun kind => (m.registryOf kind).find? name)
      = (searched.map fun kind => (m.registryOf kind).find? name).findSome? id := by
    rw [List.findSome?_map]
    rfl
  rw [hsearched, map_registryOf m fun registry => registry.find? name]
  simp only [typeNamed?, Assoc.find?_mapValues, List.findSome?_cons, List.findSome?_nil, id]
  cases m.types.find? name <;> cases m.interfaces.find? name <;> cases m.unions.find? name
    <;> cases m.enums.find? name <;> cases m.scalars.find? name <;> cases m.inputs.find? name
    <;> rfl

theorem possibleTypes_eq (name : String) :
  m.possibleTypes name
    = if ((m.registryOf .object).find? name).isSome then [name]
      else (((m.registryOf .interface).find? name).or
        ((m.registryOf .union).find? name)).elim [] NamedType.possible
  := by
  simp only [possibleTypes, Assoc.contains, registryOf, Assoc.find?_mapValues, Option.isSome_map]
  cases m.interfaces.find? name <;> cases m.unions.find? name <;> rfl

end

theorem kindOf_eq_of_typeNamed? {m : Model} {name : String} (hscalar : name ∉ builtinScalars)
    {t : NamedType} (h : m.typeNamed? name = some t) :
  m.kindOf name = some t.kind
  := by
  rw [kindOf, if_neg hscalar, h]
  rfl

/-! ### Listing types -/

/-- The registry of a kind holds the types of that kind among `ts`, in order. -/
def Lists (m : Model) (ts : List NamedType) : Prop :=
  ∀ kind, m.registryOf kind = (ts.filter fun t => t.kind = kind).map NamedType.entry

section

variable {m : Model} {ts : List NamedType}

theorem Lists.keys_registryOf (h : m.Lists ts) (kind : Kind) :
  (m.registryOf kind).keys = (ts.filter fun t => t.kind = kind).map NamedType.name
  := by
  rw [h kind, Assoc.keys_map]
  rfl

theorem Lists.mem_registryOf_iff (h : m.Lists ts) {kind : Kind} {key : String} {t : NamedType} :
  (key, t) ∈ m.registryOf kind ↔ t ∈ ts ∧ t.kind = kind ∧ t.name = key
  := by
  rw [h kind]
  simp [NamedType.entry]
  grind

/-- A registry finds a type by its name exactly if the type is of its kind. -/
theorem Lists.find?_registryOf (h : m.Lists ts) (hnodup : (ts.map NamedType.name).Nodup)
    {t : NamedType} (ht : t ∈ ts) (kind : Kind) :
  (m.registryOf kind).find? t.name = if t.kind = kind then some t else none
  := by
  split_ifs with hkind
  · apply Assoc.find?_of_mem
    · rw [h.keys_registryOf]
      apply hnodup.sublist (List.filter_sublist.map _)
    · apply h.mem_registryOf_iff.mpr ⟨ht, hkind, rfl⟩
  · rw [Assoc.find?_eq_none_iff, h.keys_registryOf]
    intro hmem
    obtain ⟨t', ht', hname⟩ := List.mem_map.mp hmem
    obtain ⟨ht', hkind'⟩ := List.mem_filter.mp ht'
    obtain rfl := List.inj_on_of_nodup_map hnodup ht' ht hname
    apply hkind (by simpa using hkind')

theorem Lists.typeNamed?_eq_some (h : m.Lists ts) (hnodup : (ts.map NamedType.name).Nodup)
    {t : NamedType} (ht : t ∈ ts) :
  m.typeNamed? t.name = some t
  := by
  simp only [typeNamed?_eq, h.find?_registryOf hnodup ht, searched]
  cases t <;> rfl

theorem Lists.possibleTypes_eq_possible (h : m.Lists ts) (hnodup : (ts.map NamedType.name).Nodup)
    {t : NamedType} (ht : t ∈ ts) :
  m.possibleTypes t.name = t.possible
  := by
  rw [possibleTypes_eq]
  simp only [h.find?_registryOf hnodup ht]
  cases t <;> rfl

/-- A type stands in one registry only. -/
theorem Lists.nodup_keys (h : m.Lists ts) (hnodup : (ts.map NamedType.name).Nodup) :
  (searched.flatMap fun kind => (m.registryOf kind).keys).Nodup
  := by
  simp only [h.keys_registryOf]
  apply List.nodup_flatMap.mpr
  constructor
  · intro kind _
    apply hnodup.sublist (List.filter_sublist.map _)
  · have hkinds : searched.Nodup := by decide
    apply hkinds.imp
    intro kind kind' hne name hmem hmem'
    obtain ⟨t, ht, rfl⟩ := List.mem_map.mp hmem
    obtain ⟨t', ht', hname⟩ := List.mem_map.mp hmem'
    simp only [List.mem_filter, decide_eq_true_eq] at ht ht'
    obtain rfl := List.inj_on_of_nodup_map hnodup ht'.1 ht.1 hname
    apply hne
    rw [← ht.2, ← ht'.2]

end

end Model

/-! ### What becomes of types and their members -/

namespace Schema

variable {s : Schema}

/-- What is said of an argument in the model. -/
theorem argument_eq_ok_iff {v : InputValue} {a : Argument} :
  s.argument v = .ok a
    ↔ ∃ kind default, s.kindIn v.type = .ok kind ∧ s.defaultText v = .ok default
      ∧ a = { name := v.name
              descriptor := v.type.descriptor
              kind
              description := v.description
              default
              directives := DirectiveUsage.ofDirectives v.directives }
  := by
  simp only [argument, bind_eq_ok_iff, exists_and_left, pure, Except.pure, Except.ok.injEq,
    eq_comm (b := a)]

/-- What is said of a field in the model. -/
theorem field_eq_ok_iff {f : OutputField} {f' : Field} :
  s.field f = .ok f'
    ↔ ∃ kind arguments, s.kindIn f.type = .ok kind
      ∧ f.arguments.mapM s.argument = .ok arguments
      ∧ f' = { name := f.name
               descriptor := f.type.descriptor
               kind
               description := f.description
               arguments
               directives := DirectiveUsage.ofDirectives f.directives
               deprecation := f.deprecation }
  := by
  simp only [field, bind_eq_ok_iff, exists_and_left, pure, Except.pure, Except.ok.injEq,
    eq_comm (b := f')]

/-- What is said of a field of an input type in the model. -/
theorem inputField_eq_ok_iff {v : InputValue} {f : Field} :
  s.inputField v = .ok f
    ↔ ∃ kind default, s.kindIn v.type = .ok kind ∧ s.defaultText v = .ok default
      ∧ f = { name := v.name
              descriptor := v.type.descriptor
              kind
              description := v.description
              directives := DirectiveUsage.ofDirectives v.directives
              default }
  := by
  simp only [inputField, bind_eq_ok_iff, exists_and_left, pure, Except.pure, Except.ok.injEq,
    eq_comm (b := f)]

/-- What becomes of a type in the model, by what it consists of. -/
theorem namedType_cases {st : SchemaType} {t : NamedType} (h : s.namedType st = .ok t) :
  let directives := DirectiveUsage.ofDirectives st.directives
  (st.content = .scalar
      ∧ t = .scalar { name := st.name, description := st.description, directives })
    ∨ (∃ interfaces fields fs, st.content = .object interfaces fields
      ∧ fields.mapM s.field = .ok fs
      ∧ t = .object { name := st.name
                      fields := fs
                      interfaces
                      description := st.description
                      directives })
    ∨ (∃ interfaces fields fs, st.content = .interface interfaces fields
      ∧ fields.mapM s.field = .ok fs
      ∧ t = .interface { name := st.name
                         fields := fs
                         implementations := s.implementations st.name
                         description := st.description
                         directives })
    ∨ (∃ members, st.content = .union members
      ∧ t = .union { name := st.name, members, description := st.description, directives })
    ∨ (∃ values, st.content = .enum values
      ∧ t = .enum { name := st.name
                    values := values.map enumValue
                    description := st.description
                    directives })
    ∨ ∃ fields fs, st.content = .input fields ∧ fields.mapM s.inputField = .ok fs
      ∧ t = .input { name := st.name, fields := fs, description := st.description, directives }
  := by
  rcases st with ⟨name, description, directives, content⟩
  cases content with
  | scalar =>
    cases h
    exact Or.inl ⟨rfl, rfl⟩
  | object interfaces fields =>
    obtain ⟨fs, hfields, h⟩ := bind_eq_ok_iff.mp h
    cases h
    exact Or.inr (.inl ⟨_, _, _, rfl, hfields, rfl⟩)
  | interface interfaces fields =>
    obtain ⟨fs, hfields, h⟩ := bind_eq_ok_iff.mp h
    cases h
    exact Or.inr (.inr (.inl ⟨_, _, _, rfl, hfields, rfl⟩))
  | union members =>
    cases h
    exact Or.inr (.inr (.inr (.inl ⟨_, rfl, rfl⟩)))
  | enum values =>
    cases h
    exact Or.inr (.inr (.inr (.inr (.inl ⟨_, rfl, rfl⟩))))
  | input fields =>
    obtain ⟨fs, hfields, h⟩ := bind_eq_ok_iff.mp h
    cases h
    exact Or.inr (.inr (.inr (.inr (.inr ⟨_, _, rfl, hfields, rfl⟩))))

end Schema

/-! ### The types of a schema -/

theorem Schema.not_mem_builtinScalars {s : Schema} {name : String}
    (h : name ∈ s.declaredTypes.map SchemaType.name) :
  name ∉ builtinScalars
  := by
  obtain ⟨t, ht, rfl⟩ := List.mem_map.mp h
  have hbuiltin := List.of_mem_filter ht
  intro hmem
  simp [Builtin.isType, hmem] at hbuiltin

/-- A type in the model has the name and the kind that it has in the schema. -/
theorem Schema.of_namedType_eq_ok {s : Schema} {st : SchemaType} {t : NamedType}
    (h : s.namedType st = .ok t) :
  t.name = st.name ∧ t.kind = st.content.kind
  := by
  rcases Schema.namedType_cases h with ⟨hcontent, rfl⟩ | ⟨_, _, _, hcontent, -, rfl⟩
    | ⟨_, _, _, hcontent, -, rfl⟩ | ⟨_, hcontent, rfl⟩ | ⟨_, hcontent, rfl⟩
    | ⟨_, _, hcontent, -, rfl⟩
  all_goals
    rw [hcontent]
    exact ⟨rfl, rfl⟩

namespace Model

/-- A registry with the types of one kind is the list of these types. -/
theorem mapValues_registry {α : Type} {select : NamedType → Option α} {inject : α → NamedType}
    {kind : Kind} (h : ∀ t, (select t).map inject = if t.kind = kind then some t else none)
    (ts : List NamedType) :
  (registry select ts).mapValues inject = (ts.filter fun t => t.kind = kind).map NamedType.entry
  := by
  induction ts with
  | nil => rfl
  | cons t rest ih =>
    have ht := h t
    rw [Assoc.mapValues, registry] at ih ⊢
    split_ifs at ht with hkind
    · obtain ⟨x, hx, hinject⟩ := Option.map_eq_some_iff.mp ht
      simp [hx, hinject, hkind, ih, NamedType.entry]
    · simp [Option.map_eq_none_iff.mp ht, hkind, ih]

/-- The model of a schema lists what becomes of the declared types, and the names in the registries
are reserved when its argument types are made. -/
theorem of_ofSchema_eq_ok {s : Schema} {m : Model} (h : ofSchema s = .ok m) :
  ∃ ts, List.Forall₂ (fun st t => s.namedType st = .ok t) s.declaredTypes ts ∧ m.Lists ts
    ∧ GraphScribe.argumentTypes (ts.filterMap NamedType.owner?)
        (searched.flatMap fun kind => (m.registryOf kind).keys) = .ok m.argumentTypes
  := by
  obtain ⟨ts, hts, h⟩ := bind_eq_ok_iff.mp h
  obtain ⟨definitions, -, h⟩ := bind_eq_ok_iff.mp h
  obtain ⟨arguments, harguments, h⟩ := bind_eq_ok_iff.mp h
  cases h
  use ts, mapM_eq_ok_iff.mp hts
  constructor
  · rintro (_ | _)
    all_goals
      apply mapValues_registry
      rintro (_ | _)
      all_goals rfl
  · rw [allNames_eq] at harguments
    rw [Assoc.keys_nil, List.append_nil] at harguments
    exact harguments

/-- What the registries of a model hold of a schema: every name is a key once, and that of its own
entry; the registry of a kind holds the declared types of that kind in their order, and what is
said of a declared type is said by its registry. -/
structure Partitioned (s : Schema) (m : Model) : Prop where
  distinct : m.allNames.Nodup
  keys : ∀ kind, (m.registryOf kind).keys
    = (s.declaredTypes.filter fun t => t.content.kind = kind).map SchemaType.name
  declared : ∀ name, (∃ kind, name ∈ (m.registryOf kind).keys)
    ↔ name ∈ s.types.map SchemaType.name ∧ Builtin.isType name = false
  entry : ∀ kind key t, (key, t) ∈ m.registryOf kind → t.name = key ∧ t.kind = kind
    ∧ m.typeNamed? key = some t ∧ m.kindOf key = some kind ∧ m.possibleTypes key = t.possible
  argumentsEntry : ∀ key t, (key, t) ∈ m.argumentTypes → t.name = key

theorem map_filter_of_forall₂ {s : Schema} {sts : List SchemaType} {ts : List NamedType}
    (h : List.Forall₂ (fun st t => s.namedType st = .ok t) sts ts) (kind : Kind) :
  (ts.filter fun t => t.kind = kind).map NamedType.name
    = (sts.filter fun t => t.content.kind = kind).map SchemaType.name
  := by
  induction h with
  | nil => rfl
  | cons ht _ ih =>
    obtain ⟨hname, hkind⟩ := Schema.of_namedType_eq_ok ht
    rw [List.filter_cons, List.filter_cons, hkind]
    split_ifs
    · rw [List.map_cons, List.map_cons, hname, ih]
    · apply ih

/-- The model of a schema is a partition of the declared types, together with argument types that
have names of their own. -/
theorem ofSchema_partitioned {s : Schema} {m : Model} (h : ofSchema s = .ok m) :
  m.Partitioned s
  := by
  obtain ⟨ts, hts, hlists, harguments⟩ := of_ofSchema_eq_ok h
  obtain ⟨hdistinct, hreserved⟩ := keys_of_argumentTypes harguments
  have hnames : ts.map NamedType.name = s.declaredTypes.map SchemaType.name := by
    apply map_eq_of_forall₂ hts
    intro st _ t ht
    apply (Schema.of_namedType_eq_ok ht).1
  have hnodup : (ts.map NamedType.name).Nodup := by
    rw [hnames]
    apply s.distinct.sublist (List.filter_sublist.map _)
  constructor
  case distinct =>
    rw [allNames_eq, List.nodup_append]
    use hlists.nodup_keys hnodup, hdistinct
    intro name hname name' hname' heq
    apply hreserved name' hname'
    rw [← heq]
    apply hname
  case keys =>
    intro kind
    rw [hlists.keys_registryOf, map_filter_of_forall₂ hts]
  case declared =>
    intro name
    simp only [hlists.keys_registryOf, map_filter_of_forall₂ hts, List.mem_map, List.mem_filter,
      Schema.declaredTypes, Bool.not_eq_true']
    constructor
    · rintro ⟨kind, t, ⟨⟨ht, hbuiltin⟩, -⟩, rfl⟩
      use ⟨t, ht, rfl⟩
    · rintro ⟨⟨t, ht, rfl⟩, hbuiltin⟩
      use t.content.kind, t
      simp [ht, hbuiltin]
  case entry =>
    intro kind key t hentry
    obtain ⟨ht, rfl, rfl⟩ := hlists.mem_registryOf_iff.mp hentry
    have htype := hlists.typeNamed?_eq_some hnodup ht
    have hscalar : t.name ∉ builtinScalars := by
      apply Schema.not_mem_builtinScalars
      rw [← hnames]
      apply List.mem_map_of_mem ht
    exact ⟨rfl, rfl, htype, kindOf_eq_of_typeNamed? hscalar htype,
      hlists.possibleTypes_eq_possible hnodup ht⟩
  case argumentsEntry =>
    intro key t ht
    apply name_of_mem_argumentTypes harguments ht

/-- A schema with types of several kinds, among them a built-in one. -/
def sampleSchema : Schema where
  types :=
    [{ name := "Node", content := .interface [] [{ name := "id", type := .named "ID" }] },
      { name := "String", content := .scalar },
      { name := "User"
        content := .object ["Node"]
          [{ name := "friend"
             type := .named "Node"
             arguments := [{ name := "role", type := .named "Role" }] }] },
      { name := "Role", content := .enum [{ name := "ADMIN" }] },
      { name := "Found", content := .union ["User"] }]
  query := some "User"
  distinct := by decide

/-- The model of `sampleSchema`. -/
def sampleModel : Model :=
  { types :=
      [("User",
          { name := "User"
            fields :=
              [{ name := "friend", descriptor := { name := "Node" }, kind := .interface
                 arguments :=
                  [{ name := "role", descriptor := { name := "Role" }, kind := .enum }] }]
            interfaces := ["Node"] })]
    interfaces :=
      [("Node",
          { name := "Node"
            fields := [{ name := "id", descriptor := { name := "ID" }, kind := .scalar }]
            implementations := ["User"] })]
    unions := [("Found", { name := "Found", members := ["User"] })]
    enums := [("Role", { name := "Role", values := [{ name := "ADMIN" }] })]
    argumentTypes :=
      [("FriendUserArgs",
          { name := "FriendUserArgs", fieldName := "friend", typeName := "User"
            fields := [{ name := "role", descriptor := { name := "Role" }, kind := .enum }] })]
    queryType := some "User" }

theorem ofSchema_partitioned_sample :
  ofSchema sampleSchema = .ok sampleModel ∧ sampleModel.Partitioned sampleSchema
  := by
  have h : ofSchema sampleSchema = .ok sampleModel := rfl
  use h
  apply ofSchema_partitioned h

end Model

end GraphScribe
