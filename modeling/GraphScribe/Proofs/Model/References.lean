import GraphScribe.Proofs.Model.Registries
import GraphScribe.Proofs.Schema.Closed

/-!
# References of a model

`Model.references` lists the types to which the fields and arguments of a model refer, each with the
kind that is noted beside it.  The model of a closed schema is consistent (`Model.Consistent`): a
kind that is noted is the one found under the name of the type, interfaces, members and
implementations are found in their registries, and an object type names the interfaces that list
it (`Model.ofSchema_consistent`).
-/

namespace GraphScribe

open Result

/-! ### References -/

/-- The type of an argument, with its kind. -/
def Argument.reference (a : Argument) : String × Kind := (a.descriptor.name, a.kind)

/-- The types of a field and of its arguments, with their kinds. -/
def Field.references (f : Field) : List (String × Kind) :=
  (f.descriptor.name, f.kind) :: f.arguments.map Argument.reference

namespace NamedType

/-- The fields of a declared type. -/
def fields : NamedType → List Field
  | object t => t.fields
  | interface t => t.fields
  | input t => t.fields
  | _ => []

/-- The types of the fields and arguments of a declared type, with their kinds. -/
def references (t : NamedType) : List (String × Kind) := t.fields.flatMap Field.references

theorem mem_references_of_owner? {t : NamedType} {o : FieldOwner} (h : t.owner? = some o)
    {f : Field} (hf : f ∈ o.fields) {r : String × Kind} (hr : r ∈ f.references) :
  r ∈ t.references
  := by
  apply List.mem_flatMap.mpr
  use f
  constructor
  · cases t <;> cases h <;> exact hf
  · exact hr

end NamedType

/-- The types to which a model refers, with the kinds that are noted of them: those of fields,
input fields and arguments, of argument types, and of the arguments of directives. -/
def Model.references (m : Model) : List (String × Kind) :=
  (searched.flatMap fun kind => (m.registryOf kind).values.flatMap NamedType.references)
    ++ m.argumentTypes.values.flatMap (fun t => t.fields.map Argument.reference)
    ++ m.definedDirectives.values.flatMap (fun d => d.arguments.map Argument.reference)

/-! ### What is noted when a schema is described -/

namespace Schema

variable {s : Schema}

/-- The kind that is noted of a type is the one that the schema has under its name. -/
def Notes (s : Schema) (r : String × Kind) : Prop := s.kindOf r.1 = some r.2

theorem notes_of_kindIn {type : TypeRef} {kind : Kind} (h : s.kindIn type = .ok kind) :
  s.Notes (type.descriptor.name, kind)
  := by
  rw [TypeRef.descriptor, TypeRef.name_descriptorAt]
  rw [kindIn] at h
  split at h
  case h_1 k hk =>
    cases h
    apply hk
  case h_2 =>
    cases h

theorem notes_argument {v : InputValue} {a : Argument} (h : s.argument v = .ok a) :
  s.Notes a.reference
  := by
  obtain ⟨kind, default, hkind, -, rfl⟩ := argument_eq_ok_iff.mp h
  apply notes_of_kindIn hkind

theorem notes_arguments {vs : List InputValue} {as : List Argument}
    (h : vs.mapM s.argument = .ok as) :
  ∀ r ∈ as.map Argument.reference, s.Notes r
  := by
  intro r hr
  obtain ⟨a, ha, rfl⟩ := List.mem_map.mp hr
  obtain ⟨v, -, hv⟩ := exists_of_forall₂ (mapM_eq_ok_iff.mp h) ha
  apply notes_argument hv

theorem notes_field {f : OutputField} {f' : Field} (h : s.field f = .ok f') :
  ∀ r ∈ f'.references, s.Notes r
  := by
  obtain ⟨kind, arguments, hkind, harguments, rfl⟩ := field_eq_ok_iff.mp h
  rw [Field.references, List.forall_mem_cons]
  constructor
  · apply notes_of_kindIn hkind
  · apply notes_arguments harguments

theorem notes_inputField {v : InputValue} {f : Field} (h : s.inputField v = .ok f) :
  ∀ r ∈ f.references, s.Notes r
  := by
  obtain ⟨kind, default, hkind, -, rfl⟩ := inputField_eq_ok_iff.mp h
  rw [Field.references, List.forall_mem_cons]
  constructor
  · apply notes_of_kindIn hkind
  · simp

/-- How a type that a schema declares is described: its interfaces and members by their names, the
implementations of an interface as the schema lists them, and the fields one by one. -/
def Describes (s : Schema) : TypeContent → NamedType → Prop
  | .scalar, .scalar _ => True
  | .object interfaces fields, .object t =>
    t.interfaces = interfaces ∧ fields.mapM s.field = .ok t.fields
  | .interface _ fields, .interface t =>
    t.implementations = s.implementations t.name ∧ fields.mapM s.field = .ok t.fields
  | .union members, .union t => t.members = members
  | .enum _, .enum _ => True
  | .input fields, .input t => fields.mapM s.inputField = .ok t.fields
  | _, _ => False

theorem describes_of_namedType {st : SchemaType} {t : NamedType} (h : s.namedType st = .ok t) :
  s.Describes st.content t
  := by
  rcases namedType_cases h with ⟨hcontent, rfl⟩ | ⟨_, _, _, hcontent, hfields, rfl⟩
    | ⟨_, _, _, hcontent, hfields, rfl⟩ | ⟨_, hcontent, rfl⟩ | ⟨_, hcontent, rfl⟩
    | ⟨_, _, hcontent, hfields, rfl⟩
  all_goals rw [hcontent]
  · trivial
  · exact ⟨rfl, hfields⟩
  · exact ⟨rfl, hfields⟩
  · rfl
  · trivial
  · exact hfields

/-- What is noted in a list of fields is noted for each of them. -/
theorem notes_fields {α : Type} {describe : α → Except Failure Field} {xs : List α}
    {fs : List Field} (h : xs.mapM describe = .ok fs)
    (hnotes : ∀ x f, describe x = .ok f → ∀ r ∈ f.references, s.Notes r) :
  ∀ r ∈ fs.flatMap Field.references, s.Notes r
  := by
  intro r hr
  obtain ⟨f, hf, hr⟩ := List.mem_flatMap.mp hr
  obtain ⟨x, -, hx⟩ := exists_of_forall₂ (mapM_eq_ok_iff.mp h) hf
  apply hnotes x f hx r hr

theorem notes_of_describes {content : TypeContent} {t : NamedType} (h : s.Describes content t) :
  ∀ r ∈ t.references, s.Notes r
  := by
  cases content <;> cases t <;> try cases h
  case object.object _ hfields => apply notes_fields hfields fun _ _ => notes_field
  case interface.interface _ hfields => apply notes_fields hfields fun _ _ => notes_field
  case input.input => apply notes_fields h fun _ _ => notes_inputField
  all_goals simp [NamedType.references, NamedType.fields]

end Schema

namespace Model

/-! ### The model of a schema -/

/-- The entries of a model that describes a schema: the declared types, each of which is described
under its name, the argument types made of their fields, and the directives. -/
structure DescribedBy (m : Model) (s : Schema) (ts : List NamedType) : Prop where
  types : List.Forall₂ (fun st t => s.namedType st = .ok t) s.declaredTypes ts
  lists : m.Lists ts
  distinct : (ts.map NamedType.name).Nodup
  argumentTypes : ∀ t ∈ m.argumentTypes.values,
    ∃ o ∈ ts.filterMap NamedType.owner?, t ∈ o.argumentTypes
  directives : ∀ d ∈ m.definedDirectives.values,
    ∃ sd ∈ s.directiveDefinitions, s.directiveDefinition sd = .ok d
  applied : m.directives = DirectiveUsage.ofDirectives s.directives

theorem exists_describedBy {s : Schema} {m : Model} (h : ofSchema s = .ok m) :
  ∃ ts, m.DescribedBy s ts
  := by
  obtain ⟨ts, htypes, hlists, harguments⟩ := of_ofSchema_eq_ok h
  use ts
  constructor
  case types => apply htypes
  case lists => apply hlists
  case distinct =>
    have hnames : ts.map NamedType.name = s.declaredTypes.map SchemaType.name := by
      apply map_eq_of_forall₂ htypes
      intro st _ t ht
      apply (Schema.of_namedType_eq_ok ht).1
    rw [hnames]
    apply s.distinct.sublist (List.filter_sublist.map _)
  case argumentTypes =>
    intro t ht
    obtain ⟨-, -, hresult⟩ := argumentTypes_eq_ok_iff.mp harguments
    rw [← hresult] at ht
    obtain ⟨key, ht⟩ := Assoc.mem_values_iff.mp ht
    obtain ⟨t', ht', heq⟩ := List.mem_map.mp ht
    cases heq
    apply List.mem_flatMap.mp ht'
  case directives =>
    obtain ⟨ts', -, h⟩ := bind_eq_ok_iff.mp h
    obtain ⟨definitions, hdefinitions, h⟩ := bind_eq_ok_iff.mp h
    obtain ⟨arguments, -, h⟩ := bind_eq_ok_iff.mp h
    cases h
    intro d hd
    obtain ⟨key, hd⟩ := Assoc.mem_values_iff.mp hd
    rcases Assoc.mem_of_mem_insertAll hd with hd | hd
    · cases hd
    · obtain ⟨d', hd', heq⟩ := List.mem_map.mp hd
      cases heq
      obtain ⟨sd, hmem, hsd⟩ := exists_of_forall₂ (mapM_eq_ok_iff.mp hdefinitions) hd'
      use sd, List.mem_of_mem_filter hmem
  case applied =>
    obtain ⟨ts', -, h⟩ := bind_eq_ok_iff.mp h
    obtain ⟨definitions, -, h⟩ := bind_eq_ok_iff.mp h
    obtain ⟨arguments, -, h⟩ := bind_eq_ok_iff.mp h
    cases h
    rfl

section

variable {s : Schema} {m : Model} {ts : List NamedType}

include s

/-- What a registry holds is the description of a declared type of the schema. -/
theorem DescribedBy.of_mem (h : m.DescribedBy s ts) {kind : Kind} {key : String} {t : NamedType}
    (ht : (key, t) ∈ m.registryOf kind) :
  t ∈ ts ∧ t.kind = kind ∧ t.name = key
    ∧ ∃ st ∈ s.declaredTypes, st.name = key ∧ s.Describes st.content t
  := by
  obtain ⟨hts, rfl, rfl⟩ := h.lists.mem_registryOf_iff.mp ht
  obtain ⟨st, hst, hdescribed⟩ := exists_of_forall₂ h.types hts
  use hts, rfl, rfl, st, hst
  use (Schema.of_namedType_eq_ok hdescribed).1.symm
  apply Schema.describes_of_namedType hdescribed

/-- A type of the schema that is not built in is found in the registry of its kind. -/
theorem DescribedBy.exists_entry (h : m.DescribedBy s ts) {name : String} {kind : Kind}
    (hkind : s.kindOf name = some kind) (hname : Builtin.isType name = false) :
  ∃ t, (name, t) ∈ m.registryOf kind
  := by
  obtain ⟨st, hst, rfl, rfl⟩ := Schema.exists_of_kindOf_eq_some hkind hname
  obtain ⟨t, ht, hdescribed⟩ := exists_of_forall₂_left h.types hst
  obtain ⟨htname, htkind⟩ := Schema.of_namedType_eq_ok hdescribed
  use t
  rw [← htname, ← htkind]
  apply h.lists.mem_registryOf_iff.mpr ⟨ht, rfl, rfl⟩

/-- The model knows the kind of every type of the schema, introspection types apart. -/
theorem DescribedBy.kindOf_eq (h : m.DescribedBy s ts) {name : String} {kind : Kind}
    (hkind : s.kindOf name = some kind) (hname : Builtin.selfDescription.contains name = false) :
  m.kindOf name = some kind
  := by
  by_cases hscalar : name ∈ builtinScalars
  · rw [kindOf, if_pos hscalar]
    simpa [Schema.kindOf, Builtin.kindOf, hscalar] using hkind
  · have hbuiltin := Builtin.isType_eq_false_iff.mpr ⟨hscalar, hname⟩
    obtain ⟨t, ht⟩ := h.exists_entry hkind hbuiltin
    obtain ⟨hts, rfl, rfl⟩ := h.lists.mem_registryOf_iff.mp ht
    apply kindOf_eq_of_typeNamed? hscalar (h.lists.typeNamed?_eq_some h.distinct hts)

theorem DescribedBy.mem_keys_types (h : m.DescribedBy s ts) {name : String}
    (hkind : s.kindOf name = some .object) (hname : Builtin.isType name = false) :
  name ∈ m.types.keys
  := by
  obtain ⟨t, ht⟩ := h.exists_entry hkind hname
  rw [← Assoc.keys_mapValues NamedType.object]
  apply Assoc.mem_keys_of_mem ht

theorem DescribedBy.mem_keys_interfaces (h : m.DescribedBy s ts) {name : String}
    (hkind : s.kindOf name = some .interface) (hname : Builtin.isType name = false) :
  name ∈ m.interfaces.keys
  := by
  obtain ⟨t, ht⟩ := h.exists_entry hkind hname
  rw [← Assoc.keys_mapValues NamedType.interface]
  apply Assoc.mem_keys_of_mem ht

/-- An object type of the model implements what it implements in the schema. -/
theorem DescribedBy.exists_object (h : m.DescribedBy s ts) {name : String} {t : ObjectType}
    (ht : (name, t) ∈ m.types) :
  ∃ st ∈ s.types, st.name = name ∧ ∃ fields, st.content = .object t.interfaces fields
  := by
  have hentry : (name, .object t) ∈ m.registryOf .object :=
    Assoc.mem_mapValues_iff.mpr ⟨t, ht, rfl⟩
  obtain ⟨-, -, -, st, hst, hname, hdescribed⟩ := h.of_mem hentry
  use st, List.mem_of_mem_filter hst, hname
  cases hcontent : st.content <;> rw [hcontent] at hdescribed <;> cases hdescribed
  case object.intro _ fields hinterfaces _ =>
    use fields
    rw [hinterfaces]

theorem DescribedBy.exists_union (h : m.DescribedBy s ts) {name : String} {t : UnionType}
    (ht : (name, t) ∈ m.unions) :
  ∃ st ∈ s.types, st.content = .union t.members
  := by
  have hentry : (name, .union t) ∈ m.registryOf .union :=
    Assoc.mem_mapValues_iff.mpr ⟨t, ht, rfl⟩
  obtain ⟨-, -, -, st, hst, -, hdescribed⟩ := h.of_mem hentry
  use st, List.mem_of_mem_filter hst
  cases hcontent : st.content <;> rw [hcontent] at hdescribed <;> cases hdescribed
  rfl

/-- An interface of the model lists what the schema lists for it. -/
theorem DescribedBy.implementations_eq (h : m.DescribedBy s ts) {name : String}
    {t : InterfaceType} (ht : (name, t) ∈ m.interfaces) :
  t.implementations = s.implementations name ∧ m.possibleTypes name = t.implementations
  := by
  have hentry : (name, .interface t) ∈ m.registryOf .interface :=
    Assoc.mem_mapValues_iff.mpr ⟨t, ht, rfl⟩
  obtain ⟨hts, -, hname, st, -, -, hdescribed⟩ := h.of_mem hentry
  change t.name = name at hname
  constructor
  · cases hcontent : st.content <;> rw [hcontent] at hdescribed <;> cases hdescribed
    case interface.intro himplementations _ => rw [himplementations, hname]
  · rw [← hname]
    apply h.lists.possibleTypes_eq_possible h.distinct hts

/-- The kind that is noted of a type is the one that the schema has under its name. -/
theorem DescribedBy.notes (h : m.DescribedBy s ts) :
  ∀ r ∈ m.references, s.Notes r
  := by
  have htypes : ∀ t ∈ ts, ∀ r ∈ t.references, s.Notes r := by
    intro t ht
    obtain ⟨st, -, hst⟩ := exists_of_forall₂ h.types ht
    apply Schema.notes_of_describes (Schema.describes_of_namedType hst)
  intro r hr
  rw [references, List.mem_append, List.mem_append] at hr
  rcases hr with (hr | hr) | hr
  · obtain ⟨kind, -, hr⟩ := List.mem_flatMap.mp hr
    obtain ⟨t, ht, hr⟩ := List.mem_flatMap.mp hr
    obtain ⟨key, ht⟩ := Assoc.mem_values_iff.mp ht
    apply htypes t (h.of_mem ht).1 r hr
  · obtain ⟨t, ht, hr⟩ := List.mem_flatMap.mp hr
    obtain ⟨o, ho, ht⟩ := h.argumentTypes t ht
    obtain ⟨nt, hnt, ho⟩ := List.mem_filterMap.mp ho
    obtain ⟨f, hf, rfl⟩ := List.mem_map.mp ht
    apply htypes nt hnt r
    apply NamedType.mem_references_of_owner? ho (List.mem_of_mem_filter hf)
    apply List.mem_cons_of_mem _ hr
  · obtain ⟨d, hd, hr⟩ := List.mem_flatMap.mp hr
    obtain ⟨sd, -, hsd⟩ := h.directives d hd
    obtain ⟨arguments, harguments, hsd⟩ := bind_eq_ok_iff.mp hsd
    cases hsd
    apply Schema.notes_arguments harguments r hr

end

/-! ### Consistency -/

/-- The references of a model are those of its registries: a kind that is noted beside a type is the
kind of the type, unless this is an introspection type; what an object type implements is an
interface, and the members of a union and the implementations of an interface are object types; and
an object type implements the interfaces that list it, and only them. -/
structure Consistent (m : Model) : Prop where
  kinds : ∀ r ∈ m.references, Builtin.selfDescription.contains r.1 = false →
    m.kindOf r.1 = some r.2
  interfaces : ∀ name t, (name, t) ∈ m.types → ∀ i ∈ t.interfaces, i ∈ m.interfaces.keys
  members : ∀ name t, (name, t) ∈ m.unions → ∀ n ∈ t.members,
    Builtin.selfDescription.contains n = false → n ∈ m.types.keys
  implementations : ∀ name t, (name, t) ∈ m.interfaces → ∀ n ∈ t.implementations,
    n ∈ m.types.keys
  implements : ∀ name t, (name, t) ∈ m.types → ∀ name' t', (name', t') ∈ m.interfaces →
    (name' ∈ t.interfaces ↔ name ∈ t'.implementations)
      ∧ (name ∈ m.possibleTypes name' ↔ name' ∈ t.interfaces)

/-- A model that describes a closed schema is consistent. -/
theorem DescribedBy.consistent {s : Schema} {m : Model} {ts : List NamedType}
    (hts : m.DescribedBy s ts) (hs : s.Closed) :
  m.Consistent
  := by
  constructor
  case kinds =>
    intro r hr hname
    apply hts.kindOf_eq (hts.notes r hr) hname
  case interfaces =>
    intro name t ht i hi
    obtain ⟨st, hst, -, fields, hcontent⟩ := hts.exists_object ht
    have hkind := hs.interfaces st hst i (by rwa [hcontent])
    apply hts.mem_keys_interfaces hkind (Schema.isType_of_kindOf_interface hkind)
  case members =>
    intro name t ht n hn hname
    obtain ⟨st, hst, hcontent⟩ := hts.exists_union ht
    have hkind := hs.members st hst n (by rwa [hcontent])
    apply hts.mem_keys_types hkind (Schema.isType_of_kindOf_object hkind hname)
  case implementations =>
    intro name t ht n hn
    rw [(hts.implementations_eq ht).1] at hn
    obtain ⟨hbuiltin, hkind⟩ := hs.of_mem_implementations hn
    apply hts.mem_keys_types hkind hbuiltin
  case implements =>
    intro name t ht name' t' ht'
    obtain ⟨st, hst, rfl, fields, hcontent⟩ := hts.exists_object ht
    obtain ⟨himplementations, hpossible⟩ := hts.implementations_eq ht'
    rw [hpossible, himplementations, Schema.mem_implementations_iff]
    have hiff : name' ∈ t.interfaces ↔ ∃ st' ∈ s.types, st'.name = st.name
        ∧ ∃ interfaces fields, st'.content = .object interfaces fields ∧ name' ∈ interfaces := by
      constructor
      · intro hmem
        use st, hst, rfl, t.interfaces, fields, hcontent
      · rintro ⟨st', hst', hname, interfaces, fields', hcontent', hmem⟩
        obtain rfl := List.inj_on_of_nodup_map s.distinct hst' hst hname
        rw [hcontent] at hcontent'
        cases hcontent'
        apply hmem
    constructor
    · apply hiff
    · apply hiff.symm

/-- The model of a closed schema is consistent. -/
theorem ofSchema_consistent {s : Schema} {m : Model} (hs : s.Closed) (h : ofSchema s = .ok m) :
  m.Consistent
  := by
  obtain ⟨ts, hts⟩ := exists_describedBy h
  apply hts.consistent hs

/-- A closed schema in which fields, arguments, a directive and a union refer to other types, two of
them introspection types. -/
def referringSchema : Schema where
  types :=
    [{ name := "Node"
       content := .interface []
        [{ name := "id", type := .nonNull (.named "ID") },
          { name := "meta", type := .list (.named "__Type") }] },
      { name := "Role", content := .enum [{ name := "ADMIN" }] },
      { name := "Filter"
        content := .input
          [{ name := "role", type := .named "Role" }, { name := "and", type := .named "Filter" }] },
      { name := "User"
        content := .object ["Node"]
          [{ name := "friends"
             type := .list (.named "Node")
             arguments := [{ name := "where", type := .named "Filter" }] }] },
      { name := "Team", content := .object [] [{ name := "lead", type := .named "User" }] },
      { name := "Found", content := .union ["Team", "User", "__Type"] }]
  directiveDefinitions :=
    [{ name := "auth", arguments := [{ name := "role", type := .named "Role" }] }]
  distinct := by decide

theorem referringSchema_closed :
  referringSchema.Closed
  := by
  constructor <;> decide

theorem ofSchema_consistent_sample :
  referringSchema.Closed
    ∧ ∃ m, ofSchema referringSchema = .ok m ∧ m.Consistent ∧ m.references.length = 9
      ∧ ∃ t, m.interfaces.find? "Node" = some t ∧ t.implementations = ["User"]
  := by
  use referringSchema_closed
  obtain ⟨m, hm⟩ : ∃ m, ofSchema referringSchema = .ok m := ⟨_, rfl⟩
  use m, hm, ofSchema_consistent referringSchema_closed hm
  cases hm
  exact ⟨rfl, _, rfl, rfl⟩

end Model

end GraphScribe
