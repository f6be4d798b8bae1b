import GraphScribe.Proofs.Model.References

/-!
# Plain schemas

A schema is plain (`Schema.Plain`) if no type that it declares refers to one of the types in which a
schema describes itself.  The model of a plain schema knows every type to which the fields and
arguments of its types refer, and with the kind that is noted there (`Model.DescribedBy.knows`).
-/

namespace GraphScribe

open Result

/-! ### References of declared types -/

/-- The types of a field and of its arguments. -/
def OutputField.references (f : OutputField) : List String :=
  f.type.base :: f.arguments.map fun v => v.type.base

/-- The types to which a type refers. -/
def TypeContent.references : TypeContent → List String
  | scalar => []
  | object interfaces fields => interfaces ++ fields.flatMap OutputField.references
  | interface interfaces fields => interfaces ++ fields.flatMap OutputField.references
  | union members => members
  | enum _ => []
  | input fields => fields.map fun v => v.type.base

namespace Schema

/-- The declared types refer to no introspection types. -/
def Plain (s : Schema) : Prop :=
  ∀ t ∈ s.declaredTypes, ∀ n ∈ t.content.references, Builtin.selfDescription.contains n = false

variable {s : Schema}

theorem name_of_argument {v : InputValue} {a : Argument} (h : s.argument v = .ok a) :
  a.descriptor.name = v.type.base
  := by
  obtain ⟨kind, default, -, -, rfl⟩ := argument_eq_ok_iff.mp h
  apply TypeRef.name_descriptorAt

theorem references_of_field {f : OutputField} {f' : Field} (h : s.field f = .ok f') :
  ∀ r ∈ f'.references, r.1 ∈ f.references
  := by
  obtain ⟨kind, arguments, -, harguments, rfl⟩ := field_eq_ok_iff.mp h
  rw [Field.references, List.forall_mem_cons]
  constructor
  · rw [TypeRef.descriptor, TypeRef.name_descriptorAt]
    apply List.mem_cons_self
  · intro r hr
    obtain ⟨a, ha, rfl⟩ := List.mem_map.mp hr
    obtain ⟨v, hv, hva⟩ := exists_of_forall₂ (mapM_eq_ok_iff.mp harguments) ha
    apply List.mem_cons_of_mem
    apply List.mem_map.mpr ⟨v, hv, (name_of_argument hva).symm⟩

theorem references_of_inputField {v : InputValue} {f : Field} (h : s.inputField v = .ok f) :
  ∀ r ∈ f.references, r.1 = v.type.base
  := by
  obtain ⟨kind, default, -, -, rfl⟩ := inputField_eq_ok_iff.mp h
  rw [Field.references, List.forall_mem_cons]
  constructor
  · apply TypeRef.name_descriptorAt
  · simp

theorem references_of_fields {fields : List OutputField} {fs : List Field}
    (h : fields.mapM s.field = .ok fs) :
  ∀ r ∈ fs.flatMap Field.references, r.1 ∈ fields.flatMap OutputField.references
  := by
  intro r hr
  obtain ⟨f', hf', hr⟩ := List.mem_flatMap.mp hr
  obtain ⟨f, hf, hff'⟩ := exists_of_forall₂ (mapM_eq_ok_iff.mp h) hf'
  apply List.mem_flatMap.mpr ⟨f, hf, references_of_field hff' r hr⟩

/-- The description of a type refers to no other types than the type. -/
theorem references_of_describes {content : TypeContent} {t : NamedType}
    (h : s.Describes content t) :
  ∀ r ∈ t.references, r.1 ∈ content.references
  := by
  cases content <;> cases t <;> try cases h
  case object.object _ hfields =>
    intro r hr
    apply List.mem_append_right _ (references_of_fields hfields r hr)
  case interface.interface _ hfields =>
    intro r hr
    apply List.mem_append_right _ (references_of_fields hfields r hr)
  case input.input =>
    intro r hr
    obtain ⟨f, hf, hr⟩ := List.mem_flatMap.mp hr
    obtain ⟨v, hv, hvf⟩ := exists_of_forall₂ (mapM_eq_ok_iff.mp h) hf
    apply List.mem_map.mpr ⟨v, hv, (references_of_inputField hvf r hr).symm⟩
  all_goals simp [NamedType.references, NamedType.fields]

end Schema

namespace Model

section

variable {s : Schema} {m : Model} {ts : List NamedType}

include s

/-- The model of a plain schema knows the types to which fields and arguments refer. -/
theorem DescribedBy.knows (h : m.DescribedBy s ts) (hs : s.Plain) :
  ∀ t ∈ ts, ∀ r ∈ t.references, m.kindOf r.1 = some r.2
  := by
  intro t ht r hr
  obtain ⟨st, hst, hdescribed⟩ := exists_of_forall₂ h.types ht
  have hdescribes := Schema.describes_of_namedType hdescribed
  apply h.kindOf_eq (Schema.notes_of_describes hdescribes r hr)
  apply hs st hst _ (Schema.references_of_describes hdescribes r hr)

/-- The members of the unions of a plain schema are no introspection types. -/
theorem DescribedBy.plain_members (h : m.DescribedBy s ts) (hs : s.Plain) {name : String}
    {t : UnionType} (ht : (name, t) ∈ m.unions) :
  ∀ n ∈ t.members, Builtin.selfDescription.contains n = false
  := by
  have hentry : (name, .union t) ∈ m.registryOf .union := Assoc.mem_mapValues_iff.mpr ⟨t, ht, rfl⟩
  obtain ⟨-, -, -, st, hst, -, hdescribed⟩ := h.of_mem hentry
  intro n hn
  apply hs st hst
  cases hcontent : st.content <;> rw [hcontent] at hdescribed <;> cases hdescribed
  case union.refl => apply hn

/-- A type that is found is described. -/
theorem DescribedBy.of_typeNamed?_eq_some (h : m.DescribedBy s ts) {name : String} {t : NamedType}
    (ht : m.typeNamed? name = some t) :
  t ∈ ts ∧ t.name = name
  := by
  rw [typeNamed?_eq] at ht
  obtain ⟨kind, -, hfind⟩ := List.exists_of_findSome?_eq_some ht
  obtain ⟨hts, -, hname⟩ := h.lists.mem_registryOf_iff.mp (Assoc.mem_of_find?_eq_some hfind)
  use hts, hname

/-- A type that is known and not built in is described under its name. -/
theorem DescribedBy.exists_of_kindOf (h : m.DescribedBy s ts) {name : String} {kind : Kind}
    (hkind : m.kindOf name = some kind) (hscalar : name ∉ builtinScalars) :
  ∃ t ∈ ts, t.name = name ∧ t.kind = kind
  := by
  rw [kindOf, if_neg hscalar] at hkind
  obtain ⟨t, ht, rfl⟩ := Option.map_eq_some_iff.mp hkind
  obtain ⟨hts, hname⟩ := h.of_typeNamed?_eq_some ht
  use t

end

end Model

end GraphScribe
