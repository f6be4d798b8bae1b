import GraphScribe.Proofs.Model.References

/-!
# Types that have objects

`Schema.HasObjects` says of which types an object can be a value: of the object types that a schema
declares, of interfaces that an object type implements, and of unions with members.  These are the
names for which the model of the schema has possible types
(`Model.DescribedBy.possibleTypes_ne_nil_iff`).
-/

namespace GraphScribe

open Result

/-- An object can be a value of the type called `name`. -/
inductive Schema.HasObjects (s : Schema) : String → Prop
  | object {t interfaces fields} (declared : t ∈ s.declaredTypes)
      (content : t.content = .object interfaces fields) : HasObjects s t.name
  | interface {t t' interfaces fields interfaces' fields'} (declared : t ∈ s.declaredTypes)
      (content : t.content = .interface interfaces fields) (mem : t' ∈ s.types)
      (content' : t'.content = .object interfaces' fields') (implements : t.name ∈ interfaces') :
      HasObjects s t.name
  | union {t members member} (declared : t ∈ s.declaredTypes)
      (content : t.content = .union members) (mem : member ∈ members) : HasObjects s t.name

namespace Schema

variable {s : Schema}

/-- The object types of a declared type, by what it consists of. -/
def objectsOf (s : Schema) (t : SchemaType) : List String :=
  match t.content with
  | .object _ _ => [t.name]
  | .interface _ _ => s.implementations t.name
  | .union members => members
  | _ => []

theorem possible_of_namedType {st : SchemaType} {t : NamedType} (h : s.namedType st = .ok t) :
  t.possible = s.objectsOf st
  := by
  have hname := (of_namedType_eq_ok h).1
  have hdescribed := describes_of_namedType h
  rw [objectsOf, ← hname]
  cases hcontent : st.content <;> cases t <;> rw [hcontent] at hdescribed <;> try cases hdescribed
  case interface.interface.intro himplementations _ => apply himplementations
  all_goals rfl

theorem implementations_ne_nil_iff {interface : String} :
  s.implementations interface ≠ []
    ↔ ∃ t ∈ s.types, ∃ interfaces fields, t.content = .object interfaces fields
        ∧ interface ∈ interfaces
  := by
  constructor
  · intro h
    obtain ⟨name, hname⟩ := List.exists_mem_of_ne_nil _ h
    obtain ⟨t, ht, -, hcontent⟩ := mem_implementations_iff.mp hname
    use t, ht
  · rintro ⟨t, ht, hcontent⟩
    apply List.ne_nil_of_mem (a := t.name)
    apply mem_implementations_iff.mpr
    use t, ht

theorem hasObjects_iff {name : String} :
  s.HasObjects name ↔ ∃ t ∈ s.declaredTypes, t.name = name ∧ s.objectsOf t ≠ []
  := by
  constructor
  · rintro (⟨declared, content⟩ | ⟨declared, content, mem, content', implements⟩
      | ⟨declared, content, mem⟩)
    · refine ⟨_, declared, rfl, ?_⟩
      simp [objectsOf, content]
    · refine ⟨_, declared, rfl, ?_⟩
      rw [objectsOf, content]
      apply implementations_ne_nil_iff.mpr ⟨_, mem, _, _, content', implements⟩
    · refine ⟨_, declared, rfl, ?_⟩
      rw [objectsOf, content]
      apply List.ne_nil_of_mem mem
  · rintro ⟨t, declared, rfl, h⟩
    rw [objectsOf] at h
    cases content : t.content with
    | object interfaces fields => apply HasObjects.object declared content
    | interface interfaces fields =>
      rw [content] at h
      obtain ⟨t', mem, interfaces', fields', content', implements⟩ :=
        implementations_ne_nil_iff.mp h
      apply HasObjects.interface declared content mem content' implements
    | union members =>
      rw [content] at h
      obtain ⟨member, mem⟩ := List.exists_mem_of_ne_nil members h
      apply HasObjects.union declared content mem
    | scalar => simp [content] at h
    | enum values => simp [content] at h
    | input fields => simp [content] at h

end Schema

namespace Model

section

variable {s : Schema} {m : Model} {ts : List NamedType}

include s

/-- A name has the possible types of the type that is described under it. -/
theorem DescribedBy.exists_of_possibleTypes (h : m.DescribedBy s ts) {name : String}
    (hname : m.possibleTypes name ≠ []) :
  ∃ t ∈ ts, t.name = name
  := by
  by_contra hnone
  have hfind : ∀ kind, (m.registryOf kind).find? name = none := by
    intro kind
    rw [Assoc.find?_eq_none_iff, h.lists.keys_registryOf]
    intro hmem
    obtain ⟨t, ht, htname⟩ := List.mem_map.mp hmem
    apply hnone ⟨t, List.mem_of_mem_filter ht, htname⟩
  rw [possibleTypes_eq] at hname
  simp [hfind] at hname

/-- The names with possible types are those of types of which an object can be a value. -/
theorem DescribedBy.possibleTypes_ne_nil_iff (h : m.DescribedBy s ts) {name : String} :
  m.possibleTypes name ≠ [] ↔ s.HasObjects name
  := by
  rw [Schema.hasObjects_iff]
  constructor
  · intro hname
    obtain ⟨t, ht, rfl⟩ := h.exists_of_possibleTypes hname
    obtain ⟨st, hst, hdescribed⟩ := exists_of_forall₂ h.types ht
    use st, hst, (Schema.of_namedType_eq_ok hdescribed).1.symm
    rw [← Schema.possible_of_namedType hdescribed,
      ← h.lists.possibleTypes_eq_possible h.distinct ht]
    apply hname
  · rintro ⟨st, hst, rfl, hobjects⟩
    obtain ⟨t, ht, hdescribed⟩ := exists_of_forall₂_left h.types hst
    rw [← (Schema.of_namedType_eq_ok hdescribed).1,
      h.lists.possibleTypes_eq_possible h.distinct ht, Schema.possible_of_namedType hdescribed]
    apply hobjects

end

end Model

end GraphScribe
