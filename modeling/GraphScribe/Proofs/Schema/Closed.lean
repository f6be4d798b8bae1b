import GraphScribe.Proofs.Assoc
import GraphScribe.Schema.Basic

/-!
# Closed schemas

A schema is closed (`Schema.Closed`) if the types that it refers to are there, as types of the kind
that the place asks for: what an object or interface type implements is an interface type, and the
members of a union type are object types.  Among the types that every schema has, none is an
interface type and none implements one.
-/

namespace GraphScribe

namespace TypeContent

/-- The interfaces that a type implements. -/
def interfaces : TypeContent → List String
  | object interfaces _ => interfaces
  | interface interfaces _ => interfaces
  | _ => []

/-- The members of a union type. -/
def members : TypeContent → List String
  | union members => members
  | _ => []

end TypeContent

/-! ### Types that every schema has -/

namespace Builtin

theorem isType_eq_false_iff {name : String} :
  isType name = false ↔ name ∉ builtinScalars ∧ selfDescription.contains name = false
  := by
  simp [isType]

/-- A type is built in if it has a kind by its name alone. -/
theorem kindOf_eq_none_iff {name : String} :
  kindOf name = none ↔ isType name = false
  := by
  rw [isType_eq_false_iff, kindOf, Assoc.contains]
  by_cases hscalar : name ∈ builtinScalars
  · simp [hscalar]
  · simp [hscalar]

theorem kindOf_ne_interface (name : String) :
  kindOf name ≠ some .interface
  := by
  rw [kindOf]
  split_ifs
  · simp
  · intro h
    have hkinds : ∀ e ∈ selfDescription, e.2 ≠ .interface := by decide
    apply hkinds _ (Assoc.mem_of_find?_eq_some h) rfl

end Builtin

namespace Schema

variable {s : Schema}

/-! ### Closed schemas -/

/-- The types that a schema refers to are types of the schema of the right kind; the types of
fields and arguments are looked up only where they are described. -/
structure Closed (s : Schema) : Prop where
  interfaces : ∀ t ∈ s.types, ∀ i ∈ t.content.interfaces, s.kindOf i = some .interface
  members : ∀ t ∈ s.types, ∀ n ∈ t.content.members, s.kindOf n = some .object
  builtin : ∀ t ∈ s.types, Builtin.isType t.name = true → t.content.interfaces = []

/-- The kind of a type that is not built in is that of its entry. -/
theorem exists_of_kindOf_eq_some {name : String} {kind : Kind} (h : s.kindOf name = some kind)
    (hname : Builtin.isType name = false) :
  ∃ t ∈ s.declaredTypes, t.name = name ∧ t.content.kind = kind
  := by
  rw [kindOf, Builtin.kindOf_eq_none_iff.mpr hname] at h
  obtain ⟨t, ht, hkind⟩ := Option.map_eq_some_iff.mp h
  have hmem := List.mem_of_find?_eq_some ht
  have htname : t.name = name := by simpa using List.find?_some ht
  use t
  constructor
  · simp [declaredTypes, hmem, htname, hname]
  · use htname

theorem kindOf_eq_some_of_mem {t : SchemaType} (h : t ∈ s.declaredTypes) :
  s.kindOf t.name = some t.content.kind
  := by
  simp only [declaredTypes, List.mem_filter, Bool.not_eq_true'] at h
  rw [kindOf, Builtin.kindOf_eq_none_iff.mpr h.2, type?, find?_eq_of_nodup s.distinct h.1]
  rfl

/-- No type that every schema has is an interface type. -/
theorem isType_of_kindOf_interface {name : String} (h : s.kindOf name = some .interface) :
  Builtin.isType name = false
  := by
  rw [← Builtin.kindOf_eq_none_iff]
  cases hbuiltin : Builtin.kindOf name with
  | none => rfl
  | some kind =>
    rw [kindOf, hbuiltin] at h
    cases h
    apply absurd hbuiltin (Builtin.kindOf_ne_interface name)

theorem isType_of_kindOf_object {name : String} (h : s.kindOf name = some .object)
    (hname : Builtin.selfDescription.contains name = false) :
  Builtin.isType name = false
  := by
  apply Builtin.isType_eq_false_iff.mpr ⟨?_, hname⟩
  intro hscalar
  simp [kindOf, Builtin.kindOf, hscalar] at h

/-- The object types that are listed for an interface are those that implement it. -/
theorem mem_implementations_iff {interface name : String} :
  name ∈ s.implementations interface
    ↔ ∃ t ∈ s.types, t.name = name ∧ ∃ interfaces fields,
        t.content = .object interfaces fields ∧ interface ∈ interfaces
  := by
  rw [implementations, List.mem_flatMap]
  apply exists_congr
  intro t
  rw [and_congr_right_iff]
  intro _
  rw [implementing]
  cases t.content <;> simp
  grind

/-- What is listed for an interface of a closed schema is not built in. -/
theorem Closed.of_mem_implementations (h : s.Closed) {interface name : String}
    (hname : name ∈ s.implementations interface) :
  Builtin.isType name = false ∧ s.kindOf name = some .object
  := by
  obtain ⟨t, ht, rfl, interfaces, fields, hcontent, hmem⟩ := mem_implementations_iff.mp hname
  have hbuiltin : Builtin.isType t.name = false := by
    by_contra htrue
    have hempty := h.builtin t ht (by simpa using htrue)
    rw [hcontent, TypeContent.interfaces] at hempty
    rw [hempty] at hmem
    cases hmem
  use hbuiltin
  have hdeclared : t ∈ s.declaredTypes := by simp [declaredTypes, ht, hbuiltin]
  rw [kindOf_eq_some_of_mem hdeclared, hcontent]
  rfl

end Schema

end GraphScribe
