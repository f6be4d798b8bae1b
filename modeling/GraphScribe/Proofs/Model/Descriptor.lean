import GraphScribe.Batch
import GraphScribe.Proofs.Model.Registries
import GraphScribe.Schema.OfIntrospection
import Mathlib.Tactic.Use

/-!
# Descriptors and type references

A descriptor is written like a type reference, with brackets around the items of a list and a
mark where null is excluded.  `Descriptor.reference` leads back to the reference: it inverts
`TypeRef.descriptor` between the references without doubled marks (`TypeRef.IsProper`) and the
descriptors that have one name and call list what has items (`Descriptor.IsRegular`).  A text
belongs to one reference only, so that the fields and arguments of a schema and the variables of
a document that are written alike get the same descriptor.
-/

namespace GraphScribe

open Result

namespace TypeRef

/-- Whether no non-null mark stands directly on another. -/
def IsProper : TypeRef → Prop
  | named _ => True
  | list item => item.IsProper
  | nonNull inner => inner.isNonNull = false ∧ inner.IsProper

/-- The reference at a place that admits null if `nullable`. -/
def marked (nullable : Bool) (t : TypeRef) : TypeRef :=
  match nullable with
  | true => t
  | false => nonNull t

end TypeRef

namespace Descriptor

variable {name : String} {nullable isList : Bool} {item : Descriptor}

/-- What is written after a type at a place that admits null if `nullable`. -/
def mark (nullable : Bool) : String := if nullable then "" else "!"

/-- The descriptor as the language writes a type. -/
def text : Descriptor → String
  | ⟨name, nullable, _, none⟩ => name ++ mark nullable
  | ⟨_, nullable, _, some item⟩ => "[" ++ item.text ++ "]" ++ mark nullable

/-- The descriptor and those inside, from outside in. -/
def levels : Descriptor → List Descriptor
  | ⟨name, nullable, isList, none⟩ => [⟨name, nullable, isList, none⟩]
  | ⟨name, nullable, isList, some item⟩ => ⟨name, nullable, isList, some item⟩ :: item.levels

/-- The name at the innermost level. -/
def innermost : Descriptor → String
  | ⟨name, _, _, none⟩ => name
  | ⟨_, _, _, some item⟩ => item.innermost

/-- Every level carries the innermost name, and is a list exactly if it has items. -/
def IsRegular (d : Descriptor) : Prop :=
  ∀ level ∈ d.levels, level.name = d.innermost ∧ (level.isList = true ↔ level.item.isSome = true)

/-- The type reference that a descriptor describes. -/
def reference : Descriptor → TypeRef
  | ⟨name, nullable, _, none⟩ => (TypeRef.named name).marked nullable
  | ⟨_, nullable, _, some item⟩ => (TypeRef.list item.reference).marked nullable

/-! ### Equations of the definitions -/

theorem text_leaf :
  text ⟨name, nullable, isList, none⟩ = name ++ mark nullable
  := rfl

theorem text_wrapped :
  text ⟨name, nullable, isList, some item⟩ = "[" ++ item.text ++ "]" ++ mark nullable
  := rfl

theorem levels_leaf :
  levels ⟨name, nullable, isList, none⟩ = [⟨name, nullable, isList, none⟩]
  := rfl

theorem levels_wrapped :
  levels ⟨name, nullable, isList, some item⟩
    = ⟨name, nullable, isList, some item⟩ :: item.levels
  := rfl

theorem innermost_leaf :
  innermost ⟨name, nullable, isList, none⟩ = name
  := rfl

theorem innermost_wrapped :
  innermost ⟨name, nullable, isList, some item⟩ = item.innermost
  := rfl

theorem reference_leaf :
  reference ⟨name, nullable, isList, none⟩ = (TypeRef.named name).marked nullable
  := rfl

theorem reference_wrapped :
  reference ⟨name, nullable, isList, some item⟩ = (TypeRef.list item.reference).marked nullable
  := rfl

theorem mark_true :
  mark true = ""
  := rfl

theorem mark_false :
  mark false = "!"
  := rfl

/-! ### Regular descriptors -/

theorem mem_levels_self (d : Descriptor) :
  d ∈ d.levels
  := by
  rcases d with ⟨name, nullable, isList, _ | item⟩
  · apply List.mem_singleton_self
  · apply List.mem_cons_self

theorem isRegular_leaf_iff :
  IsRegular ⟨name, nullable, isList, none⟩ ↔ isList = false
  := by
  simp [IsRegular, levels_leaf, innermost_leaf]

theorem isRegular_wrapped_iff :
  IsRegular ⟨name, nullable, isList, some item⟩
    ↔ name = item.name ∧ isList = true ∧ item.IsRegular
  := by
  simp only [IsRegular, levels_wrapped, innermost_wrapped, List.forall_mem_cons,
    Option.isSome_some, iff_true]
  constructor
  · rintro ⟨⟨hname, hlist⟩, hitem⟩
    use hname.trans (hitem item item.mem_levels_self).1.symm, hlist, hitem
  · rintro ⟨hname, hlist, hitem⟩
    use ⟨hname.trans (hitem item item.mem_levels_self).1, hlist⟩, hitem

end Descriptor

namespace TypeRef

/-- However a reference nests its wrappers, its descriptor has one name. -/
theorem isRegular_descriptorAt (t : TypeRef) (nullable : Bool) :
  (t.descriptorAt nullable).innermost = t.base ∧ (t.descriptorAt nullable).IsRegular
  := by
  induction t generalizing nullable with
  | named name => use rfl, Descriptor.isRegular_leaf_iff.mpr rfl
  | list item ih =>
    obtain ⟨hinnermost, hregular⟩ := ih true
    use hinnermost, Descriptor.isRegular_wrapped_iff.mpr ⟨rfl, rfl, hregular⟩
  | nonNull inner ih => apply ih false

end TypeRef

/-! ### From descriptors back to references -/

namespace TypeRef

variable {t : TypeRef}

theorem text_list :
  (list t).text = "[" ++ t.text ++ "]"
  := rfl

theorem text_nonNull :
  (nonNull t).text = t.text ++ "!"
  := rfl

theorem isProper_marked {nullable : Bool} (hmark : t.isNonNull = false) (h : t.IsProper) :
  (t.marked nullable).IsProper
  := by
  cases nullable with
  | true => exact h
  | false => exact ⟨hmark, h⟩

theorem descriptor_marked {nullable : Bool} :
  (t.marked nullable).descriptor = t.descriptorAt nullable
  := by
  cases nullable with
  | true => rfl
  | false => rfl

theorem text_marked {nullable : Bool} :
  (t.marked nullable).text = t.text ++ Descriptor.mark nullable
  := by
  cases nullable with
  | true => exact String.append_empty.symm
  | false => rfl

/-- A reference is read back from its descriptor at any place: where it excludes null itself the
place makes no difference, and elsewhere the place is read back with it. -/
theorem reference_descriptorAt (h : t.IsProper) (nullable : Bool) :
  (t.descriptorAt nullable).reference = if t.isNonNull then t else t.marked nullable
  := by
  induction t generalizing nullable with
  | named name => rfl
  | list item ih =>
    have hitem : (item.descriptorAt true).reference = item := by
      rw [ih h true]
      apply ite_self
    simp only [descriptorAt, Descriptor.reference_wrapped, hitem]
    rfl
  | nonNull inner ih =>
    obtain ⟨hmark, hinner⟩ := h
    rw [descriptorAt, ih hinner false, hmark]
    rfl

theorem reference_descriptor (h : t.IsProper) :
  t.descriptor.reference = t
  := by
  rw [descriptor, reference_descriptorAt h]
  apply ite_self

end TypeRef

namespace Descriptor

theorem isProper_reference :
  ∀ d : Descriptor, d.reference.IsProper
  | ⟨_, _, _, none⟩ => TypeRef.isProper_marked rfl trivial
  | ⟨_, _, _, some item⟩ => TypeRef.isProper_marked rfl (isProper_reference item)

theorem descriptor_reference :
  ∀ {d : Descriptor}, d.IsRegular → d.reference.descriptor = d
  | ⟨name, nullable, isList, none⟩, h => by
      rw [isRegular_leaf_iff] at h
      rw [reference_leaf, TypeRef.descriptor_marked, h]
      rfl
  | ⟨name, nullable, isList, some item⟩, h => by
      obtain ⟨hname, hlist, hitem⟩ := isRegular_wrapped_iff.mp h
      have ih : item.reference.descriptorAt true = item := descriptor_reference hitem
      simp only [reference_wrapped, TypeRef.descriptor_marked, TypeRef.descriptorAt, ih, hname,
        hlist]

theorem text_reference :
  ∀ d : Descriptor, d.reference.text = d.text
  | ⟨_, _, _, none⟩ => TypeRef.text_marked
  | ⟨_, _, _, some item⟩ => by
      rw [reference_wrapped, TypeRef.text_marked, TypeRef.text_list, text_reference item,
        text_wrapped]

/-! ### Another name in the same wrappers -/

theorem eq_of_mem_mark {nullable : Bool} {c : Char} (h : c ∈ (mark nullable).toList) :
  c = '!'
  := by
  cases nullable with
  | true => simp [mark_true] at h
  | false => simpa [mark_false] using h

/-- What stands around the innermost name in the text of a descriptor: brackets before it, and
brackets and marks after it, which another name leaves where they are. -/
theorem exists_text_withName :
  ∀ d : Descriptor, ∃ before after : String,
    (∀ c ∈ before.toList, c = '[') ∧ (∀ c ∈ after.toList, c = ']' ∨ c = '!')
      ∧ d.text = before ++ d.innermost ++ after
      ∧ ∀ name, (d.withName name).text = before ++ name ++ after
  | ⟨_, nullable, _, none⟩ => by
      use "", mark nullable
      use by simp, fun c hc => .inr (eq_of_mem_mark hc)
      simp [text_leaf, innermost_leaf, withName]
  | ⟨_, nullable, isList, some item⟩ => by
      obtain ⟨before, after, hbefore, hafter, htext, hwithName⟩ := exists_text_withName item
      use "[" ++ before, after ++ "]" ++ mark nullable
      constructor
      · simpa using hbefore
      constructor
      · intro c hc
        simp only [String.toList_append, List.mem_append] at hc
        rcases hc with (hc | hc) | hc
        · apply hafter c hc
        · exact .inl (by simpa using hc)
        · exact .inr (eq_of_mem_mark hc)
      constructor
      · simp only [text_wrapped, htext, innermost_wrapped, String.append_assoc]
      · intro name
        simp only [withName, text_wrapped, hwithName, String.append_assoc]

end Descriptor

/-! ### The text of a reference -/

namespace TypeRef

variable {name : String} {t u : TypeRef}

/-- A name has no brackets and marks. -/
theorem not_mem_name {c : Char} (h : Introspection.isName name = true)
    (hc : Token.isNameStart c = false ∧ Token.isNameContinue c = false) :
  c ∉ name.toList
  := by
  unfold Introspection.isName at h
  split at h
  next hname => simp [hname]
  next first rest hname =>
    rw [Bool.and_eq_true, List.all_eq_true] at h
    rw [hname, List.mem_cons, not_or]
    constructor
    · rintro rfl
      simp [hc.1] at h
    · intro hmem
      simpa [hc.2] using h.2 c hmem

theorem name_ne_text_list (h : Introspection.isName name = true) :
  name ≠ (list t).text
  := by
  rintro rfl
  apply not_mem_name h (c := '[') (by decide)
  simp [text_list]

theorem name_ne_text_nonNull (h : Introspection.isName name = true) :
  name ≠ (nonNull t).text
  := by
  rintro rfl
  apply not_mem_name h (c := '!') (by decide)
  simp [text_nonNull]

theorem text_list_ne_text_nonNull :
  (list t).text ≠ (nonNull u).text
  := by
  intro h
  have hlist : (list t).text.toList = ("[" ++ t.text).toList ++ [']'] := String.toList_append
  have hmark : (nonNull u).text.toList = u.text.toList ++ ['!'] := String.toList_append
  rw [h, hmark] at hlist
  -- one text cannot end both in a mark and in a bracket
  cases (List.append_inj' hlist rfl).2

/-- A text is that of one reference only. -/
theorem eq_of_text_eq (ht : Introspection.isName t.base = true)
    (hu : Introspection.isName u.base = true) (h : t.text = u.text) :
  t = u
  := by
  induction t generalizing u with
  | named name =>
    cases u with
    | named name' => exact congrArg named h
    | list item' => cases name_ne_text_list ht h
    | nonNull inner' => cases name_ne_text_nonNull ht h
  | list item ih =>
    cases u with
    | named name' => cases name_ne_text_list hu h.symm
    | list item' =>
      have hitem : item.text = item'.text := by
        rw [← String.toList_inj]
        simpa [text_list] using congrArg String.toList h
      have heq : item = item' := ih ht hu hitem
      rw [heq]
    | nonNull inner' => cases text_list_ne_text_nonNull h
  | nonNull inner ih =>
    cases u with
    | named name' => cases name_ne_text_nonNull hu h.symm
    | list item' => cases text_list_ne_text_nonNull h.symm
    | nonNull inner' =>
      have hinner : inner.text = inner'.text := by
        rw [← String.toList_inj]
        simpa [text_nonNull] using congrArg String.toList h
      have heq : inner = inner' := ih ht hu hinner
      rw [heq]

end TypeRef

/-! ### Where descriptors come from -/

namespace Schema

variable {s : Schema}

/-- In the model of the schema, a reference of the schema becomes a descriptor: that of a field, of
a field of an input type or of an argument. -/
inductive Resolves (s : Schema) : TypeRef → Descriptor → Prop
  | field {f : OutputField} {f' : Field} (h : s.field f = .ok f') : Resolves s f.type f'.descriptor
  | inputField {v : InputValue} {f : Field} (h : s.inputField v = .ok f) :
      Resolves s v.type f.descriptor
  | argument {v : InputValue} {a : Argument} (h : s.argument v = .ok a) :
      Resolves s v.type a.descriptor

theorem Resolves.eq_descriptor {t : TypeRef} {d : Descriptor} (h : s.Resolves t d) :
  d = t.descriptor
  := by
  cases h with
  | field h =>
    obtain ⟨kind, arguments, -, -, rfl⟩ := field_eq_ok_iff.mp h
    rfl
  | inputField h =>
    obtain ⟨kind, default, -, -, rfl⟩ := inputField_eq_ok_iff.mp h
    rfl
  | argument h =>
    obtain ⟨kind, default, -, -, rfl⟩ := argument_eq_ok_iff.mp h
    rfl

end Schema

namespace Batch

variable {model : Model} {ns : String} {v : VariableDeclaration} {p : Property}

theorem descriptor_of_variableProperty (h : variableProperty model ns v = .ok p) :
  p.descriptor = v.type.descriptor
  := by
  dsimp only [variableProperty] at h
  split at h
  · cases h
  · cases h
    rfl

end Batch

namespace TypeRef

/-- A descriptor keeps all of a type reference, and nothing but the reference.  Its text is that of
the reference.  All of its levels carry one name, and are lists where they have items; every
descriptor of this kind comes from one reference.  A reference of a schema and the type of a
variable that are written alike get the same descriptor.  Another name stands in the text of a
descriptor where the innermost name stood. -/
theorem descriptor_faithful :
  (∀ t : TypeRef, t.IsProper → t.descriptor.text = t.text)
    ∧ (∀ t : TypeRef, t.descriptor.innermost = t.base ∧ t.descriptor.IsRegular)
    ∧ (∀ d : Descriptor, d.IsRegular → ∃! t : TypeRef, t.IsProper ∧ t.descriptor = d)
    ∧ (∀ t u : TypeRef, Introspection.isName t.base = true → Introspection.isName u.base = true →
        t.text = u.text → t.descriptor = u.descriptor)
    ∧ (∀ (s : Schema) (t : TypeRef) (d : Descriptor) (model : Model) (ns : String)
        (v : VariableDeclaration) (p : Property),
        s.Resolves t d → Batch.variableProperty model ns v = .ok p →
        Introspection.isName t.base = true → Introspection.isName v.type.base = true →
        t.text = v.type.text → d = p.descriptor)
    ∧ (∀ d : Descriptor, ∃ before after : String,
        (∀ c ∈ before.toList, c = '[') ∧ (∀ c ∈ after.toList, c = ']' ∨ c = '!')
          ∧ d.text = before ++ d.innermost ++ after
          ∧ ∀ name, (d.withName name).text = before ++ name ++ after)
  := by
  have hsame (t u : TypeRef) (ht : Introspection.isName t.base = true)
      (hu : Introspection.isName u.base = true) (h : t.text = u.text) :
      t.descriptor = u.descriptor := by
    rw [eq_of_text_eq ht hu h]
  constructor
  · intro t ht
    rw [← Descriptor.text_reference, reference_descriptor ht]
  constructor
  · intro t
    apply isRegular_descriptorAt
  constructor
  · intro d hd
    use d.reference, ⟨d.isProper_reference, Descriptor.descriptor_reference hd⟩
    rintro t ⟨ht, rfl⟩
    apply (reference_descriptor ht).symm
  constructor
  · exact hsame
  constructor
  · intro s t d model ns v p hd hp ht hv h
    rw [hd.eq_descriptor, Batch.descriptor_of_variableProperty hp]
    apply hsame t v.type ht hv h
  · apply Descriptor.exists_text_withName

/-- A list of lists that must be there and holds no null among its numbers. -/
def table : TypeRef := nonNull (list (list (nonNull (named "Int"))))

/-- The descriptor of `table`. -/
def tableDescriptor : Descriptor where
  name := "Int"
  nullable := false
  isList := true
  item := some
    { name := "Int"
      isList := true
      item := some { name := "Int", nullable := false } }

/-- A schema that declares nothing. -/
def emptySchema : Schema where
  types := []
  distinct := List.nodup_nil

/-- A field of a schema whose type is `table`. -/
def tableField : OutputField := { name := "rows", type := table }

/-- A variable of a document whose type is `table`. -/
def tableVariable : VariableDeclaration := { name := "rows", type := table }

/-- The descriptor of a nested list has the text of the list and leads back to it; a field of a
schema and a variable of a document that are of this type have the same descriptor. -/
theorem descriptor_faithful_table :
  table.IsProper ∧ tableDescriptor.text = "[[Int!]]!"
    ∧ (tableDescriptor.IsRegular ∧ ∃! t : TypeRef, t.IsProper ∧ t.descriptor = tableDescriptor)
    ∧ ∃ (f : Field) (p : Property), emptySchema.field tableField = .ok f
        ∧ Batch.variableProperty {} "Q" tableVariable = .ok p ∧ f.descriptor = p.descriptor
  := by
  obtain ⟨htext, hregular, hunique, -, hsame, -⟩ := descriptor_faithful
  have hproper : table.IsProper := ⟨rfl, rfl, trivial⟩
  use hproper, htext table hproper, ⟨(hregular table).2, hunique tableDescriptor (hregular table).2⟩
  obtain ⟨f, hf⟩ : ∃ f, emptySchema.field tableField = .ok f := ⟨_, rfl⟩
  obtain ⟨p, hp⟩ : ∃ p, Batch.variableProperty {} "Q" tableVariable = .ok p := ⟨_, rfl⟩
  use f, p, hf, hp
  apply hsame emptySchema table _ {} "Q" tableVariable p (.field hf) hp (by decide) (by decide) rfl

end TypeRef

end GraphScribe
