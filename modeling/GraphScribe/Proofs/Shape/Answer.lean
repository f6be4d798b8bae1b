import GraphScribe.Proofs.Selection.Groups
import GraphScribe.Proofs.Shape.Linking
import GraphScribe.Value

/-!
# Answers to selections

`Selection.IsResponse` says which values answer a selection set on a type, read off the selections
and the model alone, and `Shape.Conforms` which values a shape describes, read off the shape alone.
Both are about objects whose keys are known (`Value.IsObject`), and about values inside the
wrappers of a type reference (`Descriptor.Admits`).  What the values of a leaf type are is left
open.
-/

namespace GraphScribe

/-- An object with some keys, each once, and with values as they are wanted under their keys. -/
def Value.IsObject (keys : String → Prop) (wanted : String → Value → Prop) (v : Value) : Prop :=
  ∃ entries, v = .object entries ∧ (entries.map Prod.fst).Nodup
    ∧ (∀ key, key ∈ entries.map Prod.fst ↔ keys key)
    ∧ ∀ key x, (key, x) ∈ entries → wanted key x

theorem Value.isObject_congr {keys keys' : String → Prop} {wanted wanted' : String → Value → Prop}
    (hkeys : ∀ key, keys key ↔ keys' key)
    (hwanted : ∀ key, keys key → ∀ x, wanted key x ↔ wanted' key x) (v : Value) :
  v.IsObject keys wanted ↔ v.IsObject keys' wanted'
  := by
  apply exists_congr
  intro entries
  simp only [hkeys]
  apply and_congr_right
  intro _
  apply and_congr_right
  intro _
  apply and_congr_right
  intro hentries
  have hkey : ∀ key x, (key, x) ∈ entries → keys key := by
    intro key x hx
    rw [hkeys, ← hentries]
    apply List.mem_map.mpr ⟨_, hx, rfl⟩
  constructor
  · intro h key x hx
    apply (hwanted key (hkey key x hx) x).mp (h key x hx)
  · intro h key x hx
    apply (hwanted key (hkey key x hx) x).mpr (h key x hx)

namespace Descriptor

/-- The values of a reference with the levels of a descriptor, of which those inside all wrappers
are as `inner` says: null where a level admits it, and the list of its items for a list. -/
def Admits (inner : Value → Prop) : Descriptor → Value → Prop
  | ⟨_, nullable, _, none⟩, v => nullable = true ∧ v = .null ∨ v ≠ .null ∧ inner v
  | ⟨_, nullable, _, some item⟩, v =>
    nullable = true ∧ v = .null ∨ ∃ items, v = .list items ∧ ∀ x ∈ items, Admits inner item x

/-- Another name inside the wrappers makes no difference to what they admit. -/
theorem admits_withName (name : String) {inner : Value → Prop} :
  ∀ (d : Descriptor) (v : Value), (d.withName name).Admits inner v ↔ d.Admits inner v
  | ⟨_, _, _, none⟩, _ => by
      simp only [withName, Admits]
  | ⟨_, _, _, some item⟩, _ => by
      simp only [withName, Admits, admits_withName name item]

theorem admits_congr {inner inner' : Value → Prop} (h : ∀ v, inner v ↔ inner' v) (d : Descriptor)
    (v : Value) :
  d.Admits inner v ↔ d.Admits inner' v
  := by
  have : inner = inner' := funext fun v => propext (h v)
  rw [this]

end Descriptor

/-! ### Responses -/

namespace Selection

/-- The name of the field that is selected. -/
def fieldName? : Selection → Option String
  | field _ name _ _ _ => some name
  | spread _ _ => none
  | inline _ _ _ => none

/-- The fields of a selection set that are answered under a key, in order. -/
def fieldsAt (ss : List Selection) (key : String) : List Selection :=
  ss.filter fun s => s.key? = some key

section

variable (m : Model) (leaf : String → Value → Prop)

/-- A value that answers some selections on a type: an object with exactly their response keys,
in which the first field of a key says what it stands for, and all fields of the key what is
selected below.  The values of the leaf type called `name` are those with `leaf name`. -/
def IsResponse (T : String) (ss : List Selection) (v : Value) : Prop :=
  v.IsObject (fun key => ∃ s ∈ ss, s.key? = some key) fun key x =>
    ∃ name, ∃ _ : (fieldsAt ss key).head?.bind fieldName? = some name,
      if name = Walk.typenameField then ∃ type ∈ m.possibleTypes T, x = .string type
      else ∃ f, m.field? T name = some f ∧ f.descriptor.Admits (fun y =>
        if f.kind.isComposite then
          IsResponse f.descriptor.name ((fieldsAt ss key).flatMap children) y
        else leaf f.descriptor.name y) x
termination_by depths ss
decreasing_by
  rename_i first _ _
  apply depths_children_lt
  · apply List.filter_subset_self
  · intro hnil
    rw [hnil] at first
    cases first

/-- What a response holds under a key. -/
def IsAnswer (T : String) (ss : List Selection) (key : String) (x : Value) : Prop :=
  ∃ name, (fieldsAt ss key).head?.bind fieldName? = some name ∧
    if name = Walk.typenameField then ∃ type ∈ m.possibleTypes T, x = .string type
    else ∃ f, m.field? T name = some f ∧ f.descriptor.Admits (fun y =>
      if f.kind.isComposite then
        IsResponse m leaf f.descriptor.name ((fieldsAt ss key).flatMap children) y
      else leaf f.descriptor.name y) x

theorem isResponse_iff {T : String} {ss : List Selection} {v : Value} :
  IsResponse m leaf T ss v
    ↔ v.IsObject (fun key => ∃ s ∈ ss, s.key? = some key) (IsAnswer m leaf T ss)
  := by
  rw [IsResponse]
  simp only [exists_prop]
  rfl

end

end Selection

/-! ### Conforming values -/

/-- A value of a property without a shape below it: one of the names listed for an aliased
`__typename`, and otherwise one of the leaf type. -/
def Property.IsLeafValue (leaf : String → Value → Prop) (p : Property) (v : Value) : Prop :=
  if p.typenames = [] then leaf p.descriptor.name v else ∃ type ∈ p.typenames, v = .string type

namespace Shape

/-- A value that a shape describes: an object with its properties, and with `__typename` if it
is selected under its own name.  This is about shapes without spreads and inline fragments,
which describe parts of the same object. -/
def Conforms (leaf : String → Value → Prop) (s : Shape) (v : Value) : Prop :=
  v.IsObject
    (fun key => (∃ q ∈ s.properties, q.1.name = key)
      ∨ s.typenameSelected = true ∧ key = Walk.typenameField)
    fun key x =>
      (s.typenameSelected = true → key = Walk.typenameField →
          ∃ type ∈ s.typename.literals, x = .string type)
        ∧ (∀ p, (p, none) ∈ s.properties → p.name = key →
            p.descriptor.Admits (p.IsLeafValue leaf) x)
        ∧ ∀ p s', (_ : (p, some s') ∈ s.properties) → p.name = key →
            p.descriptor.Admits (fun y => s'.Conforms leaf y) x
termination_by sizeOf s
decreasing_by
  apply sizeOf_lt_of_holds
  apply Or.inl ⟨p, by assumption⟩

/-- The values inside the wrappers of a property. -/
def IsInner (leaf : String → Value → Prop) : Property × Option Shape → Value → Prop
  | (p, none) => p.IsLeafValue leaf
  | (_, some s) => s.Conforms leaf

/-- What a shape describes under a key. -/
def Describes (leaf : String → Value → Prop) (s : Shape) (key : String) (x : Value) : Prop :=
  (s.typenameSelected = true → key = Walk.typenameField →
      ∃ type ∈ s.typename.literals, x = .string type)
    ∧ ∀ q ∈ s.properties, q.1.name = key → q.1.descriptor.Admits (IsInner leaf q) x

theorem conforms_iff {leaf : String → Value → Prop} {s : Shape} {v : Value} :
  s.Conforms leaf v
    ↔ v.IsObject
        (fun key => (∃ q ∈ s.properties, q.1.name = key)
          ∨ s.typenameSelected = true ∧ key = Walk.typenameField)
        (s.Describes leaf)
  := by
  rw [Conforms]
  apply Value.isObject_congr
  · intro key
    rfl
  · intro key _ x
    apply and_congr_right
    intro _
    constructor
    · rintro ⟨hleaf, hnested⟩ ⟨p, _ | s'⟩ hq hname
      · apply hleaf p hq hname
      · apply hnested p s' hq hname
    · intro h
      constructor
      · intro p hq hname
        apply h (p, none) hq hname
      · intro p s' hq hname
        apply h (p, some s') hq hname

end Shape

end GraphScribe
