import GraphScribe.Proofs.Model.Descriptor
import GraphScribe.Proofs.TypeScript.TypeExpr
import GraphScribe.TypeScript.Wrapping

/-!
# What wrapped types say

`TypeExpr.around` is what a descriptor says around a base type: at each list level an array of what
the level of the items says, and a union with null where null is admitted.  This is what
`wrapType` writes, and its text says nothing else (`wrapType_binds`): where the text of the items
holds a mark of a union or an intersection it stands in parentheses, and where it does not, brackets
bind the whole of it.
-/

namespace GraphScribe

/-! ### Levels and their items -/

namespace Descriptor

variable {name : String} {nullable isList : Bool} {d item : Descriptor}

/-- A level is a list exactly if it has items. -/
def ListsItems (d : Descriptor) : Prop :=
  ∀ level ∈ d.levels, level.isList = true ↔ level.item.isSome = true

theorem listsItems_leaf_iff :
  ListsItems ⟨name, nullable, isList, none⟩ ↔ isList = false
  := by
  simp [ListsItems, levels_leaf]

theorem listsItems_wrapped_iff :
  ListsItems ⟨name, nullable, isList, some item⟩ ↔ isList = true ∧ item.ListsItems
  := by
  simp [ListsItems, levels_wrapped]

end Descriptor

namespace TypeScript

open Lexeme

variable {T : TypeExpr} {text base : String} {immutable nullable : Bool}

/-! ### What is meant -/

namespace TypeExpr

/-- The union of a type with null, where null is admitted. -/
def orNull (nullable : Bool) (T : TypeExpr) : TypeExpr := if nullable then .union T .null else T

/-- What a descriptor says around a type. -/
def around (immutable : Bool) (T : TypeExpr) : Descriptor → TypeExpr
  | ⟨_, nullable, _, none⟩ => T.orNull nullable
  | ⟨_, nullable, _, some item⟩ => (array immutable (T.around immutable item)).orNull nullable

/-- Whether a type is the union of two sides. -/
def isUnion : TypeExpr → Bool
  | union _ _ => true
  | _ => false

/-- Whether a type is an array. -/
def isArray : TypeExpr → Bool
  | array _ _ => true
  | _ => false

/-- Whether null is admitted is seen around what is no union itself. -/
theorem eq_of_orNull_eq {U : TypeExpr} {nullable' : Bool} (hT : T.isUnion = false)
    (hU : U.isUnion = false) (h : T.orNull nullable = U.orNull nullable') :
  nullable = nullable' ∧ T = U
  := by
  cases nullable <;> cases nullable' <;> simp [orNull] at h
  · exact ⟨rfl, h⟩
  · subst h; cases hT
  · subst h; cases hU
  · exact ⟨rfl, h⟩

/-- The wrappers of a descriptor are seen around what is neither a union nor an array itself. -/
theorem withName_eq_of_around_eq (hunion : T.isUnion = false) (harray : T.isArray = false)
    (name : String) :
  ∀ {d d' : Descriptor}, d.ListsItems → d'.ListsItems →
    T.around immutable d = T.around immutable d' → d.withName name = d'.withName name
  | ⟨_, nullable, isList, none⟩, ⟨_, nullable', isList', none⟩, hd, hd', h => by
      rw [Descriptor.listsItems_leaf_iff] at hd hd'
      obtain ⟨rfl, -⟩ := eq_of_orNull_eq hunion hunion h
      rw [Descriptor.withName, Descriptor.withName, hd, hd']
  | ⟨_, nullable, isList, some item⟩, ⟨_, nullable', isList', some item'⟩, hd, hd', h => by
      rw [Descriptor.listsItems_wrapped_iff] at hd hd'
      obtain ⟨rfl, hitems⟩ := eq_of_orNull_eq rfl rfl h
      have hitem : T.around immutable item = T.around immutable item' := by
        injection hitems
      have ih := withName_eq_of_around_eq hunion harray name hd.2 hd'.2 hitem
      rw [Descriptor.withName, Descriptor.withName, hd.1, hd'.1, ih]
  | ⟨_, _, _, none⟩, ⟨_, _, _, some _⟩, _, _, h => by
      obtain ⟨-, hT⟩ := eq_of_orNull_eq hunion rfl h
      rw [hT] at harray
      cases harray
  | ⟨_, _, _, some _⟩, ⟨_, _, _, none⟩, _, _, h => by
      obtain ⟨-, hT⟩ := eq_of_orNull_eq rfl hunion h
      rw [← hT] at harray
      cases harray

end TypeExpr

/-! ### What is written -/

theorem means_orNull (h : Means text T) (nullable : Bool) :
  Means (orNull nullable text) (T.orNull nullable)
  := by
  cases nullable with
  | false => exact h
  | true =>
    obtain ⟨ts, hts, hT⟩ := h
    have hnull : lexemes? " | null" = some [.mark '|', .word "null"] := by rfl
    use ts ++ [.mark '|', .word "null"]
    constructor
    · have hbreaks : Breaks " | null".toList := by simp [Breaks]; decide
      rw [orNull, if_pos rfl, lexemes?_append hts hbreaks, hnull]
      rfl
    · apply Denotes.union hT (Denotes.suffixed (Denotes.atom Denotes.null))

/-- What stands between a mark and something that ends it is divided on its own. -/
theorem lexemes?_between {ts more : List Lexeme} {opening : Char} {closing : String}
    (hopening : first? opening = some ([.mark opening], .nothing)) (hts : lexemes? text = some ts)
    (hclosing : lexemes? closing = some more) (hbreaks : Breaks closing.toList) :
  lexemes? (String.singleton opening ++ (text ++ closing)) = some (.mark opening :: (ts ++ more))
  := by
  apply lexemes?_mark hopening
  rw [lexemes?_append hts hbreaks, hclosing]
  rfl

theorem lexemes?_readonlyArray {ts : List Lexeme} (hts : lexemes? text = some ts) :
  lexemes? ("ReadonlyArray<" ++ text ++ ">")
    = some (.word "ReadonlyArray" :: .mark '<' :: (ts ++ [.mark '>']))
  := by
  have hword : lexemes? "ReadonlyArray" = some [.word "ReadonlyArray"] := by rfl
  have hargument : lexemes? (String.singleton '<' ++ (text ++ ">"))
      = some (.mark '<' :: (ts ++ [.mark '>'])) := by
    apply lexemes?_between rfl hts rfl
    simp [Breaks]
    decide
  have hbreaks : Breaks (String.singleton '<' ++ (text ++ ">")).toList := by
    simp [Breaks]
    decide
  have htext : "ReadonlyArray<" ++ text ++ ">"
      = "ReadonlyArray" ++ (String.singleton '<' ++ (text ++ ">")) := by
    rw [← String.append_assoc, ← String.append_assoc]
    rfl
  rw [htext, lexemes?_append hword hbreaks, hargument]
  rfl

/-- Where no parentheses are asked for there are no marks of unions and intersections. -/
theorem mark_not_mem_of_needsParentheses {ts : List Lexeme} (hts : lexemes? text = some ts)
    (h : needsParentheses text = false) {c : Char} (hc : c = '|' ∨ c = '&') :
  .mark c ∉ ts
  := by
  intro hmem
  have htext := mem_of_mark_mem hts hmem
  simp only [needsParentheses, List.any_eq_false] at h
  simpa [hc] using h c htext

/-- Brackets bind a whole type: one that would fall apart is put in parentheses. -/
theorem means_arrayOf (h : Means text T) (immutable : Bool) :
  Means (arrayOf immutable text) (.array immutable T)
  := by
  obtain ⟨ts, hts, hT⟩ := h
  have hend : Breaks ")[]".toList ∧ Breaks "[]".toList := by simp [Breaks]; decide
  cases immutable with
  | true =>
    use .word "ReadonlyArray" :: .mark '<' :: (ts ++ [.mark '>']), lexemes?_readonlyArray hts
    apply Denotes.operand (Denotes.suffixed (Denotes.atom (Denotes.readonlyArray hT)))
  | false =>
    cases hparentheses : needsParentheses text with
    | true =>
      use .mark '(' :: (ts ++ [.mark ')']) ++ [.mark '[', .mark ']']
      constructor
      · have hopening : first? '(' = some ([.mark '('], .nothing) := by rfl
        have hclosing : lexemes? ")[]" = some [.mark ')', .mark '[', .mark ']'] := by rfl
        have hbetween := lexemes?_between hopening hts hclosing hend.1
        rw [← String.append_assoc] at hbetween
        simpa [arrayOf, hparentheses] using hbetween
      · apply Denotes.operand (Denotes.suffixed (Denotes.array _))
        apply Denotes.atom (Denotes.parenthesized hT)
    | false =>
      -- Without the marks of unions and intersections the text is all that brackets can bind.
      use ts ++ [.mark '[', .mark ']']
      constructor
      · simp only [arrayOf, hparentheses, Bool.false_eq_true, if_false]
        rw [lexemes?_append hts hend.2]
        rfl
      · apply Denotes.operand (Denotes.suffixed (Denotes.array _))
        apply hT.suffixed_of_no_marks
        · apply mark_not_mem_of_needsParentheses hts hparentheses (.inl rfl)
        · apply mark_not_mem_of_needsParentheses hts hparentheses (.inr rfl)

theorem means_wrapType (h : Means base T) (immutable : Bool) :
  ∀ {d : Descriptor}, d.ListsItems → Means (wrapType base immutable d) (T.around immutable d)
  | ⟨_, nullable, isList, none⟩, hd => by
      rw [Descriptor.listsItems_leaf_iff] at hd
      subst hd
      apply means_orNull h
  | ⟨_, nullable, isList, some item⟩, hd => by
      obtain ⟨rfl, hitem⟩ := Descriptor.listsItems_wrapped_iff.mp hd
      apply means_orNull
      apply means_arrayOf (means_wrapType h immutable hitem)

/-- An identifier says the type with this name, or null. -/
theorem exists_means_of_isIdentifier (h : IsIdentifier base) :
  ∃ T, Means base T ∧ T.isUnion = false ∧ T.isArray = false
  := by
  have hmeans {T : TypeExpr} (hT : Denotes .atom [.word base] T) : Means base T :=
    ⟨_, lexemes?_of_isIdentifier h, Denotes.operand (Denotes.suffixed (Denotes.atom hT))⟩
  by_cases hnull : base = "null"
  · use .null
    constructor
    · apply hmeans
      rw [hnull]
      apply Denotes.null
    · exact ⟨rfl, rfl⟩
  · use .name base
    exact ⟨hmeans (Denotes.name hnull), rfl, rfl⟩

/-- The type that is written for a descriptor says what the descriptor says around the whole base
type, and nothing else.  Around an identifier it tells the wrappers of the descriptor. -/
theorem wrapType_binds (immutable : Bool) :
  (∀ (d : Descriptor) (base : String) (T : TypeExpr), d.ListsItems → Means base T →
      ∀ U, Means (wrapType base immutable d) U ↔ U = T.around immutable d)
    ∧ ∀ (d d' : Descriptor) (base : String), d.ListsItems → d'.ListsItems → IsIdentifier base →
      wrapType base immutable d = wrapType base immutable d' →
      ∀ name, d.withName name = d'.withName name
  := by
  constructor
  · intro d base T hd hT U
    have hmeans := means_wrapType hT immutable hd
    constructor
    · intro hU
      apply hU.unique hmeans
    · rintro rfl
      apply hmeans
  · intro d d' base hd hd' hbase h name
    obtain ⟨T, hT, hunion, harray⟩ := exists_means_of_isIdentifier hbase
    apply TypeExpr.withName_eq_of_around_eq hunion harray name hd hd'
    apply Means.unique (means_wrapType hT immutable hd)
    rw [h]
    apply means_wrapType hT immutable hd'

/-- A list of lists that must be there, whose items may be missing. -/
def sampleRows : Descriptor where
  name := "Row"
  isList := true
  item := some
    { name := "Row"
      nullable := false
      isList := true
      item := some { name := "Row" } }

/-- An object type with a mark of a union in one of its texts, combined with another type. -/
def sampleRow : String := "\x7b kind?: \"a|b\"; \x7d & Node"

/-- What `sampleRow` says. -/
def sampleRowType : TypeExpr :=
  .intersection (.object [(⟨false, "kind", false, true⟩, .literal "a|b")]) (.name "Node")

theorem sampleRow_means :
  Means sampleRow sampleRowType
  := by
  use [.mark '\x7b', .word "kind", .mark '?', .mark ':', .quoted "a|b", .mark ';', .mark '\x7d',
    .mark '&', .word "Node"]
  constructor
  · rfl
  · have hliteral : Denotes .union [.quoted "a|b"] (.literal "a|b") :=
      Denotes.operand (Denotes.suffixed (Denotes.atom Denotes.literal))
    have hobject := Denotes.object (Denotes.property ⟨false, "kind", false, true⟩ (.inl rfl)
      hliteral Denotes.noProperty)
    have hnode : Denotes .suffixed [.word "Node"] (.name "Node") :=
      Denotes.atom (Denotes.name (by decide))
    exact Denotes.operand (Denotes.intersection (Denotes.suffixed (Denotes.atom hobject)) hnode)

theorem wrapType_binds_rows :
  sampleRows.ListsItems ∧ Means sampleRow sampleRowType ∧ IsIdentifier "Row"
    ∧ wrapType sampleRow false sampleRows
      = "((\x7b kind?: \"a|b\"; \x7d & Node | null)[])[] | null"
    ∧ (∀ U, Means (wrapType sampleRow false sampleRows) U
        ↔ U = .union (.array false (.array false (.union sampleRowType .null))) .null)
    ∧ ∀ name, sampleRows.withName name = (sampleRows.withName "Line").withName name
  := by
  have hrows : sampleRows.ListsItems := by
    simp [sampleRows, Descriptor.ListsItems, Descriptor.levels]
  have hlines : (sampleRows.withName "Line").ListsItems := by
    simp [sampleRows, Descriptor.withName, Descriptor.ListsItems, Descriptor.levels]
  have hrow : IsIdentifier "Row" :=
    ⟨'R', ['o', 'w'], by decide, by decide, List.all_eq_true.mp (by decide)⟩
  use hrows, sampleRow_means, hrow
  constructor
  · decide
  · constructor
    · apply (wrapType_binds false).1 sampleRows sampleRow sampleRowType hrows sampleRow_means
    · apply (wrapType_binds false).2 sampleRows _ "Row" hrows hlines hrow
      rfl

end TypeScript

end GraphScribe
