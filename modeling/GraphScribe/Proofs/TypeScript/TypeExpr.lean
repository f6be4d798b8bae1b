import GraphScribe.Proofs.TypeScript.Lexeme

/-!
# Type expressions

`Denotes` is the grammar of types: brackets bind tighter than the mark of an intersection, and that
tighter than the mark of a union; both marks join what stands before them with one operand.  `Reads`
goes through the lexemes from left to right and takes as much as it can at each level.  It reads
what the grammar says (`Denotes.reads`) and has no choice (`Reads.unique`), so that a text denotes
one type only (`Means.unique`).
-/

namespace GraphScribe.TypeScript

open Lexeme

/-- What stands before the type of a property in an object type. -/
structure Header where
  isReadonly : Bool
  key : String
  isQuoted : Bool
  isOptional : Bool

/-- What a type says.  A union and an intersection have two sides, those of more operands stand on
the left. -/
inductive TypeExpr where
  | null
  | name (text : String)
  | literal (text : String)
  | object (properties : List (Header × TypeExpr))
  | array (isReadonly : Bool) (item : TypeExpr)
  | intersection (left right : TypeExpr)
  | union (left right : TypeExpr)

/-- How loosely the parts of a type are bound: the properties of an object type, what holds together
by itself, a type with brackets behind it, an intersection, and a union. -/
inductive Level where
  | properties
  | atom
  | suffixed
  | intersection
  | union

namespace Header

/-- How the key of a property is written. -/
def keyLexeme (h : Header) : Lexeme := if h.isQuoted then .quoted h.key else .word h.key

/-- How a header is written. -/
def lexemes (h : Header) : List Lexeme :=
  (if h.isReadonly then [.word "readonly"] else [])
    ++ h.keyLexeme :: ((if h.isOptional then [.mark '?'] else []) ++ [.mark ':'])

end Header

/-! ### The grammar -/

/-- What the lexemes of a type say at some level. -/
inductive Denotes : Level → List Lexeme → TypeExpr → Prop
  | null : Denotes .atom [.word "null"] .null
  | name {w : String} (hw : w ≠ "null") : Denotes .atom [.word w] (.name w)
  | literal {s : String} : Denotes .atom [.quoted s] (.literal s)
  | readonlyArray {ts : List Lexeme} {T : TypeExpr} (h : Denotes .union ts T) :
      Denotes .atom (.word "ReadonlyArray" :: .mark '<' :: (ts ++ [.mark '>'])) (.array true T)
  | parenthesized {ts : List Lexeme} {T : TypeExpr} (h : Denotes .union ts T) :
      Denotes .atom (.mark '(' :: (ts ++ [.mark ')'])) T
  | object {ts : List Lexeme} {T : TypeExpr} (h : Denotes .properties ts T) :
      Denotes .atom (.mark '\x7b' :: (ts ++ [.mark '\x7d'])) T
  | noProperty : Denotes .properties [] (.object [])
  | lastProperty (header : Header) {ts : List Lexeme} {T : TypeExpr} (h : Denotes .union ts T) :
      Denotes .properties (header.lexemes ++ ts) (.object [(header, T)])
  | property (header : Header) {c : Char} {ts us : List Lexeme} {T : TypeExpr}
      {ps : List (Header × TypeExpr)} (hc : c = ';' ∨ c = ',') (h : Denotes .union ts T)
      (hps : Denotes .properties us (.object ps)) :
      Denotes .properties (header.lexemes ++ (ts ++ .mark c :: us)) (.object ((header, T) :: ps))
  | atom {ts : List Lexeme} {T : TypeExpr} (h : Denotes .atom ts T) : Denotes .suffixed ts T
  | array {ts : List Lexeme} {T : TypeExpr} (h : Denotes .suffixed ts T) :
      Denotes .suffixed (ts ++ [.mark '[', .mark ']']) (.array false T)
  | suffixed {ts : List Lexeme} {T : TypeExpr} (h : Denotes .suffixed ts T) :
      Denotes .intersection ts T
  | intersection {ts us : List Lexeme} {T U : TypeExpr} (h : Denotes .intersection ts T)
      (h' : Denotes .suffixed us U) :
      Denotes .intersection (ts ++ .mark '&' :: us) (.intersection T U)
  | operand {ts : List Lexeme} {T : TypeExpr} (h : Denotes .intersection ts T) :
      Denotes .union ts T
  | union {ts us : List Lexeme} {T U : TypeExpr} (h : Denotes .union ts T)
      (h' : Denotes .intersection us U) :
      Denotes .union (ts ++ .mark '|' :: us) (.union T U)

/-! ### Reading from left to right -/

/-- Where one is in a type: before a part of some level, or behind a part that may go on. -/
inductive Phase where
  | before (l : Level)
  | behind (l : Level) (T : TypeExpr)

/-- What is read in some phase, and the lexemes that are left then. -/
inductive Reads : Phase → List Lexeme → TypeExpr → List Lexeme → Prop
  | null {rest : List Lexeme} : Reads (.before .atom) (.word "null" :: rest) .null rest
  | name {w : String} {rest : List Lexeme} (hw : w ≠ "null")
      (hrest : rest.head? ≠ some (.mark '<')) :
      Reads (.before .atom) (.word w :: rest) (.name w) rest
  | literal {s : String} {rest : List Lexeme} :
      Reads (.before .atom) (.quoted s :: rest) (.literal s) rest
  | readonlyArray {w : String} {ts rest : List Lexeme} {T : TypeExpr} (hw : w = "ReadonlyArray")
      (h : Reads (.before .union) ts T (.mark '>' :: rest)) :
      Reads (.before .atom) (.word w :: .mark '<' :: ts) (.array true T) rest
  | parenthesized {ts rest : List Lexeme} {T : TypeExpr}
      (h : Reads (.before .union) ts T (.mark ')' :: rest)) :
      Reads (.before .atom) (.mark '(' :: ts) T rest
  | object {ts rest : List Lexeme} {T : TypeExpr}
      (h : Reads (.before .properties) ts T (.mark '\x7d' :: rest)) :
      Reads (.before .atom) (.mark '\x7b' :: ts) T rest
  | noProperty {ts : List Lexeme} (hts : ts.head? = some (.mark '\x7d')) :
      Reads (.before .properties) ts (.object []) ts
  | lastProperty {header : Header} {ts us rest : List Lexeme} {T : TypeExpr}
      (hts : ts = header.lexemes ++ us) (h : Reads (.before .union) us T rest)
      (hrest : rest.head? = some (.mark '\x7d')) :
      Reads (.before .properties) ts (.object [(header, T)]) rest
  | property {header : Header} {c : Char} {ts us vs rest : List Lexeme} {T : TypeExpr}
      {ps : List (Header × TypeExpr)} (hts : ts = header.lexemes ++ us) (hc : c = ';' ∨ c = ',')
      (h : Reads (.before .union) us T (.mark c :: vs))
      (hps : Reads (.before .properties) vs (.object ps) rest) :
      Reads (.before .properties) ts (.object ((header, T) :: ps)) rest
  | suffixed {ts mid rest : List Lexeme} {T U : TypeExpr} (h : Reads (.before .atom) ts T mid)
      (h' : Reads (.behind .suffixed T) mid U rest) : Reads (.before .suffixed) ts U rest
  | intersection {ts mid rest : List Lexeme} {T U : TypeExpr}
      (h : Reads (.before .suffixed) ts T mid) (h' : Reads (.behind .intersection T) mid U rest) :
      Reads (.before .intersection) ts U rest
  | union {ts mid rest : List Lexeme} {T U : TypeExpr} (h : Reads (.before .intersection) ts T mid)
      (h' : Reads (.behind .union T) mid U rest) : Reads (.before .union) ts U rest
  | properties {rest : List Lexeme} {T : TypeExpr} : Reads (.behind .properties T) rest T rest
  | atom {rest : List Lexeme} {T : TypeExpr} : Reads (.behind .atom T) rest T rest
  | brackets {ts rest : List Lexeme} {T U : TypeExpr}
      (h : Reads (.behind .suffixed (.array false T)) ts U rest) :
      Reads (.behind .suffixed T) (.mark '[' :: .mark ']' :: ts) U rest
  | noBrackets {rest : List Lexeme} {T : TypeExpr} (h : rest.head? ≠ some (.mark '[')) :
      Reads (.behind .suffixed T) rest T rest
  | meet {ts mid rest : List Lexeme} {T U V : TypeExpr} (h : Reads (.before .suffixed) ts U mid)
      (h' : Reads (.behind .intersection (.intersection T U)) mid V rest) :
      Reads (.behind .intersection T) (.mark '&' :: ts) V rest
  | noMeet {rest : List Lexeme} {T : TypeExpr} (h : rest.head? ≠ some (.mark '&')) :
      Reads (.behind .intersection T) rest T rest
  | join {ts mid rest : List Lexeme} {T U V : TypeExpr}
      (h : Reads (.before .intersection) ts U mid)
      (h' : Reads (.behind .union (.union T U)) mid V rest) :
      Reads (.behind .union T) (.mark '|' :: ts) V rest
  | noJoin {rest : List Lexeme} {T : TypeExpr} (h : rest.head? ≠ some (.mark '|')) :
      Reads (.behind .union T) rest T rest

variable {l : Level} {ts us rest : List Lexeme} {T U : TypeExpr}

namespace Header

variable {h h' : Header}

theorem head?_lexemes_ne (c : Char) :
  (h.lexemes ++ ts).head? ≠ some (.mark c)
  := by
  rcases h with ⟨_ | _, key, _ | _, isOptional⟩ <;> simp [lexemes, keyLexeme]

/-- What a header is, and where it ends, is seen from the left. -/
theorem eq_of_lexemes_append_eq (heq : h.lexemes ++ ts = h'.lexemes ++ us) :
  h = h' ∧ ts = us
  := by
  rcases h with ⟨_ | _, key, _ | _, _ | _⟩ <;> rcases h' with ⟨_ | _, key', _ | _, _ | _⟩ <;>
    simp_all [lexemes, keyLexeme]

end Header

/-- Reading leaves no choice. -/
theorem Reads.unique {p : Phase} (h : Reads p ts T rest) :
  ∀ {U : TypeExpr} {rest' : List Lexeme}, Reads p ts U rest' → T = U ∧ rest = rest'
  := by
  induction h with
  | null =>
    intro U rest' h'
    cases h' with
    | null => exact ⟨rfl, rfl⟩
    | name hw => cases hw rfl
    | readonlyArray hw => cases (show "null" ≠ "ReadonlyArray" by decide) hw
  | name hw hrest =>
    intro U rest' h'
    cases h' with
    | null => cases hw rfl
    | name => exact ⟨rfl, rfl⟩
    | readonlyArray => cases hrest rfl
  | literal =>
    intro U rest' h'
    cases h'
    exact ⟨rfl, rfl⟩
  | readonlyArray hw _ ih =>
    intro U rest' h'
    cases h' with
    | null => cases (show "null" ≠ "ReadonlyArray" by decide) hw
    | name _ hrest => cases hrest rfl
    | readonlyArray _ h' =>
      obtain ⟨rfl, hrest⟩ := ih h'
      cases hrest
      exact ⟨rfl, rfl⟩
  | parenthesized _ ih =>
    intro U rest' h'
    cases h' with
    | parenthesized h' =>
      obtain ⟨rfl, hrest⟩ := ih h'
      cases hrest
      exact ⟨rfl, rfl⟩
  | object _ ih =>
    intro U rest' h'
    cases h' with
    | object h' =>
      obtain ⟨rfl, hrest⟩ := ih h'
      cases hrest
      exact ⟨rfl, rfl⟩
  | noProperty hts =>
    intro U rest' h'
    cases h' with
    | noProperty => exact ⟨rfl, rfl⟩
    | lastProperty hts' =>
      rw [hts'] at hts
      cases Header.head?_lexemes_ne _ hts
    | property hts' =>
      rw [hts'] at hts
      cases Header.head?_lexemes_ne _ hts
  | lastProperty hts _ hrest ih =>
    intro U rest' h'
    cases h' with
    | noProperty hts' =>
      rw [hts] at hts'
      cases Header.head?_lexemes_ne _ hts'
    | lastProperty hts' h' =>
      obtain ⟨rfl, rfl⟩ := Header.eq_of_lexemes_append_eq (hts.symm.trans hts')
      obtain ⟨rfl, rfl⟩ := ih h'
      exact ⟨rfl, rfl⟩
    | property hts' hc h' =>
      obtain ⟨rfl, rfl⟩ := Header.eq_of_lexemes_append_eq (hts.symm.trans hts')
      obtain ⟨-, rfl⟩ := ih h'
      rcases hc with rfl | rfl <;> cases hrest
  | property hts hc _ _ ih ihps =>
    intro U rest' h'
    cases h' with
    | noProperty hts' =>
      rw [hts] at hts'
      cases Header.head?_lexemes_ne _ hts'
    | lastProperty hts' h' hrest =>
      obtain ⟨rfl, rfl⟩ := Header.eq_of_lexemes_append_eq (hts.symm.trans hts')
      obtain ⟨-, rfl⟩ := ih h'
      rcases hc with rfl | rfl <;> cases hrest
    | property hts' _ h' hps' =>
      obtain ⟨rfl, rfl⟩ := Header.eq_of_lexemes_append_eq (hts.symm.trans hts')
      obtain ⟨rfl, hmid⟩ := ih h'
      cases hmid
      obtain ⟨hps, rfl⟩ := ihps hps'
      cases hps
      exact ⟨rfl, rfl⟩
  | suffixed _ _ ih ih' =>
    intro U rest' h'
    cases h' with
    | suffixed h h' =>
      obtain ⟨rfl, rfl⟩ := ih h
      apply ih' h'
  | intersection _ _ ih ih' =>
    intro U rest' h'
    cases h' with
    | intersection h h' =>
      obtain ⟨rfl, rfl⟩ := ih h
      apply ih' h'
  | union _ _ ih ih' =>
    intro U rest' h'
    cases h' with
    | union h h' =>
      obtain ⟨rfl, rfl⟩ := ih h
      apply ih' h'
  | properties =>
    intro U rest' h'
    cases h'
    exact ⟨rfl, rfl⟩
  | atom =>
    intro U rest' h'
    cases h'
    exact ⟨rfl, rfl⟩
  | brackets _ ih =>
    intro U rest' h'
    cases h' with
    | brackets h' => apply ih h'
    | noBrackets hrest => cases hrest rfl
  | noBrackets hrest =>
    intro U rest' h'
    cases h' with
    | brackets => cases hrest rfl
    | noBrackets => exact ⟨rfl, rfl⟩
  | meet _ _ ih ih' =>
    intro U rest' h'
    cases h' with
    | meet h h' =>
      obtain ⟨rfl, rfl⟩ := ih h
      apply ih' h'
    | noMeet hrest => cases hrest rfl
  | noMeet hrest =>
    intro U rest' h'
    cases h' with
    | meet => cases hrest rfl
    | noMeet => exact ⟨rfl, rfl⟩
  | join _ _ ih ih' =>
    intro U rest' h'
    cases h' with
    | join h h' =>
      obtain ⟨rfl, rfl⟩ := ih h
      apply ih' h'
    | noJoin hrest => cases hrest rfl
  | noJoin hrest =>
    intro U rest' h'
    cases h' with
    | join => cases hrest rfl
    | noJoin => exact ⟨rfl, rfl⟩

/-! ### Reading what the grammar says -/

/-- What may follow a part of some level, so that no part inside goes on there. -/
def Follows : Level → List Lexeme → Prop
  | .properties, rest => rest.head? = some (.mark '\x7d')
  | .atom, rest => rest.head? ≠ some (.mark '<')
  | .suffixed, rest => rest.head? ≠ some (.mark '<')
  | .intersection, rest => rest.head? ≠ some (.mark '<') ∧ rest.head? ≠ some (.mark '[')
  | .union, rest => rest.head? ≠ some (.mark '<') ∧ rest.head? ≠ some (.mark '[')
      ∧ rest.head? ≠ some (.mark '&')

/-- A part that the grammar finds is read; what happens behind it is up to what follows. -/
theorem Denotes.reads (h : Denotes l ts T) :
  ∀ {rest out : List Lexeme} {V : TypeExpr}, Follows l rest → Reads (.behind l T) rest V out →
    Reads (.before l) (ts ++ rest) V out
  := by
  -- The grammar joins on the left: what is joined so far is handed on to what is read behind it.
  induction h with
  | null =>
    intro rest out V hrest hV
    cases hV
    apply Reads.null
  | name hw =>
    intro rest out V hrest hV
    cases hV
    apply Reads.name hw hrest
  | literal =>
    intro rest out V hrest hV
    cases hV
    apply Reads.literal
  | @readonlyArray ts T _ ih =>
    intro rest out V hrest hV
    cases hV
    have hT : Reads (.before .union) (ts ++ .mark '>' :: rest) T (.mark '>' :: rest) := by
      apply ih (by simp [Follows]) (Reads.noJoin (by simp))
    simpa using Reads.readonlyArray rfl hT
  | @parenthesized ts T _ ih =>
    intro rest out V hrest hV
    cases hV
    have hT : Reads (.before .union) (ts ++ .mark ')' :: rest) T (.mark ')' :: rest) := by
      apply ih (by simp [Follows]) (Reads.noJoin (by simp))
    simpa using Reads.parenthesized hT
  | @object ts T _ ih =>
    intro rest out V hrest hV
    cases hV
    have hT : Reads (.before .properties) (ts ++ .mark '\x7d' :: rest) T
        (.mark '\x7d' :: rest) := by
      apply ih (by simp [Follows]) Reads.properties
    simpa using Reads.object hT
  | noProperty =>
    intro rest out V hrest hV
    cases hV
    apply Reads.noProperty hrest
  | @lastProperty header ts T _ ih =>
    intro rest out V hrest hV
    cases hV
    have hT : Reads (.before .union) (ts ++ rest) T rest := by
      apply ih (by simp_all [Follows]) (Reads.noJoin (by simp_all [Follows]))
    rw [List.append_assoc]
    apply Reads.lastProperty rfl hT hrest
  | @property header c ts us T ps hc _ _ ih ihps =>
    intro rest out V hrest hV
    cases hV
    have hT : Reads (.before .union) (ts ++ .mark c :: (us ++ rest)) T
        (.mark c :: (us ++ rest)) := by
      apply ih
      · rcases hc with rfl | rfl <;> simp [Follows]
      · apply Reads.noJoin
        rcases hc with rfl | rfl <;> simp
    apply Reads.property _ hc hT (ihps hrest Reads.properties)
    simp
  | atom _ ih =>
    intro rest out V hrest hV
    apply Reads.suffixed (ih hrest Reads.atom) hV
  | array _ ih =>
    intro rest out V hrest hV
    rw [List.append_assoc]
    apply ih (by simp [Follows]) (Reads.brackets hV)
  | suffixed _ ih =>
    intro rest out V hrest hV
    apply Reads.intersection (ih hrest.1 (Reads.noBrackets hrest.2)) hV
  | intersection _ _ ih ih' =>
    intro rest out V hrest hV
    rw [List.append_assoc]
    apply ih (by simp [Follows])
    apply Reads.meet (ih' hrest.1 (Reads.noBrackets hrest.2)) hV
  | operand _ ih =>
    intro rest out V hrest hV
    apply Reads.union (ih ⟨hrest.1, hrest.2.1⟩ (Reads.noMeet hrest.2.2)) hV
  | union _ _ ih ih' =>
    intro rest out V hrest hV
    rw [List.append_assoc]
    apply ih (by simp [Follows])
    apply Reads.join (ih' ⟨hrest.1, hrest.2.1⟩ (Reads.noMeet hrest.2.2)) hV

/-- Lexemes denote one type only. -/
theorem Denotes.unique (h : Denotes .union ts T) (h' : Denotes .union ts U) :
  T = U
  := by
  have hread {V : TypeExpr} (hV : Denotes .union ts V) :
      Reads (.before .union) (ts ++ []) V [] := by
    apply hV.reads (by simp [Follows]) (Reads.noJoin (by simp))
  apply ((hread h).unique (hread h')).1

/-- A type without the marks of unions and intersections holds together by itself, or has brackets
behind it. -/
theorem Denotes.suffixed_of_no_marks (h : Denotes .union ts T) (hor : .mark '|' ∉ ts)
    (hand : .mark '&' ∉ ts) :
  Denotes .suffixed ts T
  := by
  cases h with
  | operand h =>
    cases h with
    | suffixed h => apply h
    | intersection => simp at hand
  | union => simp at hor

/-! ### Texts of types -/

/-- The text is that of a type, and says what the type says. -/
def Means (text : String) (T : TypeExpr) : Prop :=
  ∃ ts, lexemes? text = some ts ∧ Denotes .union ts T

/-- A text says one thing only. -/
theorem Means.unique {text : String} (h : Means text T) (h' : Means text U) :
  T = U
  := by
  obtain ⟨ts, hts, hT⟩ := h
  obtain ⟨us, hus, hU⟩ := h'
  rw [hts] at hus
  cases hus
  apply hT.unique hU

end GraphScribe.TypeScript
