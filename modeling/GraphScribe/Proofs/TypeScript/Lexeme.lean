import Mathlib.Data.List.Basic
import Mathlib.Tactic.Use

/-!
# Lexemes

`lexemes?` divides the text of a type into words, texts in quotation marks and single marks, none if
it contains something else or a quotation mark that is not closed.  Where one text ends and
something that is no part of a word follows, the two are divided on their own
(`lexemes?_append`).
-/

namespace GraphScribe.TypeScript

/-- A word, a text in quotation marks, or a mark. -/
inductive Lexeme where
  | word (text : String)
  | quoted (text : String)
  | mark (c : Char)

namespace Lexeme

/-! ### Characters -/

/-- What can stand between lexemes. -/
def blanks : List Char := [' ', '\t', '\n', '\r']

/-- The marks of types. -/
def marks : List Char :=
  ['(', ')', '[', ']', '<', '>', '\x7b', '\x7d', '|', '&', ':', ';', ',', '?']

/-- What can stand around a text. -/
def quotations : List Char := ['"', '\'']

/-- What a word can start with. -/
def isStart (c : Char) : Bool := c.isAlpha || c = '_' || c = '$' || 128 ≤ c.toNat

/-- What can follow in a word; a point joins the parts of a qualified name. -/
def isContinue (c : Char) : Bool := isStart c || c.isDigit || c = '.'

/-! ### Dividing a text -/

/-- What has been started and not yet ended: a word, or a text behind a quotation mark, maybe with a
character that makes the next one a part of the text. -/
inductive Pending where
  | nothing
  | word (text : List Char)
  | quoted (quotation : Char) (text : List Char)
  | escaped (quotation : Char) (text : List Char)

/-- What a character begins where nothing is pending, behind the lexeme that it is itself. -/
def first? (c : Char) : Option (List Lexeme × Pending) :=
  if blanks.contains c then some ([], .nothing)
  else if marks.contains c then some ([.mark c], .nothing)
  else if quotations.contains c then some ([], .quoted c [])
  else if isStart c then some ([], .word [c])
  else none

/-- The lexemes that end with a character, and what is pending after it. -/
def next? : Pending → Char → Option (List Lexeme × Pending)
  | .nothing, c => first? c
  | .word text, c =>
    if isContinue c then some ([], .word (text ++ [c]))
    else (first? c).map fun r => (.word (String.ofList text) :: r.1, r.2)
  | .quoted q text, c =>
    if c = q then some ([.quoted (String.ofList text)], .nothing)
    else if c = '\\' then some ([], .escaped q text)
    else if c = '\n' then none
    else some ([], .quoted q (text ++ [c]))
  | .escaped q text, c => some ([], .quoted q (text ++ [c]))

/-- The lexemes of some characters behind what is pending. -/
def divide : Pending → List Char → Option (List Lexeme)
  | .nothing, [] => some []
  | .word text, [] => some [.word (String.ofList text)]
  | .quoted _ _, [] => none
  | .escaped _ _, [] => none
  | p, c :: cs => (next? p c).bind fun r => (divide r.2 cs).map fun ls => r.1 ++ ls

end Lexeme

open Lexeme

/-- The lexemes of a text. -/
def lexemes? (text : String) : Option (List Lexeme) := divide .nothing text.toList

namespace Lexeme

variable {p : Pending} {c : Char} {cs : List Char} {ls : List Lexeme}

theorem next?_nothing :
  next? .nothing c = first? c
  := rfl

theorem next?_word {text : List Char} :
  next? (.word text) c
    = if isContinue c then some ([], .word (text ++ [c]))
      else (first? c).map fun r => (.word (String.ofList text) :: r.1, r.2)
  := rfl

theorem next?_quoted {q : Char} {text : List Char} :
  next? (.quoted q text) c
    = if c = q then some ([.quoted (String.ofList text)], .nothing)
      else if c = '\\' then some ([], .escaped q text)
      else if c = '\n' then none
      else some ([], .quoted q (text ++ [c]))
  := rfl

theorem divide_cons :
  divide p (c :: cs) = (next? p c).bind fun r => (divide r.2 cs).map fun ls => r.1 ++ ls
  := by
  cases p <;> rfl

theorem divide_cons_eq_some_iff :
  divide p (c :: cs) = some ls
    ↔ ∃ r, next? p c = some r ∧ ∃ ls', divide r.2 cs = some ls' ∧ r.1 ++ ls' = ls
  := by
  simp [divide_cons, Option.bind_eq_some_iff]

/-! ### Dividing one text behind another -/

/-- The first of some characters is no part of a word that ends before it. -/
def Breaks (cs : List Char) : Prop := ∀ c ∈ cs.head?, isContinue c = false

/-- A word ends before what is no part of it. -/
theorem divide_word_of_breaks {text : List Char} (h : Breaks cs) :
  divide (.word text) cs
    = (divide .nothing cs).map fun ls => .word (String.ofList text) :: ls
  := by
  cases cs with
  | nil => rfl
  | cons c cs =>
    have hc : isContinue c = false := h c rfl
    rw [divide_cons, divide_cons, next?_word, hc, if_neg (by simp), next?_nothing]
    cases first? c <;> simp [Function.comp_def]

/-- What follows a text, and is no part of a word at its end, is divided on its own. -/
theorem divide_append {bs : List Char} (h : divide p cs = some ls) (hb : Breaks bs) :
  divide p (cs ++ bs) = (divide .nothing bs).map fun more => ls ++ more
  := by
  induction cs generalizing p ls with
  | nil =>
    cases p with
    | nothing =>
      cases h
      simp
    | word text =>
      cases h
      rw [List.nil_append, divide_word_of_breaks hb]
      rfl
    | quoted q text => cases h
    | escaped q text => cases h
  | cons c cs ih =>
    obtain ⟨r, hr, ls', hls', rfl⟩ := divide_cons_eq_some_iff.mp h
    rw [List.cons_append, divide_cons, hr, Option.bind_some, ih hls', Option.map_map]
    simp [Function.comp_def]

/-! ### Marks -/

theorem mem_of_mark_mem_first? {r : List Lexeme × Pending} {d : Char} (h : first? c = some r)
    (hd : .mark d ∈ r.1) :
  d = c
  := by
  rw [first?] at h
  split_ifs at h <;> cases h <;> simp_all

theorem mem_of_mark_mem_next? {r : List Lexeme × Pending} {d : Char} (h : next? p c = some r)
    (hd : .mark d ∈ r.1) :
  d = c
  := by
  cases p with
  | nothing => apply mem_of_mark_mem_first? h hd
  | word text =>
    rw [next?_word] at h
    split_ifs at h
    · cases h
      cases hd
    · obtain ⟨r', hr', rfl⟩ := Option.map_eq_some_iff.mp h
      apply mem_of_mark_mem_first? hr'
      simpa using hd
  | quoted q text =>
    rw [next?_quoted] at h
    split_ifs at h <;> cases h <;> simp_all
  | escaped q text =>
    cases h
    cases hd

/-- A mark among the lexemes is a character of the text. -/
theorem mem_of_mark_mem {d : Char} (h : divide p cs = some ls) (hd : .mark d ∈ ls) :
  d ∈ cs
  := by
  induction cs generalizing p ls with
  | nil =>
    cases p <;> cases h <;> simp at hd
  | cons c cs ih =>
    obtain ⟨r, hr, ls', hls', rfl⟩ := divide_cons_eq_some_iff.mp h
    rcases List.mem_append.mp hd with hd | hd
    · rw [mem_of_mark_mem_next? hr hd]
      apply List.mem_cons_self
    · apply List.mem_cons_of_mem _ (ih hls' hd)

end Lexeme

section

variable {text : String} {ls : List Lexeme}

/-- What follows a text, and is no part of a word at its end, is divided on its own. -/
theorem lexemes?_append {more : String} (h : lexemes? text = some ls)
    (hmore : Breaks more.toList) :
  lexemes? (text ++ more) = (lexemes? more).map fun ls' => ls ++ ls'
  := by
  rw [lexemes?, String.toList_append, divide_append h hmore]
  rfl

/-- A mark before a text is a lexeme of its own. -/
theorem lexemes?_mark {c : Char} (hc : first? c = some ([.mark c], .nothing))
    (h : lexemes? text = some ls) :
  lexemes? (String.singleton c ++ text) = some (.mark c :: ls)
  := by
  rw [lexemes?] at h ⊢
  rw [String.toList_append, String.toList_singleton, List.singleton_append, divide_cons,
    next?_nothing, hc, Option.bind_some, h]
  rfl

/-! ### Identifiers -/

/-- A text that starts as a word and goes on as a word. -/
def IsIdentifier (text : String) : Prop :=
  ∃ c cs, text.toList = c :: cs ∧ isStart c = true ∧ ∀ d ∈ cs, isContinue d = true

theorem first?_of_isStart {c : Char} (h : isStart c = true) :
  first? c = some ([], .word [c])
  := by
  have hspecial : (blanks ++ marks ++ quotations).all (fun d => !isStart d) = true := by decide
  have hc : c ∉ blanks ++ marks ++ quotations := by
    intro hmem
    have hnot := List.all_eq_true.mp hspecial c hmem
    rw [h] at hnot
    cases hnot
  simp only [List.mem_append, not_or] at hc
  simp [first?, hc, h]

theorem divide_word {cs : List Char} (h : ∀ d ∈ cs, isContinue d = true) (before : List Char) :
  divide (.word before) cs = some [.word (String.ofList (before ++ cs))]
  := by
  induction cs generalizing before with
  | nil => rw [List.append_nil]; rfl
  | cons c cs ih =>
    rw [List.forall_mem_cons] at h
    rw [divide_cons, next?_word, if_pos h.1, Option.bind_some, ih h.2]
    simp

/-- An identifier is one word. -/
theorem lexemes?_of_isIdentifier (h : IsIdentifier text) :
  lexemes? text = some [.word text]
  := by
  obtain ⟨c, cs, htext, hstart, hcontinue⟩ := h
  rw [lexemes?, htext, divide_cons, next?_nothing, first?_of_isStart hstart, Option.bind_some,
    divide_word hcontinue, List.singleton_append, ← htext, String.ofList_toList]
  rfl

end

end GraphScribe.TypeScript
