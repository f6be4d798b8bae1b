import GraphScribe.TypeScript.Comment
import Mathlib.Algebra.GroupWithZero.Nat
import Mathlib.Data.List.TakeWhile
import Mathlib.Tactic.Use

/-!
# Where comments end

A block comment ends at the first `*/` behind its beginning (`Comment.afterComment?`).  The comment
for a description and the reason of a deprecation is delimited as a block comment, and the
characters that end one stand in it as often as in what is said, and once more at its end
(`docComment_ends`).  So it is a single block comment exactly if they do not stand in what is said.
-/

namespace GraphScribe.TypeScript

namespace Comment

/-! ### Reading comments -/

/-- Whether a text starts with the characters that end a block comment. -/
def endsAt : List Char → Bool
  | '*' :: '/' :: _ => true
  | _ => false

/-- How often the characters that end a block comment stand in a text. -/
def ends : List Char → Nat
  | [] => 0
  | c :: cs => (endsAt (c :: cs)).toNat + ends cs

/-- What follows the first end of a block comment. -/
def afterEnd? : List Char → Option (List Char)
  | [] => none
  | c :: cs => if endsAt (c :: cs) then some (cs.drop 1) else afterEnd? cs

/-- What follows the block comment with which a text starts. -/
def afterComment? : List Char → Option (List Char)
  | '/' :: '*' :: cs => afterEnd? cs
  | _ => none

/-- A text is a single block comment: whatever code follows it is read as code, and nothing else. -/
def IsSingle (text : String) : Prop :=
  ∀ code : List Char, afterComment? (text.toList ++ code) = some code

/-- A text starts as a documentation comment does and ends as every block comment does. -/
def IsDelimited (text : String) : Prop := ∃ body, text = "/**" ++ body ++ "*/"

variable {c : Char} {cs ds : List Char}

theorem ends_nil :
  ends [] = 0
  := rfl

theorem ends_cons :
  ends (c :: cs) = (endsAt (c :: cs)).toNat + ends cs
  := rfl

theorem afterEnd?_cons :
  afterEnd? (c :: cs) = if endsAt (c :: cs) then some (cs.drop 1) else afterEnd? cs
  := rfl

theorem endsAt_iff :
  endsAt cs = true ↔ ['*', '/'] <+: cs
  := by
  unfold endsAt
  split
  case h_1 rest => simp
  case h_2 hcs =>
    simp only [Bool.false_eq_true, false_iff]
    rintro ⟨rest, rfl⟩
    apply hcs rest rfl

theorem endsAt_cons_of_ne (hc : c ≠ '*') (cs : List Char) :
  endsAt (c :: cs) = false
  := by
  rw [Bool.eq_false_iff, ne_eq, endsAt_iff]
  rintro ⟨rest, h⟩
  cases h
  apply hc rfl

/-- What stands behind a text does not end a comment in it, unless it starts with a slash. -/
theorem endsAt_append (hds : ds.head? ≠ some '/') (c : Char) (cs : List Char) :
  endsAt (c :: cs ++ ds) = endsAt (c :: cs)
  := by
  by_cases hc : c = '*'
  · subst hc
    cases cs with
    | nil =>
      cases ds with
      | nil => rfl
      | cons d ds =>
        have hd : d ≠ '/' := by simpa using hds
        simp [endsAt, hd]
    | cons d cs => by_cases hd : d = '/' <;> simp [endsAt, hd]
  · rw [List.cons_append, endsAt_cons_of_ne hc, endsAt_cons_of_ne hc]

theorem ends_cons_of_ne (hc : c ≠ '*') (cs : List Char) :
  ends (c :: cs) = ends cs
  := by
  rw [ends_cons, endsAt_cons_of_ne hc, Bool.toNat_false, Nat.zero_add]

/-- No end of a comment reaches from one text into another that does not start with a slash. -/
theorem ends_append (hds : ds.head? ≠ some '/') (cs : List Char) :
  ends (cs ++ ds) = ends cs + ends ds
  := by
  induction cs with
  | nil => simp [ends_nil]
  | cons c cs ih => rw [List.cons_append, ends_cons, ← List.cons_append, endsAt_append hds, ih,
      ends_cons, Nat.add_assoc]

/-- A character that is no part of the end of a comment keeps the texts around it apart. -/
theorem ends_append_cons (hstar : c ≠ '*') (hslash : c ≠ '/') (cs ds : List Char) :
  ends (cs ++ c :: ds) = ends cs + ends ds
  := by
  rw [ends_append (by simpa using hslash), ends_cons_of_ne hstar]

/-- A text in which no comment ends may be left out with the character behind it. -/
theorem ends_append_cons_of_ends_eq_zero (hstar : c ≠ '*') (hslash : c ≠ '/') (h : ends cs = 0)
    (ds : List Char) :
  ends (cs ++ c :: ds) = ends ds
  := by
  rw [ends_append_cons hstar hslash, h, Nat.zero_add]

theorem ends_eq_zero_of_forall (h : ∀ c ∈ cs, c ≠ '*') :
  ends cs = 0
  := by
  induction cs with
  | nil => rfl
  | cons c cs ih =>
    rw [List.forall_mem_cons] at h
    rw [ends_cons_of_ne h.1, ih h.2]

theorem ends_eq_zero_iff :
  ends cs = 0 ↔ ¬ ['*', '/'] <:+: cs
  := by
  induction cs with
  | nil => simp [ends_nil]
  | cons c cs ih =>
    rw [ends_cons, Nat.add_eq_zero_iff, Bool.toNat_eq_zero, ih, List.infix_cons_iff, not_or,
      ← endsAt_iff, Bool.not_eq_true]

/-! ### Finding the end -/

/-- A comment that does not end in its text ends behind it. -/
theorem afterEnd?_of_ends_eq_zero (h : ends cs = 0) (ds : List Char) :
  afterEnd? (cs ++ '*' :: '/' :: ds) = some ds
  := by
  induction cs with
  | nil => rfl
  | cons c cs ih =>
    rw [ends_cons, Nat.add_eq_zero_iff, Bool.toNat_eq_zero] at h
    rw [List.cons_append, afterEnd?_cons, ← List.cons_append, endsAt_append (by simp), h.1,
      if_neg (by simp), ih h.2]

/-- A comment that ends in its text leaves what follows the text, maybe with the rest of it. -/
theorem exists_afterEnd?_of_ends_ne_zero (h : ends cs ≠ 0) {ds : List Char}
    (hds : ds.head? ≠ some '/') :
  ∃ rest, afterEnd? (cs ++ ds) = some (rest ++ ds)
  := by
  induction cs with
  | nil => cases h rfl
  | cons c cs ih =>
    cases hends : endsAt (c :: cs) with
    | true =>
      obtain ⟨rest, hrest⟩ := endsAt_iff.mp hends
      cases hrest
      use rest
      rfl
    | false =>
      rw [ends_cons, hends, Bool.toNat_false, Nat.zero_add] at h
      obtain ⟨rest, hrest⟩ := ih h
      use rest
      rw [List.cons_append, afterEnd?_cons, ← List.cons_append, endsAt_append hds, hends,
        if_neg (by simp), hrest]

/-! ### Delimited texts -/

variable {body : String}

theorem toList_delimited (body : String) :
  ("/**" ++ body ++ "*/").toList = '/' :: '*' :: ('*' :: body.toList ++ ['*', '/'])
  := by
  simp

/-- A slash behind the asterisks would end the comment where it begins. -/
theorem ends_star_cons (h : body.toList.head? ≠ some '/') :
  ends ('*' :: body.toList) = ends body.toList
  := by
  rw [← List.singleton_append, ends_append h, show ends ['*'] = 0 from rfl, Nat.zero_add]

theorem ends_delimited (h : body.toList.head? ≠ some '/') :
  ends ("/**" ++ body ++ "*/").toList = ends body.toList + 1
  := by
  rw [toList_delimited, ends_cons_of_ne (by decide), ends_cons, ← List.cons_append,
    ends_append (by decide), ends_star_cons h,
    show endsAt ('*' :: '*' :: body.toList ++ ['*', '/']) = false from rfl, Bool.toNat_false,
    Nat.zero_add]
  rfl

/-- What is delimited is a single comment exactly if no comment ends in it. -/
theorem isSingle_delimited_iff (h : body.toList.head? ≠ some '/') :
  IsSingle ("/**" ++ body ++ "*/") ↔ ends body.toList = 0
  := by
  have hread : ∀ code, afterComment? (("/**" ++ body ++ "*/").toList ++ code)
      = afterEnd? ('*' :: body.toList ++ '*' :: '/' :: code) := by
    intro code
    rw [toList_delimited, List.cons_append, List.cons_append, List.append_assoc]
    rfl
  rw [← ends_star_cons h]
  constructor
  · intro hsingle
    by_contra hends
    obtain ⟨rest, hrest⟩ :=
      exists_afterEnd?_of_ends_ne_zero hends (show ['*', '/'].head? ≠ some '/' by decide)
    -- Nothing follows the text, but its last characters are left.
    have hnothing := hsingle []
    rw [hread, hrest] at hnothing
    simp at hnothing
  · intro hends code
    rw [hread, afterEnd?_of_ends_eq_zero hends]

/-! ### Lines -/

/-- What ends a line is no part of the end of a comment. -/
theorem ne_of_isLineEnd (h : Text.isLineEnd c = true) :
  c ≠ '*' ∧ c ≠ '/'
  := by
  constructor
  · rintro rfl
    cases h
  · rintro rfl
    cases h

theorem ne_of_isBlank (h : Text.isBlank c = true) :
  c ≠ '*' ∧ c ≠ '/'
  := by
  constructor
  · rintro rfl
    cases h
  · rintro rfl
    cases h

/-- The lines of a text hold all ends of comments that the text holds. -/
theorem sum_ends_linesFrom (line cs : List Char) :
  ((Text.linesFrom line cs).map ends).sum = ends (line.reverse ++ cs)
  := by
  fun_induction Text.linesFrom line cs with
  | case1 line hline =>
    rw [List.isEmpty_iff.mp hline]
    rfl
  | case2 line hline => simp
  | case3 line rest ih =>
    rw [List.map_cons, List.sum_cons, ih, ends_append_cons (by decide) (by decide),
      ends_cons_of_ne (by decide)]
    rfl
  | case4 line c rest hc hend ih =>
    obtain ⟨hstar, hslash⟩ := ne_of_isLineEnd hend
    rw [List.map_cons, List.sum_cons, ih, ends_append_cons hstar hslash]
    rfl
  | case5 line c rest hc hend ih =>
    rw [ih]
    simp

theorem sum_ends_lines (text : String) :
  ((Text.lines text).map fun l => ends l.toList).sum = ends text.toList
  := by
  rw [Text.lines, List.map_map, ← List.nil_append text.toList, ← List.reverse_nil,
    ← sum_ends_linesFrom]
  simp [Function.comp_def]

/-- Blanks at the end of a text may be dropped. -/
theorem ends_trimRight (text : String) :
  ends (Text.trimRight text).toList = ends text.toList
  := by
  have hblanks : ∀ c ∈ (text.toList.reverse.takeWhile Text.isBlank).reverse, Text.isBlank c := by
    intro c hc
    apply List.mem_takeWhile_imp (List.mem_reverse.mp hc)
  have hsplit : text.toList = Text.trimRightChars text.toList
      ++ (text.toList.reverse.takeWhile Text.isBlank).reverse := by
    rw [Text.trimRightChars, ← List.reverse_append, List.takeWhile_append_dropWhile,
      List.reverse_reverse]
  have hslash : (text.toList.reverse.takeWhile Text.isBlank).reverse.head? ≠ some '/' := by
    intro hhead
    apply (ne_of_isBlank (hblanks '/' (List.mem_of_head? hhead))).2 rfl
  rw [Text.trimRight, String.toList_ofList]
  calc ends (Text.trimRightChars text.toList)
      = ends (Text.trimRightChars text.toList
          ++ (text.toList.reverse.takeWhile Text.isBlank).reverse) := by
        rw [ends_append hslash,
          ends_eq_zero_of_forall fun c hc => (ne_of_isBlank (hblanks c hc)).1, Nat.add_zero]
    _ = ends text.toList := by rw [← hsplit]

theorem ends_intercalate (ls : List String) :
  ends ("\n".intercalate ls).toList = (ls.map fun l => ends l.toList).sum
  := by
  induction ls with
  | nil => rfl
  | cons l rest ih =>
    cases rest with
    | nil => simp
    | cons l' rest =>
      rw [String.intercalate_cons_cons, String.append_assoc, String.toList_append, List.map_cons,
        List.sum_cons, ← ih, String.toList_append]
      apply ends_append_cons (by decide) (by decide)

/-! ### The comment for some lines -/

/-- The lines of a comment hold all ends of comments that are in what is said. -/
theorem sum_ends_commentLines (text deprecation : Option String) :
  ((commentLines text deprecation).map fun l => ends l.toList).sum
    = ends (text.getD "").toList + ends (deprecation.getD "").toList
  := by
  rw [← sum_ends_lines]
  cases deprecation with
  | none => rfl
  | some reason =>
    by_cases hreason : reason = ""
    · subst hreason
      rfl
    · have hlines : commentLines text (some reason)
          = Text.lines (text.getD "") ++ ["@deprecated " ++ reason] := by
        simp [commentLines, hreason]
      have hline : ends ("@deprecated " ++ reason).toList = ends reason.toList := by
        rw [String.toList_append]
        exact ends_append_cons_of_ends_eq_zero (by decide) (by decide)
          (show ends "@deprecated".toList = 0 from rfl) _
      rw [hlines, List.map_append, List.sum_append, List.map_singleton, List.sum_singleton, hline]
      rfl

/-- The line with an asterisk in front holds the ends of comments that the line holds. -/
theorem ends_marked (l : String) :
  ends (Text.trimRight (" * " ++ l)).toList = ends l.toList
  := by
  rw [ends_trimRight, String.toList_append]
  exact ends_append_cons_of_ends_eq_zero (by decide) (by decide)
    (show ends [' ', '*'] = 0 from rfl) _

theorem commentOfLines_singleton (l : String) :
  commentOfLines [l] = "/**" ++ (" " ++ l ++ " ") ++ "*/"
  := by
  rw [commentOfLines, show "/** " = "/**" ++ " " from rfl, show " */" = " " ++ "*/" from rfl]
  simp only [String.append_assoc]

theorem commentOfLines_cons_cons (l l' : String) (rest : List String) :
  commentOfLines (l :: l' :: rest)
    = "/**" ++ ("\n" ++ "\n".intercalate ((l :: l' :: rest).map fun l =>
        Text.trimRight (" * " ++ l)) ++ "\n ") ++ "*/"
  := by
  change "/**\n" ++ _ ++ "\n */" = _
  rw [show "/**\n" = "/**" ++ "\n" from rfl, show "\n */" = "\n " ++ "*/" from rfl]
  simp only [String.append_assoc]

/-- A comment for some lines is delimited, and holds the ends of comments that the lines hold. -/
theorem exists_body {ls : List String} (h : ls ≠ []) :
  ∃ body, commentOfLines ls = "/**" ++ body ++ "*/" ∧ body.toList.head? ≠ some '/'
    ∧ ends body.toList = (ls.map fun l => ends l.toList).sum
  := by
  rcases ls with _ | ⟨l, _ | ⟨l', rest⟩⟩
  · cases h rfl
  · use " " ++ l ++ " ", commentOfLines_singleton l
    constructor
    · simp
    · rw [String.toList_append, ends_append (by decide), String.toList_append]
      simp [ends_cons_of_ne, ends_nil]
  · refine ⟨_, commentOfLines_cons_cons l l' rest, by simp, ?_⟩
    have hmarked : (((l :: l' :: rest).map fun l => Text.trimRight (" * " ++ l)).map fun l =>
        ends l.toList).sum = ((l :: l' :: rest).map fun l => ends l.toList).sum := by
      simp only [List.map_map, Function.comp_def, ends_marked]
    rw [String.toList_append, ends_append (by decide), String.toList_append, ← hmarked,
      ← ends_intercalate]
    exact ends_append_cons_of_ends_eq_zero (by decide) (by decide) (show ends [] = 0 from rfl) _

/-- A comment is made unless there is no line. -/
theorem commentOfLines_eq_empty_iff {ls : List String} :
  commentOfLines ls = "" ↔ ls = []
  := by
  rcases ls with _ | ⟨l, _ | ⟨l', rest⟩⟩ <;> simp [commentOfLines]

theorem commentLines_eq_nil_iff {text deprecation : Option String} :
  commentLines text deprecation = []
    ↔ Text.lines (text.getD "") = [] ∧ (deprecation = none ∨ deprecation = some "")
  := by
  cases deprecation with
  | none => simp [commentLines]
  | some reason => by_cases hreason : reason = "" <;> simp [commentLines, hreason]

end Comment

open Comment

/-- There is no comment exactly if there is nothing to say.  A comment starts and ends as block
comments do, and what ends one stands in it as often as in what is said, and once more; so it is a
single comment exactly if it does not stand in what is said. -/
theorem docComment_ends (text deprecation : Option String) :
  (docComment text deprecation = ""
      ↔ Text.lines (text.getD "") = [] ∧ (deprecation = none ∨ deprecation = some ""))
    ∧ (docComment text deprecation ≠ "" →
      IsDelimited (docComment text deprecation)
      ∧ ends (docComment text deprecation).toList
        = ends (text.getD "").toList + ends (deprecation.getD "").toList + 1
      ∧ (IsSingle (docComment text deprecation)
        ↔ ¬ ['*', '/'] <:+: (text.getD "").toList ∧ ¬ ['*', '/'] <:+: (deprecation.getD "").toList))
  := by
  rw [docComment, ne_eq, commentOfLines_eq_empty_iff]
  use commentLines_eq_nil_iff
  intro hlines
  obtain ⟨body, hcomment, hhead, hends⟩ := exists_body hlines
  rw [sum_ends_commentLines] at hends
  rw [hcomment]
  refine ⟨⟨body, rfl⟩, ?_, ?_⟩
  · rw [ends_delimited hhead, hends]
  · rw [isSingle_delimited_iff hhead, hends, Nat.add_eq_zero_iff, ends_eq_zero_iff,
      ends_eq_zero_iff]

theorem docComment_ends_deprecated :
  docComment (some "Former\nname") (some "gone")
      = "/**\n * Former\n * name\n * @deprecated gone\n */"
    ∧ IsDelimited (docComment (some "Former\nname") (some "gone"))
    ∧ ends (docComment (some "Former\nname") (some "gone")).toList = 1
    ∧ IsSingle (docComment (some "Former\nname") (some "gone"))
  := by
  have hcomment : docComment (some "Former\nname") (some "gone")
      = "/**\n * Former\n * name\n * @deprecated gone\n */" := by
    decide +kernel
  have hsaid : docComment (some "Former\nname") (some "gone") ≠ "" := by
    rw [hcomment]
    decide
  obtain ⟨-, hends⟩ := docComment_ends (some "Former\nname") (some "gone")
  obtain ⟨hdelimited, hcount, hsingle⟩ := hends hsaid
  use hcomment, hdelimited, hcount
  apply hsingle.mpr
  decide +kernel

/-- A description can end its comment, so that the rest of it is read as code. -/
theorem docComment_left :
  docComment (some "a */ b") none = "/** a */ b */"
    ∧ ends (docComment (some "a */ b") none).toList = 2
    ∧ afterComment? (docComment (some "a */ b") none).toList = some " b */".toList
    ∧ ¬ IsSingle (docComment (some "a */ b") none)
  := by
  refine ⟨by decide +kernel, by decide +kernel, by decide +kernel, ?_⟩
  intro hsingle
  have hrest := hsingle []
  revert hrest
  decide +kernel

end GraphScribe.TypeScript
