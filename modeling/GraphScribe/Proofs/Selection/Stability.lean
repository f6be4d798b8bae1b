import GraphScribe.Proofs.Selection.Groups

/-!
# Grouping is stable

The groups of a selection set are a rearrangement of it in which nothing is lost or made up, and the
first nodes of the groups are the selections without the fields that repeat an earlier one
(`Selection.groups_stable`).
-/

namespace GraphScribe.Selection

/-! ### Rearrangement -/

/-- The nodes of all groups are the selections in another order. -/
theorem flatMap_nodes_perm (ss : List Selection) :
  ((groups ss).flatMap Group.nodes).Perm ss
  := by
  induction ss using groupsInduction with
  | nil => rfl
  | cons s rest ih =>
    rw [groups_cons, List.flatMap_cons, Group.nodes, List.cons_append]
    apply List.Perm.cons
    apply (ih.append_left _).trans
    apply List.filter_append_perm

/-- The selections that are no fields are kept one by one, in order. -/
theorem filter_groups (ss : List Selection) :
  (groups ss).filter (fun g => g.key?.isNone)
    = (ss.filter fun s => s.key?.isNone).map fun s => { first := s }
  := by
  induction ss using groupsInduction with
  | nil => rfl
  | cons s rest ih =>
    rw [groups_cons]
    cases hs : s.key? with
    | none =>
      have hjoins : s.joins = fun _ => false := funext (joins_eq_false hs)
      simpa [hjoins, Group.key?, hs] using ih
    | some key =>
      -- What joins a field is a field, so that none of it is missing among the others.
      have hothers : (rest.filter fun s' => !s.joins s').filter (fun s' => s'.key?.isNone)
          = rest.filter fun s' => s'.key?.isNone := by
        rw [List.filter_filter]
        apply List.filter_congr
        intro s' _
        cases hs' : s'.key? <;> simp [joins, hs, hs']
      rw [hothers] at ih
      simpa [Group.key?, hs] using ih

/-! ### First nodes -/

/-- Whether `s` is a field with the key of one of the fields among `earlier`. -/
def repeats (earlier : List Selection) (s : Selection) : Bool := earlier.any fun s' => s'.joins s

/-- The selections of a list less the fields that repeat one that stands before them, in the list or
among `earlier`. -/
def withoutRepeats (earlier : List Selection) : List Selection → List Selection
  | [] => []
  | s :: rest =>
    if repeats earlier s then withoutRepeats (earlier ++ [s]) rest
    else s :: withoutRepeats (earlier ++ [s]) rest

theorem withoutRepeats_cons (earlier : List Selection) (s : Selection) (rest : List Selection) :
  withoutRepeats earlier (s :: rest)
    = if repeats earlier s then withoutRepeats (earlier ++ [s]) rest
      else s :: withoutRepeats (earlier ++ [s]) rest
  := rfl

theorem repeats_append (earlier more : List Selection) (s : Selection) :
  repeats (earlier ++ more) s = (repeats earlier s || repeats more s)
  := List.any_append

/-- It matters only which selections repeat an earlier one. -/
theorem withoutRepeats_congr {earlier earlier' : List Selection}
    (h : repeats earlier = repeats earlier') (ss : List Selection) :
  withoutRepeats earlier ss = withoutRepeats earlier' ss
  := by
  induction ss generalizing earlier earlier' with
  | nil => rfl
  | cons s rest ih =>
    have hstep : repeats (earlier ++ [s]) = repeats (earlier' ++ [s]) := by
      funext s'
      rw [repeats_append, repeats_append, h]
    rw [withoutRepeats_cons, withoutRepeats_cons, h, ih hstep]

/-- What joins a selection that joins `s` joins `s` itself. -/
theorem joins_of_joins {s s' s'' : Selection} (h : s.joins s' = true) (h' : s'.joins s'' = true) :
  s.joins s'' = true
  := by
  simp only [joins, Bool.and_eq_true, decide_eq_true_eq] at h h' ⊢
  use h.1, h'.2.trans h.2

/-- The fields that repeat an earlier selection can be left out one selection at a time. -/
theorem withoutRepeats_cons_left (s : Selection) (earlier ss : List Selection) :
  withoutRepeats (s :: earlier) ss = withoutRepeats earlier (ss.filter fun s' => !s.joins s')
  := by
  induction ss generalizing earlier with
  | nil => rfl
  | cons s' rest ih =>
    by_cases h : s.joins s' = true
    · -- What repeats `s'` repeats `s`, so that `s'` may be missing among what stands before.
      have hrepeats : repeats (s :: earlier ++ [s']) = repeats (s :: earlier) := by
        funext s''
        cases hs'' : s'.joins s'' with
        | false => simp [repeats, hs'']
        | true => simp [repeats, joins_of_joins h hs'']
      rw [withoutRepeats_cons, if_pos (by simp [repeats, h]), withoutRepeats_congr hrepeats, ih]
      simp [h]
    · have hsame : repeats (s :: earlier) s' = repeats earlier s' := by
        simp [repeats, h]
      rw [withoutRepeats_cons, hsame, List.cons_append, ih,
        List.filter_cons_of_pos (by simpa using h), withoutRepeats_cons]

theorem map_first_groups (ss : List Selection) :
  (groups ss).map Group.first = withoutRepeats [] ss
  := by
  induction ss using groupsInduction with
  | nil => rfl
  | cons s rest ih =>
    rw [groups_cons, List.map_cons, ih, withoutRepeats_cons, if_neg (by simp [repeats]),
      List.nil_append, withoutRepeats_cons_left]

/-- The nodes of all groups are the selections in another order; no key has two groups, a group is
not empty, and a group of fields consists of all fields with its key, in order; the other selections
are kept one by one; and the first nodes are the selections less each field whose key has occurred
before. -/
theorem groups_stable (ss : List Selection) :
  ((groups ss).flatMap Group.nodes).Perm ss
    ∧ ((groups ss).filterMap Group.key?).Nodup
    ∧ (∀ g ∈ groups ss, g.nodes ≠ []
      ∧ ∀ key, g.key? = some key → g.nodes = ss.filter fun s => s.key? = some key)
    ∧ (groups ss).filter (fun g => g.key?.isNone)
      = (ss.filter fun s => s.key?.isNone).map (fun s => { first := s })
    ∧ (groups ss).map Group.first = withoutRepeats [] ss
  := by
  refine ⟨flatMap_nodes_perm ss, nodup_keys ss, ?_, filter_groups ss, map_first_groups ss⟩
  intro g hg
  use List.cons_ne_nil _ _
  intro key hkey
  apply nodes_eq_filter hg hkey

/-- A field without selections. -/
def plainField (alias? : Option String) (name : String) : Selection := .field alias? name [] [] []

/-- Fields of two keys between a spread and an inline fragment; the alias of the last one repeats
the name of the first one. -/
def interleaved : List Selection :=
  [plainField none "id", .spread "Names" [], plainField none "login", plainField none "id",
    .inline none [] [], plainField (some "id") "login"]

/-- The fields of the key `id`. -/
def idGroup : Group where
  first := plainField none "id"
  more := [plainField none "id", plainField (some "id") "login"]

theorem groups_stable_interleaved :
  idGroup ∈ groups interleaved ∧ idGroup.key? = some "id"
    ∧ idGroup.nodes = interleaved.filter (fun s => s.key? = some "id")
    ∧ ((groups interleaved).filterMap Group.key?).Nodup
    ∧ (groups interleaved).map Group.first
      = [plainField none "id", .spread "Names" [], plainField none "login", .inline none [] []]
  := by
  obtain ⟨-, hnodup, hgroups, -, hfirst⟩ := groups_stable interleaved
  have hmem : idGroup ∈ groups interleaved := List.mem_cons_self
  refine ⟨hmem, rfl, ?_, hnodup, hfirst⟩
  apply (hgroups _ hmem).2 "id" rfl

end GraphScribe.Selection
