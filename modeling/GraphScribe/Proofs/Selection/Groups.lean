import GraphScribe.Selection.Groups
import Mathlib.Data.List.Basic

/-!
# Groups of a selection set

The first group of a selection set holds its first selection together with the later ones that
join it, and the other groups are those of what is left (`Selection.groups_cons`).  Hence a
group of fields consists of all fields with its key, no key has two groups, and what is
selected below a group lies less deep than the selection set.  So the depth that bounds
`Selection.normalizeTo` never shows: `Selection.normalize_eq` merges each group on its own, and
`Selection.belowInduction` is the induction along which selection sets are read.
-/

namespace GraphScribe

namespace Selection

/-- Whether `s` is a field and `s'` has the same response key. -/
def joins (s s' : Selection) : Bool := s.key?.isSome && decide (s'.key? = s.key?)

theorem joins_iff {s : Selection} {key : String} (h : s.key? = some key) (s' : Selection) :
  s.joins s' = true ↔ s'.key? = some key
  := by
  simp [joins, h]

theorem joins_eq_false {s : Selection} (h : s.key? = none) (s' : Selection) :
  s.joins s' = false
  := by
  simp [joins, h]

end Selection

namespace Group

/-- What is selected below a group, from node to node. -/
def below (g : Group) : List Selection := g.nodes.flatMap Selection.children

/-- The selection that stands for a group: its first node with all that is selected below. -/
def merged (g : Group) : Selection := g.first.withChildren (Selection.normalize g.below)

theorem add_cons (key : String) (s : Selection) (g : Group) (rest : List Group) :
  add key s (g :: rest)
    = if g.key? = some key then { g with more := g.more ++ [s] } :: rest
      else g :: add key s rest
  := rfl

theorem push_field {s : Selection} {key : String} (h : s.key? = some key) (gs : List Group) :
  push gs s = add key s gs
  := by
  rw [push, h]

theorem push_other {s : Selection} (h : s.key? = none) (gs : List Group) :
  push gs s = gs ++ [{ first := s }]
  := by
  rw [push, h]

theorem push_nil (s : Selection) :
  push [] s = [{ first := s }]
  := by
  cases h : s.key? with
  | none => rw [push_other h, List.nil_append]
  | some key =>
    rw [push_field h]
    rfl

/-- A selection goes to the first group if it joins it, and otherwise to the other ones. -/
theorem push_cons (g : Group) (gs : List Group) (s : Selection) :
  push (g :: gs) s
    = if g.first.joins s then { g with more := g.more ++ [s] } :: gs else g :: push gs s
  := by
  cases h : s.key? with
  | none => cases hg : g.first.key? <;> simp [push_other h, Selection.joins, h, hg]
  | some key =>
    rw [push_field h, push_field h, add_cons]
    cases hg : g.first.key? with
    | none => simp [Selection.joins, key?, h, hg]
    | some key' => simp [Selection.joins, key?, h, hg, eq_comm]

/-- Entering selections one after another fills the first group with those that join it. -/
theorem foldl_push_cons (g : Group) (gs : List Group) (ss : List Selection) :
  ss.foldl push (g :: gs)
    = { g with more := g.more ++ ss.filter g.first.joins }
      :: (ss.filter fun s => !g.first.joins s).foldl push gs
  := by
  induction ss generalizing g gs with
  | nil => simp
  | cons s rest ih =>
    rw [List.foldl_cons, push_cons]
    by_cases h : g.first.joins s
    · rw [if_pos h, ih]
      simp [h]
    · rw [if_neg h, ih]
      simp [h]

end Group

namespace Selection

open GraphScribe.Group

@[simp]
theorem groups_nil :
  groups [] = []
  := rfl

/-- The first group holds the first selection and those that join it, and the other groups are
those of the rest. -/
theorem groups_cons (s : Selection) (rest : List Selection) :
  groups (s :: rest)
    = { first := s, more := rest.filter s.joins } :: groups (rest.filter fun s' => !s.joins s')
  := by
  rw [groups, List.foldl_cons, push_nil, foldl_push_cons]
  rfl

@[simp]
theorem groups_eq_nil_iff {ss : List Selection} :
  groups ss = [] ↔ ss = []
  := by
  cases ss with
  | nil => simp
  | cons s rest => simp [groups_cons]

/-- Induction along `groups_cons`. -/
theorem groupsInduction {motive : List Selection → Prop} (nil : motive [])
    (cons : ∀ s rest, motive (rest.filter fun s' => !s.joins s') → motive (s :: rest)) :
  ∀ ss, motive ss
  | [] => nil
  | s :: rest => cons s rest (groupsInduction nil cons (rest.filter fun s' => !s.joins s'))
termination_by ss => ss.length
decreasing_by
  have := List.length_filter_le (fun s' => !s.joins s') rest
  simp only [List.length_cons]
  omega

/-! ### What a group holds -/

theorem mem_of_mem_nodes {ss : List Selection} {g : Group} (h : g ∈ groups ss) {s : Selection}
    (hs : s ∈ g.nodes) :
  s ∈ ss
  := by
  induction ss using groupsInduction with
  | nil => simp at h
  | cons s' rest ih =>
    rw [groups_cons, List.mem_cons] at h
    rcases h with rfl | h
    · rw [nodes, List.mem_cons] at hs
      rcases hs with rfl | hs
      · apply List.mem_cons_self
      · apply List.mem_cons_of_mem
        apply List.mem_of_mem_filter hs
    · apply List.mem_cons_of_mem
      apply List.mem_of_mem_filter (ih h)

theorem first_mem {ss : List Selection} {g : Group} (h : g ∈ groups ss) :
  g.first ∈ ss
  := mem_of_mem_nodes h List.mem_cons_self

/-- A group of fields consists of all fields with its key, in order. -/
theorem nodes_eq_filter {ss : List Selection} {g : Group} (h : g ∈ groups ss) {key : String}
    (hkey : g.key? = some key) :
  g.nodes = ss.filter fun s => s.key? = some key
  := by
  induction ss using groupsInduction with
  | nil => simp at h
  | cons s rest ih =>
    rw [groups_cons, List.mem_cons] at h
    rcases h with rfl | h
    · have hs : s.key? = some key := hkey
      have hjoins : s.joins = fun s' => decide (s'.key? = some key) := by
        funext s'
        simp [joins, hs]
      simp [nodes, hs, hjoins]
    · rw [ih h, List.filter_filter]
      -- The first selection has another key, since the group is one of what does not join it.
      have hfirst := List.of_mem_filter (first_mem h)
      have hne : ¬ s.key? = some key := by
        intro hs
        simp [(joins_iff hs g.first).mpr hkey] at hfirst
      rw [List.filter_cons_of_neg (by simpa using hne)]
      apply List.filter_congr
      intro s' _
      by_cases hs' : s'.key? = some key
      · have : s.joins s' = false := by
          simp [joins, hs', Ne.symm hne]
        simp [hs', this]
      · simp [hs']

/-- What is no field is a group of its own. -/
theorem more_eq_nil {ss : List Selection} {g : Group} (h : g ∈ groups ss)
    (hkey : g.key? = none) :
  g.more = []
  := by
  induction ss using groupsInduction with
  | nil => simp at h
  | cons s rest ih =>
    rw [groups_cons, List.mem_cons] at h
    rcases h with rfl | h
    · simp [joins_eq_false (s := s) hkey]
    · apply ih h

/-- Every response key has a group. -/
theorem exists_group {ss : List Selection} {s : Selection} (hs : s ∈ ss) {key : String}
    (hkey : s.key? = some key) :
  ∃ g ∈ groups ss, g.key? = some key
  := by
  induction ss using groupsInduction with
  | nil => simp at hs
  | cons s' rest ih =>
    rw [groups_cons]
    by_cases hs' : s'.key? = some key
    · use { first := s', more := rest.filter s'.joins }
      simp [Group.key?, hs']
    · have hmem : s ∈ rest.filter fun s'' => !s'.joins s'' := by
        rcases List.mem_cons.mp hs with rfl | hrest
        · contradiction
        · simp [List.mem_filter, hrest, joins, hkey, Ne.symm hs']
      obtain ⟨g, hg, hgkey⟩ := ih hmem
      use g
      simp [hg, hgkey]

/-- No key has two groups. -/
theorem nodup_keys (ss : List Selection) :
  ((groups ss).filterMap Group.key?).Nodup
  := by
  induction ss using groupsInduction with
  | nil => simp
  | cons s rest ih =>
    rw [groups_cons]
    cases hs : s.key? with
    | none => simpa [Group.key?, hs, joins_eq_false hs] using ih
    | some key =>
      have hnot : key ∉ (groups (rest.filter fun s' => !s.joins s')).filterMap Group.key? := by
        intro hmem
        obtain ⟨g, hg, hgkey⟩ := List.mem_filterMap.mp hmem
        have hfirst := List.of_mem_filter (first_mem hg)
        simp [(joins_iff hs g.first).mpr hgkey] at hfirst
      rw [List.filterMap_cons_some (b := key) (by simpa [Group.key?] using hs)]
      apply List.nodup_cons.mpr
      constructor
      · apply hnot
      · apply ih

/-! ### Depth -/

theorem depths_nil :
  depths [] = 0
  := rfl

theorem depths_cons (s : Selection) (rest : List Selection) :
  depths (s :: rest) = max s.depth (depths rest)
  := rfl

theorem depth_eq (s : Selection) :
  s.depth = depths s.children + 1
  := by
  cases s <;> rfl

theorem depths_le_iff {ss : List Selection} {n : Nat} :
  depths ss ≤ n ↔ ∀ s ∈ ss, s.depth ≤ n
  := by
  induction ss with
  | nil => simp [depths_nil]
  | cons s rest ih => rw [depths_cons, Nat.max_le, ih, List.forall_mem_cons]

theorem eq_nil_of_depths_eq_zero {ss : List Selection} (h : depths ss = 0) :
  ss = []
  := by
  cases ss with
  | nil => rfl
  | cons s rest =>
    have := depth_eq s
    rw [depths_cons] at h
    omega

/-- What is selected below some selections of a selection set lies less deep. -/
theorem depths_children_lt {ss nodes : List Selection} (h : nodes ⊆ ss) (hne : nodes ≠ []) :
  depths (nodes.flatMap children) < depths ss
  := by
  have hdepth := depths_le_iff.mp (Nat.le_refl (depths ss))
  obtain ⟨first, hfirst⟩ := List.exists_mem_of_ne_nil nodes hne
  have hpos := hdepth first (h hfirst)
  rw [depth_eq] at hpos
  have hbelow : depths (nodes.flatMap children) ≤ depths ss - 1 := by
    apply depths_le_iff.mpr
    intro s hs
    obtain ⟨node, hnode, hchild⟩ := List.mem_flatMap.mp hs
    have hn := hdepth node (h hnode)
    have hc := depths_le_iff.mp (Nat.le_refl (depths node.children)) s hchild
    rw [depth_eq] at hn
    omega
  omega

theorem depths_below_lt {ss : List Selection} {g : Group} (h : g ∈ groups ss) :
  depths g.below < depths ss
  := by
  apply depths_children_lt
  · intro s hs
    apply mem_of_mem_nodes h hs
  · apply List.cons_ne_nil

/-- Induction on a selection set from what is selected below its groups. -/
theorem belowInduction {motive : List Selection → Prop}
    (step : ∀ ss, (∀ g ∈ groups ss, motive g.below) → motive ss) (ss : List Selection) :
  motive ss
  := step ss fun g _ => belowInduction step g.below
termination_by depths ss
decreasing_by
  apply depths_below_lt
  assumption

/-! ### Merging -/

theorem normalizeTo_nil (n : Nat) :
  normalizeTo n [] = []
  := by
  cases n <;> rfl

/-- Merging deeper than the selections lie makes no difference. -/
theorem normalizeTo_congr {m n : Nat} {ss : List Selection} (hm : depths ss ≤ m)
    (hn : depths ss ≤ n) :
  normalizeTo m ss = normalizeTo n ss
  := by
  induction m generalizing n ss with
  | zero =>
    obtain rfl := eq_nil_of_depths_eq_zero (Nat.le_zero.mp hm)
    rw [normalizeTo_nil, normalizeTo_nil]
  | succ m ih =>
    cases n with
    | zero =>
      obtain rfl := eq_nil_of_depths_eq_zero (Nat.le_zero.mp hn)
      rw [normalizeTo_nil, normalizeTo_nil]
    | succ n =>
      apply List.map_congr_left
      intro g hg
      have := depths_below_lt hg
      have hbelow : normalizeTo m g.below = normalizeTo n g.below := ih (by omega) (by omega)
      rw [← Group.below, hbelow]

/-- Merging a selection set merges each of its groups. -/
theorem normalize_eq (ss : List Selection) :
  normalize ss = (groups ss).map Group.merged
  := by
  rw [normalize, normalizeTo_congr (Nat.le_refl _) (Nat.le_succ _)]
  apply List.map_congr_left
  intro g hg
  have hbelow : normalizeTo (depths ss) g.below = normalize g.below :=
    normalizeTo_congr (Nat.le_of_lt (depths_below_lt hg)) (Nat.le_refl _)
  rw [Group.merged, ← Group.below, hbelow]

@[simp]
theorem normalize_eq_nil_iff {ss : List Selection} :
  normalize ss = [] ↔ ss = []
  := by
  rw [normalize_eq, List.map_eq_nil_iff, groups_eq_nil_iff]

end Selection

end GraphScribe
