import GraphScribe.Proofs.NameTable
import Mathlib.Data.Finset.Card

/-!
# Runs of requests

A name table is asked for names one after another, each time for a name itself or for it behind
underscores.  The names that are granted are distinct, and they are the names in the table; a name
is refused exactly if it has been granted before (`NameTable.serve_grants`).  The search for a free
name, which has no bound of its own, comes to an end on every table (`NameTable.finds_iff`).
-/

namespace GraphScribe.NameTable

/-! ### The search for a free name -/

/-- The search from `name` on ends with `free`: a name that is free is the answer, and from a taken
one the search goes on with an underscore in front of it. -/
inductive Finds (taken : List String) : String → String → Prop where
  | free {name : String} (h : name ∉ taken) : Finds taken name name
  | taken {name free : String} (h : name ∈ taken) (rest : Finds taken ("_" ++ name) free) :
      Finds taken name free

theorem Finds.unique {taken : List String} {name free free' : String} (h : Finds taken name free)
    (h' : Finds taken name free') :
  free = free'
  := by
  induction h with
  | free hname =>
    cases h' with
    | free => rfl
    | taken hmem => contradiction
  | taken hname _ ih =>
    cases h' with
    | free hfree => contradiction
    | taken _ rest => apply ih rest

/-- The search passes the names that are taken and stops behind them. -/
theorem finds_underscored {taken : List String} {name : String} {n : Nat}
    (htaken : ∀ i < n, underscored i name ∈ taken) (hfree : underscored n name ∉ taken) :
  Finds taken name (underscored n name)
  := by
  induction n generalizing name with
  | zero => apply Finds.free hfree
  | succ n ih =>
    apply Finds.taken (htaken 0 (by omega))
    apply ih
    · intro i hi
      apply htaken (i + 1) (by omega)
    · apply hfree

/-- The search ends on every table, with the name that `claimUnique` takes. -/
theorem finds_iff {t : NameTable} {name free : String} :
  Finds t.taken name free ↔ free = (t.claimUnique name).1
  := by
  obtain ⟨n, -, hclaimed, hfree, htaken⟩ := claimUnique_spec t name
  have hfinds : Finds t.taken name (t.claimUnique name).1 := by
    rw [hclaimed]
    apply finds_underscored htaken hfree
  constructor
  · intro h
    apply h.unique hfinds
  · rintro rfl
    apply hfinds

/-- No more underscores are needed than there are different names in the table. -/
theorem le_card_of_taken {taken : List String} {name : String} {n : Nat}
    (htaken : ∀ i < n, underscored i name ∈ taken) :
  n ≤ taken.toFinset.card
  := by
  obtain ⟨k, hk, hfree⟩ := exists_underscored_not_mem taken.dedup name
  rw [List.mem_dedup] at hfree
  rw [List.card_toFinset]
  apply Nat.le_trans _ hk
  apply Nat.le_of_not_lt
  intro hlt
  apply hfree (htaken k hlt)

/-! ### Requests -/

/-- A request for a name. -/
inductive Request where
  | claim (name : String)
  | claimUnique (name : String)

/-- A request as a step over a table, which answers with the name that it takes.  What a step has
done to the table stays if it fails. -/
def Request.step : Request → ExceptT Failure (StateM NameTable) String
  | claim name => do
    let t ← get
    let t ← MonadExcept.ofExcept (t.claim name)
    set t
    return name
  | claimUnique name => do
    let t ← get
    let (free, t) := t.claimUnique name
    set t
    return free

/-- Makes some requests one after another, whatever the answers are. -/
def serve : List Request → StateM NameTable (List (Except Failure String))
  | [] => return []
  | r :: rest => do
    let answer ← r.step.run
    let answers ← serve rest
    return answer :: answers

/-- The answers to some requests to an empty table. -/
def answers (scope : String) (rs : List Request) : List (Except Failure String) :=
  ((serve rs).run { scope }).1

/-- The table that some requests to an empty table leave. -/
def tableAfter (scope : String) (rs : List Request) : NameTable := ((serve rs).run { scope }).2

/-- The names that answers grant. -/
def granted (answers : List (Except Failure String)) : List String :=
  answers.filterMap Except.toOption

/-- The names that are granted to some requests to an empty table. -/
def namesGranted (scope : String) (rs : List Request) : List String := granted (answers scope rs)

variable {t : NameTable} {name scope : String}

theorem run_step_claim :
  (Request.claim name).step.run.run t
    = match t.claim name with
      | .ok t' => (.ok name, t')
      | .error e => (.error e, t)
  := by
  change (do
    let t ← MonadExcept.ofExcept (t.claim name)
    set t
    return name : ExceptT Failure (StateM NameTable) String).run.run t = _
  cases t.claim name <;> rfl

theorem run_step_claim_of_mem (h : name ∈ t.taken) :
  (Request.claim name).step.run.run t = (.error (.nameTaken name t.scope), t)
  := by
  rw [run_step_claim, claim_of_mem h]

theorem run_step_claim_of_not_mem (h : name ∉ t.taken) :
  (Request.claim name).step.run.run t = (.ok name, t.add name)
  := by
  rw [run_step_claim, claim_of_not_mem h]

theorem run_step_claimUnique :
  (Request.claimUnique name).step.run.run t
    = (.ok (t.claimUnique name).1, t.add (t.claimUnique name).1)
  := rfl

/-- A request that fails leaves the table, and one that succeeds takes a name that was free. -/
theorem run_step_cases (r : Request) (t : NameTable) :
  (∃ e, r.step.run.run t = (.error e, t))
    ∨ ∃ free, free ∉ t.taken ∧ r.step.run.run t = (.ok free, t.add free)
  := by
  cases r with
  | claim name =>
    by_cases h : name ∈ t.taken
    · apply Or.inl ⟨_, run_step_claim_of_mem h⟩
    · apply Or.inr ⟨name, h, run_step_claim_of_not_mem h⟩
  | claimUnique name =>
    apply Or.inr ⟨_, claimUnique_fst_not_mem t name, run_step_claimUnique⟩

/-! ### Runs -/

theorem run_serve_cons (r : Request) (rest : List Request) (t : NameTable) :
  (serve (r :: rest)).run t
    = ((r.step.run.run t).1 :: ((serve rest).run (r.step.run.run t).2).1,
      ((serve rest).run (r.step.run.run t).2).2)
  := rfl

theorem run_serve_append (before after : List Request) (t : NameTable) :
  (serve (before ++ after)).run t
    = (((serve before).run t).1 ++ ((serve after).run ((serve before).run t).2).1,
      ((serve after).run ((serve before).run t).2).2)
  := by
  induction before generalizing t with
  | nil => rfl
  | cons r rest ih =>
    rw [List.cons_append, run_serve_cons, run_serve_cons, ih]
    rfl

theorem length_run_serve (rs : List Request) (t : NameTable) :
  ((serve rs).run t).1.length = rs.length
  := by
  induction rs generalizing t with
  | nil => rfl
  | cons r rest ih => rw [run_serve_cons, List.length_cons, List.length_cons, ih]

/-- What requests add to a table are the names that they are granted, and these are new. -/
theorem taken_run_serve (rs : List Request) {t : NameTable} (ht : t.taken.Nodup) :
  ((serve rs).run t).2.taken.Nodup
    ∧ ((serve rs).run t).2.taken = (granted ((serve rs).run t).1).reverse ++ t.taken
    ∧ ((serve rs).run t).2.scope = t.scope
  := by
  induction rs generalizing t with
  | nil => exact ⟨ht, rfl, rfl⟩
  | cons r rest ih =>
    rcases run_step_cases r t with ⟨e, hstep⟩ | ⟨free, hfree, hstep⟩
    · rw [run_serve_cons, hstep]
      apply ih ht
    · -- The names that are granted later are taken after `free`, so they stand before it.
      rw [run_serve_cons, hstep]
      obtain ⟨hnodup, htaken, hscope⟩ := ih (t := t.add free) (List.nodup_cons.mpr ⟨hfree, ht⟩)
      refine ⟨hnodup, ?_, hscope⟩
      simpa [granted, Except.toOption] using htaken

theorem taken_tableAfter (scope : String) (rs : List Request) :
  (tableAfter scope rs).taken = (namesGranted scope rs).reverse
  := by
  obtain ⟨-, htaken, -⟩ := taken_run_serve rs (t := { scope }) List.nodup_nil
  rw [tableAfter, htaken, List.append_nil]
  rfl

theorem scope_tableAfter (scope : String) (rs : List Request) :
  (tableAfter scope rs).scope = scope
  := (taken_run_serve rs (t := { scope }) List.nodup_nil).2.2

theorem nodup_namesGranted (scope : String) (rs : List Request) :
  (namesGranted scope rs).Nodup
  := by
  rw [← List.nodup_reverse, ← taken_tableAfter]
  apply (taken_run_serve rs List.nodup_nil).1

theorem mem_taken_tableAfter_iff {rs : List Request} :
  name ∈ (tableAfter scope rs).taken ↔ name ∈ namesGranted scope rs
  := by
  rw [taken_tableAfter, List.mem_reverse]

/-- What is answered to a request after the names `given`: a name itself is refused exactly if it is
one of them, and behind underscores it gets the least number of them that makes it a new one. -/
def Request.Answered (scope : String) (given : List String) : Request → Except Failure String → Prop
  | claim name, answer => answer = if name ∈ given then .error (.nameTaken name scope) else .ok name
  | claimUnique name, answer => ∃ n ≤ given.length, answer = .ok (underscored n name)
      ∧ underscored n name ∉ given ∧ ∀ i < n, underscored i name ∈ given

/-- A run answers its first requests as if there were no others, and goes on from the table that they
leave. -/
theorem exists_answers_eq (scope : String) (before : List Request) (r : Request)
    (after : List Request) :
  ∃ later, answers scope (before ++ r :: after)
      = answers scope before ++ (r.step.run.run (tableAfter scope before)).1 :: later
    ∧ later.length = after.length
  := by
  refine ⟨_, ?_, length_run_serve after (r.step.run.run (tableAfter scope before)).2⟩
  rw [answers, run_serve_append, run_serve_cons]
  rfl

theorem tableAfter_concat (scope : String) (before : List Request) (r : Request) :
  tableAfter scope (before ++ [r]) = (r.step.run.run (tableAfter scope before)).2
  := by
  rw [tableAfter, run_serve_append]
  rfl

/-- A request after others is answered by the names that they have been granted. -/
theorem answered_step (scope : String) (rs : List Request) (r : Request) :
  r.Answered scope (namesGranted scope rs) (r.step.run.run (tableAfter scope rs)).1
  := by
  cases r with
  | claim name =>
    rw [Request.Answered]
    split_ifs with h
    · rw [run_step_claim_of_mem (mem_taken_tableAfter_iff.mpr h), scope_tableAfter]
    · rw [run_step_claim_of_not_mem (mt mem_taken_tableAfter_iff.mp h)]
  | claimUnique name =>
    obtain ⟨n, hn, hclaimed, hfree, htaken⟩ := claimUnique_spec (tableAfter scope rs) name
    rw [taken_tableAfter, List.length_reverse] at hn
    rw [mem_taken_tableAfter_iff] at hfree
    simp only [mem_taken_tableAfter_iff] at htaken
    refine ⟨n, hn, ?_, hfree, htaken⟩
    rw [run_step_claimUnique, hclaimed]

/-- The names that are granted to requests to an empty table are distinct, and they are the names in
the table.  Each request is answered by the names that have been granted before, and changes nothing
if it fails.  The search for a free name ends on every table, behind the least number of underscores
that makes the name a new one. -/
theorem serve_grants (scope : String) (rs : List Request) :
  (namesGranted scope rs).Nodup
    ∧ (∀ name, (tableAfter scope rs).contains name = true ↔ name ∈ namesGranted scope rs)
    ∧ (∀ before r after, rs = before ++ r :: after →
      ∃ answer later, answers scope rs = answers scope before ++ answer :: later
        ∧ later.length = after.length
        ∧ r.Answered scope (namesGranted scope before) answer
        ∧ ∀ e, answer = .error e → tableAfter scope (before ++ [r]) = tableAfter scope before)
    ∧ ∀ (t : NameTable) (name : String),
      (∀ free, Finds t.taken name free ↔ free = (t.claimUnique name).1)
        ∧ ∃ n ≤ t.taken.toFinset.card,
          t.claimUnique name = (underscored n name, t.add (underscored n name))
          ∧ underscored n name ∉ t.taken
          ∧ ∀ i < n, underscored i name ∈ t.taken
  := by
  refine ⟨nodup_namesGranted scope rs, ?_, ?_, ?_⟩
  · intro name
    rw [contains, decide_eq_true_iff, mem_taken_tableAfter_iff]
  · rintro before r after rfl
    obtain ⟨later, hanswers, hlength⟩ := exists_answers_eq scope before r after
    refine ⟨_, later, hanswers, hlength, answered_step scope before r, ?_⟩
    intro e he
    rw [tableAfter_concat]
    rcases run_step_cases r (tableAfter scope before) with ⟨_, hstep⟩ | ⟨free, -, hstep⟩
    · rw [hstep]
    · rw [hstep] at he
      cases he
  · intro t name
    use fun free => finds_iff
    obtain ⟨n, -, hclaimed, hfree, htaken⟩ := claimUnique_spec t name
    use n, le_card_of_taken htaken

/-- Requests of which one is refused and others meet names that start with an underscore. -/
def sampleRequests : List Request :=
  [.claimUnique "User", .claim "_User", .claimUnique "User", .claim "User", .claimUnique "_User"]

theorem serve_grants_sample :
  answers "batch" sampleRequests
      = [.ok "User", .ok "_User", .ok "__User", .error (.nameTaken "User" "batch"), .ok "___User"]
    ∧ (namesGranted "batch" sampleRequests).Nodup
    ∧ tableAfter "batch" (sampleRequests.take 4) = tableAfter "batch" (sampleRequests.take 3)
    ∧ Finds ["User", "_User"] "User" "__User"
  := by
  obtain ⟨hnodup, -, hsplit, hsearch⟩ := serve_grants "batch" sampleRequests
  refine ⟨rfl, hnodup, ?_, ?_⟩
  · obtain ⟨answer, later, -, -, hanswered, hunchanged⟩ :=
      hsplit (sampleRequests.take 3) (.claim "User") (sampleRequests.drop 4) rfl
    have hgranted : "User" ∈ namesGranted "batch" (sampleRequests.take 3) := by decide
    rw [Request.Answered, if_pos hgranted] at hanswered
    apply hunchanged _ hanswered
  · obtain ⟨hfinds, -⟩ := hsearch { scope := "batch", taken := ["User", "_User"] } "User"
    apply (hfinds "__User").mpr rfl

end GraphScribe.NameTable
