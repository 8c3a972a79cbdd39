import CanaryMetrics.Proofs.Session.Steps

namespace CanaryMetrics.Session

open Instant (OnCalendar)

/-!
# What a whole session does

A run is a list of operations, each of which is answered.  Steps that fail and steps that ask for a
query change nothing, so they can be left out.

* `Valid` — what holds of a session at any time.
* `after_eq_self`, `agree_after` — the steps that change nothing, and what all other steps leave alone.
* `agree_afterAll`, `afterAll_eq_self` — a whole run leaves alone what none of its operations names, which
  may be everything.
* `transcript`, `kept` — the operations of a run with their answers, and those of them that count.
* `afterAll_run_kept` — a run of these alone ends where the full one does and is answered alike.
* `run_valid` — all of this for every run.
-/

/-- The ends of the window lie on the calendar, and the tags and the further parameters stand in
    strictly ascending order of their keys. -/
structure Valid (s : Session) : Prop where
  /-- The start of the window, when there is one. -/
  start : ∀ t ∈ s.scope.start, OnCalendar t.seconds t.nanos
  /-- The end of the window, when there is one. -/
  stop : ∀ t ∈ s.scope.stop, OnCalendar t.seconds t.nanos
  /-- The keys of the tags, when there are tags. -/
  tags : ∀ tags ∈ s.metric.tags, (tags.entries.map Prod.fst).Pairwise (· < ·)
  /-- The keys of the further parameters. -/
  params : (s.scope.params.entries.map Prod.fst).Pairwise (· < ·)

/-- Every session is valid: instants and maps are so by their types. -/
theorem valid (s : Session) : s.Valid where
  start := fun t _ => Instant.exists_instant_iff.1 ⟨t, rfl, rfl⟩
  stop := fun t _ => Instant.exists_instant_iff.1 ⟨t, rfl, rfl⟩
  tags := fun tags _ => List.pairwise_map.2 tags.ascending
  params := List.pairwise_map.2 s.scope.params.ascending

/-! ### Single steps -/

variable {s t u : Session} {op : Operation} {ops : List Operation} {part : Part}

/-- A step is answered by an error exactly when its operation fails. -/
theorem exists_answer_eq_error_iff : (∃ e, s.answer op = .error e) ↔ op.Fails s := by
  rw [← exists_step_eq_error_iff, answer]
  cases s.step op <;> simp [Except.map]

/-- A step changes nothing if it fails or asks for a query. -/
theorem after_eq_self (h : op.Fails s ∨ op.isBuild = true) : s.after op = s := by
  rw [after]
  split
  · rename_i s' a hstep
    rcases step_cases hstep with ⟨edit, m, rfl, -⟩ | ⟨edit, t, rfl, -⟩ | ⟨-, hs'⟩
    · -- a change that succeeds does not fail
      obtain ⟨e, he⟩ := exists_step_eq_error_iff.2 (h.resolve_right (by simp [Operation.isBuild]))
      rw [he] at hstep
      cases hstep
    · obtain ⟨e, he⟩ := exists_step_eq_error_iff.2 (h.resolve_right (by simp [Operation.isBuild]))
      rw [he] at hstep
      cases hstep
    · exact hs'
  · rfl

/-- A step leaves alone the parts that its operation does not name, whether or not it succeeds. -/
theorem agree_after (hpart : ¬ op.Names part) : (s.after op).Agree s part := by
  rw [after]
  split
  · rename_i s' a hstep
    exact agree_of_step hstep hpart
  · exact agree_self s part

/-- Sessions that are the same as a third in one part are so with each other. -/
theorem Agree.trans (h : s.Agree t part) (h' : t.Agree u part) : s.Agree u part := by
  cases part with
  | measurement => exact Eq.trans h h'
  | ofMetric part => cases part <;> exact Eq.trans h h'
  | ofScope part => cases part <;> exact Eq.trans h h'

/-! ### Runs -/

/-- The operations of a run with their answers. -/
def transcript (s : Session) (ops : List Operation) : List (Operation × Except Failure Answer) :=
  ops.zip (s.run ops)

/-- A step counts when it succeeds and does not ask for a query. -/
def counts (entry : Operation × Except Failure Answer) : Bool :=
  !entry.1.isBuild && entry.2.isOk

/-- The part of a transcript that counts. -/
def kept (s : Session) (ops : List Operation) : List (Operation × Except Failure Answer) :=
  (s.transcript ops).filter counts

/-- The first step of a run is kept if it counts; if it does not, the session stays as it was. -/
theorem kept_cons (s : Session) (op : Operation) (ops : List Operation) :
    s.kept (op :: ops) = (op, s.answer op) :: (s.after op).kept ops ∨
      s.after op = s ∧ s.kept (op :: ops) = s.kept ops := by
  have htranscript : s.transcript (op :: ops) = (op, s.answer op) :: (s.after op).transcript ops := rfl
  rw [kept, htranscript, List.filter_cons]
  split
  · exact .inl rfl
  · rename_i hcounts
    -- an entry that is dropped is one of a failure or of a build, which leave the session as it is
    have hself : s.after op = s := by
      apply after_eq_self
      cases hanswer : s.answer op with
      | error e => exact .inl (exists_answer_eq_error_iff.1 ⟨e, hanswer⟩)
      | ok a => exact .inr (by simpa [counts, hanswer, Except.isOk, Except.toBool] using hcounts)
    exact .inr ⟨hself, by rw [hself, kept]⟩

/-- A whole run leaves alone the parts that no step of it names, other than steps that do not count. -/
theorem agree_afterAll (h : ∀ entry ∈ s.kept ops, ¬ entry.1.Names part) :
    (s.afterAll ops).Agree s part := by
  -- an operation that is kept names other parts, and one that is dropped changes nothing
  induction ops generalizing s with
  | nil => exact agree_self s part
  | cons op ops ih =>
    show ((s.after op).afterAll ops).Agree s part
    rcases kept_cons s op ops with hkept | ⟨hself, hkept⟩
    · rw [hkept] at h
      have hrest : ((s.after op).afterAll ops).Agree (s.after op) part :=
        ih fun entry hentry => h entry (List.mem_cons_of_mem _ hentry)
      exact hrest.trans (agree_after (h _ List.mem_cons_self))
    · rw [hself]
      exact ih (hkept ▸ h)

/-- So a run none of whose steps names anything, other than steps that do not count, changes nothing. -/
theorem afterAll_eq_self (h : ∀ entry ∈ s.kept ops, ∀ part, ¬ entry.1.Names part) : s.afterAll ops = s :=
  eq_of_agree fun part => agree_afterAll fun entry hentry => h entry hentry part

/-- Leaving out the steps that do not count changes neither where a run ends nor the answers to the
    other steps. -/
theorem afterAll_run_kept :
    s.afterAll ((s.kept ops).map Prod.fst) = s.afterAll ops ∧
      s.run ((s.kept ops).map Prod.fst) = (s.kept ops).map Prod.snd := by
  -- by induction on the run: a step that is left out changes nothing, any other is taken on both sides
  induction ops generalizing s with
  | nil => exact ⟨rfl, rfl⟩
  | cons op ops ih =>
    rcases kept_cons s op ops with hkept | ⟨hself, hkept⟩
    · obtain ⟨hend, hanswers⟩ := ih (s := s.after op)
      rw [hkept, List.map_cons, List.map_cons]
      exact ⟨hend, congrArg (s.answer op :: ·) hanswers⟩
    · obtain ⟨hend, hanswers⟩ := ih (s := s)
      rw [hkept]
      refine ⟨hend.trans ?_, hanswers⟩
      show s.afterAll ops = (s.after op).afterAll ops
      rw [hself]

/-- **Sessions of any length.**  Whatever a session is and whichever operations it is asked for,

    * afterwards the ends of the window lie on the calendar and keys ascend;
    * a step that succeeds leaves the parts that it does not name alone, and leaves in the others what
      its operation says, which but for a further parameter does not depend on what was there;
    * a step fails exactly if a text that it gives cannot be read, if a moment that it gives is not on
      the calendar, or if the query that it asks for does not exist;
    * a step that fails and a step that asks for a query leave all as it was;
    * so the run of the remaining steps ends where the full one does, and answers them alike. -/
theorem run_valid :
    (∀ (s : Session) ops, (s.afterAll ops).Valid) ∧
    (∀ (s : Session) op s' a, s.step op = .ok (s', a) →
      (∀ part, ¬ op.Names part → s'.Agree s part) ∧ op.Leaves s s') ∧
    (∀ (s : Session) op, (∃ e, s.answer op = .error e) ↔ op.Fails s) ∧
    (∀ (s : Session) op, op.Fails s ∨ op.isBuild = true → s.after op = s) ∧
    (∀ (s : Session) ops part, (∀ entry ∈ s.kept ops, ¬ entry.1.Names part) →
      (s.afterAll ops).Agree s part) ∧
    ∀ (s : Session) ops, s.afterAll ((s.kept ops).map Prod.fst) = s.afterAll ops ∧
      s.run ((s.kept ops).map Prod.fst) = (s.kept ops).map Prod.snd :=
  ⟨fun s ops => (s.afterAll ops).valid,
    fun _ _ _ _ h => ⟨fun _ hpart => agree_of_step h hpart, leaves_of_step h⟩,
    fun _ _ => exists_answer_eq_error_iff, fun _ _ => after_eq_self,
    fun _ _ _ => agree_afterAll, fun _ _ => afterAll_run_kept⟩

/-- Tags are given, a query that there is none of is asked for, and a text cannot be read. -/
theorem run_valid_of_failing_steps :
    ∃ s a, step {} (.editMetric (.tags [("b", "1"), ("a", "2"), ("b", "3")])) = .ok (s, a) ∧
      s.metric.tags = some (.ofList [("a", "2"), ("b", "3")]) ∧
      (∀ part, part ≠ .ofMetric .tags → s.Agree {} part) ∧
      s.after .build = s ∧ s.after (.editMetric (.ofJson "[]")) = s ∧
      (s.afterAll [.editMetric (.groupBy []), .build]).Agree s (.ofMetric .tags) := by
  obtain ⟨-, hsucceeds, hfails, hsame, hrun, -⟩ := run_valid
  have hstep : step {} (.editMetric (.tags [("b", "1"), ("a", "2"), ("b", "3")]))
      = .ok (⟨Metric.withTags {} [("b", "1"), ("a", "2"), ("b", "3")], {}⟩,
          .metric (Metric.withTags {} [("b", "1"), ("a", "2"), ("b", "3")])) := rfl
  have hread : Metric.ofJson "[]" = .error (.shape (.emptySequence .metric 4)) := by cbv
  refine ⟨_, _, hstep, by decide, fun part hpart => (hsucceeds _ _ _ _ hstep).1 part ?_,
    hsame _ _ (.inr rfl), hsame _ _ (.inl ⟨_, hread⟩), hrun _ _ _ ?_⟩
  · cases part with
    | measurement => exact fun h => by cases h
    | ofMetric part =>
      rintro (h | h) <;> cases h
      exact hpart rfl
    | ofScope part => exact fun h => h
  · -- the query is left out, and the other step names another part
    have hkept : ∀ s : Session, s.kept [.editMetric (.groupBy []), .build]
        = [(.editMetric (.groupBy []), s.answer (.editMetric (.groupBy [])))] := fun _ => rfl
    rw [hkept, List.forall_mem_singleton]
    rintro (h | h) <;> cases h

end CanaryMetrics.Session
