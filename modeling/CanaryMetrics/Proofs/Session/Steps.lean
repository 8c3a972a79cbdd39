import CanaryMetrics.Proofs.Instant.Accepted
import CanaryMetrics.Proofs.StringMap
import CanaryMetrics.Session

namespace CanaryMetrics

open Instant (OnCalendar)

/-!
# What one step of a session does

A session is a metric and a scope, each made of parts.  An operation names the parts that it may
change; here is said what it leaves in them, that it leaves all other parts alone, and when it fails.

* `Session.Part`, `Session.eq_of_agree` — the parts of a session, which leave nothing of it out.
* `Operation.Names` — the parts that an operation names.
* `Operation.Leaves` — what an operation leaves in the parts that it names.
* `Session.step_cases` — the three kinds of steps that succeed.
* `Session.agree_of_step`, `Session.leaves_of_step` — the other parts stay as they were, and the named
  ones become what the operation says.
* `Session.exists_step_eq_error_iff` — the steps that fail.
-/

/-! ### Parts -/

/-- Two metrics are the same in one part. -/
def Metric.Agree (m n : Metric) : MetricPart → Prop
  | .fields => m.fields = n.fields
  | .tags => m.tags = n.tags
  | .groupBy => m.groupBy = n.groupBy

/-- Two scopes are the same in one part. -/
def Scope.Agree (s t : Scope) : ScopePart → Prop
  | .expression => s.expression = t.expression
  | .location => s.location = t.location
  | .start => s.start = t.start
  | .stop => s.stop = t.stop
  | .step => s.step = t.step
  | .params => s.params = t.params

/-- A part of a session. -/
inductive Session.Part
  /-- The measurement of the metric, which cannot be cleared. -/
  | measurement
  /-- Another part of the metric. -/
  | ofMetric (part : MetricPart)
  /-- A part of the scope. -/
  | ofScope (part : ScopePart)
deriving DecidableEq, Repr

/-- Two sessions are the same in one part. -/
def Session.Agree (s t : Session) : Session.Part → Prop
  | .measurement => s.metric.measurement = t.metric.measurement
  | .ofMetric part => s.metric.Agree t.metric part
  | .ofScope part => s.scope.Agree t.scope part

/-- A session is known by its parts. -/
theorem Session.eq_of_agree {s t : Session} (h : ∀ part, s.Agree t part) : s = t := by
  obtain ⟨⟨measurement, fields, tags, groupBy⟩, expression, location, start, stop, step, params⟩ := s
  have hmeasurement : measurement = t.metric.measurement := h .measurement
  have hfields : fields = t.metric.fields := h (.ofMetric .fields)
  have htags : tags = t.metric.tags := h (.ofMetric .tags)
  have hgroupBy : groupBy = t.metric.groupBy := h (.ofMetric .groupBy)
  have hexpression : expression = t.scope.expression := h (.ofScope .expression)
  have hlocation : location = t.scope.location := h (.ofScope .location)
  have hstart : start = t.scope.start := h (.ofScope .start)
  have hstop : stop = t.scope.stop := h (.ofScope .stop)
  have hstep : step = t.scope.step := h (.ofScope .step)
  have hparams : params = t.scope.params := h (.ofScope .params)
  subst hmeasurement hfields htags hgroupBy hexpression hlocation hstart hstop hstep hparams
  rfl

/-! ### The parts that operations name -/

/-- The one part that a change of the metric names; none when it starts afresh. -/
def MetricEdit.part? : MetricEdit → Option MetricPart
  | .new _ => none
  | .fields _ => some .fields
  | .tags _ => some .tags
  | .groupBy _ => some .groupBy
  | .clear part => some part
  | .ofJson _ => none

/-- The one part that a change of the scope names; none when it starts afresh. -/
def ScopeEdit.part? : ScopeEdit → Option ScopePart
  | .default => none
  | .window _ _ => none
  | .expression _ => some .expression
  | .location _ => some .location
  | .step _ => some .step
  | .start _ => some .start
  | .stop _ => some .stop
  | .param _ _ => some .params
  | .clear part => some part
  | .ofJson _ => none

/-- An operation names a part: the one that it changes, or any part of what it starts afresh. -/
def Operation.Names : Operation → Session.Part → Prop
  | .editMetric edit, .measurement => edit.part? = none
  | .editMetric edit, .ofMetric part => edit.part? = none ∨ edit.part? = some part
  | .editScope edit, .ofScope part => edit.part? = none ∨ edit.part? = some part
  | _, _ => False

/-! ### What operations leave in the parts that they name -/

/-- A part of a metric has no value. -/
def Metric.Lacks (m : Metric) : MetricPart → Prop
  | .fields => m.fields = none
  | .tags => m.tags = none
  | .groupBy => m.groupBy = none

/-- A part of a scope has no value; of the further parameters there is none. -/
def Scope.Lacks (s : Scope) : ScopePart → Prop
  | .expression => s.expression = none
  | .location => s.location = none
  | .start => s.start = none
  | .stop => s.stop = none
  | .step => s.step = none
  | .params => s.params.entries = []

/-- An instant is given by its seconds and nanoseconds. -/
def Instant.IsAt (t : Instant) (moment : Int × Nat) : Prop :=
  t.seconds = moment.1 ∧ t.nanos = moment.2

/-- What a change leaves of the metric, whatever the metric was: no part is merged with the old one. -/
def MetricEdit.Leaves : MetricEdit → Metric → Prop
  | .new measurement, m => m.measurement = measurement ∧ ∀ part, m.Lacks part
  | .fields items, m => m.fields = some items
  | .tags pairs, m => ∃ tags, m.tags = some tags ∧ ∀ key, tags.get? key = pairs.reverse.lookup key
  | .groupBy items, m => m.groupBy = some items
  | .clear part, m => m.Lacks part
  | .ofJson text, m => Metric.ofJson text = .ok m

/-- What a change leaves of the scope.  Only a further parameter is put beside those that are there. -/
def ScopeEdit.Leaves (old : Scope) : ScopeEdit → Scope → Prop
  | .default, s => ∀ part, s.Lacks part
  | .window first last, s =>
    (∃ t, s.start = some t ∧ t.IsAt first) ∧ (∃ t, s.stop = some t ∧ t.IsAt last) ∧
      ∀ part : ScopePart, part ≠ .start → part ≠ .stop → s.Lacks part
  | .expression text, s => s.expression = some text
  | .location text, s => s.location = some text
  | .step seconds, s => s.step = some seconds
  | .start moment, s => ∃ t, s.start = some t ∧ t.IsAt moment
  | .stop moment, s => ∃ t, s.stop = some t ∧ t.IsAt moment
  | .param key value, s =>
    ∀ k, s.params.get? k = if k = key then some value else old.params.get? k
  | .clear part, s => s.Lacks part
  | .ofJson text, s => Scope.ofJson text = .ok s

/-- What an operation leaves in the parts that it names. -/
def Operation.Leaves (old new : Session) : Operation → Prop
  | .editMetric edit => edit.Leaves new.metric
  | .editScope edit => edit.Leaves old.scope new.scope
  | .build | .buildWithoutScope | .roundTrip => new = old

/-! ### Changes of the metric -/

variable {m m' : Metric}

/-- A change of the metric that names one part leaves the others alone. -/
theorem Metric.agree_of_edit {edit : MetricEdit} (h : m.edit edit = .ok m') {named : MetricPart}
    (hnamed : edit.part? = some named) :
    m'.measurement = m.measurement ∧ ∀ part, part ≠ named → m'.Agree m part := by
  cases edit with
  -- the edits that name no part set the whole metric anew
  | new measurement => cases hnamed
  | ofJson text => cases hnamed
  | fields items | tags pairs | groupBy items =>
    cases h
    cases hnamed
    refine ⟨rfl, fun part hpart => ?_⟩
    cases part <;> first | rfl | exact absurd rfl hpart
  -- clearing leaves the parts alone that it does not name, and never names the measurement
  | clear part =>
    cases h
    cases hnamed
    refine ⟨by cases named <;> rfl, fun part hpart => ?_⟩
    cases named <;> cases part <;> first | rfl | exact absurd rfl hpart

/-- A change of the metric leaves what it says. -/
theorem Metric.leaves_of_edit {edit : MetricEdit} (h : m.edit edit = .ok m') : edit.Leaves m' := by
  -- by the kind of the edit, since what it leaves is said by its kind
  cases edit with
  | new measurement =>
    cases h
    exact ⟨rfl, fun part => by cases part <;> rfl⟩
  | fields items | groupBy items =>
    cases h
    rfl
  | tags pairs =>
    cases h
    exact ⟨_, rfl, StringMap.get?_ofList pairs⟩
  | clear part =>
    cases h
    cases part <;> rfl
  | ofJson text => exact mapError_eq_ok_iff.1 h

/-- A change of the metric fails when a text that it gives cannot be read. -/
def MetricEdit.Fails : MetricEdit → Prop
  | .ofJson text => ∃ e, Metric.ofJson text = .error e
  | _ => False

theorem Metric.exists_edit_eq_error_iff {edit : MetricEdit} :
    (∃ e, m.edit edit = .error e) ↔ edit.Fails := by
  cases edit with
  | ofJson text => exact exists_mapError_eq_error_iff
  | _ => simp [Metric.edit, MetricEdit.Fails]

/-! ### Changes of the scope -/

variable {s s' : Scope} {moment : Int × Nat}

/-- Seconds and nanoseconds give the instant that they belong to. -/
theorem instantOfParts_eq_ok_iff {t : Instant} : instantOfParts moment = .ok t ↔ t.IsAt moment := by
  unfold Instant.IsAt instantOfParts
  rw [← Instant.ofParts?_eq_some_iff]
  cases Instant.ofParts? moment.1 moment.2 <;> simp

/-- There is none when they lie outside the calendar. -/
theorem exists_instantOfParts_eq_error_iff :
    (∃ e, instantOfParts moment = .error e) ↔ ¬ OnCalendar moment.1 moment.2 := by
  -- the calendar says when there is an instant with these parts, and such a one would have been read
  rw [← Instant.exists_instant_iff]
  cases h : instantOfParts moment with
  | ok t =>
    refine ⟨fun ⟨e, he⟩ => ?_, fun hnone => ?_⟩
    · cases he
    · exact absurd ⟨t, instantOfParts_eq_ok_iff.1 h⟩ hnone
  | error e =>
    refine ⟨fun _ => ?_, fun _ => ⟨e, rfl⟩⟩
    rintro ⟨t, ht⟩
    rw [instantOfParts_eq_ok_iff.2 ht] at h
    cases h

/-- A change of the scope that names one part leaves the others alone. -/
theorem Scope.agree_of_edit {edit : ScopeEdit} (h : s.edit edit = .ok s') {named : ScopePart}
    (hnamed : edit.part? = some named) : ∀ part, part ≠ named → s'.Agree s part := by
  intro part hpart
  cases edit with
  | default => cases hnamed
  | window first last => cases hnamed
  | ofJson text => cases hnamed
  | expression text | location text | step seconds | param key value =>
    cases h
    cases hnamed
    cases part <;> first | rfl | exact absurd rfl hpart
  -- these two may fail; where they do not, they set their part as the others do
  | start moment | stop moment =>
    obtain ⟨t, -, h⟩ := bind_eq_ok_iff.1 h
    cases h
    cases hnamed
    cases part <;> first | rfl | exact absurd rfl hpart
  | clear part' =>
    cases h
    cases hnamed
    cases named <;> cases part <;> first | rfl | exact absurd rfl hpart

/-- A change of the scope leaves what it says. -/
theorem Scope.leaves_of_edit {edit : ScopeEdit} (h : s.edit edit = .ok s') : edit.Leaves s s' := by
  cases edit with
  | default =>
    cases h
    exact fun part => by cases part <;> rfl
  -- the first bound is read before the second, and both before the scope is made
  | window first last =>
    obtain ⟨t, ht, h⟩ := bind_eq_ok_iff.1 h
    obtain ⟨u, hu, h⟩ := bind_eq_ok_iff.1 h
    cases h
    refine ⟨⟨t, rfl, instantOfParts_eq_ok_iff.1 ht⟩, ⟨u, rfl, instantOfParts_eq_ok_iff.1 hu⟩, ?_⟩
    intro part hstart hstop
    cases part <;> first | rfl | contradiction
  | expression text | location text | step seconds =>
    cases h
    rfl
  | start moment | stop moment =>
    obtain ⟨t, ht, h⟩ := bind_eq_ok_iff.1 h
    cases h
    exact ⟨t, rfl, instantOfParts_eq_ok_iff.1 ht⟩
  | param key value =>
    cases h
    exact fun k => StringMap.get?_insert _ _ _ k
  | clear part =>
    cases h
    cases part <;> rfl
  | ofJson text => exact mapError_eq_ok_iff.1 h

/-- A change of the scope fails when a moment that it gives is not on the calendar, or a text that it
    gives cannot be read. -/
def ScopeEdit.Fails : ScopeEdit → Prop
  | .window first last => ¬ OnCalendar first.1 first.2 ∨ ¬ OnCalendar last.1 last.2
  | .start moment | .stop moment => ¬ OnCalendar moment.1 moment.2
  | .ofJson text => ∃ e, Scope.ofJson text = .error e
  | _ => False

theorem Scope.exists_edit_eq_error_iff {edit : ScopeEdit} :
    (∃ e, s.edit edit = .error e) ↔ edit.Fails := by
  cases edit with
  | window first last =>
    show (∃ e, (instantOfParts first >>= fun t => instantOfParts last >>= fun u =>
      pure (Scope.window t u)) = .error e) ↔ (¬ OnCalendar first.1 first.2 ∨ ¬ OnCalendar last.1 last.2)
    rw [exists_bind_eq_error_iff]
    simp only [exists_bind_pure_eq_error_iff, exists_instantOfParts_eq_error_iff]
    by_cases hfirst : OnCalendar first.1 first.2
    · -- then only the second moment can be wrong
      obtain ⟨t, ht⟩ := Instant.exists_instant_iff.2 hfirst
      have hok : instantOfParts first = .ok t := instantOfParts_eq_ok_iff.2 ht
      simp [hfirst, hok]
    · simp [hfirst]
  | start moment | stop moment =>
    exact exists_bind_pure_eq_error_iff.trans exists_instantOfParts_eq_error_iff
  | ofJson text => exact exists_mapError_eq_error_iff
  | _ => simp [Scope.edit, ScopeEdit.Fails]

/-! ### Steps -/

/-- An operation asks for a query. -/
def Operation.isBuild : Operation → Bool
  | .build | .buildWithoutScope => true
  | _ => false

/-- An operation fails on a session: a change does whatever the session is, a query when there is
    none. -/
def Operation.Fails (s : Session) : Operation → Prop
  | .editMetric edit => edit.Fails
  | .editScope edit => edit.Fails
  | .build => ∃ e, s.metric.query (some s.scope) = .error e
  | .buildWithoutScope => ∃ e, s.metric.query none = .error e
  | .roundTrip => False

namespace Session

variable {s s' : Session} {op : Operation} {answer : Answer}

/-- A step that succeeds changes the metric, or the scope, or nothing. -/
theorem step_cases (h : s.step op = .ok (s', answer)) :
    (∃ edit m, op = .editMetric edit ∧ s.metric.edit edit = .ok m ∧ s' = { s with metric := m }) ∨
    (∃ edit t, op = .editScope edit ∧ s.scope.edit edit = .ok t ∧ s' = { s with scope := t }) ∨
    (op.isBuild = true ∨ op = .roundTrip) ∧ s' = s := by
  -- only the two editing steps put a new value into the session
  cases op with
  | editMetric edit =>
    obtain ⟨m, hedit, h⟩ := bind_eq_ok_iff.1 h
    cases h
    exact .inl ⟨edit, m, rfl, hedit, rfl⟩
  | editScope edit =>
    obtain ⟨t, hedit, h⟩ := bind_eq_ok_iff.1 h
    cases h
    exact .inr (.inl ⟨edit, t, rfl, hedit, rfl⟩)
  | build | buildWithoutScope =>
    rw [step] at h
    split at h
    · cases h
      exact .inr (.inr ⟨.inl rfl, rfl⟩)
    · cases h
  | roundTrip =>
    cases h
    exact .inr (.inr ⟨.inr rfl, rfl⟩)

/-- A session is like itself. -/
theorem agree_self (s : Session) (part : Part) : s.Agree s part := by
  cases part with
  | measurement => rfl
  | ofMetric part => cases part <;> rfl
  | ofScope part => cases part <;> rfl

/-- A step leaves alone the parts that its operation does not name. -/
theorem agree_of_step (h : s.step op = .ok (s', answer)) {part : Part} (hpart : ¬ op.Names part) :
    s'.Agree s part := by
  rcases step_cases h with ⟨edit, m, rfl, hedit, rfl⟩ | ⟨edit, t, rfl, hedit, rfl⟩ | ⟨-, rfl⟩
  · -- a part of the metric is not named only if another part is
    cases hnamed : edit.part? with
    | none =>
      cases part with
      | measurement => exact absurd hnamed hpart
      | ofMetric part => exact absurd (.inl hnamed) hpart
      | ofScope part => exact agree_self s (.ofScope part)
    | some named =>
      obtain ⟨hmeasurement, hothers⟩ := Metric.agree_of_edit hedit hnamed
      cases part with
      | measurement => exact hmeasurement
      | ofMetric part => exact hothers part fun heq => hpart (.inr (heq ▸ hnamed))
      | ofScope part => exact agree_self s (.ofScope part)
  · cases part with
    | measurement => rfl
    | ofMetric part => exact agree_self s (.ofMetric part)
    | ofScope part =>
      cases hnamed : edit.part? with
      | none => exact absurd (.inl hnamed) hpart
      | some named =>
        exact Scope.agree_of_edit hedit hnamed part fun heq => hpart (.inr (heq ▸ hnamed))
  · exact agree_self _ part

/-- A step leaves what its operation says. -/
theorem leaves_of_step (h : s.step op = .ok (s', answer)) : op.Leaves s s' := by
  rcases step_cases h with ⟨edit, m, rfl, hedit, rfl⟩ | ⟨edit, t, rfl, hedit, rfl⟩ | ⟨hop, rfl⟩
  · exact Metric.leaves_of_edit hedit
  · exact Scope.leaves_of_edit hedit
  · cases op with
    | editMetric edit | editScope edit => rcases hop with hop | hop <;> cases hop
    | build | buildWithoutScope | roundTrip => rfl

/-- The steps that fail. -/
theorem exists_step_eq_error_iff : (∃ e, s.step op = .error e) ↔ op.Fails s := by
  cases op with
  | editMetric edit => exact exists_bind_pure_eq_error_iff.trans Metric.exists_edit_eq_error_iff
  | editScope edit => exact exists_bind_pure_eq_error_iff.trans Scope.exists_edit_eq_error_iff
  | build =>
    rw [step, Metric.queryLogged, Operation.Fails]
    cases s.metric.query (some s.scope) <;> simp
  | buildWithoutScope =>
    rw [step, Operation.Fails]
    cases s.metric.query none <;> simp
  | roundTrip => simp [step, Operation.Fails]

end Session

end CanaryMetrics
