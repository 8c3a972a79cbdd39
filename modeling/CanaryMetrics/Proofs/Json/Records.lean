import CanaryMetrics.Proofs.Json.Writers

namespace CanaryMetrics

open Datum Json.Value

/-!
# Metrics and scopes are read as they were written

* `Metric.readAs_jsonValue`, `Scope.readAs_jsonValue` — the value that is written for a metric or a
  scope is read as that metric or scope, member by member.
* `Metric.ofJson_metric_json`, `Scope.ofJson_scope_json` — reading the JSON text of a metric or a
  scope gives it back.
-/

namespace Scope

/-- The value that is written for a scope is read as that scope. -/
theorem readAs_jsonValue (s : Scope) : ReadAs ofDatum s.jsonValue s := by
  have hexpression : ReadAs (readOptional readString) (.ofOption .ofString s.expression)
      s.expression :=
    readAs_ofOption (fun _ h => by cases h) readAs_ofString s.expression
  have hlocation : ReadAs (readOptional readString) (.ofOption .ofString s.location) s.location :=
    readAs_ofOption (fun _ h => by cases h) readAs_ofString s.location
  have hstart : ReadAs (readOptional readInstant) (.ofOption (fun t => .ofString t.text) s.start)
      s.start :=
    readAs_ofOption (fun _ h => by cases h) readAs_ofInstant s.start
  have hstop : ReadAs (readOptional readInstant) (.ofOption (fun t => .ofString t.text) s.stop)
      s.stop :=
    readAs_ofOption (fun _ h => by cases h) readAs_ofInstant s.stop
  have hstep : ReadAs (readOptional readWord) (.ofOption (fun n => .ofNat n.toNat) s.step) s.step :=
    readAs_ofOption (fun _ h => by cases h) readAs_ofWord s.step
  have hparams : ReadAs readStringMap (.ofStringMap s.params) s.params :=
    readAs_ofStringMap s.params
  -- the object can be written, and its four members fill an empty draft one by one
  constructor
  · apply proper_ofMembers
    simp only [List.mem_cons, List.not_mem_nil, or_false, forall_eq_or_imp, forall_eq]
    exact ⟨hexpression.proper, hlocation.proper, hstart.proper, hstop.proper, hstep.proper,
      hparams.proper⟩
  · unfold jsonValue
    rw [datum_ofMembers]
    -- the names stand for different fields, so each member is read into a slot that is free
    simp only [List.map_cons, List.map_nil, ofDatum, ofMembers, readMembers_nil,
      readMembers_cons (Field.ofKey?_name _), Draft.read, readOnce_none, hexpression.read_datum,
      hlocation.read_datum, hstart.read_datum, hstop.read_datum, hstep.read_datum,
      hparams.read_datum, map_ok, ok_bind, pure, Except.pure]
    rfl

/-- **Scopes are read as they were written.**  Reading the JSON text of a scope gives that scope. -/
theorem ofJson_scope_json (s : Scope) : ofJson s.json = .ok s := by
  have hread := s.readAs_jsonValue
  unfold ofJson json
  rw [readJson_text hread.proper, hread.read_datum]

end Scope

namespace Metric

/-- The value that is written for a metric is read as that metric. -/
theorem readAs_jsonValue (m : Metric) : ReadAs ofDatum m.jsonValue m := by
  have hmeasurement : ReadAs readString (.ofString m.measurement) m.measurement :=
    readAs_ofString m.measurement
  have hfields : ReadAs (readOptional readStrings) (.ofOption .ofStrings m.fields) m.fields :=
    readAs_ofOption (fun _ h => by cases h) readAs_ofStrings m.fields
  have htags : ReadAs (readOptional readStringMap) (.ofOption .ofStringMap m.tags) m.tags :=
    readAs_ofOption (fun _ h => by cases h) readAs_ofStringMap m.tags
  have hgroupBy : ReadAs (readOptional readStrings) (.ofOption .ofStrings m.groupBy) m.groupBy :=
    readAs_ofOption (fun _ h => by cases h) readAs_ofStrings m.groupBy
  constructor
  · apply proper_ofMembers
    simp only [List.mem_cons, List.not_mem_nil, or_false, forall_eq_or_imp, forall_eq]
    exact ⟨hmeasurement.proper, hfields.proper, htags.proper, hgroupBy.proper⟩
  · unfold jsonValue
    rw [datum_ofMembers]
    simp only [List.map_cons, List.map_nil, ofDatum, ofMembers, readMembers_nil,
      readMembers_cons (Field.ofKey?_name _), Draft.read, readOnce_none,
      hmeasurement.read_datum, hfields.read_datum, htags.read_datum, hgroupBy.read_datum, map_ok,
      ok_bind, pure, Except.pure]
    rfl

/-- **Metrics are read as they were written.**  Reading the JSON text of any metric gives that
    metric; a list or a map that is empty stays apart from one that is not there. -/
theorem ofJson_metric_json (m : Metric) : ofJson m.json = .ok m := by
  have hread := m.readAs_jsonValue
  unfold ofJson json
  rw [readJson_text hread.proper, hread.read_datum]

end Metric

end CanaryMetrics
