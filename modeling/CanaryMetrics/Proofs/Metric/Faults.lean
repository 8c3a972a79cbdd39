import CanaryMetrics.Metric.Reader
import CanaryMetrics.Proofs.Datum.Drafts

namespace CanaryMetrics.Metric

open Datum

/-!
# Why members are not read as a metric

* `slotted` — a draft of a metric has a slot for each field.
* `Field.Refused` — what a field does not accept.
* `fillsSlots_read` — each field of a metric is read once.
* `Fault` — why members describe no metric: the first of them that is not read, or that none of them
  names the measurement.
* `ofMembers_eq_error_iff` — members are not read exactly for such a reason.
-/

/-! ### The slots of a draft -/

namespace Field

/-- What is read of a field. -/
abbrev Content : Field → Type
  | measurement => String
  | fields => Option (List String)
  | tags => Option StringMap
  | groupBy => Option (List String)

/-- Reads what stands under a field. -/
def readContent : (field : Field) → Datum → Except ReadError field.Content
  | measurement => readString
  | fields => fun d => d.readOptional readStrings
  | tags => fun d => d.readOptional readStringMap
  | groupBy => fun d => d.readOptional readStrings

end Field

namespace Draft

/-- What a draft has of a field. -/
def slot : (field : Field) → Draft → Option field.Content
  | .measurement, draft => draft.measurement
  | .fields, draft => draft.fields
  | .tags, draft => draft.tags
  | .groupBy, draft => draft.groupBy

/-- Replaces what a draft has of a field. -/
def put : (field : Field) → Draft → Option field.Content → Draft
  | .measurement, draft, filled => { draft with measurement := filled }
  | .fields, draft, filled => { draft with fields := filled }
  | .tags, draft, filled => { draft with tags := filled }
  | .groupBy, draft, filled => { draft with groupBy := filled }

end Draft

theorem slotted : Slotted Field.name Draft.read Draft.slot Draft.put Field.readContent where
  read_eq := by
    intro draft field d
    cases field <;> rfl
  slot_put := by
    intro field draft filled
    cases field <;> rfl
  slot_put_of_ne := by
    intro field other hne draft filled
    cases field <;> cases other <;> first | rfl | exact absurd rfl hne
  ext := by
    intro draft draft' h
    have hmeasurement : draft.measurement = draft'.measurement := h .measurement
    have hfields : draft.fields = draft'.fields := h .fields
    have htags : draft.tags = draft'.tags := h .tags
    have hgroupBy : draft.groupBy = draft'.groupBy := h .groupBy
    cases draft
    cases draft'
    simp_all

theorem slot_empty (field : Field) : Draft.slot field {} = none := by
  cases field <;> rfl

/-! ### Faults -/

/-- Why what stands under the key of a field is refused.  The measurement must have a value. -/
def Field.Refused : Field → Datum → ReadError → Prop
  | measurement, d, e => NoString d e
  | fields, d, e => d ≠ .null ∧ NoStrings d e
  | tags, d, e => d ≠ .null ∧ NoStringMap d e
  | groupBy, d, e => d ≠ .null ∧ NoStrings d e

theorem Field.readContent_eq_error_iff {field : Field} {d : Datum} {e : ReadError} :
    field.readContent d = .error e ↔ field.Refused d e := by
  cases field with
  | measurement => simp only [readContent, Refused, readString_eq_error_iff]
  | fields | groupBy =>
    simp only [readContent, Refused, readOptional_eq_error_iff, readStrings_eq_error_iff]
  | tags => simp only [readContent, Refused, readOptional_eq_error_iff, readStringMap_eq_error_iff]

/-- Each field of a metric is read once, if it is not refused. -/
theorem fillsSlots_read : FillsSlots Field.name Field.Refused Draft.read
    (fun field draft => Draft.slot field draft ≠ none) :=
  slotted.fillsSlots fun _ _ _ => Field.readContent_eq_error_iff

/-- Why members describe no metric. -/
inductive Fault (members : List (Option String × Datum)) : ReadError → Prop
  /-- One of them is not read, and those before it are. -/
  | offence {e : ReadError} (h : FirstOffence Field.ofKey? Field.name Field.Refused members e) :
    Fault members e
  /-- All of them are read, but none of them names the measurement. -/
  | missing (h : Inoffensive Field.ofKey? Field.name Field.Refused members)
    (hnone : Datum.named Field.ofKey? .measurement members = []) :
    Fault members (.shape (.missingField Field.measurement.name))

theorem finish_eq_error_iff {draft : Draft} {e : ReadError} :
    draft.finish = .error e ↔
      draft.measurement = none ∧ e = .shape (.missingField Field.measurement.name) := by
  unfold Draft.finish
  cases draft.measurement <;> simp [eq_comm]

/-- **Members are not read as a metric for a fault of theirs.**  The error tells the fault, and there is
    one such error at most. -/
theorem ofMembers_eq_error_iff {members : List (Option String × Datum)} {e : ReadError} :
    ofMembers members = .error e ↔ Fault members e := by
  have hempty : ∀ field, ¬ Draft.slot field {} ≠ none := fun field => not_not_intro (slot_empty field)
  unfold ofMembers
  rw [bind_eq_error_iff, fillsSlots_read.readMembers_eq_error_iff_firstOffence hempty]
  -- what the draft lacks in the end is what no member names
  have hmeasurement : ∀ {draft : Draft}, readMembers Field.ofKey? Draft.read {} members = .ok draft →
      (draft.measurement = none ↔ Datum.named Field.ofKey? .measurement members = []) := by
    intro draft h
    have htaken : draft.measurement ≠ none ↔ _ :=
      fillsSlots_read.taken_iff_of_readMembers h .measurement
    rw [← Decidable.not_iff_not, ← ne_eq, htaken, or_iff_left (hempty _)]
  constructor
  · rintro (h | ⟨draft, h, hfinish⟩)
    · exact .offence h
    · obtain ⟨hnone, rfl⟩ := finish_eq_error_iff.1 hfinish
      exact .missing (fillsSlots_read.inoffensive_of_readMembers hempty h) ((hmeasurement h).1 hnone)
  · rintro (h | ⟨h, hnone⟩)
    · exact .inl h
    · obtain ⟨draft, hread⟩ := (fillsSlots_read.exists_readMembers_eq_ok_iff hempty).2 h
      exact .inr ⟨draft, hread, finish_eq_error_iff.2 ⟨(hmeasurement hread).2 hnone, rfl⟩⟩

/-- Members of unknown names make no difference. -/
theorem ofMembers_filter_isKnown (members : List (Option String × Datum)) :
    ofMembers (members.filter (isKnown Field.ofKey?)) = ofMembers members := by
  unfold ofMembers
  rw [readMembers_filter_isKnown]

end CanaryMetrics.Metric
