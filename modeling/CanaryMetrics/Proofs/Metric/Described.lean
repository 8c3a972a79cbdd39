import CanaryMetrics.Proofs.Json.Members
import CanaryMetrics.Proofs.Json.Values
import CanaryMetrics.Proofs.Metric.Faults

namespace CanaryMetrics.Metric

open Datum
open Json.Value (under known Optional IsStrings IsStringMap memberData)

/-!
# Which objects describe a metric

* `Field.keys` — the keys under which a field may stand.
* `Described` — what the members of a JSON object must be to describe a metric.
* `ofMembers_eq_ok_iff` — the metric that is read is the one described.
* `Described.perm`, `ofMembers_eq_of_known` — the order of the members makes no difference to it, and
  members under other keys make none at all.
* `ofJson_object` — so which objects are read, as which metric, and why others are not.
-/

/-! ### The keys of a field -/

namespace Field

/-- The keys of a field. -/
def keys : Field → List String
  | measurement => ["metricName", "metric_name"]
  | fields => ["fields"]
  | tags => ["tags"]
  | groupBy => ["groupByFields", "group_by_fields"]

theorem ofKey?_eq_some_iff {field : Field} {key : String} :
    ofKey? key = some field ↔ key ∈ field.keys := by
  unfold ofKey?
  cases field <;> simp only [keys, List.mem_cons, List.not_mem_nil, or_false] <;> grind

end Field

/-! ### The members of an object -/

theorem finish_eq_ok_iff {draft : Draft} {m : Metric} :
    draft.finish = .ok m ↔ draft.measurement = some m.measurement ∧ draft.fields.join = m.fields ∧
      draft.tags.join = m.tags ∧ draft.groupBy.join = m.groupBy := by
  unfold Draft.finish
  cases draft.measurement with
  | none => simp
  | some measurement =>
    cases m
    simp

variable {members members' : List (Option String × Json.Value)} {m : Metric}

/-- The members of an object describe a metric.  Members under other keys do not matter. -/
structure Described (members : List (Option String × Json.Value)) (m : Metric) : Prop where
  /-- All keys are texts. -/
  keys : ∀ member ∈ members, member.1 ≠ none
  /-- One member is the measurement, under either spelling of its key. -/
  measurement : under ["metricName", "metric_name"] members = [.ofString m.measurement]
  /-- The fields. -/
  fields : Optional IsStrings (under ["fields"] members) m.fields
  /-- The tags. -/
  tags : Optional IsStringMap (under ["tags"] members) m.tags
  /-- The expressions to group by, under either spelling of their key. -/
  groupBy : Optional IsStrings (under ["groupByFields", "group_by_fields"] members) m.groupBy

/-- The values under the keys of a field are the data that are read into its slot. -/
theorem named_memberData (field : Field) (members : List (Option String × Json.Value)) :
    Datum.named Field.ofKey? field (memberData members) = (under field.keys members).map Json.Value.datum :=
  Json.Value.named_memberData (fun _ => Field.ofKey?_eq_some_iff) members

/-- **The metric that is read is the one described.** -/
theorem ofMembers_eq_ok_iff : ofMembers (memberData members) = .ok m ↔ Described members m := by
  unfold ofMembers
  simp only [bind_eq_ok_iff, slotted.readMembers_eq_ok_iff slot_empty, finish_eq_ok_iff,
    named_memberData, Json.Value.forall_memberData_ne_none_iff]
  constructor
  · rintro ⟨draft, ⟨hkeys, hholds⟩, hmeasurement, hfields, htags, hgroupBy⟩
    refine ⟨hkeys, ?_, Json.Value.optional_strings_iff.2 ⟨_, hholds .fields, hfields⟩,
      Json.Value.optional_stringMap_iff.2 ⟨_, hholds .tags, htags⟩,
      Json.Value.optional_strings_iff.2 ⟨_, hholds .groupBy, hgroupBy⟩⟩
    -- the slot of the measurement must not be empty
    rcases (Json.Value.holds_iff fun _ _ => Json.Value.readString_datum_eq_ok_iff).1
      (hholds .measurement) with ⟨-, hnone⟩ | ⟨v, s, hone, rfl, hsome⟩
    · cases hnone.symm.trans hmeasurement
    · cases hsome.symm.trans hmeasurement
      exact hone
  · intro h
    obtain ⟨fields, hfields, hfields'⟩ := Json.Value.optional_strings_iff.1 h.fields
    obtain ⟨tags, htags, htags'⟩ := Json.Value.optional_stringMap_iff.1 h.tags
    obtain ⟨groupBy, hgroupBy, hgroupBy'⟩ := Json.Value.optional_strings_iff.1 h.groupBy
    have hmeasurement : Holds readString
        ((under ["metricName", "metric_name"] members).map Json.Value.datum) (some m.measurement) :=
      (Json.Value.holds_iff fun _ _ => Json.Value.readString_datum_eq_ok_iff).2
        (.inr ⟨_, _, h.measurement, rfl, rfl⟩)
    refine ⟨⟨some m.measurement, fields, tags, groupBy⟩, ⟨h.keys, fun field => ?_⟩, rfl, hfields',
      htags', hgroupBy'⟩
    cases field with
    | measurement => exact hmeasurement
    | fields => exact hfields
    | tags => exact htags
    | groupBy => exact hgroupBy

/-- The order of the members makes no difference to what they describe. -/
theorem Described.perm (h : Described members m) (hperm : members'.Perm members) :
    Described members' m := by
  have hunder : ∀ keys, (under keys members').Perm (under keys members) :=
    fun keys => (hperm.filter _).map _
  refine ⟨fun member hmember => h.keys member (hperm.mem_iff.1 hmember), ?_, h.fields.perm (hunder _),
    h.tags.perm (hunder _), h.groupBy.perm (hunder _)⟩
  exact List.perm_singleton.1 (h.measurement ▸ hunder _)

/-! ### Members under other keys -/

/-- The keys that mean something in a metric. -/
def allKeys : List String :=
  Field.all.flatMap Field.keys

theorem isSome_ofKey?_iff (key : String) : (Field.ofKey? key).isSome = true ↔ key ∈ allKeys := by
  rw [Option.isSome_iff_exists, allKeys, List.mem_flatMap]
  simp only [Field.ofKey?_eq_some_iff]
  exact exists_congr fun field => (and_iff_right (by cases field <;> decide)).symm

/-- Members under other keys make no difference to what is read. -/
theorem ofMembers_eq_of_known (h : known allKeys members' = known allKeys members) :
    ofMembers (memberData members') = ofMembers (memberData members) := by
  rw [← ofMembers_filter_isKnown, ← ofMembers_filter_isKnown (memberData members),
    ← Json.Value.memberData_known isSome_ofKey?_iff, ← Json.Value.memberData_known isSome_ofKey?_iff, h]

/-! ### Texts -/

/-- **Objects that describe a metric.**  Of a JSON object with certain members in document order

    * a metric is read exactly if the members describe it;
    * there is an error exactly if the members have a fault: the first one that is not read, since its
      field has been named before or since it is not what the field accepts, or the missing measurement
      when all of them are read.

    The metric does not depend on the order of the members, and neither it nor the error on members under
    other keys. -/
theorem ofJson_object {text : String} (h : Json.Value.ofText? text = some (.object members)) :
    (∀ m, ofJson text = .ok m ↔ Described members m) ∧
      (∀ e, ofJson text = .error e ↔ Fault (memberData members) e) ∧
      ∀ text' members', Json.Value.ofText? text' = some (.object members') →
        (members'.Perm members → ∀ m, ofJson text' = .ok m ↔ ofJson text = .ok m) ∧
        (known allKeys members' = known allKeys members → ofJson text' = ofJson text) := by
  have hread : ofJson text = ofMembers (memberData members) := Json.Value.readJson_of_object h _
  rw [hread]
  refine ⟨fun m => ofMembers_eq_ok_iff, fun e => ofMembers_eq_error_iff, fun text' members' h' => ?_⟩
  have hread' : ofJson text' = ofMembers (memberData members') := Json.Value.readJson_of_object h' _
  rw [hread']
  -- the description does not depend on the order of members; the reader skips those it does not know
  constructor
  · intro hperm m
    rw [ofMembers_eq_ok_iff, ofMembers_eq_ok_iff]
    exact ⟨fun hm => hm.perm hperm.symm, fun hm => hm.perm hperm⟩
  · exact ofMembers_eq_of_known

/-- Members of which one comes twice within the tags, one has an unknown name and holds a number that is
    too large and a member that is named like a field, and one is the measurement under its other key. -/
def membersWithUnknown : List (Option String × Json.Value) :=
  [(some "tags", .ofMembers [("a", .ofString "1"), ("b", .ofString "2"), ("a", .ofString "3")]),
    (some "x", .array [.number ⟨false, ['1'], [], some (false, ['4', '0', '0'])⟩,
      .ofMembers [("fields", .ofNat 0)]]),
    (some "metric_name", .ofString "cpu"), (some "fields", .null)]

/-- The members as an object, with blanks between them. -/
def textWithUnknown : String :=
  "\x7b\"tags\":\x7b\"a\":\"1\",\"b\":\"2\",\"a\":\"3\"\x7d, \"x\":[1e400,\x7b\"fields\":0\x7d], "
    ++ "\"metric_name\":\"cpu\", \"fields\":null\x7d"

/-- The last value of the tag counts, and what is unknown is passed over. -/
theorem ofJson_object_of_unknown :
    Json.Value.ofText? textWithUnknown = some (.object membersWithUnknown) ∧
      ofJson textWithUnknown = .ok ⟨"cpu", none, some (.ofList [("a", "3"), ("b", "2")]), none⟩ := by
  have htext : Json.Value.ofText? textWithUnknown = some (.object membersWithUnknown) :=
    Json.Value.ofText?_of_tokenize? (by decide +kernel)
  have htags : ∀ key, (StringMap.ofList [("a", "3"), ("b", "2")]).get? key
      = [("a", "1"), ("b", "2"), ("a", "3")].reverse.lookup key :=
    StringMap.ofList_eq_iff.1 (by decide)
  have hmembers : Described membersWithUnknown
      ⟨"cpu", none, some (.ofList [("a", "3"), ("b", "2")]), none⟩ :=
    ⟨by decide, rfl, .null, .value (.intro htags), .missing⟩
  exact ⟨htext, ((ofJson_object htext).1 _).2 hmembers⟩

end CanaryMetrics.Metric
