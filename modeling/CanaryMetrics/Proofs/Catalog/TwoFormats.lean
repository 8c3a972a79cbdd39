import CanaryMetrics.Proofs.Catalog.RoundTrip
import CanaryMetrics.Proofs.Metric.Described
import CanaryMetrics.Proofs.Toml.AsJson

namespace CanaryMetrics.Catalog

open Datum Toml

/-!
# TOML and JSON describe the same metrics

The members of a metric can be written as a JSON object, or in TOML next to the name of an entry.  The
second way they are set apart from the name before they are read.

* `ofToml_of_single` — of a TOML text with one entry, that entry is read.
* `isWrongType_of_refused` — where a TOML value is refused, a value of another type is wanted.
* `PlainMembers` — members that both formats can hold.
* `PlainMembers.json`, `PlainMembers.toml` — both ways to write them.
* `PlainMembers.ofText?_toml`, `PlainMembers.readJson_json` — each text holds the members as they are.
* `PlainMembers.ofToml_eq_ok_iff` — the metric that is read is the one that the members describe.
* `PlainMembers.ofToml_eq_ofJson` — so the same metric is read from both, or the same error is met.
-/

/-! ### A catalog with one entry -/

/-- Of a text that defines one entry, the entry is read. -/
theorem ofToml_of_single {text : String} {written : List (String × Value)}
    (h : Toml.ofText? text = some [("metrics", .array [.table written])]) :
    ofToml text = (fun e => ⟨none, [e]⟩) <$> Entry.ofMembers (Value.entryData written) := by
  have hread : readEntries (Value.array [.table written]).datum
      = ([·]) <$> Entry.ofMembers (Value.entryData written) := by
    show [(Value.table written).datum].mapM readEntry = _
    rw [List.mapM_cons, Value.datum, readEntry]
    cases Entry.ofMembers (Value.entryData written) <;> rfl
  unfold ofToml
  rw [h]
  show Draft.finish <$> readMembers Field.ofKey? Draft.read {} [(some "metrics", _)] = _
  rw [readMembers_singleton (show Field.ofKey? "metrics" = some .entries by decide)]
  unfold Draft.read
  rw [readOnce_none, hread]
  cases Entry.ofMembers (Value.entryData written) <;> rfl

/-! ### What is refused of TOML -/

/-- The items of a TOML array are TOML values. -/
theorem exists_value_of_mem_items {v : Value} {items : List Datum} (h : v.datum = .sequence items) :
    ∀ d ∈ items, ∃ w : Value, d = w.datum := by
  cases v with
  | array written =>
    rw [Value.datum, Value.itemData_eq_map] at h
    cases h
    exact List.forall_mem_map.2 fun w _ => ⟨w, rfl⟩
  | _ => cases h

/-- The members of a TOML table have keys and TOML values.  So has what a date has become. -/
theorem exists_value_of_mem_members {v : Value} {members : List (Option String × Datum)}
    (h : v.datum = .map members) :
    ∀ m ∈ members, ∃ (key : String) (w : Value), m = (some key, w.datum) := by
  cases v with
  | table written =>
    rw [Value.datum, Value.entryData_eq_map] at h
    cases h
    exact List.forall_mem_map.2 fun e _ => ⟨e.1, e.2, rfl⟩
  | dateTime t =>
    rw [Value.datum] at h
    cases h
    exact List.forall_mem_singleton.2 ⟨_, .string t.text, rfl⟩
  | _ => cases h

/-- What is found is of another type than wanted. -/
def IsWrongType (e : ReadError) : Prop :=
  ∃ found wanted, e = .shape (.wrongType found wanted)

theorem isWrongType_mismatch (v : Value) (wanted : Wanted) : IsWrongType (v.datum.mismatch wanted) := by
  cases v <;> exact ⟨_, wanted, rfl⟩

theorem isWrongType_of_noString {v : Value} {e : ReadError} (h : NoString v.datum e) : IsWrongType e := by
  obtain ⟨-⟩ := h
  exact isWrongType_mismatch v .string

theorem isWrongType_of_noStrings {v : Value} {e : ReadError} (h : NoStrings v.datum e) : IsWrongType e := by
  generalize hd : v.datum = d at h
  cases h with
  | type => exact hd ▸ isWrongType_mismatch v .sequence
  | item hbefore h =>
    obtain ⟨w, rfl⟩ := exists_value_of_mem_items hd _ (List.mem_append_right _ List.mem_cons_self)
    exact isWrongType_of_noString h

theorem isWrongType_of_noStringMap {v : Value} {e : ReadError} (h : NoStringMap v.datum e) :
    IsWrongType e := by
  -- the members of a table have keys, so that a missing key is impossible here
  generalize hd : v.datum = d at h
  cases h with
  | type => exact hd ▸ isWrongType_mismatch v .map
  | key hbefore =>
    obtain ⟨key, w, hm⟩ := exists_value_of_mem_members hd _ (List.mem_append_right _ List.mem_cons_self)
    cases hm
  | member hbefore h =>
    obtain ⟨key, w, hm⟩ := exists_value_of_mem_members hd _ (List.mem_append_right _ List.mem_cons_self)
    cases hm
    exact isWrongType_of_noString h

/-- Where a TOML value is refused, something of another type is found than wanted. -/
theorem isWrongType_of_refused {field : Metric.Field} {v : Value} {e : ReadError}
    (h : field.Refused v.datum e) : IsWrongType e := by
  cases field with
  | measurement => exact isWrongType_of_noString h
  | fields | groupBy => exact isWrongType_of_noStrings h.2
  | tags => exact isWrongType_of_noStringMap h.2

/-! ### Plain members -/

/-- Members that both formats can hold: their keys are different, none of them is the key of a name, and
    their values are made of strings, truth values, integers of 64 bits, and arrays and tables of such
    values. -/
structure PlainMembers where
  /-- The members, each with its key as it is written in TOML. -/
  members : List (KeyPart × Value)
  /-- No key comes twice. -/
  nodup_keys : (members.map fun m => m.1.key).Nodup
  /-- None is the key of a name. -/
  ne_nameKey : ∀ m ∈ members, m.1.key ≠ Entry.nameKey
  /-- The values nest to 64 levels at most. -/
  inline : ∀ m ∈ members, m.2.Inline 64

namespace PlainMembers

variable (ms : PlainMembers) (name : String) (place : Nat)

/-- The members as data. -/
def data : List (Option String × Datum) :=
  ms.members.map fun m => (some m.1.key, m.2.datum)

/-- The members as a JSON object. -/
def json : String :=
  (Json.Value.ofMembers (ms.members.map fun m => (m.1.key, m.2.json))).text

/-- The members as entries of a table, with a name behind so many of them. -/
def lines : List (KeyPart × Value) :=
  ms.members.take place ++ (.bare Entry.nameKey, .string name) :: ms.members.drop place

/-- The members below the header of an entry. -/
def sectionText : SectionText where
  header := .element (.single (.bare Field.entries.name))
  entries := (ms.lines name place).map fun m => (.single m.1, m.2)

/-- The members as a catalog with one entry. -/
def toml : String :=
  String.ofList (ms.sectionText name place).chars

/-- The members whose keys mean something. -/
def known : PlainMembers where
  members := ms.members.filter fun m => (Metric.Field.ofKey? m.1.key).isSome
  nodup_keys := ms.nodup_keys.sublist (List.filter_sublist.map _)
  ne_nameKey := fun m hm => ms.ne_nameKey m (List.mem_filter.1 hm).1
  inline := fun m hm => ms.inline m (List.mem_filter.1 hm).1

/-! ### The JSON text -/

/-- The members as those of a JSON object. -/
def jsonMembers : List (Option String × Json.Value) :=
  ms.members.map fun m => (some m.1.key, m.2.json)

/-- They are the same data as in TOML. -/
theorem memberData_jsonMembers : Json.Value.memberData ms.jsonMembers = ms.data := by
  rw [Json.Value.memberData_eq_map, jsonMembers, List.map_map]
  exact List.map_congr_left fun m hm => congrArg (some m.1.key, ·) (ms.inline m hm).datum_json

/-- The members are read from their JSON text as they are. -/
theorem readJson_json : Metric.ofJson ms.json = Metric.ofMembers ms.data := by
  have hproper : (Json.Value.ofMembers (ms.members.map fun m => (m.1.key, m.2.json))).Proper :=
    Json.Value.proper_ofMembers (List.forall_mem_map.2 fun m hm => (ms.inline m hm).proper_json)
  have hobject : Json.Value.ofMembers (ms.members.map fun m => (m.1.key, m.2.json))
      = .object ms.jsonMembers := by
    rw [Json.Value.ofMembers, List.map_map]
    rfl
  unfold Metric.ofJson json
  rw [readJson_text hproper, hobject, Json.Value.datum, memberData_jsonMembers, Metric.ofDatum]

/-! ### The TOML text -/

/-- What the table of the entry holds. -/
def entries : List (String × Value) :=
  (ms.lines name place).map fun m => (m.1.key, m.2)

theorem nodup_entries : ((ms.entries name place).map Prod.fst).Nodup := by
  have hname : "name" ∉ ms.members.map fun m => m.1.key := by
    intro hmem
    obtain ⟨m, hm, hkey⟩ := List.mem_map.1 hmem
    exact ms.ne_nameKey m hm hkey
  unfold entries lines
  -- the name may as well stand in front
  rw [List.map_map, List.map_append, List.map_cons, List.perm_middle.nodup_iff, ← List.map_append,
    List.take_append_drop]
  exact List.nodup_cons.2 ⟨hname, ms.nodup_keys⟩

theorem inline_sectionText : (ms.sectionText name place).Inline := by
  refine List.forall_mem_map.2 fun m hm => ?_
  have hlevels : 64 ≤ nestingLimit - 1 := by decide
  rcases List.mem_append.1 hm with hm | hm
  · exact (ms.inline m (List.mem_of_mem_take hm)).mono hlevels
  · rcases List.mem_cons.1 hm with rfl | hm
    · exact .string _ name
    · exact (ms.inline m (List.mem_of_mem_drop hm)).mono hlevels

/-- The TOML text defines one entry, whose table holds the members with the name among them. -/
theorem ofText?_toml :
    Toml.ofText? (ms.toml name place) = some [("metrics", .array [.table (ms.entries name place)])] := by
  have hsection : (ms.sectionText name place).toSection
      = ⟨.element ⟨[], "metrics"⟩, Node.undotted (ms.entries name place)⟩ := by
    simp [SectionText.toSection, sectionText, entries, HeaderText.header, Node.undotted, KeyText.key,
      KeyText.single, Field.name]
  have helement : Entry.MakesElement [ms.sectionText name place] (Node.ofMembers (ms.entries name place)) :=
    Entry.makesElement_singleton hsection (Node.addEntries?_members (ms.nodup_entries name place))
  -- the document has one section, which finds no elements before its own
  have htext := ofText?_sections (List.forall_mem_singleton.2 (ms.inline_sectionText name place))
  rw [List.flatMap_singleton] at htext
  rw [toml, htext, build?]
  show Node.finishEntries <$> (List.foldlM addSection? (Node.withElements "metrics" [] []) _) = _
  rw [helement [] (by simp [Node.Fresh]), Option.map_eq_map, Option.map_some, finishEntries_withElements,
    List.nil_append, List.map_singleton, Node.finishEntries_ofMembers]
  rfl

/-- The members are read from their TOML text as they are, next to the name. -/
theorem readToml_toml :
    ofToml (ms.toml name place) = (fun m => ⟨none, [⟨name, m⟩]⟩) <$> Metric.ofMembers ms.data := by
  have hentries : Value.entryData (ms.entries name place)
      = ms.data.take place ++ (some Entry.nameKey, .string name) :: ms.data.drop place := by
    simp only [Value.entryData_eq_map, entries, lines, data, List.map_append, List.map_cons, List.map_map,
      List.map_take, List.map_drop, KeyPart.key_bare, datum_string, Function.comp_def]
  -- the name may stand anywhere among the members, since no other key is equal to it
  have hne : ∀ m ∈ ms.data.take place ++ ms.data.drop place,
      ∃ key, m.1 = some key ∧ key ≠ Entry.nameKey := by
    rw [List.take_append_drop]
    exact List.forall_mem_map.2 fun m hm => ⟨_, rfl, ms.ne_nameKey m hm⟩
  rw [ofToml_of_single (ms.ofText?_toml name place), hentries, Entry.ofMembers_name name hne,
    List.take_append_drop]
  cases Metric.ofMembers ms.data <;> rfl

/-! ### The metric -/

/-- The catalog that is read has the name and the metric that the members describe. -/
theorem ofToml_eq_ok_iff {c : Catalog} :
    ofToml (ms.toml name place) = .ok c ↔
      ∃ m, Metric.Described ms.jsonMembers m ∧ c = ⟨none, [⟨name, m⟩]⟩ := by
  rw [readToml_toml, map_eq_ok_iff, ← memberData_jsonMembers]
  exact exists_congr fun m => and_congr Metric.ofMembers_eq_ok_iff eq_comm

/-! ### The errors -/

/-- The errors that there can be with plain members. -/
theorem kind_of_fault {e : ReadError} (h : Metric.Fault ms.data e) :
    IsWrongType e ∨ (∃ field : Metric.Field, e = .shape (.duplicateField field.name)) ∨
      e = .shape (.missingField Metric.Field.measurement.name) := by
  cases h with
  | missing => exact .inr (.inr rfl)
  | offence h =>
    obtain ⟨before, m, after, hdata, -, hm⟩ := h
    -- the member is one that was written, so it has a key and a TOML value
    obtain ⟨written, -, hwritten⟩ :=
      List.mem_map.1 (hdata ▸ List.mem_append_right before List.mem_cons_self : m ∈ ms.data)
    cases hm with
    | key d => cases hwritten
    | again d hkey hbefore => exact .inr (.inl ⟨_, rfl⟩)
    | refused hkey hbefore hd =>
      cases hwritten
      exact .inl (isWrongType_of_refused hd)

/-! ### Members of unknown names -/

theorem data_known : ms.known.data = ms.data.filter (isKnown Metric.Field.ofKey?) := by
  unfold data known
  rw [List.filter_map]
  rfl

theorem ofMembers_data_known : Metric.ofMembers ms.known.data = Metric.ofMembers ms.data := by
  rw [ms.data_known, Metric.ofMembers_filter_isKnown]

/-- **TOML and JSON describe the same metrics.**  Plain members, written in TOML next to a name that stands
    anywhere among them,

    * are read as a catalog with one entry, which has the name and the metric that the same members
      describe as a JSON object, or both fail with the same error;
    * fail for the first member in their order that names a field again under its other spelling or holds
      what its field does not accept, or, if there is no such member, since none names the measurement;
    * fail with a wrong type, a duplicate field or the missing measurement, and not otherwise;
    * are read as without the members whose keys name no field, in both formats. -/
theorem ofToml_eq_ofJson :
    ofToml (ms.toml name place) = (fun m => ⟨none, [⟨name, m⟩]⟩) <$> Metric.ofJson ms.json ∧
      (∀ e, Metric.ofJson ms.json = .error e ↔ Metric.Fault ms.data e) ∧
      (∀ e, Metric.ofJson ms.json = .error e →
        IsWrongType e ∨ (∃ field : Metric.Field, e = .shape (.duplicateField field.name)) ∨
          e = .shape (.missingField Metric.Field.measurement.name)) ∧
      Metric.ofJson ms.known.json = Metric.ofJson ms.json ∧
      ∀ place', ofToml (ms.known.toml name place') = ofToml (ms.toml name place) := by
  refine ⟨?_, fun e => ?_, fun e h => ?_, ?_, fun place' => ?_⟩
  · rw [readToml_toml, readJson_json]
  · rw [readJson_json, Metric.ofMembers_eq_error_iff]
  · rw [readJson_json, Metric.ofMembers_eq_error_iff] at h
    exact ms.kind_of_fault h
  · rw [readJson_json, readJson_json, ofMembers_data_known]
  · rw [readToml_toml, readToml_toml, ofMembers_data_known]

/-- A measurement under both spellings of its key, with something unknown between. -/
def bothSpellings : PlainMembers where
  members :=
    [(.bare Metric.Field.measurement.name, .string "m"),
      (.quoted "no field", .array [.integer (-1), .table []]), (.quoted "metric_name", .integer 5)]
  nodup_keys := by decide
  ne_nameKey := by decide
  inline := by
    simp only [List.forall_mem_cons]
    refine ⟨.string _ _, .array ?_, .integer _ ⟨by decide, by decide⟩, by simp⟩
    simp only [List.forall_mem_cons]
    exact ⟨.integer _ ⟨by decide, by decide⟩, .table .nil (by simp), by simp⟩

/-- Every part of a metric, two of them under their other keys. -/
def everyPart : PlainMembers where
  members :=
    [(.bare Metric.Field.tags.name, .table [("t", .string "x"), ("s", .string "y")]),
      (.quoted "metric_name", .string "m"), (.bare Metric.Field.fields.name, .array [.string "f"]),
      (.quoted "group_by_fields", .array [])]
  nodup_keys := by decide
  ne_nameKey := by decide
  inline := by
    simp only [List.forall_mem_cons]
    refine ⟨.table (by decide) ?_, .string _ _, .array ?_, .array (by simp), by simp⟩
    · simp only [List.forall_mem_cons]
      exact ⟨.string _ _, .string _ _, by simp⟩
    · simp only [List.forall_mem_cons]
      exact ⟨.string _ _, by simp⟩

/-- The second spelling is a duplicate in both formats, before its own type is looked at; every part of a
    metric is read in both. -/
theorem ofToml_eq_ofJson_of_bothSpellings :
    bothSpellings.json = "\x7b\"metricName\":\"m\",\"no field\":[-1,\x7b\x7d],\"metric_name\":5\x7d" ∧
      bothSpellings.toml "a" 1 = "[[metrics]]\nmetricName = \"m\"\nname = \"a\"\n"
        ++ "\"no field\" = [-1, \x7b\x7d]\n\"metric_name\" = 5\n\n" ∧
      Metric.ofJson bothSpellings.json = .error (.shape (.duplicateField "metricName")) ∧
      ofToml (bothSpellings.toml "a" 1) = .error (.shape (.duplicateField "metricName")) ∧
      everyPart.toml "a" 2 = "[[metrics]]\ntags = \x7b\"t\" = \"x\", \"s\" = \"y\"\x7d\n\"metric_name\" = \"m\"\n"
        ++ "name = \"a\"\nfields = [\"f\"]\n\"group_by_fields\" = []\n\n" ∧
      Metric.ofJson everyPart.json
        = .ok ⟨"m", some ["f"], some (.ofList [("s", "y"), ("t", "x")]), some []⟩ ∧
      ofToml (everyPart.toml "a" 2)
        = .ok ⟨none, [⟨"a", ⟨"m", some ["f"], some (.ofList [("s", "y"), ("t", "x")]), some []⟩⟩]⟩ := by
  have hjson : Metric.ofJson bothSpellings.json = .error (.shape (.duplicateField "metricName")) := by
    rw [readJson_json]
    rfl
  have heach : Metric.ofJson everyPart.json
      = .ok ⟨"m", some ["f"], some (.ofList [("s", "y"), ("t", "x")]), some []⟩ := by
    rw [readJson_json]
    exact eq_ok_of_toOption (by decide +kernel)
  refine ⟨by decide +kernel, by decide +kernel, hjson, ?_, by decide +kernel, heach, ?_⟩
  · rw [(bothSpellings.ofToml_eq_ofJson "a" 1).1, hjson]
    rfl
  · rw [(everyPart.ofToml_eq_ofJson "a" 2).1, heach]
    rfl

end PlainMembers

end CanaryMetrics.Catalog
