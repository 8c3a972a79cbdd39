import CanaryMetrics.Proofs.Catalog.Written
import CanaryMetrics.Proofs.Datum.Readers

namespace CanaryMetrics.Catalog

open Datum Toml

/-!
# Catalogs are read as they were written

* `Entry.ofMembers_name` — the name of an entry may stand anywhere among its members.
* `Entry.ofMembers_entryData` — the table of an entry is read as that entry, whatever its style.
* `ofMembers_entryData` — so the table of a catalog is read as that catalog.
* `ofToml_toml` — reading the text of a catalog gives it back.
-/

/-! ### The name of an entry -/

/-- An entry's metric is read from the members around its name. -/
theorem Entry.ofMembers_name (name : String) {before after : List (Option String × Datum)}
    (h : ∀ m ∈ before ++ after, ∃ key, m.1 = some key ∧ key ≠ nameKey) :
    ofMembers (before ++ (some nameKey, .string name) :: after)
      = Entry.mk name <$> Metric.ofMembers (before ++ after) := by
  obtain ⟨hbefore, hafter⟩ := List.forall_mem_append.1 h
  have hunknown : ∀ {members : List (Option String × Datum)},
      (∀ m ∈ members, ∃ key, m.1 = some key ∧ key ≠ nameKey) →
      ∀ m ∈ members, ∃ key, m.1 = some key ∧ (if key = nameKey then some nameKey else none) = none := by
    intro members hmembers m hm
    obtain ⟨key, hkey, hne⟩ := hmembers m hm
    exact ⟨key, hkey, if_neg hne⟩
  -- the members around the name are passed over where the name is read ...
  have hname : nameOfMembers (before ++ (some nameKey, .string name) :: after) = .ok name := by
    have hread : readOnce nameKey none (Datum.string name).readString = .ok (some name) := rfl
    unfold nameOfMembers
    rw [readMembers_append, readMembers_of_unknown (hunknown hbefore), ok_bind,
      readMembers_cons (if_pos rfl), hread, ok_bind, readMembers_of_unknown (hunknown hafter), ok_bind]
  -- ... and left when it is taken away
  have hkept : ∀ {members : List (Option String × Datum)},
      (∀ m ∈ members, ∃ key, m.1 = some key ∧ key ≠ nameKey) →
      members.filter (fun m => m.1 ≠ some nameKey) = members := by
    intro members hmembers
    refine List.filter_eq_self.2 fun m hm => ?_
    obtain ⟨key, hkey, hne⟩ := hmembers m hm
    simpa [hkey] using hne
  unfold ofMembers
  rw [hname, ok_bind, List.filter_append, List.filter_cons_of_neg (by simp), hkept hbefore, hkept hafter]
  cases Metric.ofMembers (before ++ after) <;> rfl

/-! ### Values as data -/

theorem datum_string (s : String) : (Value.string s).datum = .string s := by
  rw [Value.datum]

theorem datum_stringsValue (items : List String) :
    (stringsValue items).datum = .sequence (items.map .string) := by
  rw [stringsValue, Value.datum, Value.itemData_eq_map, List.map_map]
  exact congrArg Datum.sequence (List.map_congr_left fun s _ => datum_string s)

theorem datum_tagsValue (tags : StringMap) :
    (Value.table (tagMembers tags)).datum = .map (tags.entries.map fun e => (some e.1, .string e.2)) := by
  rw [Value.datum, Value.entryData_eq_map, tagMembers, List.map_map]
  exact congrArg Datum.map (List.map_congr_left fun e _ => congrArg (some e.1, ·) (datum_string e.2))

namespace Entry

variable (e : Entry) (style : Style)

/-- The members of an entry's metric, as data. -/
def metricData : List (Option String × Datum) :=
  (some style.measurementKey.key, .string e.metric.measurement)
    :: (e.metric.fields.toList.map (fun fields => (some "fields", .sequence (fields.map .string)))
      ++ (e.metric.groupBy.toList.map
          (fun groupBy => (some style.groupByKey.key, .sequence (groupBy.map .string)))
        ++ (e.metric.tags.toList.map
            (fun tags => (some "tags", .map (tags.entries.map fun e => (some e.1, .string e.2))))
          ++ [])))

/-- The name of an entry comes first, and then the members of its metric. -/
theorem entryData_members :
    Value.entryData (e.members style) = (some nameKey, .string e.name) :: e.metricData style := by
  simp only [Value.entryData_eq_map, members, ownMembers, plainMembers, metricData, List.map_cons,
    List.map_append, List.map_map, Function.comp_def, KeyPart.key_bare, datum_string, datum_stringsValue,
    datum_tagsValue, List.cons_append, List.append_assoc, List.append_nil]
  rfl

theorem ofKey?_measurementKey : Metric.Field.ofKey? style.measurementKey.key = some .measurement := by
  unfold Style.measurementKey
  cases style.measurement <;> decide

theorem ofKey?_groupByKey : Metric.Field.ofKey? style.groupByKey.key = some .groupBy := by
  unfold Style.groupByKey
  cases style.groupBy <;> decide

/-- A draft with its measurement, and with some of the parts that may be missing. -/
def draft (measurement : String) (fields groupBy : Option (List String)) (tags : Option StringMap) :
    Metric.Draft where
  measurement := some measurement
  fields := fields.map some
  tags := tags.map some
  groupBy := groupBy.map some

theorem finish_draft (m : Metric) : (draft m.measurement m.fields m.groupBy m.tags).finish = .ok m := by
  obtain ⟨measurement, fields, tags, groupBy⟩ := m
  cases fields <;> cases tags <;> cases groupBy <;> rfl

/-- The members of an entry's metric are read as that metric: each is read into a slot that is free,
    and a slot stays free where there is no member. -/
theorem ofMembers_metricData : Metric.ofMembers (e.metricData style) = .ok e.metric := by
  have hstrings : ∀ items : List String,
      (Datum.sequence (items.map .string)).readOptional readStrings = .ok (some items) := fun items =>
    readOptional_of_ok (fun _ h => by cases h) (readStrings_sequence_map items)
  have hmap : ∀ tags : StringMap,
      (Datum.map (tags.entries.map fun e => (some e.1, .string e.2))).readOptional readStringMap
        = .ok (some tags) := fun tags =>
    readOptional_of_ok (fun _ h => by cases h) (readStringMap_map_entries tags)
  obtain ⟨-, measurement, fields, tags, groupBy⟩ := e
  unfold Metric.ofMembers metricData
  -- the draft after each step has what has been read up to there
  rw [readMembers_cons (ofKey?_measurementKey style)]
  show (readMembers _ _ (draft measurement none none none) _ >>= Metric.Draft.finish) = _
  rw [readMembers_optional (fun o => draft measurement o none none)
      (show Metric.Field.ofKey? "fields" = some .fields by decide)
      (fun items => by simp [Metric.Draft.read, readOnce_none, hstrings, draft]),
    readMembers_optional (fun o => draft measurement fields o none) (ofKey?_groupByKey style)
      (fun items => by simp [Metric.Draft.read, readOnce_none, hstrings, draft]),
    readMembers_optional (fun o => draft measurement fields groupBy o)
      (show Metric.Field.ofKey? "tags" = some .tags by decide)
      (fun tags => by simp [Metric.Draft.read, readOnce_none, hmap, draft])]
  exact finish_draft ⟨measurement, fields, tags, groupBy⟩

/-- No member of a metric has the key of the name. -/
theorem ne_nameKey_of_mem_metricData :
    ∀ m ∈ e.metricData style, ∃ key, m.1 = some key ∧ key ≠ nameKey := by
  -- both spellings of a key differ from `name`
  have hmeasurement : style.measurementKey.key ≠ nameKey := by
    unfold Style.measurementKey
    cases style.measurement <;> decide
  have hgroupBy : style.groupByKey.key ≠ nameKey := by
    unfold Style.groupByKey
    cases style.groupBy <;> decide
  intro m hm
  simp only [metricData, List.mem_cons, List.mem_append, List.mem_map, List.not_mem_nil, or_false] at hm
  rcases hm with rfl | ⟨-, -, rfl⟩ | ⟨-, -, rfl⟩ | ⟨-, -, rfl⟩
  · exact ⟨_, rfl, hmeasurement⟩
  · exact ⟨_, rfl, by decide⟩
  · exact ⟨_, rfl, hgroupBy⟩
  · exact ⟨_, rfl, by decide⟩

/-- The table of an entry is read as that entry. -/
theorem ofMembers_entryData : ofMembers (Value.entryData (e.members style)) = .ok e := by
  rw [e.entryData_members style, ← List.nil_append (_ :: _),
    ofMembers_name e.name (e.ne_nameKey_of_mem_metricData style), List.nil_append,
    e.ofMembers_metricData style]
  rfl

end Entry

/-! ### The catalog -/

variable (c : Catalog) (style : Style)

/-- The tables of entries are read as these entries. -/
theorem readEntries_datum (entries : List (Entry × Entry.Style)) :
    readEntries (Value.array (entries.map fun p => .table (p.1.members p.2))).datum
      = .ok (entries.map Prod.fst) := by
  rw [Value.datum, Value.itemData_eq_map, List.map_map]
  show List.mapM readEntry _ = _
  induction entries with
  | nil => rfl
  | cons p entries ih =>
    have hentry : readEntry (Value.table (p.1.members p.2)).datum = .ok p.1 := by
      rw [Value.datum]
      exact p.1.ofMembers_entryData p.2
    rw [List.map_cons, List.mapM_cons]
    show (readEntry (Value.table (p.1.members p.2)).datum >>= _) = _
    rw [hentry, ok_bind, ih]
    rfl

/-- The defaults are read as the scope expression, if there is one. -/
theorem readDefaults_datum (expression : Option String) :
    readDefaults (Value.table (expression.toList.map fun s => ("scope", .string s))).datum
      = .ok expression := by
  rw [Value.datum, Value.entryData_eq_map, List.map_map]
  cases expression with
  | none => rfl
  | some s =>
    rw [Option.toList_some, List.map_singleton]
    show readDefaults (.map [(some "scope", (Value.string s).datum)]) = _
    rw [datum_string]
    rfl

theorem map_fst_styledEntries : (c.styledEntries style).map Prod.fst = c.entries := by
  rw [styledEntries, List.map_map]
  exact List.zipIdx_map_fst 0 c.entries

/-- What is read of the defaults: there may be no section for them, but then there is no expression. -/
theorem exists_read_defaultMembers :
    ∃ defaults : Option (Option String), defaults.join = c.defaultExpression ∧
      ∀ members, readMembers Field.ofKey? Draft.read {}
          (Value.entryData (c.defaultMembers style) ++ members)
        = readMembers Field.ofKey? Draft.read { defaults } members := by
  unfold defaultMembers
  -- without a default the table may be left out, which the slot remembers and the catalog does not
  split
  · rename_i hnone
    exact ⟨none, hnone.1.symm, fun members => rfl⟩
  · refine ⟨some c.defaultExpression, rfl, fun members => ?_⟩
    rw [Value.entryData_eq_map, List.map_singleton, List.singleton_append,
      readMembers_cons (show Field.ofKey? "defaults" = some .defaults by decide)]
    simp only [Draft.read, readOnce_none, readDefaults_datum, map_ok, ok_bind, pure, Except.pure]

/-- What is read of the entries: there is no array of tables when there is no entry. -/
theorem read_elementMembers (defaults : Option (Option String)) (entries : List (Entry × Entry.Style)) :
    Draft.finish <$> readMembers Field.ofKey? Draft.read { defaults }
        (Value.entryData (elementMembers (entries.map fun p => p.1.members p.2)))
      = .ok ⟨defaults.join, entries.map Prod.fst⟩ := by
  -- a catalog without entries has no key for them at all
  cases entries with
  | nil => rfl
  | cons p entries =>
    have hread := readEntries_datum (p :: entries)
    rw [elementMembers, if_neg (by simp), Value.entryData_eq_map, List.map_singleton, List.map_map,
      readMembers_cons (show Field.ofKey? "metrics" = some .entries by decide)]
    simp only [Draft.read, readOnce_none, Function.comp_def, hread, map_ok, ok_bind, pure, Except.pure,
      readMembers_nil]
    rfl

/-- The table of a catalog is read as that catalog. -/
theorem ofMembers_entryData : ofMembers (Value.entryData (c.members style)) = .ok c := by
  obtain ⟨defaults, hdefaults, hread⟩ := c.exists_read_defaultMembers style
  have happend : ∀ members more : List (String × Value),
      Value.entryData (members ++ more) = Value.entryData members ++ Value.entryData more := by
    intro members more
    simp only [Value.entryData_eq_map, List.map_append]
  rw [ofMembers, members, happend, hread, read_elementMembers, hdefaults, map_fst_styledEntries]

/-- **Catalogs are read as they were written.**  Reading the TOML text of any catalog gives that catalog,
    its entries in their order, whatever spellings are chosen for keys that have two and in whatever way
    the tags of each entry are written. -/
theorem ofToml_toml : ofToml (c.toml style) = .ok c := by
  unfold ofToml
  rw [c.ofText?_toml style]
  exact c.ofMembers_entryData style

end CanaryMetrics.Catalog
