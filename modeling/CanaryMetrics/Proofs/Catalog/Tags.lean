import CanaryMetrics.Catalog.Reader
import CanaryMetrics.Proofs.Metric.Faults
import CanaryMetrics.Proofs.StringMap
import CanaryMetrics.Proofs.Toml.DistinctKeys
import Mathlib

namespace CanaryMetrics.Catalog

open Datum Toml

/-!
# Where the tags of a catalog come from

The tags of an entry are read from whatever stands under `tags` in its table.  A table there has to hold
strings only, and then its keys and strings are the tags.  A date or time is not refused, since it has
become a map with one member on the way.

* `elements` — the elements of the array that a document's metrics are.
* `slot_tags`, `tags_of_ofMembers` — the tags of a metric are read from the one member under `tags`.
* `Faithful` — the tags are those that a table holds under `tags`.
* `faithful_or_dateTime` — they are so, or a date or time stands there.
* `ofToml_tags` — this holds of all entries of a catalog.
-/

/-! ### The tags of a metric -/

theorem slot_tags :
    Slot Metric.Draft.read .tags (·.tags) (fun d => d.readOptional readStringMap) :=
  Metric.slotted.isSlot .tags

/-- The tags of a metric are read from the one member under `tags`, or missing with it. -/
theorem tags_of_ofMembers {members : List (Option String × Datum)} {m : Metric}
    (h : Metric.ofMembers members = .ok m) :
    (named Metric.Field.ofKey? .tags members = [] ∧ m.tags = none) ∨
      ∃ d, named Metric.Field.ofKey? .tags members = [d] ∧ d.readOptional readStringMap = .ok m.tags := by
  obtain ⟨draft, hread, hfinish⟩ := bind_eq_ok_iff.1 h
  have htags : m.tags = draft.tags.join := by
    unfold Metric.Draft.finish at hfinish
    split at hfinish
    · cases hfinish
    · cases hfinish
      rfl
  -- the key occurs once or not at all, since a second time it would be refused
  rcases slot_tags.of_readMembers hread with ⟨hnil, hslot⟩ | ⟨-, d, tags, hone, hvalue, hslot⟩
  · exact .inl ⟨hnil, by rw [htags, hslot]; rfl⟩
  · refine .inr ⟨d, hone, ?_⟩
    rw [htags, hslot, hvalue]
    rfl

/-! ### The tags of a table -/

/-- The key of the tags. -/
def tagsKey : String := Metric.Field.tags.name

theorem ofKey?_eq_tags_iff {key : String} : Metric.Field.ofKey? key = some .tags ↔ key = tagsKey := by
  unfold Metric.Field.ofKey? tagsKey Metric.Field.name
  grind

/-- The tags are those that a table holds under `tags`, all of them strings. -/
structure Faithful (entries : List (String × Value)) (tags : Option StringMap) : Prop where
  /-- Each tag is written as a key with a string, and each such key is a tag. -/
  mem_iff : ∀ key value, (∃ m ∈ tags, (key, value) ∈ m.entries) ↔
    ∃ written, (tagsKey, .table written) ∈ entries ∧ (key, .string value) ∈ written
  /-- Nothing but strings is written there. -/
  strings : ∀ written, (tagsKey, .table written) ∈ entries → ∀ e ∈ written, ∃ value, e.2 = .string value

/-- What stands under different keys is told apart by the key. -/
theorem eq_of_mem_of_nodup {entries : List (String × Value)} (h : (entries.map Prod.fst).Nodup)
    {key : String} {v w : Value} (hv : (key, v) ∈ entries) (hw : (key, w) ∈ entries) : v = w := by
  rw [StringMap.mem_iff_lookup_eq_some h] at hv hw
  exact Option.some.inj (hv.symm.trans hw)

/-- Only a string is read as one. -/
theorem eq_string_of_readString {v : Value} {s : String} (h : v.datum.readString = .ok s) :
    v = .string s := by
  cases v with
  | string s' =>
    cases h
    rfl
  | _ => cases h

/-- Pairs of strings that are read from a table are what the table holds. -/
theorem eq_map_of_mapM_readPair {written : List (String × Value)} {pairs : List (String × String)}
    (h : (Value.entryData written).mapM readPair = .ok pairs) :
    written = pairs.map fun p => (p.1, .string p.2) := by
  induction written generalizing pairs with
  | nil =>
    cases h
    rfl
  | cons e written ih =>
    obtain ⟨key, v⟩ := e
    rw [Value.entryData, List.mapM_cons] at h
    obtain ⟨pair, hpair, h⟩ := bind_eq_ok_iff.1 h
    obtain ⟨rest, hrest, h⟩ := bind_eq_ok_iff.1 h
    cases h
    obtain ⟨_, hkey, hvalue⟩ := bind_eq_ok_iff.1 hpair
    cases hkey
    obtain ⟨s, hstring, hpair⟩ := bind_eq_ok_iff.1 hvalue
    cases hpair
    rw [ih hrest, eq_string_of_readString hstring]
    rfl

/-- A table under `tags` is read as its keys and strings. -/
theorem faithful_of_table {entries written : List (String × Value)} {tags : Option StringMap}
    (hentries : (Value.table entries).DistinctKeys) (hwritten : (tagsKey, .table written) ∈ entries)
    (h : (Value.table written).datum.readOptional readStringMap = .ok tags) : Faithful entries tags := by
  cases hentries with
  | table hkeys hvalues =>
    cases hvalues _ hwritten with
    | table hnodup _ =>
      obtain ⟨m, hmap, rfl⟩ := map_eq_ok_iff.1 h
      obtain ⟨pairs, hpairs, rfl⟩ := map_eq_ok_iff.1 hmap
      have heq := eq_map_of_mapM_readPair hpairs
      have hdistinct : (pairs.map Prod.fst).Nodup := by
        rw [heq, List.map_map] at hnodup
        exact hnodup
      have hmem : ∀ key value, (key, value) ∈ (StringMap.ofList pairs).entries ↔
          (key, .string value) ∈ written := by
        intro key value
        rw [StringMap.mem_entries_ofList_iff hdistinct, heq]
        simp
      -- there is no other table under the same key
      have honly : ∀ written', (tagsKey, .table written') ∈ entries → written' = written := by
        intro written' hwritten'
        exact Value.table.inj (eq_of_mem_of_nodup hkeys hwritten' hwritten)
      refine ⟨fun key value => ⟨?_, ?_⟩, ?_⟩
      · rintro ⟨m, hm, htag⟩
        cases hm
        exact ⟨written, hwritten, (hmem key value).1 htag⟩
      · rintro ⟨written', hwritten', htag⟩
        rw [honly written' hwritten'] at htag
        exact ⟨_, rfl, (hmem key value).2 htag⟩
      · intro written' hwritten' e he
        rw [honly written' hwritten', heq] at he
        obtain ⟨p, -, rfl⟩ := List.mem_map.1 he
        exact ⟨p.2, rfl⟩

/-! ### The tags of an entry -/

/-- What stands under `tags` in an entry's table is what its metric is read from. -/
theorem mem_named_tags {entries : List (String × Value)} {d : Datum} :
    d ∈ named Metric.Field.ofKey? .tags
        ((Value.entryData entries).filter fun m => m.1 ≠ some Entry.nameKey) ↔
      ∃ v, (tagsKey, v) ∈ entries ∧ v.datum = d := by
  rw [mem_named, Value.entryData_eq_map]
  constructor
  · rintro ⟨key, hmem, hkey⟩
    obtain ⟨e, he, heq⟩ := List.mem_map.1 (List.mem_filter.1 hmem).1
    obtain ⟨rfl, rfl⟩ : e.1 = key ∧ e.2.datum = d := by simpa using heq
    exact ⟨e.2, ofKey?_eq_tags_iff.1 hkey ▸ he, rfl⟩
  · rintro ⟨v, hv, rfl⟩
    -- the entry's name is taken out first, but its key is not that of the tags
    have hname : some tagsKey ≠ some Entry.nameKey := by decide
    exact ⟨tagsKey, List.mem_filter.2 ⟨List.mem_map.2 ⟨_, hv, rfl⟩, decide_eq_true hname⟩,
      ofKey?_eq_tags_iff.2 rfl⟩

/-- The tags of an entry that is read are those of a table, or a date or time stands where it should. -/
theorem faithful_or_dateTime {entries : List (String × Value)} {e : Entry}
    (hentries : (Value.table entries).DistinctKeys)
    (h : Entry.ofMembers (Value.entryData entries) = .ok e) :
    ((∀ t, (tagsKey, .dateTime t) ∉ entries) ∧ Faithful entries e.metric.tags) ∨
      ∃ t, (tagsKey, .dateTime t) ∈ entries ∧
        e.metric.tags = some (.ofList [(Value.dateTimeKey, t.text)]) := by
  obtain ⟨name, -, h⟩ := bind_eq_ok_iff.1 h
  obtain ⟨m, hmetric, h⟩ := bind_eq_ok_iff.1 h
  cases h
  rcases tags_of_ofMembers hmetric with ⟨hnil, htags⟩ | ⟨d, hone, htags⟩
  · -- nothing stands under the key
    have hnone : ∀ v, (tagsKey, v) ∉ entries := by
      intro v hv
      have hmem := mem_named_tags.2 ⟨v, hv, rfl⟩
      rw [hnil] at hmem
      cases hmem
    refine .inl ⟨fun t => hnone _, ⟨fun key value => ?_, fun written hw => absurd hw (hnone _)⟩⟩
    simp [htags, hnone]
  · obtain ⟨v, hv, rfl⟩ := mem_named_tags.1 (hone ▸ List.mem_singleton_self d)
    cases v with
    | table written =>
      refine .inl ⟨fun t ht => ?_, faithful_of_table hentries hv htags⟩
      cases hentries with
      | table hkeys _ => cases eq_of_mem_of_nodup hkeys ht hv
    | dateTime t =>
      -- the date has become a map of its text
      have hread : (Value.dateTime t).datum.readOptional readStringMap
          = .ok (some (.ofList [(Value.dateTimeKey, t.text)])) := rfl
      rw [hread] at htags
      exact .inr ⟨t, hv, (Except.ok.inj htags).symm⟩
    | bool b | integer n | real x | string s | array items => cases htags

/-! ### The entries of a catalog -/

/-- The elements of the array that a document's metrics are. -/
def elements (top : List (String × Value)) : List Value :=
  match top.lookup Field.entries.name with
  | some (.array items) => items
  | _ => []

/-- Items that are read one by one correspond to what they are read as. -/
theorem forall₂_of_mapM {ε α β : Type} {f : α → Except ε β} {as : List α} {bs : List β}
    (h : as.mapM f = .ok bs) : List.Forall₂ (fun a b => f a = .ok b) as bs := by
  induction as generalizing bs with
  | nil =>
    cases h
    exact .nil
  | cons a as ih =>
    rw [List.mapM_cons] at h
    obtain ⟨b, hb, h⟩ := bind_eq_ok_iff.1 h
    obtain ⟨bs, hbs, h⟩ := bind_eq_ok_iff.1 h
    cases h
    exact .cons hb (ih hbs)

theorem slot_entries : Slot Draft.read .entries (·.entries) readEntries where
  own := by
    intro draft d draft' h
    obtain ⟨entries, hread, h⟩ := bind_eq_ok_iff.1 h
    cases h
    exact readOnce_eq_ok_iff.1 hread
  other := by
    intro draft field d draft' hne h
    cases field with
    | entries => exact absurd rfl hne
    | defaults =>
      obtain ⟨value, -, h⟩ := bind_eq_ok_iff.1 h
      cases h
      rfl

theorem ofKey?_eq_entries_iff {key : String} :
    Field.ofKey? key = some .entries ↔ key = Field.entries.name := by
  unfold Field.ofKey? Field.name
  grind

/-- The entries of a catalog are read from the elements of one array. -/
theorem forall₂_of_ofMembers {top : List (String × Value)} {c : Catalog}
    (hnodup : (top.map Prod.fst).Nodup) (h : ofMembers (Value.entryData top) = .ok c) :
    List.Forall₂ (fun v e => readEntry v.datum = .ok e) (elements top) c.entries := by
  have hmem : ∀ {d}, d ∈ named Field.ofKey? .entries (Value.entryData top) ↔
      ∃ v, (Field.entries.name, v) ∈ top ∧ v.datum = d := by
    intro d
    rw [mem_named, Value.entryData_eq_map]
    simp [ofKey?_eq_entries_iff]
  obtain ⟨draft, hread, rfl⟩ := map_eq_ok_iff.1 h
  rcases slot_entries.of_readMembers hread with ⟨hnil, hslot⟩ | ⟨-, d, es, hone, hvalue, hslot⟩
  · -- there are no metrics, and no entries
    have hnone : top.lookup Field.entries.name = none := by
      cases hlookup : top.lookup Field.entries.name with
      | none => rfl
      | some v =>
        have hv := hmem.2 ⟨v, (StringMap.mem_iff_lookup_eq_some hnodup).2 hlookup, rfl⟩
        rw [hnil] at hv
        cases hv
    rw [elements, hnone, Draft.finish, hslot]
    exact .nil
  · obtain ⟨v, hv, rfl⟩ := hmem.1 (hone ▸ List.mem_singleton_self d)
    rw [elements, (StringMap.mem_iff_lookup_eq_some hnodup).1 hv, Draft.finish, hslot]
    cases v with
    | array items =>
      have hitems : (Value.itemData items).mapM readEntry = .ok es := hvalue
      rw [Value.itemData_eq_map] at hitems
      exact List.forall₂_map_left_iff.1 (forall₂_of_mapM hitems)
    | bool b | integer n | real x | string s | dateTime t | table written => cases hvalue

/-- Only a table is read as an entry. -/
theorem exists_table_of_readEntry {v : Value} {e : Entry} (h : readEntry v.datum = .ok e) :
    ∃ entries, v = .table entries ∧ Entry.ofMembers (Value.entryData entries) = .ok e := by
  cases v with
  | table entries => exact ⟨entries, rfl, h⟩
  | dateTime t =>
    -- the map that a date has become has no name
    cases h
  | bool b | integer n | real x | string s | array items => cases h

/-- In the elements of a document's metrics no key comes twice. -/
theorem distinctKeys_of_mem_elements {top : List (String × Value)} (h : (Value.table top).DistinctKeys) :
    ∀ v ∈ elements top, v.DistinctKeys := by
  intro v hv
  unfold elements at hv
  split at hv
  · rename_i items hlookup
    cases h with
    | table hnodup hvalues =>
      cases hvalues _ ((StringMap.mem_iff_lookup_eq_some hnodup).2 hlookup) with
      | array hitems => exact hitems v hv
  · cases hv

/-- **Tags come from tables of strings, and from dates.**  The entries of a catalog that is read from a
    text belong to the elements of the text's metrics, one to one.  Each of them is a table, and

    * unless a date or time stands under `tags` in it, the entry's tags are exactly the keys and strings
      of the table that stands there, which holds nothing but strings; none if there is no such table;
    * if a date or time stands there, the entry has one tag, a key that its author did not write with
      the text of the date or time. -/
theorem ofToml_tags {text : String} {c : Catalog} (h : ofToml text = .ok c) :
    ∃ top, Toml.ofText? text = some top ∧
      List.Forall₂
        (fun v e => ∃ entries, v = .table entries ∧
          (((∀ t, (tagsKey, .dateTime t) ∉ entries) ∧ Faithful entries e.metric.tags) ∨
            ∃ t, (tagsKey, .dateTime t) ∈ entries ∧
              e.metric.tags = some (.ofList [(Value.dateTimeKey, t.text)])))
        (elements top) c.entries := by
  unfold ofToml at h
  split at h
  · cases h
  · rename_i top htop
    have hdistinct := distinctKeys_of_ofText? htop
    refine ⟨top, htop, ?_⟩
    -- each element of the array is read by itself, as one entry
    have helements : List.Forall₂ (fun v e => v.DistinctKeys ∧ readEntry v.datum = .ok e)
        (elements top) c.entries := by
      refine (List.forall₂_and_left _ _).2 ⟨distinctKeys_of_mem_elements hdistinct, ?_⟩
      cases hdistinct with
      | table hnodup _ => exact forall₂_of_ofMembers hnodup h
    refine helements.imp fun v e hv => ?_
    obtain ⟨entries, rfl, hentry⟩ := exists_table_of_readEntry hv.2
    exact ⟨entries, rfl, faithful_or_dateTime hv.1 hentry⟩

/-- A table of tags, whose keys and strings the entry has. -/
theorem ofToml_tags_of_table :
    ∃ c, ofToml "[[metrics]]\nname = 'a'\nmetricName = 'm'\ntags.t = 'x'\n" = .ok c ∧
      c.entries.map (fun e => e.metric.tags) = [some (.ofList [("t", "x")])] ∧
      ∃ top, Toml.ofText? "[[metrics]]\nname = 'a'\nmetricName = 'm'\ntags.t = 'x'\n" = some top ∧
        List.Forall₂
          (fun v e => ∃ entries, v = .table entries ∧
            (((∀ t, (tagsKey, .dateTime t) ∉ entries) ∧ Faithful entries e.metric.tags) ∨
              ∃ t, (tagsKey, .dateTime t) ∈ entries ∧
                e.metric.tags = some (.ofList [(Value.dateTimeKey, t.text)])))
          (elements top) c.entries := by
  have h : ofToml "[[metrics]]\nname = 'a'\nmetricName = 'm'\ntags.t = 'x'\n"
      = .ok ⟨none, [⟨"a", ⟨"m", none, some (.ofList [("t", "x")]), none⟩⟩]⟩ :=
    eq_ok_of_toOption (by decide +kernel)
  exact ⟨_, h, rfl, ofToml_tags h⟩

/-- A date in the place of the tags, which the entry has as a tag that no table holds. -/
theorem not_faithful_of_date :
    ¬ ∀ text c, ofToml text = .ok c → ∃ top, Toml.ofText? text = some top ∧
      List.Forall₂ (fun v e => ∃ entries, v = .table entries ∧ Faithful entries e.metric.tags)
        (elements top) c.entries := by
  intro hall
  have htop : Toml.ofText? "[[metrics]]\nname = 'a'\nmetric_name = 'm'\ntags = 1979-05-27\n"
      = some [("metrics", .array [.table [("name", .string "a"), ("metric_name", .string "m"),
          ("tags", .dateTime (.date ⟨1979, 5, 27⟩))]])] := by
    cbv
  have hread : ofToml "[[metrics]]\nname = 'a'\nmetric_name = 'm'\ntags = 1979-05-27\n"
      = .ok ⟨none, [⟨"a", ⟨"m", none, some (.ofList [(Value.dateTimeKey, "1979-05-27")]), none⟩⟩]⟩ :=
    eq_ok_of_toOption (by decide +kernel)
  obtain ⟨top, htop', helements⟩ := hall _ _ hread
  cases htop.symm.trans htop'
  obtain ⟨⟨entries, hentries, hfaithful⟩, -⟩ := List.forall₂_cons.1 helements
  cases hentries
  -- the tag would have to be written in a table, but there is only the date
  obtain ⟨written, hwritten, -⟩ :=
    (hfaithful.mem_iff Value.dateTimeKey "1979-05-27").1 ⟨_, rfl, by decide⟩
  simp [tagsKey] at hwritten

end CanaryMetrics.Catalog
