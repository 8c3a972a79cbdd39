import CanaryMetrics.Catalog.Reader
import CanaryMetrics.Proofs.StringMap
import CanaryMetrics.Proofs.Toml.Documents

namespace CanaryMetrics.Catalog

open Toml

/-!
# Catalogs as TOML documents

A catalog is written as a section for its defaults and one for each entry.  The tags of an entry, which
are a table within its table, can be written in three ways.

* `Style`, `Entry.Style` — the choices that there are in writing a catalog and an entry.
* `Catalog.toml` — the text of a catalog.
* `Entry.members`, `Catalog.members` — what the tables of an entry and of a catalog hold.
* `Entry.exists_makesElement` — the sections of an entry make one more element, which holds its members
  in whatever way its tags are written.
* `ofText?_toml` — so the text of a catalog defines the table of that catalog.
-/

/-! ### The text of a catalog -/

/-- The two spellings that some keys have. -/
inductive Spelling
  /-- Words joined by underscores. -/
  | underscores
  /-- Words joined by capital letters. -/
  | capitals

/-- The ways to write the tags of an entry. -/
inductive TagStyle
  /-- Below a header of their own. -/
  | header
  /-- As an inline table. -/
  | inline
  /-- Under dotted keys, one for each tag.  Where there is no tag they get a header of their own. -/
  | dotted

/-- The choices that there are in writing an entry. -/
structure Entry.Style where
  /-- The spelling of the measurement's key. -/
  measurement : Spelling := .underscores
  /-- The spelling of the grouping's key. -/
  groupBy : Spelling := .underscores
  /-- The way to write the tags. -/
  tags : TagStyle := .header

/-- The choices that there are in writing a catalog. -/
structure Style where
  /-- Is there a section for the defaults even if it is empty? -/
  emptyDefaults : Bool := false
  /-- The choices for the entry at each place. -/
  entry : Nat → Entry.Style := fun _ => {}

/-- A list of strings, as a value. -/
def stringsValue (items : List String) : Value :=
  .array (items.map .string)

/-- Tags, as the members of a table. -/
def tagMembers (tags : StringMap) : List (String × Value) :=
  tags.entries.map fun e => (e.1, .string e.2)

namespace Entry

namespace Style

/-- The key of the measurement. -/
def measurementKey (style : Style) : KeyPart :=
  match style.measurement with
  | .underscores => .bare "metric_name"
  | .capitals => .bare "metricName"

/-- The key of the grouping. -/
def groupByKey (style : Style) : KeyPart :=
  match style.groupBy with
  | .underscores => .bare "group_by_fields"
  | .capitals => .bare "groupByFields"

end Style

/-- The members that stand below the header of an entry whatever its style: all but the tags. -/
def plainMembers (e : Entry) (style : Style) : List (KeyPart × Value) :=
  (.bare "name", .string e.name) :: (style.measurementKey, .string e.metric.measurement)
    :: (e.metric.fields.toList.map (fun fields => (.bare "fields", stringsValue fields))
      ++ e.metric.groupBy.toList.map fun groupBy => (style.groupByKey, stringsValue groupBy))

/-- The section of an entry, with more entries behind its plain members. -/
def elementText (e : Entry) (style : Style) (more : List (KeyText × Value)) : SectionText where
  header := .element (.single (.bare "metrics"))
  entries := (e.plainMembers style).map (fun m => (.single m.1, m.2)) ++ more

/-- The section of tags below a header of their own. -/
def tagText (tags : StringMap) : SectionText where
  header := .table (.below (.bare "metrics") (.bare "tags"))
  entries := (tagMembers tags).map fun m => (.single (.quoted m.1), m.2)

/-- The sections of an entry. -/
def sectionTexts (e : Entry) (style : Style) : List SectionText :=
  match e.metric.tags with
  | none => [e.elementText style []]
  | some tags =>
    match style.tags with
    | .header => [e.elementText style [], tagText tags]
    | .inline => [e.elementText style [(.single (.bare "tags"), .table (tagMembers tags))]]
    | .dotted =>
      if tagMembers tags = [] then [e.elementText style [], tagText tags]
      else
        [e.elementText style
          ((tagMembers tags).map fun m => (.below (.bare "tags") (.quoted m.1), m.2))]

end Entry

/-- The section of the defaults, if there is one. -/
def defaultTexts (c : Catalog) (style : Style) : List SectionText :=
  if c.defaultExpression = none ∧ style.emptyDefaults = false then []
  else
    [{ header := .table (.single (.bare "defaults"))
       entries := c.defaultExpression.toList.map fun s => (.single (.bare "scope"), .string s) }]

/-- The entries of a catalog, each with its style. -/
def styledEntries (c : Catalog) (style : Style) : List (Entry × Entry.Style) :=
  c.entries.zipIdx.map fun p => (p.1, style.entry p.2)

/-- The sections of entries, each written in its style. -/
def entryTexts (entries : List (Entry × Entry.Style)) : List SectionText :=
  entries.flatMap fun p => p.1.sectionTexts p.2

/-- The text of a catalog. -/
def toml (c : Catalog) (style : Style) : String :=
  String.ofList <| List.flatMap SectionText.chars <|
    c.defaultTexts style ++ entryTexts (c.styledEntries style)

/-! ### Values on single lines -/

theorem inline_stringsValue (levels : Nat) (items : List String) :
    (stringsValue items).Inline (levels + 1) := by
  refine .array fun v hv => ?_
  obtain ⟨s, -, rfl⟩ := List.mem_map.1 hv
  exact .string levels s

theorem map_fst_tagMembers (tags : StringMap) :
    (tagMembers tags).map Prod.fst = tags.entries.map Prod.fst := by
  rw [tagMembers, List.map_map]
  rfl

theorem nodup_tagMembers (tags : StringMap) : ((tagMembers tags).map Prod.fst).Nodup :=
  map_fst_tagMembers tags ▸ tags.nodup_keys

theorem inline_of_mem_tagMembers (levels : Nat) {tags : StringMap} {m : String × Value}
    (h : m ∈ tagMembers tags) : m.2.Inline levels := by
  obtain ⟨e, -, rfl⟩ := List.mem_map.1 h
  exact .string levels e.2

theorem inline_tagsValue (levels : Nat) (tags : StringMap) :
    (Value.table (tagMembers tags)).Inline (levels + 1) :=
  .table (nodup_tagMembers tags) fun _ hm => inline_of_mem_tagMembers levels hm

namespace Entry

variable (e : Entry) (style : Style)

theorem inline_of_mem_plainMembers {m : KeyPart × Value} (h : m ∈ e.plainMembers style) :
    m.2.Inline (nestingLimit - 1) := by
  simp only [plainMembers, List.mem_cons, List.mem_append, List.mem_map] at h
  rcases h with rfl | rfl | ⟨fields, -, rfl⟩ | ⟨groupBy, -, rfl⟩
  · exact .string _ _
  · exact .string _ _
  · exact inline_stringsValue 78 fields
  · exact inline_stringsValue 78 groupBy

theorem inline_elementText {more : List (KeyText × Value)}
    (hmore : ∀ m ∈ more, m.2.Inline (nestingLimit - 1)) : (e.elementText style more).Inline := by
  intro m hm
  rcases List.mem_append.1 hm with hplain | hmem
  · obtain ⟨p, hp, rfl⟩ := List.mem_map.1 hplain
    exact e.inline_of_mem_plainMembers style hp
  · exact hmore m hmem

theorem inline_tagText (tags : StringMap) : (tagText tags).Inline := by
  intro m hm
  obtain ⟨p, hp, rfl⟩ := List.mem_map.1 hm
  exact inline_of_mem_tagMembers _ hp

/-- All values of an entry can be written on a single line. -/
theorem inline_of_mem_sectionTexts : ∀ s ∈ e.sectionTexts style, s.Inline := by
  have hplain : (e.elementText style []).Inline := e.inline_elementText style (by simp)
  unfold sectionTexts
  split
  · simpa using hplain
  · -- tags in a table of their own, in an inline table, or under dotted keys
    rename_i tags htags
    have hheader : ∀ s ∈ [e.elementText style [], tagText tags], s.Inline := by
      simpa using ⟨hplain, inline_tagText tags⟩
    split
    · exact hheader
    · simp only [List.mem_singleton, forall_eq]
      refine e.inline_elementText style fun m hm => ?_
      rw [List.mem_singleton.1 hm]
      exact inline_tagsValue 78 tags
    · split
      · exact hheader
      · simp only [List.mem_singleton, forall_eq]
        refine e.inline_elementText style fun m hm => ?_
        obtain ⟨p, hp, rfl⟩ := List.mem_map.1 hm
        exact inline_of_mem_tagMembers _ hp

end Entry

/-! ### The table of an entry -/

namespace Entry

variable (e : Entry) (style : Style)

/-- What the table of an entry holds, tags apart. -/
def ownMembers : List (String × Value) :=
  (e.plainMembers style).map fun m => (m.1.key, m.2)

/-- What the table of an entry holds, in whatever way its tags are written. -/
def members : List (String × Value) :=
  e.ownMembers style ++ e.metric.tags.toList.map fun tags => ("tags", .table (tagMembers tags))

/-- All keys of an entry are different, in either spelling. -/
theorem nodup_keys : ((e.ownMembers style).map Prod.fst ++ ["tags"]).Nodup := by
  obtain ⟨measurement, groupBy, -⟩ := style
  unfold ownMembers plainMembers Style.measurementKey Style.groupByKey
  cases measurement <;> cases groupBy <;> cases e.metric.fields <;> cases e.metric.groupBy <;> simp

theorem addEntries?_ownMembers :
    Node.addEntries? (Node.undotted (e.ownMembers style)) [] = some (Node.ofMembers (e.ownMembers style)) :=
  Node.addEntries?_members (List.nodup_append.1 (e.nodup_keys style)).1

theorem fresh_tags : Node.Fresh "tags" (Node.ofMembers (e.ownMembers style)) := by
  intro hmem
  rw [Node.map_fst_ofMembers] at hmem
  exact (List.nodup_append.1 (e.nodup_keys style)).2.2 _ hmem _ (List.mem_singleton_self _) rfl

theorem toSection_elementText (more : List (KeyText × Value)) :
    (e.elementText style more).toSection
      = ⟨.element ⟨[], "metrics"⟩,
          Node.undotted (e.ownMembers style) ++ more.map fun m => (m.1.key, m.2)⟩ := by
  simp [SectionText.toSection, elementText, HeaderText.header, Node.undotted, ownMembers, KeyText.key,
    KeyText.single]

theorem toSection_tagText (tags : StringMap) :
    (tagText tags).toSection = ⟨.table ⟨["metrics"], "tags"⟩, Node.undotted (tagMembers tags)⟩ := by
  simp [SectionText.toSection, tagText, HeaderText.header, Node.undotted, KeyText.key, KeyText.single,
    KeyText.below]

/-- Sections make one more element of the metrics, whatever is there before them. -/
def MakesElement (secs : List SectionText) (t : Node.Entries) : Prop :=
  ∀ {base : Node.Entries} (ts : List Node.Entries), Node.Fresh "metrics" base →
    (secs.map SectionText.toSection).foldlM addSection? (Node.withElements "metrics" base ts)
      = some (Node.withElements "metrics" base (ts ++ [t]))

/-- A section below the header of an element makes an element of what stands in it. -/
theorem makesElement_singleton {s : SectionText} {new : List (Key × Value)} {t : Node.Entries}
    (hs : s.toSection = ⟨.element ⟨[], "metrics"⟩, new⟩) (hnew : Node.addEntries? new [] = some t) :
    MakesElement [s] t := by
  intro base ts hbase
  rw [List.map_singleton, hs, List.foldlM_cons]
  show (Node.addElement? ⟨[], "metrics"⟩ _ (Node.withElements "metrics" base ts)).bind _ = _
  rw [Node.addElement?_withElements hbase hnew]
  rfl

/-- The section of an entry makes an element of what stands in it. -/
theorem makesElement_elementText {more : List (KeyText × Value)} {t : Node.Entries}
    (hmore : Node.addEntries? (more.map fun m => (m.1.key, m.2)) (Node.ofMembers (e.ownMembers style))
      = some t) : MakesElement [e.elementText style more] t := by
  refine makesElement_singleton (e.toSection_elementText style more) ?_
  rw [Node.addEntries?_append, e.addEntries?_ownMembers style, Option.bind_some, hmore]

/-- A header of its own adds the tags to the element that has just been made. -/
theorem makesElement_tagText (tags : StringMap) :
    MakesElement [e.elementText style [], tagText tags]
      (Node.ofMembers (e.ownMembers style)
        ++ [("tags", .table .defined (Node.ofMembers (tagMembers tags)))]) := by
  intro base ts hbase
  have helement : MakesElement [e.elementText style []] (Node.ofMembers (e.ownMembers style)) :=
    e.makesElement_elementText style rfl
  have htags : Node.addEntries? (Node.undotted (tagMembers tags)) []
      = some (Node.ofMembers (tagMembers tags)) :=
    Node.addEntries?_members (nodup_tagMembers tags)
  show (([e.elementText style []] ++ [tagText tags]).map SectionText.toSection).foldlM addSection? _ = _
  rw [List.map_append, List.foldlM_append, helement ts hbase, List.map_singleton, toSection_tagText]
  -- the element is the last one, so the second header leads to it
  show (Node.addTable? ⟨["metrics"], "tags"⟩ _ _).bind _ = _
  rw [Node.addTable?_lastElement hbase (e.fresh_tags style) htags]
  rfl

/-- An inline table is one more entry. -/
theorem makesElement_inline (tags : StringMap) :
    MakesElement [e.elementText style [(.single (.bare "tags"), .table (tagMembers tags))]]
      (Node.ofMembers (e.ownMembers style) ++ [("tags", .value (.table (tagMembers tags)))]) := by
  refine e.makesElement_elementText style ?_
  show Node.addEntries? [(⟨[], "tags"⟩, Value.table (tagMembers tags))] _ = _
  rw [Node.addEntries?_cons, Node.addEntry?_of_fresh _ (e.fresh_tags style)]
  rfl

/-- Dotted keys make one more table, unless there is none. -/
theorem makesElement_dotted {tags : StringMap} (hne : tagMembers tags ≠ []) :
    MakesElement
      [e.elementText style ((tagMembers tags).map fun m => (.below (.bare "tags") (.quoted m.1), m.2))]
      (Node.ofMembers (e.ownMembers style)
        ++ [("tags", .table .dotted (Node.ofMembers (tagMembers tags)))]) := by
  refine e.makesElement_elementText style ?_
  rw [List.map_map]
  exact Node.addEntries?_dotted (e.fresh_tags style) hne (nodup_tagMembers tags)

/-- The sections of an entry make one more element, which holds the entry's members. -/
theorem exists_makesElement :
    ∃ t, MakesElement (e.sectionTexts style) t ∧ Node.finishEntries t = e.members style := by
  -- what stands under the key of the tags differs, but is finished as the same table
  have hfinish : ∀ {tags : StringMap} {node : Node}, e.metric.tags = some tags →
      node.finish = .table (tagMembers tags) →
      Node.finishEntries (Node.ofMembers (e.ownMembers style) ++ [("tags", node)]) = e.members style := by
    intro tags node htags hnode
    rw [Node.finishEntries_append, Node.finishEntries_ofMembers, members, htags, Option.toList_some,
      List.map_singleton, ← hnode]
    rfl
  have hheader : ∀ {tags : StringMap}, e.metric.tags = some tags →
      ∃ t, MakesElement [e.elementText style [], tagText tags] t
        ∧ Node.finishEntries t = e.members style := fun {tags} htags =>
    ⟨_, e.makesElement_tagText style tags, hfinish htags (Node.finish_table_ofMembers _ _)⟩
  unfold sectionTexts
  split
  · rename_i htags
    refine ⟨_, e.makesElement_elementText style rfl, ?_⟩
    rw [Node.finishEntries_ofMembers, members, htags, Option.toList_none, List.map_nil, List.append_nil]
  · rename_i tags htags
    split
    · exact hheader htags
    · exact ⟨_, e.makesElement_inline style tags, hfinish htags rfl⟩
    · split
      · exact hheader htags
      · rename_i hne
        exact ⟨_, e.makesElement_dotted style hne, hfinish htags (Node.finish_table_ofMembers _ _)⟩

end Entry

/-! ### The table of a catalog -/

/-- The sections of entries make one more element each, in their order. -/
theorem exists_elements (entries : List (Entry × Entry.Style)) {base : Node.Entries}
    (hbase : Node.Fresh "metrics" base) (ts : List Node.Entries) :
    ∃ more, ((entryTexts entries).map SectionText.toSection).foldlM addSection?
          (Node.withElements "metrics" base ts)
        = some (Node.withElements "metrics" base (ts ++ more))
      ∧ more.map Node.finishEntries = entries.map fun p => p.1.members p.2 := by
  induction entries generalizing ts with
  | nil => exact ⟨[], by rw [List.append_nil]; rfl, rfl⟩
  | cons p entries ih =>
    obtain ⟨t, helement, hmembers⟩ := p.1.exists_makesElement p.2
    obtain ⟨more, hmore, hrest⟩ := ih (ts ++ [t])
    -- the sections of this entry find the elements of those before it
    refine ⟨t :: more, ?_, by rw [List.map_cons, List.map_cons, hmembers, hrest]⟩
    rw [entryTexts, List.flatMap_cons, List.map_append, List.foldlM_append, helement ts hbase]
    show ((entryTexts entries).map SectionText.toSection).foldlM addSection? _ = _
    rw [hmore, List.append_assoc, List.singleton_append]

variable (c : Catalog) (style : Style)

/-- What a catalog's table holds of its defaults. -/
def defaultMembers : List (String × Value) :=
  if c.defaultExpression = none ∧ style.emptyDefaults = false then []
  else [("defaults", .table (c.defaultExpression.toList.map fun s => ("scope", .string s)))]

/-- What a catalog's table holds of its entries. -/
def elementMembers (tables : List (List (String × Value))) : List (String × Value) :=
  if tables.isEmpty then [] else [("metrics", .array (tables.map .table))]

/-- What a catalog's table holds. -/
def members : List (String × Value) :=
  c.defaultMembers style ++ elementMembers ((c.styledEntries style).map fun p => p.1.members p.2)

/-- The defaults are built before any element. -/
theorem exists_defaults :
    ∃ base, ((c.defaultTexts style).map SectionText.toSection).foldlM addSection? [] = some base
      ∧ Node.Fresh "metrics" base ∧ Node.finishEntries base = c.defaultMembers style := by
  unfold defaultTexts defaultMembers
  split
  · exact ⟨[], rfl, by simp [Node.Fresh], rfl⟩
  · refine ⟨[("defaults", .table .defined
      (Node.ofMembers (c.defaultExpression.toList.map fun s => ("scope", .string s))))], ?_, ?_, ?_⟩
    · cases c.defaultExpression <;> rfl
    · simp [Node.Fresh]
    · show [("defaults", Node.finish _)] = _
      rw [Node.finish_table_ofMembers]

theorem finishEntries_withElements (base : Node.Entries) (ts : List Node.Entries) :
    Node.finishEntries (Node.withElements "metrics" base ts)
      = Node.finishEntries base ++ elementMembers (ts.map Node.finishEntries) := by
  cases ts with
  | nil => exact (List.append_nil _).symm
  | cons t ts =>
    rw [Node.withElements, Node.finishEntries_append]
    show _ ++ [("metrics", Node.finish (.elements (t :: ts)))] = _
    rw [Node.finish, Node.finishTables_eq_map, elementMembers, List.map_map]
    rfl

theorem inline_defaultTexts : ∀ s ∈ c.defaultTexts style, s.Inline := by
  unfold defaultTexts
  split
  · simp
  · rw [List.forall_mem_singleton]
    intro m hm
    obtain ⟨s, -, rfl⟩ := List.mem_map.1 hm
    exact .string _ s

theorem inline_entryTexts (entries : List (Entry × Entry.Style)) :
    ∀ s ∈ entryTexts entries, s.Inline := by
  intro s hs
  obtain ⟨p, -, hmem⟩ := List.mem_flatMap.1 hs
  exact p.1.inline_of_mem_sectionTexts p.2 s hmem

/-- The text of a catalog defines the tables of its defaults and entries, whatever its style. -/
theorem ofText?_toml : ofText? (c.toml style) = some (c.members style) := by
  obtain ⟨base, hdefaults, hbase, hbaseMembers⟩ := c.exists_defaults style
  obtain ⟨ts, helements, htables⟩ := exists_elements (c.styledEntries style) hbase []
  -- the text consists of sections whose values are written on one line
  have hinline : ∀ s ∈ c.defaultTexts style ++ entryTexts (c.styledEntries style), s.Inline := by
    intro s hs
    rcases List.mem_append.1 hs with hs | hs
    · exact c.inline_defaultTexts style s hs
    · exact inline_entryTexts _ s hs
  rw [toml, ofText?_sections hinline, build?]
  show Node.finishEntries <$> (_ : Option Node.Entries) = _
  rw [List.map_append, List.foldlM_append, hdefaults]
  show Node.finishEntries <$> (List.foldlM addSection? (Node.withElements "metrics" base []) _) = _
  rw [helements, List.nil_append, Option.map_eq_map, Option.map_some, finishEntries_withElements,
    hbaseMembers, htables, members]

/-! ### Unit test: an entry with tags below a header, and one with dotted tags -/

example :
    toml ⟨some "k:v",
        [⟨"a", { measurement := "m", fields := some ["x", "y"], tags := some (.ofList [("t", "1\n")]) }⟩,
          ⟨"a", { measurement := "m", groupBy := some [], tags := some (.ofList [("t", "2")]) }⟩]⟩
      { entry := fun i => if i = 0 then {} else { groupBy := .capitals, tags := .dotted } }
      = "[defaults]\nscope = \"k:v\"\n\n"
        ++ "[[metrics]]\nname = \"a\"\nmetric_name = \"m\"\nfields = [\"x\", \"y\"]\n\n"
        ++ "[metrics.tags]\n\"t\" = \"1\\n\"\n\n"
        ++ "[[metrics]]\nname = \"a\"\nmetric_name = \"m\"\ngroupByFields = []\ntags.\"t\" = \"2\"\n\n" := by
  decide +kernel

end CanaryMetrics.Catalog
