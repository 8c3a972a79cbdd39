import CanaryMetrics.Proofs.StringMap
import CanaryMetrics.Proofs.Toml.Tables
import CanaryMetrics.Toml.Document

namespace CanaryMetrics.Toml

/-!
# No table holds a key twice

Entries and headers of a document are refused where they would make a key twice.  So in the table that
a text defines, and in all tables within it, no key comes twice.

* `Value.DistinctKeys`, `Node.DistinctKeys`, `Node.Distinct` — values, parts of a document and tables
  under construction in which no key comes twice.
* `Node.Distinct.alter?` — what changes the table at the end of a path keeps the whole so, if it keeps
  that table so.
* `Node.Distinct.addEntry?`, `Node.Distinct.addTable?`, `Node.Distinct.addElement?` — so do entries and
  headers.
* `distinctKeys_of_readValue?`, `distinctKeys_of_ofText?` — hence all values and documents that are read.
-/

/-- No table within a value holds a key twice. -/
inductive Value.DistinctKeys : Value → Prop
  | bool (b : Bool) : DistinctKeys (.bool b)
  | integer (n : Int) : DistinctKeys (.integer n)
  | real (x : Real) : DistinctKeys (.real x)
  | string (s : String) : DistinctKeys (.string s)
  | dateTime (t : DateTime) : DistinctKeys (.dateTime t)
  | array {items : List Value} (h : ∀ v ∈ items, DistinctKeys v) : DistinctKeys (.array items)
  | table {entries : List (String × Value)} (hkeys : (entries.map Prod.fst).Nodup)
    (h : ∀ e ∈ entries, DistinctKeys e.2) : DistinctKeys (.table entries)

/-- No table within what stands under a key holds a key twice. -/
inductive Node.DistinctKeys : Node → Prop
  | value {v : Value} (h : v.DistinctKeys) : DistinctKeys (.value v)
  | table (origin : Origin) {entries : Node.Entries} (hkeys : (entries.map Prod.fst).Nodup)
    (h : ∀ e ∈ entries, DistinctKeys e.2) : DistinctKeys (.table origin entries)
  | elements {tables : List Node.Entries} (hkeys : ∀ t ∈ tables, (t.map Prod.fst).Nodup)
    (h : ∀ t ∈ tables, ∀ e ∈ t, DistinctKeys e.2) : DistinctKeys (.elements tables)

namespace Node

/-- A table under construction holds no key twice, and neither do the tables within it. -/
structure Distinct (entries : Entries) : Prop where
  /-- The keys of the table. -/
  nodup_keys : (entries.map Prod.fst).Nodup
  /-- The tables within it. -/
  nodes : ∀ e ∈ entries, e.2.DistinctKeys

variable {key : String} {node : Node} {entries entries' : Entries}

theorem distinct_nil : Distinct [] :=
  ⟨List.nodup_nil, List.forall_mem_nil _⟩

/-! ### Finished tables -/

theorem map_fst_finishEntries (entries : Entries) :
    (finishEntries entries).map Prod.fst = entries.map Prod.fst := by
  rw [finishEntries_eq_map, List.map_map]
  rfl

/-- What stands under a key is finished as a value in which no key comes twice. -/
theorem DistinctKeys.finish (h : node.DistinctKeys) : node.finish.DistinctKeys := by
  induction h with
  | value h => exact h
  | table origin hkeys h ih =>
    rw [Node.finish]
    -- finishing changes what stands under the keys, and none of the keys
    refine .table (map_fst_finishEntries _ ▸ hkeys) fun e he => ?_
    rw [finishEntries_eq_map] at he
    obtain ⟨d, hd, rfl⟩ := List.mem_map.1 he
    exact ih d hd
  | elements hkeys h ih =>
    rw [Node.finish, finishTables_eq_map]
    refine .array fun v hv => ?_
    obtain ⟨t, ht, rfl⟩ := List.mem_map.1 hv
    refine .table (map_fst_finishEntries _ ▸ hkeys t ht) fun e he => ?_
    rw [finishEntries_eq_map] at he
    obtain ⟨d, hd, rfl⟩ := List.mem_map.1 he
    exact ih t ht d hd

/-- A table is finished as one in which no key comes twice. -/
theorem Distinct.finish (h : Distinct entries) : (Value.table (finishEntries entries)).DistinctKeys :=
  (DistinctKeys.table .defined h.nodup_keys h.nodes).finish

/-! ### One key -/

/-- What stands under a key is one of the entries. -/
theorem mem_of_get? (h : get? key entries = some node) : (key, node) ∈ entries := by
  obtain ⟨before, after, heq, -⟩ := List.lookup_eq_some_iff.1 h
  rw [heq]
  exact List.mem_append_right _ List.mem_cons_self

/-- A key under which nothing stands is new. -/
theorem fresh_of_get? (h : get? key entries = none) : Fresh key entries := by
  intro hmem
  obtain ⟨e, he, rfl⟩ := List.mem_map.1 hmem
  exact absurd (List.lookup_eq_none_iff.1 h e he) (by simp)

/-- An entry under a new key is put behind the others. -/
theorem Distinct.append_singleton (h : Distinct entries) (hkey : Fresh key entries)
    (hnode : node.DistinctKeys) : Distinct (entries ++ [(key, node)]) where
  nodup_keys := by
    rw [List.map_append, List.map_singleton, List.nodup_append]
    refine ⟨h.nodup_keys, by simp, fun a ha b hb => ?_⟩
    -- the only key that could come twice is the new one
    rw [List.mem_singleton.1 hb]
    rintro rfl
    exact hkey ha
  nodes := by
    intro e he
    rcases List.mem_append.1 he with he | he
    · exact h.nodes e he
    · exact List.mem_singleton.1 he ▸ hnode

/-- Replacing what stands under a key leaves the keys as they are. -/
theorem map_fst_set (key : String) (node : Node) (entries : Entries) :
    (set key node entries).map Prod.fst = entries.map Prod.fst := by
  rw [set, List.map_map]
  refine List.map_congr_left fun e _ => ?_
  by_cases h : e.1 = key <;> simp [h]

theorem Distinct.set (h : Distinct entries) (hnode : node.DistinctKeys) :
    Distinct (set key node entries) where
  nodup_keys := map_fst_set key node entries ▸ h.nodup_keys
  nodes := by
    intro e he
    obtain ⟨d, hd, rfl⟩ := List.mem_map.1 he
    split
    · exact hnode
    · exact h.nodes d hd

/-- Taking a key away makes none come twice. -/
theorem Distinct.filter (h : Distinct entries) (p : String × Node → Bool) :
    Distinct (entries.filter p) where
  nodup_keys := (List.filter_sublist.map _).nodup h.nodup_keys
  nodes := fun e he => h.nodes e (List.mem_filter.1 he).1

/-! ### Changing the table at the end of a path -/

/-- Changing the last of several tables keeps what holds of each of them. -/
theorem forall_of_alterLast? {P : Entries → Prop} {f : Entries → Option Entries}
    (hf : ∀ t t', P t → f t = some t' → P t') {ts ts' : List Entries} (hts : ∀ t ∈ ts, P t)
    (h : alterLast? f ts = some ts') : ∀ t ∈ ts', P t := by
  -- the recursion walks past all tables but the last, which `f` changes
  induction ts generalizing ts' with
  | nil => cases h
  | cons u ts ih =>
    have hu : P u := hts u List.mem_cons_self
    cases ts with
    | nil =>
      obtain ⟨u', hu', rfl⟩ := Option.map_eq_some_iff.1 h
      exact List.forall_mem_singleton.2 (hf u u' hu hu')
    | cons v ts =>
      obtain ⟨ts'', hts'', rfl⟩ := Option.map_eq_some_iff.1 h
      exact List.forall_mem_cons.2 ⟨hu, ih (fun t ht => hts t (List.mem_cons_of_mem _ ht)) hts''⟩

/-- What changes the table at the end of a path keeps keys distinct if it keeps those of that table so. -/
theorem Distinct.alter? {origin : Origin} {f : Origin → Entries → Option Entries}
    (hf : ∀ self es es', Distinct es → f self es = some es' → Distinct es') {path : List String}
    {self : Origin} (h : Distinct entries) (halter : alter? origin f path self entries = some entries') :
    Distinct entries' := by
  -- along the path: what is changed further down is a table of its own, which the hypothesis of the
  -- induction keeps distinct, and here it takes the place of what stood under the key
  induction path generalizing self entries entries' with
  | nil => exact hf self entries entries' h halter
  | cons key path ih =>
    rw [Node.alter?] at halter
    split at halter
    · -- nothing stands under the key, and a table is made for the rest of the path
      rename_i hkey
      obtain ⟨made, hmade, halter⟩ := Option.bind_eq_some_iff.1 halter
      cases halter
      have hinner : Distinct made := ih distinct_nil hmade
      exact h.append_singleton (fresh_of_get? hkey) (.table _ hinner.nodup_keys hinner.nodes)
    · -- a value is no table that a path could go on in
      cases halter
    · -- a table; a dotted key does not go into one that a header has defined
      rename_i self' inner hkey
      split at halter
      · cases halter
      · obtain ⟨changed, hchanged, halter⟩ := Option.bind_eq_some_iff.1 halter
        cases halter
        cases h.nodes _ (mem_of_get? hkey) with
        | table origin hkeys hnodes =>
          have hinner : Distinct changed := ih ⟨hkeys, hnodes⟩ hchanged
          exact h.set (.table _ hinner.nodup_keys hinner.nodes)
    · -- of several tables the path goes on in the last
      rename_i tables hkey
      obtain ⟨changed, hchanged, halter⟩ := Option.bind_eq_some_iff.1 halter
      cases halter
      cases h.nodes _ (mem_of_get? hkey) with
      | elements hkeys hnodes =>
        have hinner : ∀ t ∈ changed, Distinct t :=
          forall_of_alterLast? (fun t t' ht ht' => ih ht ht') (fun t ht => ⟨hkeys t ht, hnodes t ht⟩)
            hchanged
        exact h.set (.elements (fun t ht => (hinner t ht).nodup_keys) fun t ht => (hinner t ht).nodes)

/-! ### Entries and headers -/

theorem Distinct.addEntry? {k : Key} {v : Value} (h : Distinct entries) (hv : v.DistinctKeys)
    (hadd : addEntry? k v entries = some entries') : Distinct entries' := by
  refine h.alter? (fun self es es' hes hput => ?_) hadd
  split at hput
  · cases hput
  · rename_i hnew
    cases hput
    -- the entry is refused where something stands under its key
    have hkey : get? k.last es = none := by
      rw [not_or, Option.not_isSome_iff_eq_none] at hnew
      exact hnew.1
    exact hes.append_singleton (fresh_of_get? hkey) (.value hv)

theorem Distinct.addEntries? {new : List (Key × Value)} (hnew : ∀ e ∈ new, e.2.DistinctKeys)
    (h : Distinct entries) (hadd : addEntries? new entries = some entries') : Distinct entries' := by
  induction new generalizing entries with
  | nil =>
    cases hadd
    exact h
  | cons e new ih =>
    rw [addEntries?_cons] at hadd
    obtain ⟨next, hnext, hadd⟩ := Option.bind_eq_some_iff.1 hadd
    exact ih (fun d hd => hnew d (List.mem_cons_of_mem _ hd))
      (h.addEntry? (hnew e List.mem_cons_self) hnext) hadd

theorem Distinct.addTable? {k : Key} {new : List (Key × Value)} (hnew : ∀ e ∈ new, e.2.DistinctKeys)
    (h : Distinct entries) (hadd : addTable? k new entries = some entries') : Distinct entries' := by
  refine h.alter? (fun self es es' hes hput => ?_) hadd
  -- the table is a new one, or one that headers have implied
  obtain ⟨started, hbefore, hput⟩ : ∃ started, Distinct started ∧
      ((Node.addEntries? new started).bind fun completed =>
        some (es.filter (·.1 ≠ k.last) ++ [(k.last, table .defined completed)])) = some es' := by
    dsimp only at hput
    split at hput
    · exact ⟨[], distinct_nil, hput⟩
    · rename_i implied hkey
      cases hes.nodes _ (mem_of_get? hkey) with
      | table origin hkeys hnodes => exact ⟨implied, ⟨hkeys, hnodes⟩, hput⟩
    · cases hput
  obtain ⟨completed, hcompleted, hput⟩ := Option.bind_eq_some_iff.1 hput
  cases hput
  have hafter : Distinct completed := hbefore.addEntries? hnew hcompleted
  -- the table it replaces is taken away first, so that its key is free
  have hkey : Fresh k.last (es.filter (·.1 ≠ k.last)) := by
    intro hmem
    obtain ⟨e, he, heq⟩ := List.mem_map.1 hmem
    exact absurd heq (by simpa using (List.mem_filter.1 he).2)
  exact (hes.filter _).append_singleton hkey (.table _ hafter.nodup_keys hafter.nodes)

theorem Distinct.addElement? {k : Key} {new : List (Key × Value)} (hnew : ∀ e ∈ new, e.2.DistinctKeys)
    (h : Distinct entries) (hadd : addElement? k new entries = some entries') : Distinct entries' := by
  refine h.alter? (fun self es es' hes hput => ?_) hadd
  obtain ⟨element, helement, hput⟩ := Option.bind_eq_some_iff.1 hput
  have hone : Distinct element := distinct_nil.addEntries? hnew helement
  split at hput
  · -- the first element under this key
    rename_i hkey
    cases hput
    exact hes.append_singleton (fresh_of_get? hkey)
      (.elements (List.forall_mem_singleton.2 hone.nodup_keys) (List.forall_mem_singleton.2 hone.nodes))
  · -- one more, behind those that there are
    rename_i tables hkey
    cases hput
    cases hes.nodes _ (mem_of_get? hkey) with
    | elements hkeys hnodes =>
      refine hes.set (.elements ?_ ?_)
      · exact List.forall_mem_append.2 ⟨hkeys, List.forall_mem_singleton.2 hone.nodup_keys⟩
      · exact List.forall_mem_append.2 ⟨hnodes, List.forall_mem_singleton.2 hone.nodes⟩
  · cases hput

end Node

/-! ### What is read -/

theorem distinctKeys_of_word? {n : Int} {v : Value} (h : Scalar.word? n = some v) : v.DistinctKeys := by
  unfold Scalar.word? at h
  split at h
  · cases h
    exact .integer n
  · cases h

theorem distinctKeys_of_basedInteger? {base : Nat} {cs : List Char} {v : Value}
    (h : Scalar.basedInteger? base cs = some v) : v.DistinctKeys := by
  obtain ⟨ds, -, h⟩ := Option.bind_eq_some_iff.1 h
  exact distinctKeys_of_word? h

theorem distinctKeys_of_number? {cs : List Char} {v : Value} (h : Scalar.number? cs = some v) :
    v.DistinctKeys := by
  unfold Scalar.number? at h
  -- three bases other than ten, a decimal integer, and what is left as a real
  split at h
  · exact distinctKeys_of_basedInteger? h
  · exact distinctKeys_of_basedInteger? h
  · exact distinctKeys_of_basedInteger? h
  · split at h
    · rename_i hdecimal
      cases h
      obtain ⟨ds, -, hword⟩ := Option.bind_eq_some_iff.1 hdecimal
      exact distinctKeys_of_word? hword
    · unfold Scalar.real? at h
      dsimp only at h
      split at h
      · cases h
        exact .real _
      · split at h
        · cases h
          exact .real _
        · obtain ⟨⟨digits, exponent⟩, -, h⟩ := Option.bind_eq_some_iff.1 h
          obtain ⟨x, -, rfl⟩ := Option.map_eq_some_iff.1 h
          exact .real x

/-- A word is no table. -/
theorem distinctKeys_of_ofWord? {cs : List Char} {v : Value} (h : Scalar.ofWord? cs = some v) :
    v.DistinctKeys := by
  unfold Scalar.ofWord? at h
  split at h
  · cases h
    exact .bool true
  · split at h
    · cases h
      exact .bool false
    · split at h
      · rename_i t _
        cases h
        exact .dateTime t
      · exact distinctKeys_of_number? h

theorem distinctKeys_of_readWord? {cs rest : List Char} {v : Value} (h : readWord? cs = some (v, rest)) :
    v.DistinctKeys := by
  unfold readWord? at h
  dsimp only at h
  split at h
  · -- a date may go on after a blank with a time of day, and is one word with it
    split at h
    · obtain ⟨w, hw, heq⟩ := Option.map_eq_some_iff.1 h
      cases heq
      exact distinctKeys_of_ofWord? hw
    · obtain ⟨w, hw, heq⟩ := Option.map_eq_some_iff.1 h
      cases heq
      exact distinctKeys_of_ofWord? hw
  · obtain ⟨w, hw, heq⟩ := Option.map_eq_some_iff.1 h
    cases heq
    exact distinctKeys_of_ofWord? hw

variable {read : Reader α} {P : α → Prop} {cs rest : List Char}

/-- What holds of each item that is read holds of all items of an array. -/
theorem forall_of_readItems? (hread : ∀ cs a rest, read cs = some (a, rest) → P a) {items : List α}
    (h : readItems? read cs = some (items, rest)) : ∀ a ∈ items, P a := by
  -- on the length of the text, of which each item and its comma take some away
  induction hn : cs.length using Nat.strongRecOn generalizing cs items rest with
  | ind n ih =>
    rw [readItems?] at h
    split at h
    · cases h
      exact List.forall_mem_nil P
    · obtain ⟨⟨a, after⟩, ha, h⟩ := Option.bind_eq_some_iff.1 h
      dsimp only at h
      split at h
      · cases h
        exact List.forall_mem_singleton.2 (hread _ _ _ ha)
      · rename_i tail _
        split at h
        · rename_i hshort
          obtain ⟨⟨items, rest⟩, hitems, h⟩ := Option.bind_eq_some_iff.1 h
          cases h
          exact List.forall_mem_cons.2 ⟨hread _ _ _ ha, ih _ (hn ▸ hshort) hitems rfl⟩
        · cases h
      · cases h

/-- What holds of each member that is read holds of all members of an inline table. -/
theorem forall_of_readInlineMembers? (hread : ∀ cs a rest, read cs = some (a, rest) → P a)
    {members : List α} (h : readInlineMembers? read cs = some (members, rest)) : ∀ a ∈ members, P a := by
  induction hn : cs.length using Nat.strongRecOn generalizing cs members rest with
  | ind n ih =>
    rw [readInlineMembers?] at h
    obtain ⟨⟨a, after⟩, ha, h⟩ := Option.bind_eq_some_iff.1 h
    dsimp only at h
    split at h
    · cases h
      exact List.forall_mem_singleton.2 (hread _ _ _ ha)
    · rename_i tail _
      split at h
      · rename_i hshort
        obtain ⟨⟨members, rest⟩, hmembers, h⟩ := Option.bind_eq_some_iff.1 h
        cases h
        exact List.forall_mem_cons.2 ⟨hread _ _ _ ha, ih _ (hn ▸ hshort) hmembers rfl⟩
      · cases h
    · cases h

/-- What holds of each value that is read holds of the value behind a key. -/
theorem of_readAssignment? (hread : ∀ cs a rest, read cs = some (a, rest) → P a) {k : Key} {a : α}
    (h : readAssignment? read cs = some ((k, a), rest)) : P a := by
  obtain ⟨⟨k', after⟩, -, h⟩ := Option.bind_eq_some_iff.1 h
  dsimp only at h
  split at h
  · obtain ⟨⟨a', rest'⟩, ha, h⟩ := Option.bind_eq_some_iff.1 h
    cases h
    exact hread _ _ _ ha
  · cases h

/-- A value that is read holds no key twice. -/
theorem distinctKeys_of_readValue? {levels : Nat} {v : Value}
    (h : readValue? levels cs = some (v, rest)) : v.DistinctKeys := by
  have hstring : ∀ {p : Option (String × List Char)} {v : Value} {rest : List Char},
      p.map (fun p => (Value.string p.1, p.2)) = some (v, rest) → v.DistinctKeys := by
    intro p v rest hp
    obtain ⟨q, -, heq⟩ := Option.map_eq_some_iff.1 hp
    cases heq
    exact .string _
  -- on the levels of nesting that are left, of which an array or an inline table uses one up
  induction levels generalizing cs v rest with
  | zero =>
    rw [readValue?.eq_def] at h
    dsimp only at h
    split at h
    · exact hstring h
    · exact hstring h
    · exact distinctKeys_of_readWord? h
  | succ levels ih =>
    have hread : ∀ cs v rest, readValue? levels cs = some (v, rest) → v.DistinctKeys :=
      fun _ _ _ => ih
    rw [readValue?.eq_def] at h
    dsimp only at h
    split at h
    · exact hstring h
    · exact hstring h
    · -- an array
      obtain ⟨⟨items, after⟩, hitems, h⟩ := Option.bind_eq_some_iff.1 h
      cases h
      exact .array (forall_of_readItems? hread hitems)
    · -- an inline table
      split at h
      · cases h
        exact .table List.nodup_nil (List.forall_mem_nil _)
      · obtain ⟨⟨members, after⟩, hmembers, h⟩ := Option.bind_eq_some_iff.1 h
        obtain ⟨entries, hentries, h⟩ := Option.bind_eq_some_iff.1 h
        cases h
        have hvalues : ∀ m ∈ members, m.2.DistinctKeys :=
          forall_of_readInlineMembers? (fun _ m _ hm => of_readAssignment? hread hm) hmembers
        -- the members are added one by one to an empty table, as the entries of a document are
        exact (Node.distinct_nil.addEntries? hvalues hentries).finish
    · exact distinctKeys_of_readWord? h

/-! ### Documents -/

/-- A line holds no key twice within its value. -/
def Line.DistinctKeys : Line → Prop
  | .entry _ v => v.DistinctKeys
  | _ => True

theorem distinctKeys_of_readLine? {l : Line} (h : readLine? cs = some (l, rest)) : l.DistinctKeys := by
  unfold readLine? at h
  split at h
  · -- headers bring no value
    obtain ⟨⟨k, after⟩, -, h⟩ := Option.bind_eq_some_iff.1 h
    dsimp only at h
    split at h
    · obtain ⟨end', -, heq⟩ := Option.map_eq_some_iff.1 h
      cases heq
      trivial
    · cases h
  · obtain ⟨⟨k, after⟩, -, h⟩ := Option.bind_eq_some_iff.1 h
    dsimp only at h
    split at h
    · obtain ⟨end', -, heq⟩ := Option.map_eq_some_iff.1 h
      cases heq
      trivial
    · cases h
  · split at h
    · cases h
      trivial
    · obtain ⟨⟨⟨k, v⟩, after⟩, hassignment, h⟩ := Option.bind_eq_some_iff.1 h
      obtain ⟨end', -, heq⟩ := Option.map_eq_some_iff.1 h
      cases heq
      exact of_readAssignment? (fun _ _ _ => distinctKeys_of_readValue?) hassignment

theorem distinctKeys_of_readLines? {lines : List Line} (h : readLines? cs = some lines) :
    ∀ l ∈ lines, l.DistinctKeys := by
  induction hn : cs.length using Nat.strongRecOn generalizing cs lines with
  | ind n ih =>
    rw [readLines?] at h
    split at h
    · cases h
      exact List.forall_mem_nil _
    · obtain ⟨⟨l, rest⟩, hl, h⟩ := Option.bind_eq_some_iff.1 h
      dsimp only at h
      split at h
      · rename_i hshort
        obtain ⟨lines, hlines, rfl⟩ := Option.map_eq_some_iff.1 h
        exact List.forall_mem_cons.2 ⟨distinctKeys_of_readLine? hl, ih _ (hn ▸ hshort) hlines rfl⟩
      · cases h

/-- The entries of sections are those of the lines. -/
theorem distinctKeys_of_sections {lines : List Line} (h : ∀ l ∈ lines, l.DistinctKeys) :
    (∀ e ∈ (sections lines).1, e.2.DistinctKeys) ∧
      ∀ s ∈ (sections lines).2, ∀ e ∈ s.entries, e.2.DistinctKeys := by
  -- from the last line up: a line with an entry joins the section in progress, a header closes it
  induction lines with
  | nil => exact ⟨List.forall_mem_nil _, List.forall_mem_nil _⟩
  | cons l lines ih =>
    obtain ⟨hl, hlines⟩ := List.forall_mem_cons.1 h
    obtain ⟨htop, hrest⟩ := ih hlines
    cases l with
    | blank => exact ⟨htop, hrest⟩
    | entry k v => exact ⟨List.forall_mem_cons.2 ⟨hl, htop⟩, hrest⟩
    | table k => exact ⟨List.forall_mem_nil _, List.forall_mem_cons.2 ⟨htop, hrest⟩⟩
    | element k => exact ⟨List.forall_mem_nil _, List.forall_mem_cons.2 ⟨htop, hrest⟩⟩

/-- Sections that are added keep keys distinct. -/
theorem Node.Distinct.addSections? {secs : List Section}
    (hsecs : ∀ s ∈ secs, ∀ e ∈ s.entries, e.2.DistinctKeys) {entries entries' : Node.Entries}
    (h : Node.Distinct entries) (hadd : secs.foldlM addSection? entries = some entries') :
    Node.Distinct entries' := by
  induction secs generalizing entries with
  | nil =>
    cases hadd
    exact h
  | cons s secs ih =>
    obtain ⟨hs, hrest⟩ := List.forall_mem_cons.1 hsecs
    rw [List.foldlM_cons] at hadd
    obtain ⟨next, hnext, hadd⟩ := Option.bind_eq_some_iff.1 hadd
    refine ih hrest ?_ hadd
    unfold addSection? at hnext
    split at hnext
    · exact h.addTable? hs hnext
    · exact h.addElement? hs hnext

/-- **Documents define no key twice.**  In the table that a text defines, and in every table within it,
    no key comes twice. -/
theorem distinctKeys_of_ofText? {text : String} {entries : List (String × Value)}
    (h : ofText? text = some entries) : (Value.table entries).DistinctKeys := by
  obtain ⟨lines, hlines, h⟩ := Option.bind_eq_some_iff.1 h
  obtain ⟨top, htop, h⟩ := Option.bind_eq_some_iff.1 h
  obtain ⟨built, hbuilt, rfl⟩ := Option.map_eq_some_iff.1 h
  obtain ⟨hentries, hsecs⟩ := distinctKeys_of_sections (distinctKeys_of_readLines? hlines)
  have hstart : Node.Distinct top := Node.distinct_nil.addEntries? hentries htop
  exact (hstart.addSections? hsecs hbuilt).finish

end CanaryMetrics.Toml
