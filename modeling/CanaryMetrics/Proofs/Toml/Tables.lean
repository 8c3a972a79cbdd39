import CanaryMetrics.Toml.Table

namespace CanaryMetrics.Toml.Node

/-!
# What adding to tables gives

* `Fresh` — nothing stands under a key yet.
* `addEntries?_members` — values under keys of their own are put behind the entries that are there.
* `addEntries?_dotted` — values under dotted keys with one table on the way are put into that table.
* `withElements` — a table with an array of tables behind its other entries.
* `addElement?_withElements`, `addTable?_lastElement` — a header of an element makes a new last one, and
  a header of a table below the array adds to the element that is last then.
* `finishEntries_append`, `finishEntries_ofMembers` — the values that such tables finish as.
-/

variable {key : String} {node : Node} {entries : Entries}

/-! ### One key -/

/-- Nothing stands under a key. -/
def Fresh (key : String) (entries : Entries) : Prop :=
  key ∉ entries.map Prod.fst

theorem get?_of_fresh (h : Fresh key entries) : get? key entries = none := by
  refine List.lookup_eq_none_iff.2 fun e he => ?_
  rw [bne_iff_ne]
  rintro rfl
  exact h (List.mem_map_of_mem he)

theorem get?_append_singleton (h : Fresh key entries) :
    get? key (entries ++ [(key, node)]) = some node := by
  have hnone : entries.lookup key = none := get?_of_fresh h
  rw [get?, List.lookup_append, hnone, Option.none_or, List.lookup_cons_self]

theorem set_of_fresh (h : Fresh key entries) : set key node entries = entries := by
  refine List.map_congr_left (g := id) (fun e he => if_neg ?_) |>.trans (List.map_id _)
  rintro rfl
  exact h (List.mem_map_of_mem he)

/-- What stands under the last key is replaced, and nothing else. -/
theorem set_append_singleton (old : Node) (h : Fresh key entries) :
    set key node (entries ++ [(key, old)]) = entries ++ [(key, node)] := by
  have hrest : set key node entries = entries := set_of_fresh h
  unfold set at hrest ⊢
  rw [List.map_append, hrest, List.map_singleton, if_pos rfl]

theorem filter_of_fresh (h : Fresh key entries) : entries.filter (·.1 ≠ key) = entries := by
  refine List.filter_eq_self.2 fun e he => decide_eq_true ?_
  rintro rfl
  exact h (List.mem_map_of_mem he)

/-! ### Values under keys -/

/-- Values under keys, as entries. -/
def ofMembers (members : List (String × Value)) : Entries :=
  members.map fun m => (m.1, value m.2)

@[simp] theorem ofMembers_nil : ofMembers [] = [] := rfl

@[simp] theorem ofMembers_cons (m : String × Value) (members : List (String × Value)) :
    ofMembers (m :: members) = (m.1, value m.2) :: ofMembers members := rfl

theorem map_fst_ofMembers (members : List (String × Value)) :
    (ofMembers members).map Prod.fst = members.map Prod.fst := by
  rw [ofMembers, List.map_map]
  rfl

/-- The same values, under keys without dots. -/
def undotted (members : List (String × Value)) : List (Key × Value) :=
  members.map fun m => (⟨[], m.1⟩, m.2)

/-- The same values, under keys with one table on the way. -/
def dottedUnder (key : String) (members : List (String × Value)) : List (Key × Value) :=
  members.map fun m => (⟨[key], m.1⟩, m.2)

/-- No key of the members stands among the entries, and none comes twice. -/
def AllFresh (members : List (String × Value)) (entries : Entries) : Prop :=
  (entries.map Prod.fst ++ members.map Prod.fst).Nodup

theorem allFresh_cons {m : String × Value} {members : List (String × Value)}
    (h : AllFresh (m :: members) entries) :
    Fresh m.1 entries ∧ AllFresh members (entries ++ [(m.1, value m.2)]) := by
  refine ⟨fun hmem => ?_, by simpa [AllFresh] using h⟩
  exact (List.nodup_append.1 h).2.2 m.1 hmem m.1 List.mem_cons_self rfl

/-- Entries are added one after the other. -/
theorem addEntries?_cons (e : Key × Value) (new : List (Key × Value)) :
    addEntries? (e :: new) entries = addEntry? e.1 e.2 entries >>= addEntries? new := rfl

theorem addEntries?_append (new more : List (Key × Value)) :
    addEntries? (new ++ more) entries = (addEntries? new entries).bind (addEntries? more) :=
  List.foldlM_append

/-- A value under a new key is put behind the other entries. -/
theorem addEntry?_of_fresh (v : Value) (h : Fresh key entries) :
    addEntry? ⟨[], key⟩ v entries = some (entries ++ [(key, value v)]) := by
  unfold addEntry?
  rw [alter?]
  exact if_neg (by simp [get?_of_fresh h])

/-- Values under keys of their own are put behind the other entries. -/
theorem addEntries?_members {members : List (String × Value)} (h : AllFresh members entries) :
    addEntries? (undotted members) entries = some (entries ++ ofMembers members) := by
  unfold undotted
  induction members generalizing entries with
  | nil => rw [ofMembers_nil, List.append_nil]; rfl
  | cons m members ih =>
    obtain ⟨hm, hmembers⟩ := allFresh_cons h
    rw [List.map_cons, addEntries?_cons, addEntry?_of_fresh m.2 hm, Option.bind_eq_bind,
      Option.bind_some, ih hmembers, ofMembers_cons, List.append_assoc, List.singleton_append]

/-! ### Values under dotted keys -/

/-- The first value under a dotted key makes the table on the way. -/
theorem addEntry?_dotted_of_fresh (sub : String) (v : Value) (h : Fresh key entries) :
    addEntry? ⟨[key], sub⟩ v entries
      = some (entries ++ [(key, table .dotted [(sub, value v)])]) := by
  unfold addEntry?
  rw [alter?, get?_of_fresh h]
  rfl

/-- Further values are put into the table that is there. -/
theorem addEntry?_dotted {sub : String} {inner : Entries} (v : Value) (h : Fresh key entries)
    (hsub : Fresh sub inner) :
    addEntry? ⟨[key], sub⟩ v (entries ++ [(key, table .dotted inner)])
      = some (entries ++ [(key, table .dotted (inner ++ [(sub, value v)]))]) := by
  unfold addEntry?
  rw [alter?, get?_append_singleton h]
  simp [alter?, get?_of_fresh hsub, set_append_singleton _ h]

theorem addEntries?_dotted_append {inner : Entries} {members : List (String × Value)}
    (h : Fresh key entries) (hmembers : AllFresh members inner) :
    addEntries? (dottedUnder key members) (entries ++ [(key, table .dotted inner)])
      = some (entries ++ [(key, table .dotted (inner ++ ofMembers members))]) := by
  unfold dottedUnder
  induction members generalizing inner with
  | nil => rw [ofMembers_nil, List.append_nil]; rfl
  | cons m members ih =>
    obtain ⟨hm, hmembers⟩ := allFresh_cons hmembers
    rw [List.map_cons, addEntries?_cons, addEntry?_dotted m.2 h hm, Option.bind_eq_bind,
      Option.bind_some, ih hmembers, ofMembers_cons, List.append_assoc, List.singleton_append]

/-- Values under dotted keys make one table, if there is at least one. -/
theorem addEntries?_dotted {members : List (String × Value)} (h : Fresh key entries)
    (hne : members ≠ []) (hmembers : AllFresh members []) :
    addEntries? (dottedUnder key members) entries
      = some (entries ++ [(key, table .dotted (ofMembers members))]) := by
  -- the first value makes the table that the others are put into
  obtain ⟨m, members, rfl⟩ := List.exists_cons_of_ne_nil hne
  rw [dottedUnder, List.map_cons, addEntries?_cons, addEntry?_dotted_of_fresh m.1 m.2 h,
    Option.bind_eq_bind, Option.bind_some]
  exact addEntries?_dotted_append h (allFresh_cons hmembers).2

/-! ### Arrays of tables -/

/-- A table with an array of tables behind its other entries, unless there are no elements. -/
def withElements (key : String) (entries : Entries) : List Entries → Entries
  | [] => entries
  | t :: ts => entries ++ [(key, elements (t :: ts))]

theorem withElements_append_singleton (ts : List Entries) (t : Entries) :
    withElements key entries (ts ++ [t]) = entries ++ [(key, elements (ts ++ [t]))] := by
  cases ts <;> rfl

theorem alterLast?_append_singleton (f : Entries → Option Entries) (ts : List Entries) (t : Entries) :
    alterLast? f (ts ++ [t]) = (f t).map fun t => ts ++ [t] := by
  induction ts with
  | nil => rfl
  | cons u ts ih =>
    -- a list of one element and one of more are matched apart
    cases ts with
    | nil =>
      show ((f t).map ([·])).map (u :: ·) = _
      rw [Option.map_map]
      rfl
    | cons u' ts =>
      show (alterLast? f (u' :: ts ++ [t])).map (u :: ·) = _
      rw [ih, Option.map_map]
      rfl

/-- A header of an element makes a new last element. -/
theorem addElement?_withElements {new : List (Key × Value)} {ts : List Entries} {t : Entries}
    (h : Fresh key entries) (hnew : addEntries? new [] = some t) :
    addElement? ⟨[], key⟩ new (withElements key entries ts)
      = some (withElements key entries (ts ++ [t])) := by
  rw [withElements_append_singleton, addElement?, alter?, hnew]
  -- the first element makes the array, and any other is put behind those that are there
  cases ts with
  | nil =>
    rw [withElements, get?_of_fresh h]
    rfl
  | cons u ts =>
    rw [withElements, get?_append_singleton h]
    show some (set key (elements (u :: ts ++ [t])) (entries ++ [(key, elements (u :: ts))])) = _
    rw [set_append_singleton _ h]

/-- A header of a table below an array of tables adds to the last element. -/
theorem addTable?_lastElement {sub : String} {new : List (Key × Value)} {ts : List Entries}
    {t inner : Entries} (h : Fresh key entries) (hsub : Fresh sub t)
    (hnew : addEntries? new [] = some inner) :
    addTable? ⟨[key], sub⟩ new (withElements key entries (ts ++ [t]))
      = some (withElements key entries (ts ++ [t ++ [(sub, table .defined inner)]])) := by
  rw [withElements_append_singleton, withElements_append_singleton, addTable?, alter?,
    get?_append_singleton h]
  simp only [alterLast?_append_singleton, alter?, get?_of_fresh hsub, filter_of_fresh hsub, hnew,
    Option.pure_def, Option.bind_eq_bind, Option.bind_some, Option.map_some, set_append_singleton _ h]

/-! ### Finished tables -/

theorem finishEntries_eq_map (entries : Entries) :
    finishEntries entries = entries.map fun e => (e.1, e.2.finish) := by
  induction entries with
  | nil => rfl
  | cons e entries ih => rw [finishEntries, ih, List.map_cons]

theorem finishTables_eq_map (tables : List Entries) :
    finishTables tables = tables.map fun t => .table (finishEntries t) := by
  induction tables with
  | nil => rfl
  | cons t tables ih => rw [finishTables, ih, List.map_cons]

theorem finishEntries_append (entries more : Entries) :
    finishEntries (entries ++ more) = finishEntries entries ++ finishEntries more := by
  simp only [finishEntries_eq_map, List.map_append]

/-- Values under keys stay what they are. -/
theorem finishEntries_ofMembers (members : List (String × Value)) :
    finishEntries (ofMembers members) = members := by
  rw [finishEntries_eq_map, ofMembers, List.map_map]
  exact List.map_id' _

/-- A table of such values is a table of these values, however it came about. -/
theorem finish_table_ofMembers (origin : Origin) (members : List (String × Value)) :
    (table origin (ofMembers members)).finish = .table members := by
  rw [finish, finishEntries_ofMembers]

end CanaryMetrics.Toml.Node
