import CanaryMetrics.StringMap

namespace CanaryMetrics.StringMap

/-!
# Maps made from their entries

* `insertEntry_of_forall_lt` — an entry with a greater key than all others goes to the end.
* `ofList_entries` — so inserting the entries of a map in their order gives that map.
* `nodup_keys` — no key comes twice.
* `get?_ofList` — of repeated keys the last one wins.
* `mem_entries_iff` — the entries are the keys with their values; `mem_entries_ofList_iff` — for a map
  made from pairs with different keys they are these pairs.
* `ext_get?`, `ofList_eq_iff` — a map is determined by the values of its keys.
* `Given`, `LastPairs`, `lastPairs_ofList` — the last value that pairs give for a key is the one it has.
* `ofList_eq_ofList` — only the order of pairs with the same key matters.
* `exists_entries_insert` — an entry with a new key goes between two others.
-/

/-- An entry whose key is greater than all the others goes to the end. -/
theorem insertEntry_of_forall_lt {key value : String} {es : List (String × String)}
    (h : ∀ e ∈ es, e.1 < key) : insertEntry key value es = es ++ [(key, value)] := by
  induction es with
  | nil => rfl
  | cons e es ih =>
    have he : e.1 < key := h e List.mem_cons_self
    have hnlt : ¬ key < e.1 := fun hlt => String.lt_irrefl _ (String.lt_trans he hlt)
    have hne : key ≠ e.1 := fun heq => String.lt_irrefl key (heq ▸ he)
    rw [insertEntry, if_neg hnlt, if_neg hne, ih fun d hd => h d (List.mem_cons_of_mem _ hd),
      List.cons_append]

/-- Pairs whose keys go on ascending are put behind the entries of a map. -/
theorem entries_foldl_insert {pairs : List (String × String)} {m : StringMap}
    (h : (m.entries ++ pairs).Pairwise (fun a b => a.1 < b.1)) :
    (pairs.foldl (fun m p => m.insert p.1 p.2) m).entries = m.entries ++ pairs := by
  induction pairs generalizing m with
  | nil => rw [List.foldl_nil, List.append_nil]
  | cons p pairs ih =>
    -- the next key is greater than all the keys before it
    have hlast : ∀ e ∈ m.entries, e.1 < p.1 :=
      fun e he => (List.pairwise_append.1 h).2.2 e he p List.mem_cons_self
    have hentries : (m.insert p.1 p.2).entries = m.entries ++ [p] := by
      rw [entries_insert, insertEntry_of_forall_lt hlast]
    rw [List.foldl_cons, ih]
    · rw [hentries, List.append_assoc, List.singleton_append]
    · rw [hentries, List.append_assoc, List.singleton_append]
      exact h

/-- A map is made from its entries. -/
theorem ofList_entries (m : StringMap) : ofList m.entries = m := by
  apply StringMap.ext
  exact entries_foldl_insert m.ascending

/-- No key comes twice. -/
theorem nodup_keys (m : StringMap) : (m.entries.map Prod.fst).Nodup :=
  List.pairwise_map.2 (m.ascending.imp fun h => String.ne_of_lt h)

/-- Inserting pairs one by one gives each key the last of its values. -/
theorem get?_foldl_insert (pairs : List (String × String)) (m : StringMap) (key : String) :
    (pairs.foldl (fun m p => m.insert p.1 p.2) m).get? key
      = (pairs.reverse.lookup key).or (m.get? key) := by
  induction pairs generalizing m with
  | nil => rfl
  | cons p pairs ih =>
    rw [List.foldl_cons, ih, List.reverse_cons, List.lookup_append, Option.or_assoc, get?_insert,
      lookup_cons_eq_ite]
    by_cases h : key = p.1 <;> simp [h]

/-- A map made from pairs has the last value of each key. -/
theorem get?_ofList (pairs : List (String × String)) (key : String) :
    (ofList pairs).get? key = pairs.reverse.lookup key := by
  have hempty : (∅ : StringMap).get? key = none := rfl
  rw [ofList, get?_foldl_insert, hempty, Option.or_none]

/-- Where no key comes twice, looking a key up finds exactly what stands under it. -/
theorem mem_iff_lookup_eq_some {es : List (String × α)} (h : (es.map Prod.fst).Nodup) {key : String}
    {a : α} : (key, a) ∈ es ↔ es.lookup key = some a := by
  induction es with
  | nil => simp
  | cons e es ih =>
    obtain ⟨k, b⟩ := e
    rw [List.map_cons, List.nodup_cons] at h
    obtain ⟨hfresh, hnodup⟩ := h
    rw [List.mem_cons, Prod.mk.injEq, ih hnodup, List.lookup_cons]
    by_cases hk : key = k
    · -- the key does not come again
      subst hk
      have hnone : es.lookup key ≠ some a := fun hlookup =>
        hfresh (List.mem_map.2 ⟨(key, a), (ih hnodup).2 hlookup, rfl⟩)
      simp [hnone, eq_comm]
    · have hbeq : (key == k) = false := by simpa using hk
      simp [hk, hbeq]

/-- The entries of a map are the keys with their values. -/
theorem mem_entries_iff {m : StringMap} {key value : String} :
    (key, value) ∈ m.entries ↔ m.get? key = some value :=
  mem_iff_lookup_eq_some m.nodup_keys

/-- A map made from pairs with different keys has just these pairs as its entries. -/
theorem mem_entries_ofList_iff {pairs : List (String × String)} (h : (pairs.map Prod.fst).Nodup)
    {key value : String} : (key, value) ∈ (ofList pairs).entries ↔ (key, value) ∈ pairs := by
  have hreverse : (pairs.reverse.map Prod.fst).Nodup := by
    rw [List.map_reverse]
    exact List.pairwise_reverse.2 (h.imp Ne.symm)
  rw [mem_entries_iff, get?_ofList, ← mem_iff_lookup_eq_some hreverse, List.mem_reverse]

/-- Maps in which all keys have the same values are the same map. -/
theorem ext_get? {m n : StringMap} (h : ∀ key, m.get? key = n.get? key) : m = n := by
  have hmem : ∀ e, e ∈ m.entries ↔ e ∈ n.entries := by
    rintro ⟨key, value⟩
    rw [mem_entries_iff, mem_entries_iff, h]
  have hnodup : ∀ m : StringMap, m.entries.Nodup :=
    fun m => m.ascending.imp fun hlt heq => String.ne_of_lt hlt (congrArg Prod.fst heq)
  have hperm : m.entries.Perm n.entries :=
    (List.perm_ext_iff_of_nodup (hnodup m) (hnodup n)).2 hmem
  -- both lists of entries ascend, so the order is the same too
  refine StringMap.ext (hperm.eq_of_pairwise (fun a b _ _ hab hba => ?_) m.ascending n.ascending)
  exact absurd (String.lt_trans hab hba) (String.lt_irrefl _)

/-- The map made from pairs is the one that gives each key the last of its values. -/
theorem ofList_eq_iff {pairs : List (String × String)} {m : StringMap} :
    ofList pairs = m ↔ ∀ key, m.get? key = pairs.reverse.lookup key := by
  constructor
  · rintro rfl key
    exact get?_ofList pairs key
  · exact fun h => ext_get? fun key => (get?_ofList pairs key).trans (h key).symm

/-! ### The last value of a key -/

/-- Pairs give a key a value: it is the last one that stands with this key. -/
def Given (pairs : List (String × String)) (key value : String) : Prop :=
  ∃ earlier later, pairs = earlier ++ (key, value) :: later ∧ ∀ p ∈ later, p.1 ≠ key

/-- A map made from pairs holds what the pairs give. -/
theorem mem_entries_ofList_iff_given {pairs : List (String × String)} {key value : String} :
    (key, value) ∈ (ofList pairs).entries ↔ Given pairs key value := by
  rw [mem_entries_iff, get?_ofList, List.lookup_eq_some_iff]
  -- the first pair with the key from behind is the last one
  constructor
  · rintro ⟨later, earlier, hpairs, hlater⟩
    refine ⟨earlier.reverse, later.reverse, ?_, fun p hp heq => ?_⟩
    · rw [← List.reverse_reverse pairs, hpairs]
      simp
    · simpa [heq] using hlater p (List.mem_reverse.1 hp)
  · rintro ⟨earlier, later, rfl, hlater⟩
    refine ⟨later.reverse, earlier.reverse, by simp, fun p hp => ?_⟩
    simpa [bne_iff_ne] using (hlater p (List.mem_reverse.1 hp)).symm

/-- A map made from pairs has the keys of the pairs. -/
theorem mem_keys_ofList_iff {pairs : List (String × String)} {key : String} :
    key ∈ (ofList pairs).entries.map Prod.fst ↔ key ∈ pairs.map Prod.fst := by
  have hkey : ∀ m : StringMap, key ∈ m.entries.map Prod.fst ↔ (m.get? key).isSome = true := by
    intro m
    simp only [Option.isSome_iff_exists, ← mem_entries_iff, List.mem_map, Prod.exists, exists_and_right,
      exists_eq_right]
  rw [hkey, get?_ofList, List.lookup_isSome_iff]
  simp only [List.mem_reverse, beq_iff_eq, List.mem_map]
  exact exists_congr fun p => and_congr_right fun _ => eq_comm

/-- What is left of pairs when of each key only the last one counts. -/
structure LastPairs (pairs es : List (String × String)) : Prop where
  /-- The keys strictly ascend, so none comes twice. -/
  ascending : es.Pairwise (fun a b => a.1 < b.1)
  /-- No key is lost, and none is new. -/
  keys : ∀ key, key ∈ es.map Prod.fst ↔ key ∈ pairs.map Prod.fst
  /-- A key stands with the last value that the pairs give it. -/
  given : ∀ key value, (key, value) ∈ es ↔ Given pairs key value

/-- The entries of a map made from pairs are what is left of them. -/
theorem lastPairs_ofList (pairs : List (String × String)) : LastPairs pairs (ofList pairs).entries where
  ascending := (ofList pairs).ascending
  keys _ := mem_keys_ofList_iff
  given _ _ := mem_entries_ofList_iff_given

/-- Looking a key up is looking it up among the pairs that have it. -/
theorem lookup_filter_eq (key : String) (pairs : List (String × String)) :
    (pairs.filter fun p => p.1 = key).lookup key = pairs.lookup key := by
  induction pairs with
  | nil => rfl
  | cons p pairs ih =>
    rw [lookup_cons_eq_ite]
    by_cases h : p.1 = key
    · rw [List.filter_cons_of_pos (by simpa using h), lookup_cons_eq_ite, if_pos h.symm]
      exact (if_pos h.symm).symm
    · rw [List.filter_cons_of_neg (by simpa using h), if_neg (Ne.symm h), ih]

/-- Lists in which the pairs of each key are the same, in the same order, make the same map. -/
theorem ofList_eq_ofList {pairs pairs' : List (String × String)}
    (h : ∀ key, (pairs'.filter fun p => p.1 = key) = pairs.filter fun p => p.1 = key) :
    ofList pairs' = ofList pairs := by
  refine ext_get? fun key => ?_
  rw [get?_ofList, get?_ofList, ← lookup_filter_eq, ← lookup_filter_eq key pairs.reverse,
    List.filter_reverse, List.filter_reverse, h]

/-! ### New keys -/

/-- A pair with a new key goes between two entries, or to an end. -/
theorem exists_insertEntry {key value : String} {es : List (String × String)}
    (h : ∀ e ∈ es, e.1 ≠ key) :
    ∃ less greater, es = less ++ greater ∧
      insertEntry key value es = less ++ (key, value) :: greater := by
  induction es with
  | nil => exact ⟨[], [], rfl, rfl⟩
  | cons e es ih =>
    have hne : key ≠ e.1 := (h e List.mem_cons_self).symm
    obtain ⟨less, greater, hes, hinsert⟩ := ih fun d hd => h d (List.mem_cons_of_mem _ hd)
    rw [insertEntry, if_neg hne]
    -- the new key comes first, or somewhere behind the first entry
    split
    · exact ⟨[], e :: es, rfl, rfl⟩
    · rw [hinsert]
      exact ⟨e :: less, greater, congrArg (e :: ·) hes, rfl⟩

/-- A key that has no value is no entry's. -/
theorem ne_of_get?_eq_none {m : StringMap} {key : String} (h : m.get? key = none) :
    ∀ e ∈ m.entries, e.1 ≠ key := by
  rintro ⟨key', value⟩ he rfl
  rw [mem_entries_iff, h] at he
  cases he

/-- An entry with a new key goes between two entries, or to an end. -/
theorem exists_entries_insert {m : StringMap} {key : String} (h : m.get? key = none) (value : String) :
    ∃ less greater, m.entries = less ++ greater ∧
      (m.insert key value).entries = less ++ (key, value) :: greater :=
  exists_insertEntry (ne_of_get?_eq_none h)

end CanaryMetrics.StringMap
