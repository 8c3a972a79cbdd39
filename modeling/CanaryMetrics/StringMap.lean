namespace CanaryMetrics

/-!
# Maps from strings to strings, in ascending key order

* `StringMap` — a list of entries with strictly ascending keys; strings compare by code point.
* `StringMap.insert` — adds an entry, or replaces the value of a key that is there.
* `StringMap.ofList` — of repeated keys the last one wins.
* `StringMap.get?_insert`, `StringMap.entries_insert` — what an insertion does to the map.
-/

/-- A finite map from strings to strings, stored as its entries in strictly ascending key order. -/
structure StringMap where
  /-- The entries, each key once. -/
  entries : List (String × String)
  /-- The keys strictly ascend, by code point. -/
  ascending : entries.Pairwise (fun a b => a.1 < b.1) := by decide
deriving DecidableEq, Repr

namespace StringMap

/-! ### Insertion into an ascending list of entries -/

/-- Puts an entry at its place in an ascending list, replacing an entry with the same key. -/
def insertEntry (key value : String) : List (String × String) → List (String × String)
  | [] => [(key, value)]
  | e :: es =>
    if key < e.1 then (key, value) :: e :: es
    else if key = e.1 then (key, value) :: es
    else e :: insertEntry key value es

/-- An entry of the longer list is the new one or was there before. -/
theorem mem_of_mem_insertEntry {key value : String} {e : String × String}
    {es : List (String × String)} (h : e ∈ insertEntry key value es) : e = (key, value) ∨ e ∈ es := by
  induction es with
  | nil => simpa [insertEntry] using h
  | cons d ds ih =>
    rw [insertEntry] at h
    split at h
    · simpa using h
    · split at h
      · rcases List.mem_cons.1 h with h | h
        · exact .inl h
        · exact .inr (List.mem_cons_of_mem _ h)
      · rcases List.mem_cons.1 h with h | h
        · exact .inr (h ▸ List.mem_cons_self)
        · exact (ih h).imp id (List.mem_cons_of_mem _)

/-- Of two strings neither of which comes first, both are the same. -/
theorem lt_of_not_lt_of_ne {a b : String} (h : ¬ a < b) (hne : a ≠ b) : b < a := by
  rcases String.le_total a b with hle | hle
  · exact absurd (String.le_antisymm hle h) hne
  · exact Decidable.byContradiction fun hn => hne (String.le_antisymm hn hle)

/-- Insertion keeps the keys strictly ascending. -/
theorem pairwise_insertEntry (key value : String) {es : List (String × String)}
    (h : es.Pairwise (fun a b => a.1 < b.1)) :
    (insertEntry key value es).Pairwise (fun a b => a.1 < b.1) := by
  induction es with
  | nil => simp [insertEntry]
  | cons d ds ih =>
    obtain ⟨hd, hds⟩ := List.pairwise_cons.1 h
    rw [insertEntry]
    split
    · rename_i hlt
      refine List.pairwise_cons.2 ⟨fun e he => ?_, h⟩
      rcases List.mem_cons.1 he with rfl | he
      · exact hlt
      · exact String.lt_trans hlt (hd e he)
    · split
      · rename_i heq
        exact List.pairwise_cons.2 ⟨fun e he => heq ▸ hd e he, hds⟩
      · -- the key belongs further on, so that all that follows is greater than the first key
        rename_i hlt hne
        refine List.pairwise_cons.2 ⟨fun e he => ?_, ih hds⟩
        rcases mem_of_mem_insertEntry he with rfl | he
        · exact lt_of_not_lt_of_ne hlt hne
        · exact hd e he

/-! ### The map -/

/-- The map without entries. -/
def empty : StringMap := ⟨[], .nil⟩

instance : EmptyCollection StringMap := ⟨empty⟩

instance : Inhabited StringMap := ⟨empty⟩

/-- Sets the value of a key. -/
def insert (m : StringMap) (key value : String) : StringMap :=
  ⟨insertEntry key value m.entries, pairwise_insertEntry key value m.ascending⟩

/-- The value of a key. -/
def get? (m : StringMap) (key : String) : Option String :=
  m.entries.lookup key

/-- The map of a list of pairs; a later pair replaces an earlier one with the same key. -/
def ofList (pairs : List (String × String)) : StringMap :=
  pairs.foldl (fun m p => m.insert p.1 p.2) ∅

@[simp]
theorem entries_insert (m : StringMap) (key value : String) :
    (m.insert key value).entries = insertEntry key value m.entries := rfl

/-- Two maps with the same entries are the same map. -/
@[ext]
theorem ext {m n : StringMap} (h : m.entries = n.entries) : m = n := by
  cases m; cases n; simp_all

/-- Looking a key up stops at the first entry that has it. -/
theorem lookup_cons_eq_ite (k : String) (e : String × String) (es : List (String × String)) :
    (e :: es).lookup k = if k = e.1 then some e.2 else es.lookup k := by
  rw [List.lookup_cons]
  by_cases h : k = e.1
  · simp [h]
  · rw [show (k == e.1) = false by simpa using h, if_neg h]

/-- Looking a key up after an insertion finds the new value, or what was there under another key. -/
theorem lookup_insertEntry (key value k : String) (es : List (String × String)) :
    (insertEntry key value es).lookup k = if k = key then some value else es.lookup k := by
  induction es with
  | nil => simp [insertEntry]
  | cons d ds ih =>
    rw [insertEntry]
    split
    · simp [lookup_cons_eq_ite]
    · split
      · -- the key is there already, and its entry gets the new value
        rename_i heq
        simp only [lookup_cons_eq_ite, ← heq]
        split <;> rfl
      · rename_i hne
        simp only [lookup_cons_eq_ite, ih]
        split
        · rename_i hd
          rw [if_neg fun h => hne (h.symm.trans hd)]
        · rfl

/-- After an insertion the key has the value inserted and the other keys keep theirs. -/
theorem get?_insert (m : StringMap) (key value k : String) :
    (m.insert key value).get? k = if k = key then some value else m.get? k :=
  lookup_insertEntry key value k m.entries

/-! ### Unit test: the order is by code point and the last of two equal keys wins -/

example : (ofList [("b", "1"), ("😀", "2"), ("\uFFFF", "3"), ("b", "4")]).entries
    = [("b", "4"), ("\uFFFF", "3"), ("😀", "2")] := by decide

end StringMap

end CanaryMetrics
