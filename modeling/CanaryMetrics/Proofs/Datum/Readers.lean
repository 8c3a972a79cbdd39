import CanaryMetrics.Datum.Field
import CanaryMetrics.Proofs.Except
import CanaryMetrics.Proofs.Instant.RoundTrip
import CanaryMetrics.Proofs.StringMap

namespace CanaryMetrics.Datum

/-!
# What readers give

* `readStrings_sequence_map`, `readStringMap_map_entries`, `readWord_toNat`, `readInstant_of_ofText` —
  data that are made from a value are read as that value.
* `readOptional_of_ok` — reading an optional value where there is one.
* `readMembers_append`, `readMembers_cons` — the members of a record are read one after the other.
* `readMembers_optional`, `readMembers_of_unknown` — members that may be missing, and members that are
  passed over.
-/

/-! ### Single values -/

/-- A sequence of strings is read as these strings. -/
theorem readStrings_sequence_map (items : List String) :
    (sequence (items.map string)).readStrings = .ok items := by
  show (items.map string).mapM readString = .ok items
  induction items with
  | nil => rfl
  | cons item items ih =>
    rw [List.map_cons, List.mapM_cons, ih]
    rfl

/-- Members that are made from the entries of a map are read as that map. -/
theorem readStringMap_map_entries (m : StringMap) :
    (map (m.entries.map fun e => (some e.1, string e.2))).readStringMap = .ok m := by
  have hpairs : ∀ es : List (String × String),
      (es.map fun e => (some e.1, string e.2)).mapM readPair = .ok es := by
    intro es
    induction es with
    | nil => rfl
    | cons e es ih =>
      rw [List.map_cons, List.mapM_cons, ih]
      rfl
  -- the entries ascend already, so inserting them one by one changes nothing
  show StringMap.ofList <$> (m.entries.map fun e => (some e.1, string e.2)).mapM readPair = .ok m
  rw [hpairs, map_ok, StringMap.ofList_entries]

/-- The number that a word is, is read as that word. -/
theorem readWord_toNat (n : UInt64) : (integer n.toNat).readWord = .ok n := by
  have hn : (n.toNat : Int) < UInt64.size := Int.ofNat_lt.2 n.toNat_lt
  rw [readWord, if_pos ⟨Int.natCast_nonneg _, hn⟩, Int.toNat_natCast, UInt64.ofNat_toNat]

/-- A text that spells an instant is read as that instant. -/
theorem readInstant_of_ofText {s : String} {t : Instant} (h : Instant.ofText s = .ok t) :
    (string s).readInstant = .ok t := by
  rw [readInstant, h]

/-- Where there is a value, it is read as when it is not optional. -/
theorem readOptional_of_ok {read : Datum → Except ReadError α} {d : Datum} {a : α}
    (hnull : ∀ a, read null ≠ .ok a) (h : read d = .ok a) : d.readOptional read = .ok (some a) := by
  cases d with
  | null => exact absurd h (hnull a)
  | _ =>
    rw [readOptional, h, map_ok]
    exact fun hd => by cases hd

/-! ### Records -/

variable {φ δ : Type} {field? : String → Option φ} {read : δ → φ → Datum → Except ReadError δ}

/-- A member is read into a free slot. -/
theorem readOnce_none {name : String} {value : Except ReadError α} :
    readOnce name (none : Option α) value = some <$> value :=
  rfl

/-- When all members are read, the record is. -/
theorem readMembers_nil (draft : δ) : readMembers field? read draft [] = .ok draft := rfl

/-- The members that come first are read first. -/
theorem readMembers_append (draft : δ) (before after : List (Option String × Datum)) :
    readMembers field? read draft (before ++ after)
      = readMembers field? read draft before >>= fun draft => readMembers field? read draft after :=
  List.foldlM_append

/-- The first member of a known name is read, and then the others. -/
theorem readMembers_cons {key : String} {field : φ} (h : field? key = some field) (draft : δ)
    (d : Datum) (members : List (Option String × Datum)) :
    readMembers field? read draft ((some key, d) :: members)
      = read draft field d >>= fun draft => readMembers field? read draft members := by
  unfold readMembers
  rw [List.foldlM_cons]
  simp only [readKey, ok_bind, h]

/-- A member that may be missing leaves the slot of its field as it was, or fills it; `next` is the
    draft with or without it. -/
theorem readMembers_optional (next : Option α → δ) {key : String} {field : φ}
    (h : field? key = some field) {value : α → Datum}
    (hread : ∀ a, read (next none) field (value a) = .ok (next (some a))) (o : Option α)
    (members : List (Option String × Datum)) :
    readMembers field? read (next none) (o.toList.map (fun a => (some key, value a)) ++ members)
      = readMembers field? read (next o) members := by
  cases o with
  | none => rfl
  | some a =>
    rw [Option.toList_some, List.map_singleton, List.singleton_append, readMembers_cons h, hread,
      ok_bind]

/-- Members of unknown names are passed over. -/
theorem readMembers_of_unknown {members : List (Option String × Datum)}
    (h : ∀ m ∈ members, ∃ key, m.1 = some key ∧ field? key = none) (draft : δ) :
    readMembers field? read draft members = .ok draft := by
  induction members with
  | nil => rfl
  | cons m members ih =>
    obtain ⟨key, hkey, hfield⟩ := h m List.mem_cons_self
    have hrest := ih fun m hm => h m (List.mem_cons_of_mem _ hm)
    unfold readMembers at hrest ⊢
    rw [List.foldlM_cons, hkey]
    simp only [readKey, ok_bind, hfield]
    exact hrest

end CanaryMetrics.Datum
