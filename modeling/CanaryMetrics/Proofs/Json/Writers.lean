import CanaryMetrics.Json.Record
import CanaryMetrics.Proofs.Datum.Readers
import CanaryMetrics.Proofs.Json.Values

namespace CanaryMetrics

open Datum

/-!
# What is written is read as it was

* `Json.Value.ReadAs` — a value has a text that spells it, and is read as something.
* `readAs_ofString`, `readAs_ofStrings`, `readAs_ofStringMap`, `readAs_ofInstant`, `readAs_ofWord`,
  `readAs_ofOption` — each writer with its reader.
* `readJson_text`, `readJson_of_readAs` — what reading the text of such a value gives.
-/

namespace Json.Value

/-! ### Writers and readers -/

/-- A value without numerals is proper. -/
theorem proper_ofString (s : String) : (ofString s).Proper := by
  intro n hn
  rw [ofString, tokens] at hn
  cases List.mem_singleton.1 hn

/-- The text of a value spells the value, and a reader gives `a` for it. -/
structure ReadAs (read : Datum → Except ReadError α) (v : Value) (a : α) : Prop where
  /-- The text of the value spells it. -/
  proper : v.Proper
  /-- The reader gives `a`. -/
  read_datum : read v.datum = .ok a

/-- A string. -/
theorem readAs_ofString (s : String) : ReadAs readString (ofString s) s :=
  ⟨proper_ofString s, by rw [ofString, datum, readString]⟩

/-- A list of strings. -/
theorem readAs_ofStrings (items : List String) : ReadAs readStrings (ofStrings items) items where
  proper := by
    refine proper_array fun v hv => ?_
    obtain ⟨s, -, rfl⟩ := List.mem_map.1 hv
    exact proper_ofString s
  read_datum := by
    have hdata : itemData (items.map ofString) = items.map Datum.string := by
      rw [itemData_eq_map, List.map_map]
      refine List.map_congr_left fun s _ => ?_
      show (ofString s).datum = _
      rw [ofString, datum]
    rw [ofStrings, datum, hdata]
    exact readStrings_sequence_map items

/-- Members are an object of which each member is read. -/
theorem datum_ofMembers (members : List (String × Value)) :
    (ofMembers members).datum = .map (members.map fun m => (some m.1, m.2.datum)) := by
  rw [ofMembers, datum, memberData_eq_map, List.map_map]
  rfl

/-- Members with proper values are an object with proper values. -/
theorem proper_ofMembers {members : List (String × Value)} (h : ∀ m ∈ members, m.2.Proper) :
    (ofMembers members).Proper := by
  refine proper_object fun m hm => ?_
  obtain ⟨m, hmem, rfl⟩ := List.mem_map.1 hm
  exact h m hmem

/-- A map of strings. -/
theorem readAs_ofStringMap (m : StringMap) : ReadAs readStringMap (ofStringMap m) m where
  proper := by
    refine proper_ofMembers fun v hv => ?_
    obtain ⟨e, -, rfl⟩ := List.mem_map.1 hv
    exact proper_ofString e.2
  read_datum := by
    -- every value of the object is a string, and is read back as it was written
    have hmembers :
        ((m.entries.map fun e => (e.1, ofString e.2)).map fun m => (some m.1, m.2.datum))
          = m.entries.map fun e => (some e.1, Datum.string e.2) := by
      rw [List.map_map]
      refine List.map_congr_left fun e _ => ?_
      show (some e.1, (ofString e.2).datum) = _
      rw [ofString, datum]
    rw [ofStringMap, datum_ofMembers, hmembers]
    exact readStringMap_map_entries m

/-- An instant, as any text that spells it. -/
theorem readAs_of_ofText {s : String} {t : Instant} (h : Instant.ofText s = .ok t) :
    ReadAs readInstant (ofString s) t :=
  ⟨proper_ofString s, by rw [ofString, datum, readInstant_of_ofText h]⟩

/-- An instant, as its text. -/
theorem readAs_ofInstant (t : Instant) : ReadAs readInstant (ofString t.text) t :=
  readAs_of_ofText (Instant.ofText_text t)

/-- A number of 64 bits. -/
theorem readAs_ofWord (n : UInt64) : ReadAs readWord (ofNat n.toNat) n where
  proper := by
    intro k hk
    rw [ofNat, tokens] at hk
    cases List.mem_singleton.1 hk
    exact Numeral.proper_ofNat n.toNat
  read_datum := by
    rw [ofNat, datum, Numeral.datum, Numeral.value_ofNat n.toNat_lt]
    exact readWord_toNat n

/-- An optional value, which is there exactly if it was. -/
theorem readAs_ofOption {read : Datum → Except ReadError α} {write : α → Value}
    (hnull : ∀ a, read .null ≠ .ok a) (h : ∀ a, ReadAs read (write a) a) (o : Option α) :
    ReadAs (readOptional read) (ofOption write o) o := by
  cases o with
  | none =>
    refine ⟨fun n hn => ?_, by rw [ofOption, datum, readOptional]⟩
    rw [ofOption, tokens] at hn
    cases List.mem_singleton.1 hn
  | some a => exact ⟨(h a).proper, readOptional_of_ok hnull (h a).read_datum⟩

end Json.Value

/-- Reading the text of a value whose numerals are proper is reading the value. -/
theorem readJson_text {v : Json.Value} (h : v.Proper) (read : Datum → Except ReadError α) :
    readJson read v.text = read v.datum := by
  unfold readJson
  rw [Json.Value.ofText?_text h]

/-- So reading the text of a value gives what the value is read as. -/
theorem readJson_of_readAs {read : Datum → Except ReadError α} {v : Json.Value} {a : α}
    (h : Json.Value.ReadAs read v a) : readJson read v.text = .ok a := by
  rw [readJson_text h.proper, h.read_datum]

end CanaryMetrics
