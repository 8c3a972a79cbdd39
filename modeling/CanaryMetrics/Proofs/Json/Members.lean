import CanaryMetrics.Json.Record
import CanaryMetrics.Proofs.Datum.Drafts
import CanaryMetrics.Proofs.Datum.Types

namespace CanaryMetrics.Json

open Datum

/-!
# What the members of an object say

A record is read from the members of a JSON object.  Here it is said of the values as they are written
what a reader makes of them.

* `Value.IsString`, `Value.IsStrings`, `Value.IsStringMap`, `Value.IsInstant`, `Value.IsWord` — a value is
  one of a type.
* `readString_datum_eq_ok_iff` and its kind — each reader accepts just these values.
* `Value.under` — the values under certain keys, in document order.
* `Value.Optional` — what members say of an optional field.
* `holds_iff`, `optional_iff` — hence what a slot holds that the field's members are read into.
* `known` — the members that are not passed over.
-/

/-- Lists whose items correspond correspond. -/
theorem map_eq_map_iff {α β γ : Type} {f : α → γ} {g : β → γ} {h : β → α}
    (hitem : ∀ a b, f a = g b ↔ a = h b) {as : List α} {bs : List β} :
    as.map f = bs.map g ↔ as = bs.map h := by
  induction as generalizing bs with
  | nil => cases bs <;> simp
  | cons a as ih => cases bs <;> simp [hitem, ih]

/-! ### Numbers -/

/-- The integer that the sign of a numeral and the digits before its point spell. -/
def Numeral.wholePart (n : Numeral) : Int :=
  if n.negative then -(Nat.ofDigitChars 10 n.whole 0 : Int) else Nat.ofDigitChars 10 n.whole 0

/-- A numeral is an integer when it has no point and no exponent, is not a zero with a minus sign, and 64
    bits hold it. -/
theorem Numeral.integer?_eq_some_iff {n : Numeral} {i : Int} :
    n.integer? = some i ↔ n.fraction = [] ∧ n.exponent = none ∧
      ¬ (n.negative = true ∧ n.wholePart = 0) ∧ n.wholePart = i ∧
      -9223372036854775808 ≤ i ∧ i < UInt64.size := by
  have hsize : (UInt64.size : Int) = 18446744073709551616 := rfl
  unfold integer? wholePart
  simp only
  generalize Nat.ofDigitChars 10 n.whole 0 = whole
  by_cases hplain : n.fraction = [] ∧ n.exponent = none
  · rw [if_pos hplain]
    -- the two signs have limits of their own, and a minus sign before zero makes a real
    cases n.negative with
    | true =>
      simp only [if_true, hplain, true_and]
      split
      · rw [Option.some.injEq]
        omega
      · simp only [reduceCtorEq, false_iff]
        omega
    | false =>
      simp only [Bool.false_eq_true, if_false, hplain, true_and, false_and, not_false_eq_true]
      split
      · rw [Option.some.injEq]
        omega
      · simp only [reduceCtorEq, false_iff]
        omega
  · rw [if_neg hplain]
    simp only [reduceCtorEq, false_iff]
    exact fun h => hplain ⟨h.1, h.2.1⟩

/-- The datum of a numeral is that integer, or a floating point number, or cannot be read. -/
theorem Numeral.datum_cases (n : Numeral) :
    (∃ i, n.integer? = some i ∧ n.datum = .integer i) ∨
      n.integer? = none ∧ ((∃ shown, n.datum = .float shown) ∨ n.datum = .unreadable) := by
  unfold datum value
  cases n.integer? with
  | some i => exact .inl ⟨i, rfl, rfl⟩
  | none =>
    cases n.size with
    | some x => exact .inr ⟨rfl, .inl ⟨_, rfl⟩⟩
    | none => exact .inr ⟨rfl, .inr rfl⟩

theorem Numeral.datum_eq_integer_iff {n : Numeral} {i : Int} :
    n.datum = .integer i ↔ n.integer? = some i := by
  rcases n.datum_cases with ⟨j, hinteger, hdatum⟩ | ⟨hinteger, ⟨shown, hdatum⟩ | hdatum⟩ <;>
    simp [hinteger, hdatum]

/-- A numeral is no datum of another kind. -/
theorem Numeral.datum_ne (n : Numeral) : n.datum ≠ .null ∧ (∀ s, n.datum ≠ .string s) ∧
    (∀ items, n.datum ≠ .sequence items) ∧ ∀ members, n.datum ≠ .map members := by
  rcases n.datum_cases with ⟨j, -, hdatum⟩ | ⟨-, ⟨shown, hdatum⟩ | hdatum⟩ <;> simp [hdatum]

namespace Value

/-! ### The types of values -/

/-- A string. -/
def IsString (v : Value) (s : String) : Prop :=
  v = .ofString s

/-- An array of strings. -/
def IsStrings (v : Value) (items : List String) : Prop :=
  v = .ofStrings items

/-- An object with strings only; of several members with one key the last counts. -/
inductive IsStringMap : Value → StringMap → Prop
  | intro {pairs : List (String × String)} {m : StringMap}
    (hlast : ∀ key, m.get? key = pairs.reverse.lookup key) :
    IsStringMap (.ofMembers (pairs.map fun p => (p.1, .ofString p.2))) m

/-- A string that spells an instant. -/
inductive IsInstant : Value → Instant → Prop
  | intro {s : String} {t : Instant} (hs : Instant.ofText s = .ok t) : IsInstant (.ofString s) t

/-- A number without point and exponent, other than a zero with a minus sign, which a word of 64 bits
    holds. -/
inductive IsWord : Value → UInt64 → Prop
  | intro {n : Numeral} {w : UInt64} (hpoint : n.fraction = []) (hexponent : n.exponent = none)
    (hzero : ¬ (n.negative = true ∧ n.wholePart = 0)) (hvalue : n.wholePart = w.toNat) :
    IsWord (.number n) w

/-! ### Which data are read -/

/-- Only the value `null` is no value. -/
theorem datum_eq_null_iff {v : Value} : v.datum = .null ↔ v = .null := by
  cases v with
  | number n => simp [datum, n.datum_ne]
  | string s? => cases s? <;> simp [datum]
  | _ => simp [datum]

theorem datum_eq_string_iff {v : Value} {s : String} : v.datum = .string s ↔ v = .ofString s := by
  cases v with
  | number n => simp [datum, ofString, n.datum_ne]
  | string s? => cases s? <;> simp [datum, ofString]
  | _ => simp [datum, ofString]

theorem datum_eq_sequence_iff {v : Value} {data : List Datum} :
    v.datum = .sequence data ↔ ∃ items, v = .array items ∧ items.map datum = data := by
  cases v with
  | number n => simp [datum, n.datum_ne]
  | string s? => cases s? <;> simp [datum]
  | _ => simp [datum, itemData_eq_map]

theorem datum_eq_map_iff {v : Value} {data : List (Option String × Datum)} :
    v.datum = .map data ↔ ∃ members, v = .object members ∧ memberData members = data := by
  cases v with
  | number n => simp [datum, n.datum_ne]
  | string s? => cases s? <;> simp [datum]
  | _ => simp [datum]

theorem datum_eq_integer_iff {v : Value} {i : Int} :
    v.datum = .integer i ↔ ∃ n : Numeral, v = .number n ∧ n.integer? = some i := by
  cases v with
  | number n => simp [datum, Numeral.datum_eq_integer_iff]
  | string s? => cases s? <;> simp [datum]
  | _ => simp [datum]

theorem readString_datum_eq_ok_iff {v : Value} {s : String} :
    v.datum.readString = .ok s ↔ v.IsString s := by
  rw [readString_eq_ok_iff, datum_eq_string_iff, IsString]

theorem readStrings_datum_eq_ok_iff {v : Value} {items : List String} :
    v.datum.readStrings = .ok items ↔ v.IsStrings items := by
  have hitems : ∀ vs : List Value, vs.map datum = items.map .string ↔ vs = items.map ofString :=
    fun vs => map_eq_map_iff fun _ _ => datum_eq_string_iff
  rw [readStrings_eq_ok_iff, datum_eq_sequence_iff, IsStrings, ofStrings]
  simp only [hitems]
  exact exists_eq_right

theorem readStringMap_datum_eq_ok_iff {v : Value} {m : StringMap} :
    v.datum.readStringMap = .ok m ↔ v.IsStringMap m := by
  have hobject : ∀ pairs : List (String × String), ofMembers (pairs.map fun p => (p.1, ofString p.2))
      = .object (pairs.map fun p => (some p.1, ofString p.2)) := by
    intro pairs
    rw [ofMembers, List.map_map]
    rfl
  have hmembers : ∀ (members : List (Option String × Value)) (pairs : List (String × String)),
      memberData members = pairs.map (fun p => (some p.1, .string p.2)) ↔
        members = pairs.map fun p => (some p.1, ofString p.2) := by
    intro members pairs
    rw [memberData_eq_map]
    refine map_eq_map_iff fun member p => ?_
    rw [Prod.mk.injEq, datum_eq_string_iff, Prod.ext_iff]
  rw [readStringMap_eq_ok_iff]
  -- a map is read off an object whose members are strings, of which the last under a key is kept
  simp only [datum_eq_map_iff, hmembers, StringMap.ofList_eq_iff]
  constructor
  · rintro ⟨pairs, ⟨_, rfl, rfl⟩, hlast⟩
    exact hobject pairs ▸ .intro hlast
  · rintro ⟨hlast⟩
    exact ⟨_, ⟨_, hobject _, rfl⟩, hlast⟩

theorem readInstant_datum_eq_ok_iff {v : Value} {t : Instant} :
    v.datum.readInstant = .ok t ↔ v.IsInstant t := by
  simp only [readInstant_eq_ok_iff, datum_eq_string_iff]
  constructor
  · rintro ⟨s, rfl, h⟩
    exact .intro h
  · rintro ⟨h⟩
    exact ⟨_, rfl, h⟩

theorem readWord_datum_eq_ok_iff {v : Value} {w : UInt64} :
    v.datum.readWord = .ok w ↔ v.IsWord w := by
  have hw : (w.toNat : Int) < UInt64.size := Int.ofNat_lt.2 w.toNat_lt
  rw [readWord_eq_ok_iff, datum_eq_integer_iff]
  simp only [Numeral.integer?_eq_some_iff]
  constructor
  · rintro ⟨n, rfl, hpoint, hexponent, hzero, hvalue, -⟩
    exact .intro hpoint hexponent hzero hvalue
  · rintro ⟨hpoint, hexponent, hzero, hvalue⟩
    exact ⟨_, rfl, hpoint, hexponent, hzero, hvalue, by omega, hw⟩

/-! ### The members of a field -/

/-- The values of the members with one of these keys, in document order. -/
def under (keys : List String) (members : List (Option String × Value)) : List Value :=
  (members.filter fun m => m.1.any fun key => decide (key ∈ keys)).map Prod.snd

theorem under_append (keys : List String) (before after : List (Option String × Value)) :
    under keys (before ++ after) = under keys before ++ under keys after := by
  simp only [under, List.filter_append, List.map_append]

theorem under_cons_of_mem {keys : List String} {key : String} (h : key ∈ keys) (v : Value)
    (members : List (Option String × Value)) :
    under keys ((some key, v) :: members) = v :: under keys members := by
  rw [under, List.filter_cons_of_pos (by simpa using h), List.map_cons, under]

theorem under_cons_of_not_mem {keys : List String} {key : String} (h : key ∉ keys) (v : Value)
    (members : List (Option String × Value)) :
    under keys ((some key, v) :: members) = under keys members := by
  rw [under, List.filter_cons_of_neg (by simpa using h), under]

/-- What an object's members say of an optional field. -/
inductive Optional {α : Type} (Is : Value → α → Prop) : List Value → Option α → Prop
  /-- There is no member of the field. -/
  | missing : Optional Is [] none
  /-- There is one, which is `null`. -/
  | null : Optional Is [.null] none
  /-- There is one, which is a value of the type. -/
  | value {v : Value} {a : α} (h : Is v a) : Optional Is [v] (some a)

/-- What is said does not depend on the order of the values, as there is one at most. -/
theorem Optional.perm {α : Type} {Is : Value → α → Prop} {vs vs' : List Value} {o : Option α}
    (h : Optional Is vs o) (hperm : vs'.Perm vs) : Optional Is vs' o := by
  cases h with
  | missing => exact hperm.eq_nil ▸ .missing
  | null => exact List.perm_singleton.1 hperm ▸ .null
  | value h => exact List.perm_singleton.1 hperm ▸ .value h

/-- The data under a field are those of the values under its keys. -/
theorem named_memberData {φ : Type} [DecidableEq φ] {field? : String → Option φ} {field : φ}
    {keys : List String} (hkeys : ∀ key, field? key = some field ↔ key ∈ keys)
    (members : List (Option String × Value)) :
    named field? field (memberData members) = (under keys members).map datum := by
  rw [memberData_eq_map, named, under, List.filter_map, List.map_map, List.map_map]
  -- a member without a known key has no field, and its key is none of `keys`
  have hfilter : ((fun m => decide (m.1.bind field? = some field)) ∘
      fun m : Option String × Value => (m.1, m.2.datum))
      = fun m => m.1.any fun key => decide (key ∈ keys) := by
    funext m
    obtain ⟨key?, v⟩ := m
    cases key? <;> simp [hkeys]
  rw [hfilter]
  rfl

/-- The keys of members that are data are texts when those of the members are. -/
theorem forall_memberData_ne_none_iff {members : List (Option String × Value)} :
    (∀ m ∈ memberData members, m.1 ≠ none) ↔ ∀ m ∈ members, m.1 ≠ none := by
  rw [memberData_eq_map]
  exact List.forall_mem_map

section

variable {α : Type} {read : Datum → Except ReadError α} {Is : Value → α → Prop} {vs : List Value}

/-- What a slot holds of a mandatory field's values. -/
theorem holds_iff (his : ∀ v a, read v.datum = .ok a ↔ Is v a) {held : Option α} :
    Holds read (vs.map datum) held ↔ vs = [] ∧ held = none ∨ ∃ v a, vs = [v] ∧ Is v a ∧ held = some a := by
  constructor
  · intro h
    -- `Holds` is about the data, so its cases are taken before the data are traced back to values
    generalize hdata : vs.map datum = data at h
    cases h with
    | nothing => exact .inl ⟨List.map_eq_nil_iff.1 hdata, rfl⟩
    | one h =>
      obtain ⟨v, rfl, rfl⟩ := List.map_eq_singleton_iff.1 hdata
      exact .inr ⟨v, _, rfl, (his _ _).1 h, rfl⟩
  · rintro (⟨rfl, rfl⟩ | ⟨v, a, rfl, h, rfl⟩)
    · exact .nothing
    · exact .one ((his v a).2 h)

/-- What a slot holds of an optional field's values: what the members say of the field. -/
theorem optional_iff (his : ∀ v a, read v.datum = .ok a ↔ Is v a) (hnull : ∀ a, ¬ Is .null a)
    {o : Option α} :
    Optional Is vs o ↔ ∃ held, Holds (fun d => d.readOptional read) (vs.map datum) held ∧ held.join = o := by
  -- `null` stands for nothing; any other value has to be read
  have hread : ∀ (v : Value) (o : Option α), v.datum.readOptional read = .ok o ↔
      v = .null ∧ o = none ∨ v ≠ .null ∧ ∃ a, Is v a ∧ o = some a := by
    intro v o
    simp only [readOptional_eq_ok_iff, ne_eq, datum_eq_null_iff, his]
  simp only [holds_iff hread]
  constructor
  · intro h
    cases h with
    | missing => exact ⟨none, .inl ⟨rfl, rfl⟩, rfl⟩
    | null => exact ⟨some none, .inr ⟨.null, none, rfl, .inl ⟨rfl, rfl⟩, rfl⟩, rfl⟩
    | @value v a h =>
      have hne : v ≠ .null := fun heq => hnull a (heq ▸ h)
      exact ⟨some (some a), .inr ⟨v, some a, rfl, .inr ⟨hne, a, h, rfl⟩, rfl⟩, rfl⟩
  · rintro ⟨held, ⟨rfl, rfl⟩ | ⟨v, o, rfl, ⟨rfl, rfl⟩ | ⟨-, a, h, rfl⟩, rfl⟩, rfl⟩
    · exact .missing
    · exact .null
    · exact .value h

end

section

variable {vs : List Value}

theorem optional_string_iff {o : Option String} : Optional IsString vs o ↔
    ∃ held, Holds (fun d => d.readOptional readString) (vs.map datum) held ∧ held.join = o :=
  optional_iff (fun _ _ => readString_datum_eq_ok_iff) fun _ h => by cases h

theorem optional_strings_iff {o : Option (List String)} : Optional IsStrings vs o ↔
    ∃ held, Holds (fun d => d.readOptional readStrings) (vs.map datum) held ∧ held.join = o :=
  optional_iff (fun _ _ => readStrings_datum_eq_ok_iff) fun _ h => by cases h

theorem optional_stringMap_iff {o : Option StringMap} : Optional IsStringMap vs o ↔
    ∃ held, Holds (fun d => d.readOptional readStringMap) (vs.map datum) held ∧ held.join = o :=
  optional_iff (fun _ _ => readStringMap_datum_eq_ok_iff) fun _ h => by cases h

theorem optional_instant_iff {o : Option Instant} : Optional IsInstant vs o ↔
    ∃ held, Holds (fun d => d.readOptional readInstant) (vs.map datum) held ∧ held.join = o :=
  optional_iff (fun _ _ => readInstant_datum_eq_ok_iff) fun _ h => by cases h

theorem optional_word_iff {o : Option UInt64} : Optional IsWord vs o ↔
    ∃ held, Holds (fun d => d.readOptional readWord) (vs.map datum) held ∧ held.join = o :=
  optional_iff (fun _ _ => readWord_datum_eq_ok_iff) fun _ h => by cases h

end

/-! ### Members under other keys -/

/-- The members that are not passed over where these are the keys that mean something: those under one of
    them, and those whose key is no text. -/
def known (keys : List String) (members : List (Option String × Value)) : List (Option String × Value) :=
  members.filter fun m => m.1.all fun key => decide (key ∈ keys)

theorem memberData_known {φ : Type} {field? : String → Option φ} {keys : List String}
    (hkeys : ∀ key, (field? key).isSome = true ↔ key ∈ keys) (members : List (Option String × Value)) :
    memberData (known keys members) = (memberData members).filter (isKnown field?) := by
  rw [memberData_eq_map, memberData_eq_map, known, List.filter_map]
  refine congrArg _ (List.filter_congr fun member _ => ?_)
  obtain ⟨key?, v⟩ := member
  cases key? with
  | none => rfl
  | some key =>
    show decide _ = (field? key).isSome
    rw [Bool.eq_iff_iff, decide_eq_true_iff, hkeys]

/-! ### Texts -/

/-- The text of an object is read as its members are. -/
theorem readJson_of_object {α : Type} {text : String} {members : List (Option String × Value)}
    (h : ofText? text = some (.object members)) (read : Datum → Except ReadError α) :
    readJson read text = read (.map (memberData members)) := by
  rw [readJson, h]
  simp only [datum]

end Value

end CanaryMetrics.Json
