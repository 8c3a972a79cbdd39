import CanaryMetrics.Proofs.Datum.Offences
import Mathlib.Data.List.Induction

namespace CanaryMetrics.Datum

/-!
# Drafts of records

A record is read into a draft that has a slot for each of its fields.  Whatever the fields are, a member
is read once into the slot of its field and leaves the other slots alone.

* `Slotted` — a draft of that kind.
* `Slotted.fillsSlots` — it takes in members as drafts do.
* `inoffensive_iff` — each member is read when every key is a text, no field is named twice and no member
  is refused, in whatever order they stand.
* `Holds` — what a slot holds of the data under its field.
* `Slotted.readMembers_eq_ok_iff` — a record is read exactly when all keys are texts and each slot holds
  what the members of its field give.
-/

section

variable {φ δ : Type} {β : φ → Type}

/-- A draft with a slot for each field; reading a member of the field puts its value there. -/
structure Slotted (name : φ → String) (read : δ → φ → Datum → Except ReadError δ)
    (slot : (field : φ) → δ → Option (β field)) (put : (field : φ) → δ → Option (β field) → δ)
    (value : (field : φ) → Datum → Except ReadError (β field)) : Prop where
  /-- A member is read once into the slot of its field. -/
  read_eq : ∀ draft field d,
    read draft field d = put field draft <$> readOnce (name field) (slot field draft) (value field d)
  /-- The slot holds what has been put there. -/
  slot_put : ∀ field draft filled, slot field (put field draft filled) = filled
  /-- The other slots hold what they held. -/
  slot_put_of_ne : ∀ {field other}, other ≠ field → ∀ draft filled,
    slot other (put field draft filled) = slot other draft
  /-- There is nothing to a draft but its slots. -/
  ext : ∀ {draft draft'}, (∀ field, slot field draft = slot field draft') → draft = draft'

variable {name : φ → String} {read : δ → φ → Datum → Except ReadError δ}
  {slot : (field : φ) → δ → Option (β field)} {put : (field : φ) → δ → Option (β field) → δ}
  {value : (field : φ) → Datum → Except ReadError (β field)}
  {refused : φ → Datum → ReadError → Prop}

/-- The slot of a field belongs to the field. -/
theorem Slotted.isSlot [DecidableEq φ] (h : Slotted name read slot put value) (field : φ) :
    Slot read field (slot field) (value field) where
  own := by
    intro draft d draft' hread
    rw [h.read_eq] at hread
    obtain ⟨filled, honce, rfl⟩ := map_eq_ok_iff.1 hread
    -- reading once fills the slot only if it was empty
    rw [h.slot_put]
    exact readOnce_eq_ok_iff.1 honce
  other := by
    intro draft other d draft' hne hread
    rw [h.read_eq] at hread
    obtain ⟨filled, -, rfl⟩ := map_eq_ok_iff.1 hread
    exact h.slot_put_of_ne hne.symm draft filled

/-- Each field is read once, if it is not refused. -/
theorem Slotted.fillsSlots [DecidableEq φ] (h : Slotted name read slot put value)
    (hrefused : ∀ field d e, value field d = .error e ↔ refused field d e) :
    FillsSlots name refused read (fun field draft => slot field draft ≠ none) where
  eq_error_iff := by
    intro draft field d e
    rw [h.read_eq, map_eq_error_iff, readOnce_eq_error_iff, hrefused, Decidable.not_not]
  taken_iff := by
    intro draft field d draft' hread other
    rw [h.read_eq] at hread
    obtain ⟨filled, honce, rfl⟩ := map_eq_ok_iff.1 hread
    obtain ⟨-, b, -, rfl⟩ := readOnce_eq_ok_iff.1 honce
    by_cases hother : other = field
    · subst hother
      simp [h.slot_put]
    · simp [h.slot_put_of_ne hother, hother]

end

/-! ### Members that are read in any order -/

section

variable {φ : Type} [DecidableEq φ] {field? : String → Option φ} {name : φ → String}
  {refused : φ → Datum → ReadError → Prop} {members : List (Option String × Datum)}

theorem named_append (field : φ) (before after : List (Option String × Datum)) :
    named field? field (before ++ after) = named field? field before ++ named field? field after := by
  simp [named]

/-- All members are read when those before the last are, and the last. -/
theorem inoffensive_concat_iff {m : Option String × Datum} :
    Inoffensive field? name refused (members ++ [m]) ↔
      Inoffensive field? name refused members ∧ ∀ e, ¬ Offends field? name refused members m e := by
  constructor
  · intro h
    refine ⟨?_, fun e => h members m [] e rfl⟩
    rintro before m' after e rfl
    exact h before m' (after ++ [m]) e (by simp)
  · rintro ⟨hbefore, hlast⟩ before m' after e heq
    -- the offending member is the last one, or one of those before it
    rcases List.eq_nil_or_concat after with rfl | ⟨after, last, rfl⟩
    · obtain ⟨rfl, hm⟩ := List.append_inj' heq rfl
      cases hm
      exact hlast e
    · rw [List.concat_eq_append, ← List.cons_append, ← List.append_assoc] at heq
      obtain ⟨hmembers, -⟩ := List.append_inj' heq rfl
      exact hbefore before m' after e hmembers

/-- **When each member is read.**  All keys are texts, and of each field there is one member at most,
    which is not refused. -/
theorem inoffensive_iff :
    Inoffensive field? name refused members ↔
      (∀ m ∈ members, m.1 ≠ none) ∧ ∀ field, (named field? field members).length ≤ 1 ∧
        ∀ d ∈ named field? field members, ∀ e, ¬ refused field d e := by
  -- the last member of its field is the one that may find the field named already
  induction members using List.reverseRecOn with
  | nil => simp [Inoffensive, named]
  | append_singleton members m ih =>
    obtain ⟨key?, d⟩ := m
    rw [inoffensive_concat_iff, ih]
    cases key? with
    | none =>
      refine iff_of_false ?_ ?_
      · exact fun h => h.2 .malformed (.key d)
      · exact fun h => h.1 (none, d) (List.mem_append_right _ (List.mem_singleton_self _)) rfl
    | some key =>
      have hkeys : (∀ m ∈ members ++ [(some key, d)], m.1 ≠ none) ↔ ∀ m ∈ members, m.1 ≠ none := by
        simp [or_imp, forall_and]
      rw [hkeys, and_assoc, and_congr_right_iff]
      intro _
      constructor
      · rintro ⟨hfields, hlast⟩ field
        by_cases hkey : field? key = some field
        · -- none has named the field before
          have hnone : named field? field members = [] :=
            Decidable.byContradiction fun hne => hlast _ (.again d hkey hne)
          rw [named_append, hnone, named_cons_of_eq hkey]
          refine ⟨Nat.le_refl 1, fun d' hd' e he => ?_⟩
          obtain rfl := List.mem_singleton.1 hd'
          exact hlast e (.refused hkey hnone he)
        · rw [named_append, named_cons_of_ne hkey]
          simpa [named] using hfields field
      · intro h
        refine ⟨fun field => ?_, fun e he => ?_⟩
        · obtain ⟨hlength, hrefused⟩ := h field
          rw [named_append] at hlength hrefused
          rw [List.length_append] at hlength
          exact ⟨by omega, fun d' hd' => hrefused d' (List.mem_append_left _ hd')⟩
        · cases he with
          | @again _ field _ hkey hbefore =>
            have hlength := (h field).1
            rw [named_append, named_cons_of_eq hkey, List.length_append, List.length_cons] at hlength
            exact hbefore (List.length_eq_zero_iff.1 (by omega))
          | @refused _ field _ _ hkey hbefore hd =>
            refine (h field).2 d ?_ e hd
            rw [named_append, named_cons_of_eq hkey]
            exact List.mem_append_right _ List.mem_cons_self

end

/-! ### What the slots hold -/

/-- What a slot holds: nothing when no member names its field, and otherwise what the one member that
    does is read as. -/
inductive Holds {β : Type} (value : Datum → Except ReadError β) : List Datum → Option β → Prop
  /-- No member names the field. -/
  | nothing : Holds value [] none
  /-- One member does. -/
  | one {d : Datum} {b : β} (h : value d = .ok b) : Holds value [d] (some b)

/-- A slot holds one thing. -/
theorem Holds.unique {β : Type} {value : Datum → Except ReadError β} {data : List Datum}
    {held held' : Option β} (h : Holds value data held) (h' : Holds value data held') : held = held' := by
  cases h with
  | nothing =>
    cases h'
    rfl
  | one hd =>
    cases h' with
    | one hd' => exact congrArg some (Except.ok.inj (hd.symm.trans hd'))

section

variable {φ δ : Type} [DecidableEq φ] {β : φ → Type} {field? : String → Option φ} {name : φ → String}
  {read : δ → φ → Datum → Except ReadError δ} {slot : (field : φ) → δ → Option (β field)}
  {put : (field : φ) → δ → Option (β field) → δ}
  {value : (field : φ) → Datum → Except ReadError (β field)}
  {members : List (Option String × Datum)} {draft draft' : δ}

/-- What the slots hold of the members that have been read. -/
theorem Slotted.holds_of_readMembers (h : Slotted name read slot put value)
    (hfree : ∀ field, slot field draft = none) (hread : readMembers field? read draft members = .ok draft')
    (field : φ) : Holds (value field) (named field? field members) (slot field draft') := by
  rcases (h.isSlot field).of_readMembers hread with ⟨hnil, hslot⟩ | ⟨-, d, b, hone, hvalue, hslot⟩
  · rw [hnil, hslot, hfree]
    exact .nothing
  · rw [hone, hslot]
    exact .one hvalue

/-- **What is read into a draft.**  A record is read into a draft whose slots are free exactly when all
    keys are texts and each slot of the result holds what the members of its field give. -/
theorem Slotted.readMembers_eq_ok_iff (h : Slotted name read slot put value)
    (hfree : ∀ field, slot field draft = none) :
    readMembers field? read draft members = .ok draft' ↔
      (∀ m ∈ members, m.1 ≠ none) ∧
        ∀ field, Holds (value field) (named field? field members) (slot field draft') := by
  have hfills : FillsSlots name (fun field d e => value field d = .error e) read
      (fun field draft => slot field draft ≠ none) := h.fillsSlots fun _ _ _ => Iff.rfl
  have hfree' : ∀ field, ¬ slot field draft ≠ none := fun field => not_not_intro (hfree field)
  constructor
  · intro hread
    exact ⟨(inoffensive_iff.1 (hfills.inoffensive_of_readMembers hfree' hread)).1,
      h.holds_of_readMembers hfree hread⟩
  · rintro ⟨hkeys, hholds⟩
    -- so no member is refused, and what is read is determined by what the slots hold
    have hinoffensive : Inoffensive field? name (fun field d e => value field d = .error e) members := by
      refine inoffensive_iff.2 ⟨hkeys, fun field => ?_⟩
      have hfield := hholds field
      generalize named field? field members = data, slot field draft' = held at hfield
      cases hfield with
      | nothing => simp
      | one hvalue => simp [hvalue]
    obtain ⟨read', hread⟩ := (hfills.exists_readMembers_eq_ok_iff hfree').2 hinoffensive
    rw [hread, h.ext fun field => (h.holds_of_readMembers hfree hread field).unique (hholds field)]

end

end CanaryMetrics.Datum
