import CanaryMetrics.Datum.Field
import CanaryMetrics.Proofs.Except

namespace CanaryMetrics.Datum

/-!
# One field of a record

The members of a record are read into a draft with a slot for each field.  Of a record that is read, what
one slot holds in the end depends on the members that name its field only.

* `named` — the data of the members that name a field.
* `readOnce_eq_ok_iff`, `readOnce_eq_error_iff` — a slot is filled once.
* `Slot` — a slot of a draft that only the members of one field fill, once.
* `Slot.of_readMembers` — hence there is one such member at most, and it is what the slot holds.
-/

variable {φ δ β : Type} [DecidableEq φ] {field? : String → Option φ} {field : φ}

/-- The data of the members whose key names a field. -/
def named (field? : String → Option φ) (field : φ) (members : List (Option String × Datum)) : List Datum :=
  (members.filter fun m => m.1.bind field? = some field).map Prod.snd

theorem mem_named {members : List (Option String × Datum)} {d : Datum} :
    d ∈ named field? field members ↔ ∃ key, (some key, d) ∈ members ∧ field? key = some field := by
  constructor
  · intro h
    obtain ⟨⟨key, d⟩, hm, rfl⟩ := List.mem_map.1 h
    obtain ⟨hmem, hkey⟩ := List.mem_filter.1 hm
    cases key with
    | none => simp at hkey
    | some key => exact ⟨key, hmem, by simpa using hkey⟩
  · rintro ⟨key, hmem, hkey⟩
    exact List.mem_map.2 ⟨(some key, d), List.mem_filter.2 ⟨hmem, by simpa using hkey⟩, rfl⟩

theorem named_cons_of_eq {key : String} (h : field? key = some field) (d : Datum)
    (members : List (Option String × Datum)) :
    named field? field ((some key, d) :: members) = d :: named field? field members := by
  rw [named, List.filter_cons_of_pos (by simpa using h), List.map_cons, named]

theorem named_cons_of_ne {key : String} (h : field? key ≠ some field) (d : Datum)
    (members : List (Option String × Datum)) :
    named field? field ((some key, d) :: members) = named field? field members := by
  rw [named, List.filter_cons_of_neg (by simpa using h), named]

/-- A slot is filled once, with what is read. -/
theorem readOnce_eq_ok_iff {name : String} {slot filled : Option β} {value : Except ReadError β} :
    readOnce name slot value = .ok filled ↔ slot = none ∧ ∃ b, value = .ok b ∧ filled = some b := by
  cases slot with
  | some b => simp [readOnce]
  | none => cases value <;> simp [readOnce, eq_comm]

/-- A slot that is taken is not filled again, whatever there is to be read. -/
theorem readOnce_eq_error_iff {name : String} {slot : Option β} {value : Except ReadError β}
    {e : ReadError} : readOnce name slot value = .error e ↔
      slot ≠ none ∧ e = .shape (.duplicateField name) ∨ slot = none ∧ value = .error e := by
  cases slot with
  | some b => simp [readOnce, eq_comm]
  | none => simp [readOnce, map_eq_error_iff]

/-- A slot of a draft belongs to a field: a member of the field is read by `value` into the empty slot,
    and members of other fields leave the slot alone. -/
structure Slot (read : δ → φ → Datum → Except ReadError δ) (field : φ) (slot : δ → Option β)
    (value : Datum → Except ReadError β) : Prop where
  /-- A member of the field fills the slot. -/
  own : ∀ {draft d draft'}, read draft field d = .ok draft' →
    slot draft = none ∧ ∃ b, value d = .ok b ∧ slot draft' = some b
  /-- A member of another field does not. -/
  other : ∀ {draft other d draft'}, other ≠ field → read draft other d = .ok draft' →
    slot draft' = slot draft

/-- One member at most names a field, and it is what the field's slot holds in the end. -/
theorem Slot.of_readMembers {read : δ → φ → Datum → Except ReadError δ} {slot : δ → Option β}
    {value : Datum → Except ReadError β} (hslot : Slot read field slot value)
    {members : List (Option String × Datum)} {draft draft' : δ}
    (h : readMembers field? read draft members = .ok draft') :
    (named field? field members = [] ∧ slot draft' = slot draft) ∨
      slot draft = none ∧
        ∃ d b, named field? field members = [d] ∧ value d = .ok b ∧ slot draft' = some b := by
  induction members generalizing draft with
  | nil =>
    cases h
    exact .inl ⟨rfl, rfl⟩
  | cons m members ih =>
    obtain ⟨key?, d⟩ := m
    unfold readMembers at h ih
    rw [List.foldlM_cons] at h
    obtain ⟨next, hfirst, hrest⟩ := bind_eq_ok_iff.1 h
    obtain ⟨key, hkey, hnext⟩ := bind_eq_ok_iff.1 hfirst
    cases key? with
    | none => cases hkey
    | some _ =>
      cases hkey
      cases hfield : field? key with
      | none =>
        -- an unknown member is passed over
        rw [hfield] at hnext
        cases hnext
        rw [named_cons_of_ne (by simp [hfield])]
        exact ih hrest
      | some g =>
        rw [hfield] at hnext
        by_cases hg : g = field
        · subst hg
          obtain ⟨hnone, b, hb, hfilled⟩ := hslot.own hnext
          rw [named_cons_of_eq hfield]
          rcases ih hrest with ⟨hnil, hlast⟩ | ⟨hempty, -⟩
          · exact .inr ⟨hnone, d, b, by rw [hnil], hb, hlast.trans hfilled⟩
          · -- the slot is taken, so no second member can be read into it
            rw [hfilled] at hempty
            cases hempty
        · have hsame := hslot.other hg hnext
          rw [named_cons_of_ne (by simpa [hfield] using hg), ← hsame]
          exact ih hrest

end CanaryMetrics.Datum
