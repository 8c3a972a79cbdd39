import CanaryMetrics.Proofs.Datum.Readers
import CanaryMetrics.Proofs.Datum.Slots

namespace CanaryMetrics.Datum

/-!
# The member at which a record fails

The members of a record are read in document order, so of several members that cannot be read the first
one decides on the error.

* `NoString`, `NoStrings`, `NoStringMap` — why a datum is not read as a value of a type.
* `Offends` — why a member is not read, given the members before it.
* `FirstOffence`, `Inoffensive` — the first such member, and that there is none.
* `readMembers_eq_error_iff_firstOffence` — a record fails with the error of its first such member.
* `readMembers_filter_isKnown` — members of unknown names make no difference.
-/

/-! ### Single values -/

/-- A datum that is no string. -/
inductive NoString : Datum → ReadError → Prop
  | type {d : Datum} (h : ∀ s, d ≠ string s) : NoString d (d.mismatch .string)

/-- A datum that is no sequence of strings; the first item that is no string decides. -/
inductive NoStrings : Datum → ReadError → Prop
  | type {d : Datum} (h : ∀ items, d ≠ sequence items) : NoStrings d (d.mismatch .sequence)
  | item {before after : List Datum} {d : Datum} {e : ReadError} (hbefore : ∀ b ∈ before, ∃ s, b = string s)
    (h : NoString d e) : NoStrings (sequence (before ++ d :: after)) e

/-- A datum that is no map of strings; the first member that has no key or no string decides. -/
inductive NoStringMap : Datum → ReadError → Prop
  | type {d : Datum} (h : ∀ members, d ≠ map members) : NoStringMap d (d.mismatch .map)
  | key {before after : List (Option String × Datum)} {d : Datum}
    (hbefore : ∀ m ∈ before, ∃ key s, m = (some key, string s)) :
    NoStringMap (map (before ++ (none, d) :: after)) .malformed
  | member {before after : List (Option String × Datum)} {key : String} {d : Datum} {e : ReadError}
    (hbefore : ∀ m ∈ before, ∃ key s, m = (some key, string s)) (h : NoString d e) :
    NoStringMap (map (before ++ (some key, d) :: after)) e

theorem readString_eq_ok_iff {d : Datum} {s : String} : d.readString = .ok s ↔ d = string s := by
  cases d <;> simp [readString]

theorem readString_eq_error_iff {d : Datum} {e : ReadError} : d.readString = .error e ↔ NoString d e := by
  constructor
  · intro h
    cases d with
    | string s => cases h
    | _ =>
      cases h
      exact .type fun s hs => by cases hs
  · rintro ⟨h⟩
    cases d with
    | string s => exact absurd rfl (h s)
    | _ => rfl

theorem readStrings_eq_error_iff {d : Datum} {e : ReadError} :
    d.readStrings = .error e ↔ NoStrings d e := by
  constructor
  · intro h
    cases d with
    | sequence items =>
      -- reading stops at the first item that is no string, and the error is that item's
      obtain ⟨before, item, after, rfl, hbefore, hitem⟩ := mapM_eq_error_iff.1 h
      simp only [readString_eq_ok_iff] at hbefore
      exact .item hbefore (readString_eq_error_iff.1 hitem)
    | _ =>
      cases h
      exact .type fun items hitems => by cases hitems
  · intro h
    cases h with
    | type h =>
      cases d with
      | sequence items => exact absurd rfl (h items)
      | _ => rfl
    | item hbefore h =>
      refine mapM_eq_error_iff.2 ⟨_, _, _, rfl, ?_, readString_eq_error_iff.2 h⟩
      simpa only [readString_eq_ok_iff] using hbefore

/-- A member of a map of strings has a key and a string. -/
theorem exists_readPair_eq_ok_iff {m : Option String × Datum} :
    (∃ pair, readPair m = .ok pair) ↔ ∃ key s, m = (some key, string s) := by
  obtain ⟨key?, d⟩ := m
  constructor
  · rintro ⟨pair, h⟩
    obtain ⟨key, hkey, h⟩ := bind_eq_ok_iff.1 h
    obtain ⟨s, hs, -⟩ := bind_eq_ok_iff.1 h
    cases key? with
    | none => cases hkey
    | some key => exact ⟨key, s, congrArg (some key, ·) (readString_eq_ok_iff.1 hs)⟩
  · rintro ⟨key, s, h⟩
    cases h
    exact ⟨(key, s), rfl⟩

theorem readStringMap_eq_error_iff {d : Datum} {e : ReadError} :
    d.readStringMap = .error e ↔ NoStringMap d e := by
  constructor
  · intro h
    cases d with
    | map members =>
      -- reading stops at the first member without a key or with something else than a string
      obtain ⟨before, m, after, rfl, hbefore, hm⟩ := mapM_eq_error_iff.1 (map_eq_error_iff.1 h)
      simp only [exists_readPair_eq_ok_iff] at hbefore
      obtain ⟨key?, d⟩ := m
      cases key? with
      | none =>
        cases hm
        exact .key hbefore
      | some key => exact .member hbefore (readString_eq_error_iff.1 (bind_pure_eq_error_iff.1 hm))
    | _ =>
      cases h
      exact .type fun members hmembers => by cases hmembers
  · intro h
    cases h with
    | type h =>
      cases d with
      | map members => exact absurd rfl (h members)
      | _ => rfl
    | key hbefore =>
      refine map_eq_error_iff.2 (mapM_eq_error_iff.2 ⟨_, _, _, rfl, ?_, rfl⟩)
      simpa only [exists_readPair_eq_ok_iff] using hbefore
    | member hbefore h =>
      refine map_eq_error_iff.2 (mapM_eq_error_iff.2 ⟨_, _, _, rfl, ?_,
        bind_pure_eq_error_iff.2 (readString_eq_error_iff.2 h)⟩)
      simpa only [exists_readPair_eq_ok_iff] using hbefore

/-- Where there is no value, there is nothing that could not be read. -/
theorem readOptional_eq_error_iff {α : Type} {read : Datum → Except ReadError α} {d : Datum}
    {e : ReadError} : d.readOptional read = .error e ↔ d ≠ null ∧ read d = .error e := by
  cases d <;> simp [readOptional, map_eq_error_iff]

/-! ### Members of a record -/

section

variable {φ δ : Type} [DecidableEq φ] (field? : String → Option φ) (name : φ → String)
  (refused : φ → Datum → ReadError → Prop)

/-- A member that is not read, given the members before it: its key stands for no text, or its field has
    been named before, or what it holds is refused. -/
inductive Offends (before : List (Option String × Datum)) : Option String × Datum → ReadError → Prop
  | key (d : Datum) : Offends before (none, d) .malformed
  | again {key : String} {field : φ} (d : Datum) (hkey : field? key = some field)
    (hbefore : named field? field before ≠ []) :
    Offends before (some key, d) (.shape (.duplicateField (name field)))
  | refused {key : String} {field : φ} {d : Datum} {e : ReadError} (hkey : field? key = some field)
    (hbefore : named field? field before = []) (hd : refused field d e) : Offends before (some key, d) e

/-- Each member is read. -/
def Inoffensive (members : List (Option String × Datum)) : Prop :=
  ∀ before m after e, members = before ++ m :: after → ¬ Offends field? name refused before m e

/-- The first member that is not read. -/
def FirstOffence (members : List (Option String × Datum)) (e : ReadError) : Prop :=
  ∃ before m after, members = before ++ m :: after ∧ Inoffensive field? name refused before ∧
    Offends field? name refused before m e

/-- How a draft takes in members: each field has a slot, which is filled once.  The first member of a
    field is read unless it is refused, and a second one is not read. -/
structure FillsSlots (read : δ → φ → Datum → Except ReadError δ) (taken : φ → δ → Prop) : Prop where
  /-- When a member is not read. -/
  eq_error_iff : ∀ {draft field d e}, read draft field d = .error e ↔
    taken field draft ∧ e = .shape (.duplicateField (name field)) ∨ ¬ taken field draft ∧ refused field d e
  /-- A member that is read fills the slot of its field. -/
  taken_iff : ∀ {draft field d draft'}, read draft field d = .ok draft' →
    ∀ other, taken other draft' ↔ other = field ∨ taken other draft

end

variable {φ δ : Type} {field? : String → Option φ} {read : δ → φ → Datum → Except ReadError δ}
  {members : List (Option String × Datum)} {draft draft' : δ} {e : ReadError}

/-- The first member is read by itself, and then the others. -/
theorem readMembers_cons_eq_bind (m : Option String × Datum) (members : List (Option String × Datum)) :
    readMembers field? read draft (m :: members)
      = readMembers field? read draft [m] >>= fun draft => readMembers field? read draft members :=
  readMembers_append draft [m] members

theorem readMembers_singleton_none (d : Datum) :
    readMembers field? read draft [(none, d)] = .error .malformed := rfl

theorem readMembers_singleton {key : String} {field : φ} (h : field? key = some field) (d : Datum) :
    readMembers field? read draft [(some key, d)] = read draft field d := by
  rw [readMembers_cons h]
  cases read draft field d <;> rfl

/-- A record fails at the first member that is not read. -/
theorem readMembers_eq_error_iff :
    readMembers field? read draft members = .error e ↔
      ∃ before m after draft', members = before ++ m :: after ∧
        readMembers field? read draft before = .ok draft' ∧
        readMembers field? read draft' [m] = .error e := by
  constructor
  · intro h
    -- the first member fails, or a later one on the draft that the first one leaves
    induction members generalizing draft with
    | nil => cases h
    | cons m members ih =>
      rw [readMembers_cons_eq_bind] at h
      cases hm : readMembers field? read draft [m] with
      | error e' =>
        rw [hm] at h
        cases h
        exact ⟨[], m, members, draft, rfl, rfl, hm⟩
      | ok next =>
        rw [hm, ok_bind] at h
        obtain ⟨before, m', after, draft', rfl, hbefore, hm'⟩ := ih h
        refine ⟨m :: before, m', after, draft', rfl, ?_, hm'⟩
        rw [readMembers_cons_eq_bind, hm, ok_bind, hbefore]
  · rintro ⟨before, m, after, draft', rfl, hbefore, hm⟩
    rw [readMembers_append, hbefore, ok_bind, readMembers_cons_eq_bind, hm]
    rfl

section

variable [DecidableEq φ] {name : φ → String} {refused : φ → Datum → ReadError → Prop}
  {taken : φ → δ → Prop}

/-- The slots that are taken in the end are those of the fields that are named. -/
theorem FillsSlots.taken_iff_of_readMembers (hread : FillsSlots name refused read taken)
    (h : readMembers field? read draft members = .ok draft') (field : φ) :
    taken field draft' ↔ named field? field members ≠ [] ∨ taken field draft := by
  induction members generalizing draft with
  | nil =>
    cases h
    simp [named]
  | cons m members ih =>
    obtain ⟨key?, d⟩ := m
    cases key? with
    | none => cases h
    | some key =>
      cases hkey : field? key with
      | none =>
        -- an unknown member is passed over
        have hrest : readMembers field? read draft members = .ok draft' := by
          rw [← h, readMembers_cons_eq_bind,
            readMembers_of_unknown (List.forall_mem_singleton.2 ⟨key, rfl, hkey⟩), ok_bind]
        rw [ih hrest, named_cons_of_ne (by simp [hkey])]
      | some own =>
        rw [readMembers_cons hkey] at h
        obtain ⟨next, hnext, hrest⟩ := bind_eq_ok_iff.1 h
        rw [ih hrest, hread.taken_iff hnext]
        by_cases hfield : field = own
        · subst hfield
          rw [named_cons_of_eq hkey]
          simp
        · rw [named_cons_of_ne (by simpa [hkey] using Ne.symm hfield)]
          simp [hfield]

/-- A member is not read exactly when it offends. -/
theorem FillsSlots.readMembers_singleton_eq_error_iff (hread : FillsSlots name refused read taken)
    (hfree : ∀ field, ¬ taken field draft) {before : List (Option String × Datum)}
    (h : readMembers field? read draft before = .ok draft') (m : Option String × Datum) :
    readMembers field? read draft' [m] = .error e ↔ Offends field? name refused before m e := by
  -- a slot is taken exactly when a member before has named its field
  have htaken : ∀ field, taken field draft' ↔ named field? field before ≠ [] := by
    intro field
    rw [hread.taken_iff_of_readMembers h, or_iff_left (hfree field)]
  obtain ⟨key?, d⟩ := m
  cases key? with
  | none =>
    rw [readMembers_singleton_none]
    constructor
    · intro he
      cases he
      exact .key d
    · rintro ⟨⟩
      rfl
  | some key =>
    cases hkey : field? key with
    | none =>
      -- an unknown member neither fails nor offends
      have hknown : ∀ field, field? key ≠ some field := fun field => by simp [hkey]
      rw [readMembers_of_unknown (List.forall_mem_singleton.2 ⟨key, rfl, hkey⟩)]
      constructor
      · intro he
        cases he
      · rintro (_ | ⟨-, hfield, -⟩ | ⟨hfield, -, -⟩) <;> exact absurd hfield (hknown _)
    | some field =>
      rw [readMembers_singleton hkey, hread.eq_error_iff, htaken, Decidable.not_not]
      constructor
      · rintro (⟨hbefore, rfl⟩ | ⟨hbefore, hd⟩)
        · exact .again d hkey hbefore
        · exact .refused hkey hbefore hd
      · rintro (_ | ⟨-, hfield, hbefore⟩ | ⟨hfield, hbefore, hd⟩) <;> cases hkey.symm.trans hfield
        · exact .inl ⟨hbefore, rfl⟩
        · exact .inr ⟨hbefore, hd⟩

/-- What has been read does not offend, since it would have failed there. -/
theorem FillsSlots.inoffensive_of_readMembers (hread : FillsSlots name refused read taken)
    (hfree : ∀ field, ¬ taken field draft) (h : readMembers field? read draft members = .ok draft') :
    Inoffensive field? name refused members := by
  rintro before m after e rfl hm
  obtain ⟨next, hbefore, hrest⟩ := bind_eq_ok_iff.1 ((readMembers_append _ _ _).symm.trans h)
  have herror := (hread.readMembers_singleton_eq_error_iff hfree hbefore m).2 hm
  rw [readMembers_cons_eq_bind, herror] at hrest
  cases hrest

/-- **The first member that is not read decides.**  Reading a record into a draft whose slots are free
    fails exactly with the error of the first member that is not read. -/
theorem FillsSlots.readMembers_eq_error_iff_firstOffence (hread : FillsSlots name refused read taken)
    (hfree : ∀ field, ¬ taken field draft) :
    readMembers field? read draft members = .error e ↔ FirstOffence field? name refused members e := by
  rw [readMembers_eq_error_iff]
  constructor
  · rintro ⟨before, m, after, draft', rfl, hbefore, hm⟩
    exact ⟨before, m, after, rfl, hread.inoffensive_of_readMembers hfree hbefore,
      (hread.readMembers_singleton_eq_error_iff hfree hbefore m).1 hm⟩
  · rintro ⟨before, m, after, rfl, hbefore, hm⟩
    cases hfirst : readMembers field? read draft before with
    | ok draft' =>
      exact ⟨before, m, after, draft', rfl, hfirst,
        (hread.readMembers_singleton_eq_error_iff hfree hfirst m).2 hm⟩
    | error e' =>
      -- a member before it would offend
      obtain ⟨first, m', between, next, rfl, hnext, hm'⟩ := readMembers_eq_error_iff.1 hfirst
      exact absurd ((hread.readMembers_singleton_eq_error_iff hfree hnext m').1 hm')
        (hbefore first m' between e' rfl)

/-- So a record is read exactly when all of its members are. -/
theorem FillsSlots.exists_readMembers_eq_ok_iff (hread : FillsSlots name refused read taken)
    (hfree : ∀ field, ¬ taken field draft) :
    (∃ draft', readMembers field? read draft members = .ok draft') ↔
      Inoffensive field? name refused members := by
  constructor
  · rintro ⟨draft', h⟩
    exact hread.inoffensive_of_readMembers hfree h
  · intro h
    cases hmembers : readMembers field? read draft members with
    | ok draft' => exact ⟨draft', rfl⟩
    | error e =>
      obtain ⟨before, m, after, rfl, -, hm⟩ :=
        (hread.readMembers_eq_error_iff_firstOffence hfree).1 hmembers
      exact absurd hm (h before m after e rfl)

end

/-! ### Members of unknown names -/

/-- A member that is not passed over: its key names a field, or stands for no text. -/
def isKnown (field? : String → Option φ) (m : Option String × Datum) : Bool :=
  m.1.all fun key => (field? key).isSome

/-- Without the members of unknown names a record is read as with them. -/
theorem readMembers_filter_isKnown :
    readMembers field? read draft (members.filter (isKnown field?))
      = readMembers field? read draft members := by
  induction members generalizing draft with
  | nil => rfl
  | cons m members ih =>
    -- a member without a key counts as known, because it is refused
    by_cases hm : isKnown field? m = true
    · rw [List.filter_cons_of_pos hm, readMembers_cons_eq_bind, readMembers_cons_eq_bind m members]
      simp only [ih]
    · obtain ⟨key?, d⟩ := m
      cases key? with
      | none => exact absurd rfl hm
      | some key =>
        have hkey : field? key = none := by simpa [isKnown] using hm
        rw [List.filter_cons_of_neg hm, readMembers_cons_eq_bind,
          readMembers_of_unknown (List.forall_mem_singleton.2 ⟨key, rfl, hkey⟩), ok_bind, ih]

end CanaryMetrics.Datum
