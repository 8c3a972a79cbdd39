namespace CanaryMetrics

/-!
# Results that may be errors

Readers are chains of steps each of which may fail.  A chain is taken apart here once.

* `ok_bind`, `map_ok`, `map_error` — what a first step that is known leaves of the chain.
* `mapError_ok`, `mapError_error` — a change of errors changes errors only.
* `bind_eq_ok_iff` — a chain succeeds exactly when its first step does and the rest of it after that.
* `map_eq_ok_iff` — what is made from a result is one when there is a result.
* `bind_eq_error_iff` — it fails exactly when one of the two does.
* `bind_pure_eq_error_iff`, `map_eq_error_iff` — what is only made from a result does not fail.
* `mapM_eq_error_iff` — of several steps of one kind the first that fails decides.
* `mapM_eq_ok_iff_eq_map` — steps each of which undoes `g` all succeed on what `g` makes, and there only.
-/

variable {ε : Type u} {α β : Type v}

@[simp] theorem ok_bind (a : α) (f : α → Except ε β) : (Except.ok a >>= f) = f a := rfl

@[simp] theorem map_ok (a : α) (f : α → β) : f <$> (Except.ok a : Except ε α) = .ok (f a) := rfl

@[simp] theorem map_error (e : ε) (f : α → β) : f <$> (Except.error e : Except ε α) = .error e := rfl

@[simp] theorem mapError_ok {ε' : Type w} (a : α) (f : ε → ε') :
    (Except.ok a : Except ε α).mapError f = .ok a := rfl

@[simp] theorem mapError_error {ε' : Type w} (e : ε) (f : ε → ε') :
    (Except.error e : Except ε α).mapError f = .error (f e) := rfl

/-- A chain succeeds exactly when its first step does and the rest of it after that. -/
theorem bind_eq_ok_iff {x : Except ε α} {f : α → Except ε β} {b : β} :
    (x >>= f) = .ok b ↔ ∃ a, x = .ok a ∧ f a = .ok b := by
  constructor
  · intro h
    cases x with
    | error e => cases h
    | ok a => exact ⟨a, rfl, h⟩
  · rintro ⟨a, rfl, h⟩
    exact h

/-- What is made from a result is one exactly when there is a result to make it from. -/
theorem map_eq_ok_iff {x : Except ε α} {f : α → β} {b : β} :
    f <$> x = .ok b ↔ ∃ a, x = .ok a ∧ f a = b := by
  cases x <;> simp

/-- A chain fails exactly when its first step does, or the rest of it after that. -/
theorem bind_eq_error_iff {x : Except ε α} {f : α → Except ε β} {e : ε} :
    (x >>= f) = .error e ↔ x = .error e ∨ ∃ a, x = .ok a ∧ f a = .error e := by
  cases x with
  | error e' =>
    show Except.error e' = Except.error e ↔ _
    simp
  | ok a => simp

theorem exists_bind_eq_error_iff {x : Except ε α} {f : α → Except ε β} :
    (∃ e, (x >>= f) = .error e) ↔ (∃ e, x = .error e) ∨ ∃ a, x = .ok a ∧ ∃ e, f a = .error e := by
  simp only [bind_eq_error_iff, exists_or]
  refine or_congr Iff.rfl ?_
  rw [exists_comm]
  simp only [exists_and_left]

/-- What is only made from a result does not fail of its own. -/
theorem bind_pure_eq_error_iff {x : Except ε α} {f : α → β} {e : ε} :
    (x >>= fun a => pure (f a)) = .error e ↔ x = .error e := by
  cases x with
  | error e' => rw [Except.error.injEq]; exact ⟨Except.error.inj, congrArg Except.error⟩
  | ok a => exact ⟨fun he => (nomatch he), fun he => (nomatch he)⟩

theorem exists_bind_pure_eq_error_iff {x : Except ε α} {f : α → β} :
    (∃ e, (x >>= fun a => pure (f a)) = .error e) ↔ ∃ e, x = .error e :=
  exists_congr fun _ => bind_pure_eq_error_iff

theorem map_eq_error_iff {x : Except ε α} {f : α → β} {e : ε} : f <$> x = .error e ↔ x = .error e := by
  cases x <;> simp

/-- Of several steps of one kind the first that fails decides on the error. -/
theorem mapM_eq_error_iff {γ : Type w} {f : γ → Except ε β} {items : List γ} {e : ε} :
    items.mapM f = .error e ↔ ∃ before item after,
      items = before ++ item :: after ∧ (∀ i ∈ before, ∃ b, f i = .ok b) ∧ f item = .error e := by
  -- the first step is the one that fails, or it is one of those before
  induction items with
  | nil => exact ⟨fun h => (nomatch h), fun ⟨before, _, _, h, _⟩ => by cases before <;> cases h⟩
  | cons first items ih =>
    rw [List.mapM_cons]
    constructor
    · intro h
      cases hfirst : f first with
      | error e' =>
        rw [hfirst] at h
        cases h
        exact ⟨[], first, items, rfl, by simp, hfirst⟩
      | ok b =>
        rw [hfirst, ok_bind, bind_pure_eq_error_iff] at h
        obtain ⟨before, item, after, rfl, hbefore, hitem⟩ := ih.1 h
        exact ⟨first :: before, item, after, rfl, List.forall_mem_cons.2 ⟨⟨b, hfirst⟩, hbefore⟩, hitem⟩
    · rintro ⟨before, item, after, hitems, hbefore, hitem⟩
      cases before with
      | nil =>
        cases hitems
        rw [hitem]
        rfl
      | cons _ before =>
        cases hitems
        obtain ⟨⟨b, hfirst⟩, hbefore⟩ := List.forall_mem_cons.1 hbefore
        rw [hfirst, ok_bind, bind_pure_eq_error_iff]
        exact ih.2 ⟨before, item, after, rfl, hbefore, hitem⟩

/-- Steps that undo `g` succeed on the items that `g` makes, and on no others. -/
theorem mapM_eq_ok_iff_eq_map {γ : Type w} {f : γ → Except ε β} {g : β → γ}
    (h : ∀ c b, f c = .ok b ↔ c = g b) {items : List γ} {results : List β} :
    items.mapM f = .ok results ↔ items = results.map g := by
  induction items generalizing results with
  | nil => cases results <;> simp [pure, Except.pure]
  | cons c items ih =>
    rw [List.mapM_cons]
    simp only [bind_eq_ok_iff, h, ih]
    constructor
    · rintro ⟨b, rfl, rest, rfl, hresults⟩
      cases hresults
      rfl
    · intro heq
      cases results with
      | nil => cases heq
      | cons b results =>
        obtain ⟨rfl, rfl⟩ := List.cons.inj heq
        exact ⟨b, rfl, results, rfl, rfl⟩

/-- A change of errors does not make a result. -/
theorem mapError_eq_ok_iff {ε' : Type w} {x : Except ε α} {f : ε → ε'} {a : α} :
    x.mapError f = .ok a ↔ x = .ok a := by
  cases x <;> simp

/-- Nor does it take an error away. -/
theorem exists_mapError_eq_error_iff {ε' : Type w} {x : Except ε α} {f : ε → ε'} :
    (∃ e, x.mapError f = .error e) ↔ ∃ e, x = .error e := by
  cases x <;> simp

/-- What a result holds when it is no error. -/
theorem eq_ok_of_toOption {ε : Type u} {α : Type v} {x : Except ε α} {a : α}
    (h : x.toOption = some a) : x = .ok a := by
  cases x with
  | error e => cases h
  | ok b => exact congrArg Except.ok (Option.some.inj h)

end CanaryMetrics
