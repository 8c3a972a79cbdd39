namespace CanaryMetrics.Text

/-!
# Texts joined from parts

* `intercalate_cons`, `toList_intercalate_cons` — joining appends separator and item for each item
  after the first.
* `append_inj_of_stop` — a class of characters that occurs in neither of two beginnings, but follows
  both, shows where they end.
* `toList_intercalate_append_inj` — so items joined with commas can be told from the text, when they
  hold no character of a class to which the comma and whatever follows the last item belong.
-/

/-- Joining a list with a separator appends separator and item for each item after the first. -/
theorem intercalate_cons (sep t : String) (items : List String) :
    sep.intercalate (t :: items) = items.foldl (fun text item => text ++ sep ++ item) t := by
  induction items generalizing t with
  | nil => exact String.intercalate_singleton
  | cons u items ih =>
    have hjoin : sep.intercalate (t :: u :: items)
        = sep.intercalate ((t ++ sep ++ u) :: items) := by
      rw [String.intercalate_cons_cons, String.intercalate_cons_append]
    rw [hjoin, ih, List.foldl_cons]

/-- The characters of a joined list. -/
theorem toList_intercalate_cons (sep t : String) (items : List String) :
    (sep.intercalate (t :: items)).toList
      = t.toList ++ items.flatMap fun item => sep.toList ++ item.toList := by
  induction items generalizing t with
  | nil => simp
  | cons u items ih =>
    rw [String.intercalate_cons_cons, String.toList_append, String.toList_append, ih,
      List.flatMap_cons, List.append_assoc, List.append_assoc]

/-! ### Where a part ends -/

variable {p : Char → Bool} {us vs : List Char}

/-- What follows a part shows that the part is over: nothing, or a character of the class `p`. -/
def Stops (p : Char → Bool) (us : List Char) : Prop :=
  ∀ c ∈ us.head?, p c = true

@[simp] theorem stops_nil : Stops p [] := by
  intro c hc; cases hc

@[simp] theorem stops_cons {c : Char} : Stops p (c :: us) ↔ p c = true := by
  simp [Stops]

/-- Two beginnings without a character of the class end at the same place when such a character
    follows both of them. -/
theorem append_inj_of_stop {xs ys : List Char} (hx : ∀ c ∈ xs, p c = false)
    (hy : ∀ c ∈ ys, p c = false) (hu : Stops p us) (hv : Stops p vs) (h : xs ++ us = ys ++ vs) :
    xs = ys ∧ us = vs := by
  induction xs generalizing ys with
  | nil =>
    cases ys with
    | nil => exact ⟨rfl, h⟩
    | cons y ys =>
      rw [List.nil_append, List.cons_append] at h
      -- one run has ended where the other goes on, with a character that would have stopped it
      have hstop : p y = true := stops_cons.1 (h ▸ hu)
      rw [hy y List.mem_cons_self] at hstop
      cases hstop
  | cons x xs ih =>
    cases ys with
    | nil =>
      rw [List.nil_append, List.cons_append] at h
      have hstop : p x = true := stops_cons.1 (h.symm ▸ hv)
      rw [hx x List.mem_cons_self] at hstop
      cases hstop
    | cons y ys =>
      obtain ⟨rfl, hrest⟩ := List.cons.inj h
      obtain ⟨rfl, rfl⟩ := ih (fun c hc => hx c (List.mem_cons_of_mem _ hc))
        (fun c hc => hy c (List.mem_cons_of_mem _ hc)) hrest
      exact ⟨rfl, rfl⟩

/-- Two beginnings end at the first occurrence of a character that neither of them holds. -/
theorem append_cons_inj {c : Char} {xs ys : List Char} (hx : c ∉ xs) (hy : c ∉ ys)
    (h : xs ++ c :: us = ys ++ c :: vs) : xs = ys ∧ us = vs := by
  have habsent : ∀ {zs : List Char}, c ∉ zs → ∀ d ∈ zs, (d == c) = false := by
    intro zs hz d hd
    exact beq_eq_false_iff_ne.2 fun heq => hz (heq ▸ hd)
  obtain ⟨rfl, hrest⟩ := append_inj_of_stop (p := (· == c)) (habsent hx) (habsent hy)
    (stops_cons.2 (beq_self_eq_true c)) (stops_cons.2 (beq_self_eq_true c)) h
  exact ⟨rfl, (List.cons.inj hrest).2⟩

/-! ### Items separated by commas -/

/-- Items, each of them after a comma and a space. -/
def commaItems (items : List String) : List Char :=
  items.flatMap fun item => ", ".toList ++ item.toList

/-- Items after the first one can be told from the text when nothing that follows them looks like
    another item. -/
theorem commaItems_append_inj {xs ys : List String} (hp : p ',' = true)
    (hx : ∀ x ∈ xs, ∀ c ∈ x.toList, p c = false) (hy : ∀ y ∈ ys, ∀ c ∈ y.toList, p c = false)
    (hu : Stops (fun c => p c && c != ',') us) (hv : Stops (fun c => p c && c != ',') vs)
    (h : commaItems xs ++ us = commaItems ys ++ vs) : xs = ys ∧ us = vs := by
  -- an item ends at the comma of the next one, or where the text goes on after the last
  have hstops : ∀ {ws : List Char} (items : List String), Stops (fun c => p c && c != ',') ws →
      Stops p (commaItems items ++ ws) := by
    intro ws items hw
    cases items with
    | nil => exact fun c hc => (Bool.and_eq_true_iff.1 (hw c hc)).1
    | cons item items => exact stops_cons.2 hp
  induction xs generalizing ys with
  | nil =>
    cases ys with
    | nil => exact ⟨rfl, h⟩
    | cons y ys =>
      have hcomma : us = ',' :: (' ' :: y.toList ++ (commaItems ys ++ vs)) := by
        simpa [commaItems] using h
      rw [hcomma] at hu
      simp at hu
  | cons x xs ih =>
    cases ys with
    | nil =>
      have hcomma : vs = ',' :: (' ' :: x.toList ++ (commaItems xs ++ us)) := by
        simpa [commaItems] using h.symm
      rw [hcomma] at hv
      simp at hv
    | cons y ys =>
      have hitems : x.toList ++ (commaItems xs ++ us) = y.toList ++ (commaItems ys ++ vs) := by
        simpa [commaItems] using h
      obtain ⟨hhead, htail⟩ := append_inj_of_stop (hx x List.mem_cons_self)
        (hy y List.mem_cons_self) (hstops xs hu) (hstops ys hv) hitems
      obtain ⟨rfl, rfl⟩ := ih (fun z hz => hx z (List.mem_cons_of_mem _ hz))
        (fun z hz => hy z (List.mem_cons_of_mem _ hz)) htail
      exact ⟨by rw [String.toList_inj.1 hhead], rfl⟩

/-- **Joined items can be told from the text.**  They must hold no character of a class to which the
    comma belongs, and the text must go on with a character of that class other than a comma. -/
theorem toList_intercalate_append_inj {xs ys : List String} (hxs : xs ≠ []) (hys : ys ≠ [])
    (hp : p ',' = true) (hx : ∀ x ∈ xs, ∀ c ∈ x.toList, p c = false)
    (hy : ∀ y ∈ ys, ∀ c ∈ y.toList, p c = false)
    (hu : Stops (fun c => p c && c != ',') us) (hv : Stops (fun c => p c && c != ',') vs)
    (h : (", ".intercalate xs).toList ++ us = (", ".intercalate ys).toList ++ vs) :
    xs = ys ∧ us = vs := by
  cases xs with
  | nil => exact absurd rfl hxs
  | cons x xs =>
    cases ys with
    | nil => exact absurd rfl hys
    | cons y ys =>
      -- a comma and a space in front make all items alike
      rw [toList_intercalate_cons, toList_intercalate_cons] at h
      refine commaItems_append_inj hp hx hy hu hv ?_
      rw [commaItems, commaItems, List.flatMap_cons, List.flatMap_cons]
      simpa only [List.append_assoc, List.append_cancel_left_eq] using h

end CanaryMetrics.Text
