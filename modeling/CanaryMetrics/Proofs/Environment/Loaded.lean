import CanaryMetrics.Environment.File

namespace CanaryMetrics.Environment

/-!
# What an environment file does to an environment

The assignments of a file are added to an environment one after the other.

* `IsName`, `isName_of_mem_assignments` — the names that a file assigns to; no equals sign is in them.
* `get?_of_assign?_of_ne`, `get?_of_load?_of_ne` — assignments say nothing about another name.
* `get?_of_load?_of_first` — of the assignments to a name that has no value the first one counts; a name
  that has a value keeps it (`get?_of_load?`).
-/

/-! ### Names -/

/-- A name that holds something, but no equals sign. -/
def IsName (name : String) : Prop :=
  name ≠ "" ∧ '=' ∉ name.toList

instance (name : String) : Decidable (IsName name) :=
  inferInstanceAs (Decidable (_ ∧ _))

/-- What is split off as a name is one. -/
theorem isName_of_splitName? {cs name rest : List Char}
    (h : Assignment.splitName? cs = some (name, rest)) : IsName (String.ofList name) := by
  cases cs with
  | nil => cases h
  | cons c cs =>
    rw [Assignment.splitName?] at h
    split at h
    · rename_i hstart
      cases h
      -- neither the first character nor one of those that go on the name is an equals sign
      have hc : c ≠ '=' := fun heq => by simp [heq, Assignment.isNameStart] at hstart
      have hcs : '=' ∉ cs.takeWhile Assignment.isNamePart := fun hmem => by
        have hpart := List.all_eq_true.1 List.all_takeWhile _ hmem
        simp [Assignment.isNamePart] at hpart
      refine ⟨by simp, ?_⟩
      rw [String.toList_ofList, List.mem_cons, not_or]
      exact ⟨hc.symm, hcs⟩
    · cases h

/-- A line assigns to a name, whether or not a word stands in front of it. -/
theorem isName_of_split? {cs name value : List Char} (h : Assignment.split? cs = some (name, value)) :
    IsName (String.ofList name) := by
  simp only [Assignment.split?, Option.bind_eq_bind, Option.bind_eq_some_iff] at h
  obtain ⟨⟨first, rest⟩, hfirst, h⟩ := h
  simp only at h
  -- the sign follows the first name, or a second one behind `export`
  split at h
  · cases h
    exact isName_of_splitName? hfirst
  · split at h
    · simp only [Option.bind_eq_some_iff] at h
      obtain ⟨⟨second, rest'⟩, hsecond, value', -, h⟩ := h
      cases h
      exact isName_of_splitName? hsecond
    · cases h

/-- The assignment of a line is one to a name. -/
theorem isName_of_ofLine? {line : List Char} {a : Assignment} (h : Assignment.ofLine? line = some (some a)) :
    IsName a.name := by
  simp only [Assignment.ofLine?] at h
  split at h
  · cases h
  · simp only [Option.map_eq_map, Option.map_eq_some_iff] at h
    obtain ⟨b, hread, hb⟩ := h
    cases hb
    simp only [Assignment.read?, Option.bind_eq_bind, Option.bind_eq_some_iff] at hread
    obtain ⟨⟨name, value⟩, hsplit, hread⟩ := hread
    -- the name is what was split off, whether anything is assigned or nothing
    have hname : a.name = String.ofList name := by
      split at hread
      · cases hread
        rfl
      · obtain ⟨template, -, ha⟩ := Option.bind_eq_some_iff.1 hread
        cases ha
        rfl
    exact hname ▸ isName_of_split? hsplit

/-- A file assigns to names only. -/
theorem isName_of_mem_assignments {content : List UInt8} :
    ∀ a ∈ assignments content, IsName a.name := by
  unfold assignments
  generalize joinLines [] .nothing (textLines (rawLines (dropByteOrderMark content))) = lines
  -- by induction on the lines, up to the first one that is not well formed
  induction lines with
  | nil => exact fun a ha => absurd ha List.not_mem_nil
  | cons line lines ih =>
    rw [assignmentsOfLines]
    split
    · exact fun a ha => absurd ha List.not_mem_nil
    · rename_i a? hline
      intro a ha
      rcases List.mem_append.1 ha with ha | ha
      · rw [Option.mem_toList] at ha
        exact isName_of_ofLine? (hline.trans (congrArg some ha))
      · exact ih a ha

/-! ### Values -/

variable {env env' : Environment} {a : Assignment} {as before after : List Assignment} {name : String}

/-- An assignment to one name says nothing about another one. -/
theorem get?_of_assign?_of_ne (h : env.assign? a = some env') (ha : IsName a.name) (hname : IsName name)
    (hne : a.name ≠ name) : env'.get? name = env.get? name := by
  simp only [assign?] at h
  split at h
  · cases h
    rfl
  · split at h
    · cases h
    · cases h
      rw [get?_define, valueIn?_of_not_mem hname.2 ha.2, if_neg fun heq => hne heq.2.symm, Option.or_none]

/-- An assignment gives a name without a value the value that is written, with the variables put in. -/
theorem get?_of_assign?_self (h : env.assign? a = some env') (ha : IsName a.name)
    (hnone : env.get? a.name = none) : env'.get? a.name = some (a.value.expand env) := by
  simp only [assign?, hnone, Option.isSome_none, Bool.false_eq_true, if_false] at h
  split at h
  · cases h
  · cases h
    rw [get?_define, hnone, Option.none_or, valueIn?_of_not_mem ha.2 ha.2, if_pos ⟨ha.1, rfl⟩]

/-- Assignments to other names say nothing about a name. -/
theorem get?_of_load?_of_ne (h : env.load? as = some env') (has : ∀ a ∈ as, IsName a.name)
    (hname : IsName name) (hne : ∀ a ∈ as, a.name ≠ name) : env'.get? name = env.get? name := by
  induction as generalizing env with
  | nil =>
    cases h
    rfl
  | cons a as ih =>
    simp only [load?, List.foldlM_cons, bind, Option.bind_eq_some_iff] at h
    obtain ⟨next, hnext, h⟩ := h
    rw [List.forall_mem_cons] at has hne
    exact (ih h has.2 hne.2).trans (get?_of_assign?_of_ne hnext has.1 hname hne.1)

/-- Of the assignments to a name that has no value the first one counts; its value may mention what is
    assigned before. -/
theorem get?_of_load?_of_first (h : env.load? (before ++ a :: after) = some env')
    (has : ∀ b ∈ before ++ a :: after, IsName b.name) (hfirst : ∀ b ∈ before, b.name ≠ a.name)
    (hnone : env.get? a.name = none) :
    ∃ env₁, env.load? before = some env₁ ∧ env'.get? a.name = some (a.value.expand env₁) := by
  rw [List.forall_mem_append, List.forall_mem_cons] at has
  obtain ⟨hbefore, ha, -⟩ := has
  simp only [load?, List.foldlM_append, List.foldlM_cons, bind, Option.bind_eq_some_iff] at h
  obtain ⟨env₁, hload, env₂, hassign, hrest⟩ := h
  have hnone₁ : env₁.get? a.name = none := (get?_of_load?_of_ne hload hbefore ha hfirst).trans hnone
  -- what is assigned afterwards finds a value there
  exact ⟨env₁, hload, get?_of_load? hrest (get?_of_assign?_self hassign ha hnone₁)⟩

end CanaryMetrics.Environment
