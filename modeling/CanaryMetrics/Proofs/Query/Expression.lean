import CanaryMetrics.Query.Build
import Mathlib.Logic.ExistsUnique

namespace CanaryMetrics.Filter

/-!
# Which expressions spell a filter

Reading an expression stops at its first colon and then looks for reasons to refuse.  Here that is
compared with the form `key:value` itself: one colon, and something on both of its sides.

* `ofExpression?_eq_some_iff` — an expression is read as a filter exactly when the filter can be
  spelled and the expression is its spelling.
* `ofParts?` — the same reading by cutting the expression at all of its colons at once;
  `ofParts?_eq_ofExpression?` says that the two ways agree.
* `not_malformed_iff` — the expressions that spell no filter, told by their colons.
* `ofExpression_eq_error_iff` — these are refused, and the refusal names them.
* `ofExpression_splits` — all that can be said of reading an expression.
-/

/-! ### Cutting at the first colon -/

/-- A character that ends the longest beginning without colons can only be a colon. -/
theorem eq_colon_of_dropWhile {cs rest : List Char} {c : Char}
    (h : cs.dropWhile (· ≠ ':') = c :: rest) : c = ':' := by
  have hhead := List.head?_dropWhile_not (fun d : Char => decide (d ≠ ':')) cs
  rw [h] at hhead
  simpa using hhead

/-- A text is its beginning without colons, the first colon and what follows that. -/
theorem eq_append_of_dropWhile {cs rest : List Char} {c : Char}
    (h : cs.dropWhile (· ≠ ':') = c :: rest) : cs = cs.takeWhile (· ≠ ':') ++ ':' :: rest := by
  have hsplit := List.takeWhile_append_dropWhile (p := fun d : Char => decide (d ≠ ':')) (l := cs)
  rw [h, eq_colon_of_dropWhile h] at hsplit
  exact hsplit.symm

/-- There is no colon before the first colon. -/
theorem colon_not_mem_takeWhile (cs : List Char) : ':' ∉ cs.takeWhile (· ≠ ':') := by
  intro hmem
  have hall := List.all_takeWhile (p := fun c : Char => decide (c ≠ ':')) (l := cs)
  have := List.all_eq_true.1 hall _ hmem
  simp at this

/-- The characters of the expression that spells a filter. -/
theorem toList_expression (f : Filter) :
    f.expression.toList = f.key.toList ++ ':' :: f.value.toList := by
  simp [expression]

/-- A filter that is read can be spelled, and the expression is its spelling. -/
theorem spellable_of_ofExpression? {e : String} {f : Filter} (h : ofExpression? e = some f) :
    f.Spellable ∧ f.expression = e := by
  unfold ofExpression? at h
  split at h
  · cases h
  · rename_i c value hdrop
    dsimp only at h
    split at h
    · cases h
    · rename_i hsides
      rw [not_or, not_or] at hsides
      obtain ⟨hkey, hvalue, hcolon⟩ := hsides
      cases h
      -- the key is what stands before the first colon, so that only the value could have one
      refine ⟨⟨?_, ?_, ?_, ?_⟩, ?_⟩
      · exact fun hempty => hkey (by simpa using hempty)
      · simpa using colon_not_mem_takeWhile e.toList
      · exact fun hempty => hvalue (by simpa using hempty)
      · simpa using hcolon
      · rw [← String.toList_inj, toList_expression]
        simpa using (eq_append_of_dropWhile hdrop).symm

/-- The spelling of a filter that can be spelled is read as that filter. -/
theorem ofExpression?_expression {f : Filter} (h : f.Spellable) :
    ofExpression? f.expression = some f := by
  obtain ⟨hkey, hkeyColon, hvalue, hvalueColon⟩ := h
  have hpos : ∀ c ∈ f.key.toList, decide (c ≠ ':') = true := by
    intro c hc
    exact decide_eq_true fun hcolon => hkeyColon (hcolon ▸ hc)
  -- the key has no colon, so the first one is that between key and value
  have htake : f.expression.toList.takeWhile (· ≠ ':') = f.key.toList := by
    rw [toList_expression, List.takeWhile_append_of_pos hpos]
    simp
  have hdrop : f.expression.toList.dropWhile (· ≠ ':') = ':' :: f.value.toList := by
    rw [toList_expression, List.dropWhile_append_of_pos hpos]
    simp
  have hsides : ¬ (f.key.toList = [] ∨ f.value.toList = [] ∨ ':' ∈ f.value.toList) := by
    rintro (hempty | hempty | hmem)
    · exact hkey (String.toList_eq_nil_iff.1 hempty)
    · exact hvalue (String.toList_eq_nil_iff.1 hempty)
    · exact hvalueColon hmem
  simp only [ofExpression?, htake, hdrop, if_neg hsides, String.ofList_toList]

/-- **The form `key:value`.**  An expression is read as a filter exactly when the filter can be
    spelled and the expression is its spelling. -/
theorem ofExpression?_eq_some_iff {e : String} {f : Filter} :
    ofExpression? e = some f ↔ f.Spellable ∧ f.expression = e := by
  constructor
  · exact spellable_of_ofExpression?
  · rintro ⟨hspell, rfl⟩
    exact ofExpression?_expression hspell

/-! ### Cutting at all colons -/

/-- The filter of an expression that has exactly two parts between its colons, both with something
    in them. -/
def ofParts? (expression : String) : Option Filter :=
  match expression.toList.splitOn ':' with
  | [key, value] =>
    if key = [] ∨ value = [] then none else some ⟨String.ofList key, String.ofList value⟩
  | _ => none

/-- A text that is cut into one part holds no colon. -/
theorem colon_not_mem_of_splitOn {cs : List Char} (h : (cs.splitOn ':').length = 1) : ':' ∉ cs := by
  intro hmem
  obtain ⟨before, after, rfl⟩ := List.append_of_mem hmem
  rw [List.splitOn_append_cons_self, List.length_append] at h
  have hbefore := List.length_pos_iff.2 (List.splitOn_ne_nil ':' before)
  have hafter := List.length_pos_iff.2 (List.splitOn_ne_nil ':' after)
  omega

/-- A text that is cut into two parts has one colon, which stands between them. -/
theorem eq_append_of_splitOn {cs key value : List Char} (h : cs.splitOn ':' = [key, value]) :
    cs = key ++ ':' :: value ∧ ':' ∉ key ∧ ':' ∉ value := by
  have hcs : cs = key ++ ':' :: value := by
    have hjoin : [':'].intercalate (cs.splitOn ':') = cs := List.intercalate_splitOn ':'
    rw [h] at hjoin
    simpa using hjoin.symm
  -- another colon would make for more than two parts
  have hlength : (key.splitOn ':').length + (value.splitOn ':').length = 2 := by
    rw [hcs, List.splitOn_append_cons_self] at h
    rw [← List.length_append, h]; rfl
  have hkey := List.length_pos_iff.2 (List.splitOn_ne_nil ':' key)
  have hvalue := List.length_pos_iff.2 (List.splitOn_ne_nil ':' value)
  exact ⟨hcs, colon_not_mem_of_splitOn (by omega), colon_not_mem_of_splitOn (by omega)⟩

/-- Two parts with something in them are what the form `key:value` asks for. -/
theorem ofParts?_eq_some_iff {e : String} {f : Filter} :
    ofParts? e = some f ↔ f.Spellable ∧ f.expression = e := by
  constructor
  · intro h
    unfold ofParts? at h
    split at h
    · rename_i key value hcut
      obtain ⟨he, hkeyColon, hvalueColon⟩ := eq_append_of_splitOn hcut
      split at h
      · cases h
      · rename_i hsides
        rw [not_or] at hsides
        cases h
        refine ⟨⟨?_, by simpa using hkeyColon, ?_, by simpa using hvalueColon⟩, ?_⟩
        · exact fun hempty => hsides.1 (by simpa using hempty)
        · exact fun hempty => hsides.2 (by simpa using hempty)
        · rw [← String.toList_inj, toList_expression, he]
          simp
    · cases h
  · rintro ⟨⟨hkey, hkeyColon, hvalue, hvalueColon⟩, rfl⟩
    -- neither side holds a colon, so the one between them is the only cut
    have hcut : f.expression.toList.splitOn ':' = [f.key.toList, f.value.toList] := by
      rw [toList_expression, List.splitOn_append_cons_self_of_not_mem hkeyColon,
        List.splitOn_eq_singleton hvalueColon]
    have hsides : ¬ (f.key.toList = [] ∨ f.value.toList = []) := by
      rintro (hempty | hempty)
      · exact hkey (String.toList_eq_nil_iff.1 hempty)
      · exact hvalue (String.toList_eq_nil_iff.1 hempty)
    simp only [ofParts?, hcut, if_neg hsides, String.ofList_toList]

/-- Cutting at the first colon and looking for more, and cutting at all colons, read the same
    filters. -/
theorem ofParts?_eq_ofExpression? (e : String) : ofParts? e = ofExpression? e := by
  apply Option.ext
  intro f
  rw [ofParts?_eq_some_iff, ofExpression?_eq_some_iff]

/-! ### Expressions that are refused -/

/-- The colon of an expression is missing or not the only one, or there is nothing on one of its sides. -/
def Malformed (e : String) : Prop :=
  e.toList.count ':' ≠ 1 ∨ e.toList.head? = some ':' ∨ e.toList.getLast? = some ':'

instance (e : String) : Decidable (Malformed e) :=
  inferInstanceAs (Decidable (_ ∨ _ ∨ _))

/-- A text with one colon is what stands before it, the colon, and what follows. -/
theorem exists_eq_append_of_count {cs : List Char} (h : cs.count ':' = 1) :
    ∃ key value, cs = key ++ ':' :: value ∧ ':' ∉ key ∧ ':' ∉ value := by
  have hmem : ':' ∈ cs := List.count_pos_iff.1 (by omega)
  obtain ⟨key, value, rfl⟩ := List.append_of_mem hmem
  rw [List.count_append, List.count_cons_self] at h
  exact ⟨key, value, rfl, List.count_eq_zero.1 (by omega), List.count_eq_zero.1 (by omega)⟩

/-- The spelling of a filter that can be spelled has one colon, which stands neither first nor last. -/
theorem not_malformed_expression {f : Filter} (h : f.Spellable) : ¬ Malformed f.expression := by
  obtain ⟨hkey, hkeyColon, hvalue, hvalueColon⟩ := h
  have hkeyNil : f.key.toList ≠ [] := fun hnil => hkey (String.toList_eq_nil_iff.1 hnil)
  have hvalueNil : f.value.toList ≠ [] := fun hnil => hvalue (String.toList_eq_nil_iff.1 hnil)
  -- the three ways to be malformed are ruled out one by one
  have hcount : f.expression.toList.count ':' = 1 := by
    rw [toList_expression, List.count_append, List.count_cons_self, List.count_eq_zero.2 hkeyColon,
      List.count_eq_zero.2 hvalueColon]
  have hfirst : f.expression.toList.head? = f.key.toList.head? := by
    rw [toList_expression, List.head?_append,
      Option.or_of_isSome (by simpa [List.isSome_head?] using hkeyNil)]
  have hlast : f.expression.toList.getLast? = f.value.toList.getLast? := by
    rw [toList_expression, List.getLast?_append, List.getLast?_cons_of_ne_nil hvalueNil,
      Option.or_of_isSome (by simpa [List.getLast?_isSome] using hvalueNil)]
  rw [Malformed, hfirst, hlast]
  rintro (hne | hcolon | hcolon)
  · exact hne hcount
  · exact hkeyColon (List.mem_of_head? hcolon)
  · exact hvalueColon (List.mem_of_getLast? hcolon)

/-- An expression spells a filter unless its colons tell otherwise. -/
theorem not_malformed_iff {e : String} :
    ¬ Malformed e ↔ ∃ f : Filter, f.Spellable ∧ f.expression = e := by
  constructor
  · intro h
    rw [Malformed, not_or, not_or, Decidable.not_not] at h
    obtain ⟨hcount, hfirst, hlast⟩ := h
    -- the only colon divides the text, and it is neither its first character nor its last
    obtain ⟨key, value, he, hkeyColon, hvalueColon⟩ := exists_eq_append_of_count hcount
    rw [he] at hfirst hlast
    refine ⟨⟨String.ofList key, String.ofList value⟩, ⟨?_, by simpa, ?_, by simpa⟩, ?_⟩
    · intro hempty
      obtain rfl : key = [] := by simpa using hempty
      exact hfirst rfl
    · intro hempty
      obtain rfl : value = [] := by simpa using hempty
      simp at hlast
    · rw [← String.toList_inj, toList_expression, he]
      simp
  · rintro ⟨f, hspell, rfl⟩
    exact not_malformed_expression hspell

theorem ofExpression_eq_ok_iff {e : String} {f : Filter} :
    ofExpression e = .ok f ↔ f.Spellable ∧ f.expression = e := by
  rw [← ofExpression?_eq_some_iff, ofExpression]
  cases ofExpression? e <;> simp

/-- An expression is refused when it spells no filter, and the error names it. -/
theorem ofExpression_eq_error_iff {e : String} {error : BuildError} :
    ofExpression e = .error error ↔ Malformed e ∧ error = .malformedExpression e := by
  have hread : Malformed e ↔ ofExpression? e = none := by
    rw [← Decidable.not_iff_not, not_malformed_iff, ← ne_eq, Option.ne_none_iff_exists']
    simp only [ofExpression?_eq_some_iff]
  rw [hread, ofExpression]
  cases ofExpression? e <;> simp [eq_comm]

/-- A message shows which expression is refused. -/
theorem malformedExpression_message_inj {e e' : String}
    (h : (BuildError.malformedExpression e).message = (BuildError.malformedExpression e').message) :
    e = e' := by
  have hchars := congrArg String.toList h
  simp only [BuildError.message, String.toList_append, List.append_cancel_left_eq] at hchars
  exact String.toList_inj.1 hchars

/-- **Reading an expression splits it at its only colon.**

    * An expression is read as a filter exactly if it is the filter's key, a colon and the filter's
      value, both with something in them and without a colon.
    * There is one such filter at most, and for each such filter there is one expression.
    * The expressions that are not of that form are those with no colon, with several, or with
      nothing on one side.  Each of them is refused, and the message ends with the expression as it
      is, so the message tells which one it was. -/
theorem ofExpression_splits :
    (∀ e f, ofExpression e = .ok f ↔ f.Spellable ∧ e = f.key ++ ":" ++ f.value) ∧
      (∀ f g : Filter, f.Spellable → g.Spellable →
        f.key ++ ":" ++ f.value = g.key ++ ":" ++ g.value → f = g) ∧
      (∀ f : Filter, f.Spellable → ∃! e, ofExpression e = .ok f) ∧
      (∀ e, Malformed e ↔ ¬ ∃ f : Filter, f.Spellable ∧ e = f.key ++ ":" ++ f.value) ∧
      (∀ e, Malformed e → ∃ error, ofExpression e = .error error ∧ error.kind = .scopeFormat ∧
        error.message = "Scope expected in the format of 'name:value'. "
          ++ "e.g. autoscaling_group:myapp-prod-v002, received: " ++ e) ∧
      ∀ e e' error error', ofExpression e = .error error → ofExpression e' = .error error' →
        error.message = error'.message → e = e' := by
  have hok : ∀ e f, ofExpression e = .ok f ↔ f.Spellable ∧ e = f.key ++ ":" ++ f.value := by
    intro e f
    rw [ofExpression_eq_ok_iff, eq_comm (a := e)]
    rfl
  refine ⟨hok, ?_, ?_, ?_, ?_, ?_⟩
  · -- what is read of an expression is one filter
    intro f g hf hg heq
    have hread := (hok _ f).2 ⟨hf, rfl⟩
    rw [(hok _ g).2 ⟨hg, heq⟩] at hread
    exact (Except.ok.inj hread).symm
  · intro f hf
    exact ⟨f.expression, (hok _ f).2 ⟨hf, rfl⟩, fun e he => ((hok e f).1 he).2⟩
  · intro e
    rw [← Decidable.not_not (p := Malformed e), not_malformed_iff]
    simp only [expression, eq_comm]
  · intro e he
    exact ⟨.malformedExpression e, ofExpression_eq_error_iff.2 ⟨he, rfl⟩, rfl, rfl⟩
  · intro e e' error error' he he' hmessage
    obtain ⟨-, rfl⟩ := ofExpression_eq_error_iff.1 he
    obtain ⟨-, rfl⟩ := ofExpression_eq_error_iff.1 he'
    exact malformedExpression_message_inj hmessage

end CanaryMetrics.Filter
