import CanaryMetrics.Json.Value
import CanaryMetrics.Proofs.Json.Tokens

namespace CanaryMetrics.Json.Value

/-!
# Written values are read back

* `induction` — a property of all values: one case for each kind, those of arrays and objects from
  what is in them.
* `tokenize?_text` — the text of a value consists of its tokens.
* `ofTokens?_tokens` — reading a value's tokens gives that value.
* `ofText?_text` — so reading a value's text does.
-/

/-- A property of values holds of all of them when arrays and objects have it because what is in
    them has it. -/
@[elab_as_elim]
theorem induction {motive : Value → Prop} (null : motive null) (bool : ∀ b, motive (bool b))
    (number : ∀ n, motive (number n)) (string : ∀ s, motive (string s))
    (array : ∀ items, (∀ v ∈ items, motive v) → motive (array items))
    (object : ∀ members, (∀ m ∈ members, motive m.2) → motive (object members)) :
    ∀ v, motive v
  | .null => null
  | .bool b => bool b
  | .number n => number n
  | .string s => string s
  | .array items => array items fun v _ => induction null bool number string array object v
  | .object members => object members fun m _ => induction null bool number string array object m.2
decreasing_by
  · have := List.sizeOf_lt_of_mem ‹v ∈ items›
    simp; omega
  · have := List.sizeOf_lt_of_mem ‹m ∈ members›
    obtain ⟨key, v⟩ := m
    simp at this ⊢; omega

/-! ### Proper values -/

/-- All numerals of a value are proper. -/
def Proper (v : Value) : Prop :=
  ∀ n, Token.number n ∈ v.tokens → n.Proper

/-- A number among the tokens of items is one of an item's. -/
theorem exists_of_number_mem_itemTokens {n : Numeral} {items : List Value}
    (h : Token.number n ∈ itemTokens items) : ∃ v ∈ items, Token.number n ∈ v.tokens := by
  induction items with
  | nil => cases h
  | cons v vs ih =>
    cases vs with
    | nil =>
      rw [itemTokens] at h
      exact ⟨v, List.mem_cons_self, h⟩
    | cons w vs =>
      rw [itemTokens] at h
      rcases List.mem_append.1 h with h | h
      · exact ⟨v, List.mem_cons_self, h⟩
      · -- the comma in between is no number
        cases h with
        | tail _ h =>
          obtain ⟨u, hu, hmem⟩ := ih h
          exact ⟨u, List.mem_cons_of_mem _ hu, hmem⟩

/-- A number among the tokens of members is one of a member's value. -/
theorem exists_of_number_mem_memberTokens {n : Numeral} {members : List (Option String × Value)}
    (h : Token.number n ∈ memberTokens members) : ∃ m ∈ members, Token.number n ∈ m.2.tokens := by
  induction members with
  | nil => cases h
  | cons m ms ih =>
    obtain ⟨key, v⟩ := m
    -- the last member has no comma behind it
    cases ms with
    | nil =>
      simp only [memberTokens, List.mem_cons, reduceCtorEq, false_or] at h
      exact ⟨(key, v), List.mem_cons_self, h⟩
    | cons m' ms =>
      simp only [memberTokens, List.cons_append, List.mem_cons, List.mem_append, reduceCtorEq,
        false_or] at h
      rcases h with h | h
      · exact ⟨(key, v), List.mem_cons_self, h⟩
      · obtain ⟨m, hm, hmem⟩ := ih h
        exact ⟨m, List.mem_cons_of_mem _ hm, hmem⟩

/-- The numerals of an array are those of its items. -/
theorem proper_array {items : List Value} (h : ∀ v ∈ items, v.Proper) : (array items).Proper := by
  intro n hn
  rw [tokens] at hn
  simp only [List.cons_append, List.mem_cons, List.mem_append, List.not_mem_nil, or_false,
    reduceCtorEq, false_or] at hn
  obtain ⟨v, hv, hmem⟩ := exists_of_number_mem_itemTokens hn
  exact h v hv n hmem

/-- The numerals of an object are those of its members. -/
theorem proper_object {members : List (Option String × Value)} (h : ∀ m ∈ members, m.2.Proper) :
    (object members).Proper := by
  intro n hn
  rw [tokens] at hn
  simp only [List.cons_append, List.mem_cons, List.mem_append, List.not_mem_nil, or_false,
    reduceCtorEq, false_or] at hn
  obtain ⟨m, hm, hmem⟩ := exists_of_number_mem_memberTokens hn
  exact h m hm n hmem

/-! ### From the text to tokens -/

/-- The tokens, if their numerals are proper, come first in a text that starts with theirs, as long
    as nothing prolongs the last one. -/
def ComeFirst (ts : List Token) : Prop :=
  (∀ n, Token.number n ∈ ts → n.Proper) → ∀ rest, Numeral.NumeralEnd rest →
    tokenizeChars? (ts.flatMap Token.chars ++ rest) = (ts ++ ·) <$> tokenizeChars? rest

theorem comeFirst_nil : ComeFirst [] := by
  intro _ rest _
  cases h : tokenizeChars? rest <;> simp [h]

/-- One token comes first. -/
theorem comeFirst_singleton (t : Token) : ComeFirst [t] := by
  intro hproper rest hrest
  rw [List.flatMap_singleton]
  refine tokenizeChars?_chars_append fun n hn => ⟨hproper n ?_, hrest⟩
  rw [hn]
  exact List.mem_singleton_self _

/-- Tokens come first together when the first of the later ones is no number. -/
theorem ComeFirst.append_cons {ts us : List Token} {t : Token} (hts : ComeFirst ts)
    (ht : ∀ n, t ≠ .number n) (hus : ComeFirst us) : ComeFirst (ts ++ t :: us) := by
  intro hproper rest hrest
  have htsProper : ∀ n, Token.number n ∈ ts → n.Proper :=
    fun n hn => hproper n (List.mem_append_left _ hn)
  have husProper : ∀ n, Token.number n ∈ us → n.Proper :=
    fun n hn => hproper n (List.mem_append_right _ (List.mem_cons_of_mem _ hn))
  -- a number at the end of the first tokens is not prolonged by what comes between
  have hend : Numeral.NumeralEnd (t.chars ++ (us.flatMap Token.chars ++ rest)) :=
    Token.numeralEnd_chars_append ht _
  rw [List.flatMap_append, List.flatMap_cons, List.append_assoc, List.append_assoc,
    hts htsProper _ hend, tokenizeChars?_chars_append fun n hn => absurd hn (ht n),
    hus husProper rest hrest]
  cases tokenizeChars? rest with
  | none => rfl
  | some vs => simp

/-- The items of an array, if the tokens of each of them come first. -/
theorem comeFirst_itemTokens {items : List Value} (h : ∀ v ∈ items, ComeFirst v.tokens) :
    ComeFirst (itemTokens items) := by
  induction items with
  | nil => exact comeFirst_nil
  | cons v vs ih =>
    have hv : ComeFirst v.tokens := h v List.mem_cons_self
    cases vs with
    | nil => rw [itemTokens]; exact hv
    | cons w vs =>
      rw [itemTokens]
      exact hv.append_cons (fun n hn => by cases hn)
        (ih fun u hu => h u (List.mem_cons_of_mem _ hu))

/-- One member of an object. -/
theorem ComeFirst.member {v : Value} (h : ComeFirst v.tokens) (key : Option String) :
    ComeFirst (.string key :: .colon :: v.tokens) :=
  (comeFirst_singleton (.string key)).append_cons (t := .colon) (fun n hn => by cases hn) h

/-- The members of an object, if the tokens of each of their values come first. -/
theorem comeFirst_memberTokens {members : List (Option String × Value)}
    (h : ∀ m ∈ members, ComeFirst m.2.tokens) : ComeFirst (memberTokens members) := by
  induction members with
  | nil => exact comeFirst_nil
  | cons m ms ih =>
    obtain ⟨key, v⟩ := m
    have hm : ComeFirst (.string key :: .colon :: v.tokens) :=
      (h (key, v) List.mem_cons_self).member key
    cases ms with
    | nil => rw [memberTokens]; exact hm
    | cons m' ms =>
      rw [memberTokens]
      exact hm.append_cons (fun n hn => by cases hn)
        (ih fun m hm => h m (List.mem_cons_of_mem _ hm))

/-- The tokens of a value. -/
theorem comeFirst_tokens (v : Value) : ComeFirst v.tokens := by
  -- brackets and braces are no numerals, and so come first before anything
  induction v using Value.induction with
  | null => exact comeFirst_singleton _
  | bool b => exact comeFirst_singleton _
  | number n => exact comeFirst_singleton _
  | string s => exact comeFirst_singleton _
  | array items ih =>
    have hitems : ComeFirst (itemTokens items ++ [.closeBracket]) :=
      (comeFirst_itemTokens ih).append_cons (fun n hn => by cases hn) comeFirst_nil
    rw [tokens]
    exact comeFirst_nil.append_cons (t := .openBracket) (fun n hn => by cases hn) hitems
  | object members ih =>
    have hmembers : ComeFirst (memberTokens members ++ [.closeBrace]) :=
      (comeFirst_memberTokens ih).append_cons (fun n hn => by cases hn) comeFirst_nil
    rw [tokens]
    exact comeFirst_nil.append_cons (t := .openBrace) (fun n hn => by cases hn) hmembers

/-- The text of a value with proper numerals consists of the value's tokens. -/
theorem tokenize?_text {v : Value} (h : v.Proper) : tokenize? v.text = some v.tokens := by
  have hfirst := comeFirst_tokens v h [] Numeral.numeralEnd_nil
  have hnil : tokenizeChars? [] = some [] := by rw [tokenizeChars?]
  rw [List.append_nil, hnil] at hfirst
  unfold tokenize? text
  rw [String.toList_ofList, hfirst]
  simp

/-! ### From tokens to the value -/

open State (complete)

/-- The tokens of a value complete that value, whatever containers are open. -/
def Completes (v : Value) : Prop :=
  ∀ stack, v.tokens.foldlM State.step (.value stack) = some (complete v stack)

/-- No value starts with a closing bracket. -/
theorem exists_tokens_eq_cons (v : Value) : ∃ t ts, v.tokens = t :: ts ∧ t ≠ .closeBracket := by
  cases v with
  | null | bool b | number n | string s => exact ⟨_, _, by rw [tokens], fun h => by cases h⟩
  | array items => exact ⟨.openBracket, _, by rw [tokens]; rfl, by decide⟩
  | object members => exact ⟨.openBrace, _, by rw [tokens]; rfl, by decide⟩

/-- The first item of an array is read like any other value. -/
theorem step_firstItem {t : Token} (h : t ≠ .closeBracket) (stack : List Frame) :
    State.step (.firstItem stack) t = State.step (.value (.array [] :: stack)) t := by
  cases t
  case closeBracket => exact absurd rfl h
  all_goals rfl

/-- The items of an array and the closing bracket complete the array, after the items that are in it
    already. -/
theorem foldlM_itemTokens {v : Value} {vs : List Value} (h : ∀ w ∈ v :: vs, w.Completes)
    (items : List Value) (stack : List Frame) :
    List.foldlM State.step (.value (.array items :: stack))
        (itemTokens (v :: vs) ++ [.closeBracket])
      = some (complete (.array (items.reverse ++ v :: vs)) stack) := by
  have hv : v.tokens.foldlM State.step (.value (.array items :: stack))
      = some (.afterItem (v :: items) stack) := h v List.mem_cons_self _
  -- what has been read is on the stack in reverse order, so the induction is over any such items
  induction vs generalizing v items with
  | nil =>
    rw [itemTokens, List.foldlM_append, hv]
    show some (complete (.array (v :: items).reverse) stack) = _
    rw [List.reverse_cons]
  | cons w vs ih =>
    have hws : ∀ u ∈ w :: vs, u.Completes := fun u hu => h u (List.mem_cons_of_mem _ hu)
    have hrest := ih hws (v :: items) (hws w List.mem_cons_self _)
    rw [itemTokens, List.append_assoc, List.foldlM_append, hv]
    show List.foldlM State.step (.value (.array (v :: items) :: stack))
      (itemTokens (w :: vs) ++ [.closeBracket]) = _
    rw [hrest, List.reverse_cons, List.append_assoc]
    rfl

/-- One member is read after the members that are in the object already. -/
theorem foldlM_member {v : Value} (h : v.Completes) (key : Option String)
    (members : List (Option String × Value)) (stack : List Frame) :
    List.foldlM State.step (.nextKey members stack) (.string key :: .colon :: v.tokens)
      = some (.afterMember ((key, v) :: members) stack) :=
  h (.object members key :: stack)

/-- The members of an object and the closing brace complete the object, after the members that are
    in it already. -/
theorem foldlM_memberTokens {m : Option String × Value} {ms : List (Option String × Value)}
    (h : ∀ m' ∈ m :: ms, m'.2.Completes) (members : List (Option String × Value))
    (stack : List Frame) :
    List.foldlM State.step (.nextKey members stack) (memberTokens (m :: ms) ++ [.closeBrace])
      = some (complete (.object (members.reverse ++ m :: ms)) stack) := by
  -- the parser keeps the members that it has seen in reverse, so these are generalized
  induction ms generalizing m members with
  | nil =>
    obtain ⟨key, v⟩ := m
    rw [memberTokens, List.foldlM_append, foldlM_member (h (key, v) List.mem_cons_self)]
    show some (complete (.object ((key, v) :: members).reverse) stack) = _
    rw [List.reverse_cons]
  | cons m' ms ih =>
    obtain ⟨key, v⟩ := m
    have hrest := ih (fun u hu => h u (List.mem_cons_of_mem _ hu)) ((key, v) :: members)
    rw [memberTokens, List.append_assoc, List.foldlM_append,
      foldlM_member (h (key, v) List.mem_cons_self)]
    show List.foldlM State.step (.nextKey ((key, v) :: members) stack)
      (memberTokens (m' :: ms) ++ [.closeBrace]) = _
    rw [hrest, List.reverse_cons, List.append_assoc]
    rfl

/-- An array is completed by its tokens when its items are. -/
theorem completes_array {items : List Value} (h : ∀ v ∈ items, v.Completes) :
    (array items).Completes := by
  intro stack
  rw [tokens]
  cases items with
  | nil => rfl
  | cons v vs =>
    have hitems := foldlM_itemTokens h [] stack
    -- only the first token could close the array before its first item
    obtain ⟨t, ts, htokens, ht⟩ : ∃ t ts, itemTokens (v :: vs) = t :: ts ∧ t ≠ .closeBracket := by
      obtain ⟨t, ts, htokens, ht⟩ := exists_tokens_eq_cons v
      cases vs with
      | nil => exact ⟨t, ts, by rw [itemTokens, htokens], ht⟩
      | cons w vs => exact ⟨t, _, by rw [itemTokens, htokens]; rfl, ht⟩
    rw [htokens] at hitems ⊢
    show List.foldlM State.step (.firstItem stack) (t :: (ts ++ [.closeBracket])) = _
    rw [List.foldlM_cons, step_firstItem ht]
    exact hitems

/-- An object is completed by its tokens when the values of its members are. -/
theorem completes_object {members : List (Option String × Value)}
    (h : ∀ m ∈ members, m.2.Completes) : (object members).Completes := by
  intro stack
  rw [tokens]
  cases members with
  | nil => rfl
  | cons m ms =>
    have hmembers := foldlM_memberTokens h [] stack
    obtain ⟨key, v⟩ := m
    -- the first key is read like any other
    cases ms with
    | nil => exact hmembers
    | cons m' ms => exact hmembers

/-- Every value is completed by its tokens. -/
theorem completes (v : Value) : v.Completes := by
  induction v using Value.induction with
  | null | bool b | number n | string s => intro stack; rfl
  | array items ih => exact completes_array ih
  | object members ih => exact completes_object ih

/-- Reading the tokens of a value gives that value. -/
theorem ofTokens?_tokens (v : Value) : ofTokens? v.tokens = some v := by
  unfold ofTokens?
  rw [completes v []]
  rfl

/-- A text that consists of the tokens of a value spells the value. -/
theorem ofText?_of_tokenize? {text : String} {v : Value} (h : tokenize? text = some v.tokens) :
    ofText? text = some v := by
  unfold ofText?
  rw [h]
  exact ofTokens?_tokens v

/-- **Written values are read back.**  A value with proper numerals has a text that spells it. -/
theorem ofText?_text {v : Value} (h : v.Proper) : ofText? v.text = some v :=
  ofText?_of_tokenize? (tokenize?_text h)

end CanaryMetrics.Json.Value
