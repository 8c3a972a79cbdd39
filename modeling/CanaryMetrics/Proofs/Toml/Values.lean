import CanaryMetrics.Proofs.Toml.Keys
import CanaryMetrics.Proofs.Toml.Tables
import CanaryMetrics.Proofs.Toml.Words

namespace CanaryMetrics.Toml

open Text

/-!
# Written TOML values are read back

Strings, truth values, integers, and arrays and tables of such values can be written on a single line.
Arrays stand between brackets and tables between braces, with quoted keys.

* `Value.chars` — the writing of a value.
* `Value.Inline` — the values that can be written so, by the levels to which they nest.
* `readItems?_intercalate`, `readInlineMembers?_intercalate` — what is written with commas between is
  read item by item, if every item is.
* `readValue?_chars` — a written value is read as that value when the end of a value follows it.
-/

/-! ### Writing -/

namespace Value

mutual

/-- A value as it is written on a single line.  (Floating point numbers and dates are not read back
    from these texts in general.) -/
def chars : Value → List Char
  | bool b => boolChars b
  | integer n => integerChars n
  | real x => x.text.toList
  | string s => quotedChars s
  | dateTime t => t.text.toList
  | array items => '[' :: ([',', ' '].intercalate (itemChars items) ++ [']'])
  | table entries => '{' :: ([',', ' '].intercalate (entryChars entries) ++ ['}'])

/-- The items of an array, each as it is written. -/
def itemChars : List Value → List (List Char)
  | [] => []
  | v :: vs => v.chars :: itemChars vs

/-- The entries of a table, each as it is written. -/
def entryChars : List (String × Value) → List (List Char)
  | [] => []
  | (key, v) :: es => assignmentChars (.single (.quoted key)) v.chars :: entryChars es

end

theorem itemChars_eq_map (items : List Value) : itemChars items = items.map chars := by
  induction items with
  | nil => rfl
  | cons v vs ih => rw [itemChars, ih, List.map_cons]

/-- A value under a key without dots, as it is written within braces. -/
def memberChars (m : Key × Value) : List Char :=
  assignmentChars (.single (.quoted m.1.last)) m.2.chars

theorem entryChars_eq_map (entries : List (String × Value)) :
    entryChars entries = (Node.undotted entries).map memberChars := by
  induction entries with
  | nil => rfl
  | cons e es ih =>
    rw [entryChars, ih]
    rfl

/-- The values that are written on a single line: neither floating point numbers nor dates, nested to at
    most so many levels, and with different keys in each table. -/
inductive Inline : (levels : Nat) → Value → Prop
  | bool (levels : Nat) (b : Bool) : Inline levels (bool b)
  | integer (levels : Nat) {n : Int} (h : Scalar.Fits n) : Inline levels (integer n)
  | string (levels : Nat) (s : String) : Inline levels (string s)
  | array {levels : Nat} {items : List Value} (h : ∀ v ∈ items, Inline levels v) :
    Inline (levels + 1) (array items)
  | table {levels : Nat} {entries : List (String × Value)} (hkeys : (entries.map Prod.fst).Nodup)
    (h : ∀ e ∈ entries, Inline levels e.2) : Inline (levels + 1) (table entries)

/-- A value may nest to more levels than it does. -/
theorem Inline.mono {levels more : Nat} {v : Value} (h : Inline levels v) (hle : levels ≤ more) :
    Inline more v := by
  induction h generalizing more with
  | bool levels b => exact .bool more b
  | integer levels hn => exact .integer more hn
  | string levels s => exact .string more s
  | array h ih =>
    -- an array takes up one level, which the larger number has as well
    obtain ⟨k, rfl⟩ := Nat.exists_eq_add_of_le' (Nat.one_le_of_lt hle)
    exact .array fun v hv => ih v hv (Nat.le_of_succ_le_succ hle)
  | table hkeys h ih =>
    obtain ⟨k, rfl⟩ := Nat.exists_eq_add_of_le' (Nat.one_le_of_lt hle)
    exact .table hkeys fun e he => ih e he (Nat.le_of_succ_le_succ hle)

/-! ### How values begin -/

/-- The characters with which written values begin. -/
def isStart (c : Char) : Bool :=
  Scalar.isWordChar c || c = '"' || c = '[' || c = '{'

/-- None of these characters is passed over in front of a value or ends an array. -/
theorem ne_of_isStart {c : Char} (h : isStart c = true) :
    ∀ d ∈ [' ', '\t', '\n', '\r', '#', ']'], c ≠ d :=
  ne_of_all_not (by decide) h

theorem isStart_of_isWordChar {c : Char} (h : Scalar.isWordChar c = true) : isStart c = true := by
  simp [isStart, h]

theorem exists_chars_eq_cons {levels : Nat} {v : Value} (h : Inline levels v) :
    ∃ c cs, v.chars = c :: cs ∧ isStart c = true := by
  cases h with
  | bool levels b => cases b <;> exact ⟨_, _, rfl, by decide⟩
  | integer levels hn =>
    rename_i n
    obtain ⟨c, cs, hcons, hc⟩ := exists_integerChars_eq_cons_isWordChar n
    exact ⟨c, cs, by rw [chars, hcons], isStart_of_isWordChar hc⟩
  | string levels s => exact ⟨'"', _, rfl, by decide⟩
  | array h => exact ⟨'[', _, rfl, by decide⟩
  | table hkeys h => exact ⟨'{', _, rfl, by decide⟩

end Value

open Value

/-- Nothing is passed over in front of a value. -/
theorem skipGap_of_isStart {c : Char} (h : isStart c = true) (cs : List Char) :
    skipGap false (c :: cs) = c :: cs := by
  have hne := ne_of_isStart h
  simp only [List.mem_cons, List.not_mem_nil, or_false, forall_eq_or_imp, forall_eq] at hne
  obtain ⟨hspace, htab, hnewline, hreturn, hcomment, -⟩ := hne
  rw [skipGap]
  · simp [isBlank, hspace, htab, hcomment]
  · exact hnewline
  · exact fun _ heq => absurd heq hreturn

theorem skipBlanks_of_isStart {c : Char} (h : isStart c = true) (cs : List Char) :
    skipBlanks (c :: cs) = c :: cs := by
  have hne := ne_of_isStart h
  refine skipBlanks_cons ?_ cs
  simp [isBlank, hne ' ' (by decide), hne '\t' (by decide)]

/-! ### Items with commas between -/

variable {read : Reader α} {write : α → List Char}

/-- What a reader reads in front of the end of a value. -/
def ReadsBack (read : Reader α) (a : α) (cs : List Char) : Prop :=
  ∀ rest, ValueEnd rest → read (cs ++ rest) = some (a, rest)

theorem readItems?_close {cs rest : List Char} (hcs : skipGap false cs = ']' :: rest) :
    readItems? read cs = some ([], rest) := by
  rw [readItems?, hcs]
  rfl

/-- The item before the closing bracket is the last one. -/
theorem readItems?_last {cs ds rest : List Char} {c : Char} {a : α}
    (hcs : skipGap false cs = c :: ds) (hc : c ≠ ']') (ha : read (c :: ds) = some (a, ']' :: rest)) :
    readItems? read cs = some ([a], rest) := by
  rw [readItems?, hcs]
  split
  · rename_i heq
    exact absurd (List.cons.inj heq).1 hc
  · rw [ha]
    rfl

/-- Behind a comma further items are read. -/
theorem readItems?_next {cs ds rest : List Char} {c : Char} {a : α}
    (hcs : skipGap false cs = c :: ds) (hc : c ≠ ']') (ha : read (c :: ds) = some (a, ',' :: rest))
    (hrest : rest.length < cs.length) :
    readItems? read cs = (readItems? read rest).map fun p => (a :: p.1, p.2) := by
  rw [readItems?, hcs]
  split
  · rename_i heq
    exact absurd (List.cons.inj heq).1 hc
  · rw [ha]
    show (if rest.length < cs.length then _ else none) = _
    rw [if_pos hrest]
    cases readItems? read rest <;> rfl

/-- Of several items with commas between, the first one comes first. -/
theorem intercalate_cons_append (cs : List Char) (items : List (List Char)) (rest : List Char) :
    ∃ after, [',', ' '].intercalate (cs :: items) ++ rest = cs ++ after := by
  cases items with
  | nil => exact ⟨rest, by rw [List.intercalate_singleton]⟩
  | cons ds items => exact ⟨_, by rw [List.intercalate_cons_cons, List.append_assoc, List.append_assoc]⟩

/-- Nothing is passed over in front of the items of an array. -/
theorem skipGap_intercalate {items : List α}
    (hstart : ∀ a ∈ items, ∃ c cs, write a = c :: cs ∧ isStart c = true) (rest : List Char) :
    skipGap false ([',', ' '].intercalate (items.map write) ++ ']' :: rest)
      = [',', ' '].intercalate (items.map write) ++ ']' :: rest := by
  cases items with
  | nil => rfl
  | cons a items =>
    obtain ⟨c, cs, hwrite, hc⟩ := hstart a List.mem_cons_self
    obtain ⟨after, hafter⟩ := intercalate_cons_append (write a) (items.map write) (']' :: rest)
    rw [List.map_cons, hafter, hwrite]
    exact skipGap_of_isStart hc _

/-- Items with commas between are read one after the other. -/
theorem readItems?_intercalate {items : List α}
    (hstart : ∀ a ∈ items, ∃ c cs, write a = c :: cs ∧ isStart c = true)
    (hread : ∀ a ∈ items, ReadsBack read a (write a)) (rest : List Char) {cs : List Char}
    (hcs : skipGap false cs = [',', ' '].intercalate (items.map write) ++ ']' :: rest) :
    readItems? read cs = some (items, rest) := by
  induction items generalizing cs with
  | nil => exact readItems?_close hcs
  | cons a items ih =>
    obtain ⟨c, ds, hwrite, hc⟩ := hstart a List.mem_cons_self
    have hbracket : c ≠ ']' := ne_of_isStart hc ']' (by decide)
    have ha : ReadsBack read a (c :: ds) := hwrite ▸ hread a List.mem_cons_self
    cases items with
    | nil =>
      rw [List.map_singleton, List.intercalate_singleton, hwrite] at hcs
      exact readItems?_last hcs hbracket (ha _ (by simp))
    | cons b items =>
      rw [List.map_cons, List.map_cons, List.intercalate_cons_cons, ← List.map_cons, hwrite,
        List.append_assoc, List.append_assoc, List.cons_append] at hcs
      obtain ⟨tail, htail⟩ :
          ∃ tail, [',', ' '].intercalate ((b :: items).map write) ++ ']' :: rest = tail := ⟨_, rfl⟩
      rw [htail] at hcs
      -- the blank behind the comma is passed over, and nothing else
      have hgap : skipGap false (' ' :: tail) = tail :=
        htail ▸ skipGap_intercalate (fun b hb => hstart b (List.mem_cons_of_mem _ hb)) rest
      have hshort : (' ' :: tail).length < cs.length := by
        have hlength := length_skipGap_le false cs
        rw [hcs] at hlength
        simp only [List.length_cons, List.length_append] at hlength ⊢
        omega
      have hmore : readItems? read (' ' :: tail) = some (b :: items, rest) :=
        ih (fun b hb => hstart b (List.mem_cons_of_mem _ hb))
          (fun b hb => hread b (List.mem_cons_of_mem _ hb)) (by rw [hgap, htail])
      rw [readItems?_next hcs hbracket (ha (',' :: ' ' :: tail) (by simp)) hshort, hmore, Option.map_some]

/-- The member before the closing brace is the last one. -/
theorem readInlineMembers?_last {cs rest : List Char} {a : α} (ha : read cs = some (a, '}' :: rest)) :
    readInlineMembers? read cs = some ([a], rest) := by
  rw [readInlineMembers?, ha]
  rfl

/-- Behind a comma further members are read. -/
theorem readInlineMembers?_next {cs rest : List Char} {a : α} (ha : read cs = some (a, ',' :: rest))
    (hrest : rest.length < cs.length) :
    readInlineMembers? read cs = (readInlineMembers? read rest).map fun p => (a :: p.1, p.2) := by
  rw [readInlineMembers?, ha]
  show (if rest.length < cs.length then _ else none) = _
  rw [if_pos hrest]
  cases readInlineMembers? read rest <;> rfl

/-- Members with commas between are read one after the other. -/
theorem readInlineMembers?_intercalate {members : List α} (hne : members ≠ [])
    (hskip : ∀ cs, read (skipBlanks cs) = read cs)
    (hread : ∀ a ∈ members, ReadsBack read a (write a)) (rest : List Char) {cs : List Char}
    (hcs : skipBlanks cs = skipBlanks ([',', ' '].intercalate (members.map write) ++ '}' :: rest))
    (hlength : ([',', ' '].intercalate (members.map write) ++ '}' :: rest).length ≤ cs.length) :
    readInlineMembers? read cs = some (members, rest) := by
  -- the reader itself passes over blanks, so it is the text behind the blanks that `cs` is known by
  induction members generalizing cs with
  | nil => exact absurd rfl hne
  | cons a members ih =>
    have ha : ReadsBack read a (write a) := hread a List.mem_cons_self
    cases members with
    | nil =>
      rw [List.map_singleton, List.intercalate_singleton] at hcs
      refine readInlineMembers?_last ?_
      rw [← hskip, hcs, hskip]
      exact ha _ (by simp)
    | cons b members =>
      rw [List.map_cons, List.map_cons, List.intercalate_cons_cons, ← List.map_cons,
        List.append_assoc, List.append_assoc] at hcs hlength
      obtain ⟨tail, htail⟩ :
          ∃ tail, [',', ' '].intercalate ((b :: members).map write) ++ '}' :: rest = tail := ⟨_, rfl⟩
      rw [htail] at hcs hlength
      have hfirst : read cs = some (a, ',' :: ' ' :: tail) := by
        rw [← hskip, hcs, hskip]
        exact ha (',' :: ' ' :: tail) (by simp)
      have hshort : (' ' :: tail).length < cs.length := by
        simp only [List.length_append, List.length_cons] at hlength ⊢
        omega
      have hmore : readInlineMembers? read (' ' :: tail) = some (b :: members, rest) :=
        ih (List.cons_ne_nil b members) (fun b hb => hread b (List.mem_cons_of_mem _ hb))
          (by rw [htail]; rfl) (by rw [htail]; exact Nat.le_succ _)
      rw [readInlineMembers?_next hfirst hshort, hmore, Option.map_some]

/-! ### Values -/

/-- A word is read as such, however deep it stands. -/
theorem readValue?_word (levels : Nat) {c : Char} (hc : Scalar.isWordChar c = true) (cs : List Char) :
    readValue? levels (c :: cs) = readWord? (c :: cs) := by
  -- the first characters of strings, arrays and tables are not characters of words
  have hne : ∀ d ∈ ['"', '\'', '[', '{'], ∀ ds, c :: cs ≠ d :: ds := by
    intro d hd ds heq
    exact ne_of_all_not (by decide) hc d hd (List.cons.inj heq).1
  cases levels with
  | zero =>
    rw [readValue?]
    · exact hne '"' (by decide)
    · exact hne '\'' (by decide)
  | succ levels =>
    rw [readValue?]
    · exact hne '"' (by decide)
    · exact hne '\'' (by decide)
    · exact hne '[' (by decide)
    · exact hne '{' (by decide)

/-- A string is read as such, however deep it stands. -/
theorem readValue?_string (levels : Nat) (cs : List Char) :
    readValue? levels ('"' :: cs) = (readString? ('"' :: cs)).map fun p => (.string p.1, p.2) := by
  cases levels <;> rfl

/-- A value behind a key is read if it is read by itself. -/
theorem readsBack_assignment {levels : Nat} {v : Value} (h : Inline levels v)
    (hv : ReadsBack (readValue? levels) v v.chars) (k : KeyText) :
    ReadsBack (readAssignment? (readValue? levels)) (k.key, v) (assignmentChars k v.chars) := by
  intro rest hrest
  obtain ⟨c, cs, hchars, hc⟩ := exists_chars_eq_cons h
  have hvalue : readValue? levels (skipBlanks (v.chars ++ rest)) = some (v, rest) := by
    rw [hchars, List.cons_append, skipBlanks_of_isStart hc, ← List.cons_append, ← hchars]
    exact hv rest hrest
  rw [← readAssignment?_chars k hvalue]
  simp [assignmentChars]

/-- The members of a table are read if their values are. -/
theorem readsBack_memberChars {levels : Nat} {entries : List (String × Value)}
    (h : ∀ e ∈ entries, Inline levels e.2)
    (hread : ∀ e ∈ entries, ReadsBack (readValue? levels) e.2 e.2.chars) :
    ∀ m ∈ Node.undotted entries,
      ReadsBack (readAssignment? (readValue? levels)) m (memberChars m) := by
  intro m hm
  obtain ⟨e, he, rfl⟩ := List.mem_map.1 hm
  exact readsBack_assignment (h e he) (hread e he) (.single (.quoted e.1))

/-- A table is read if its values are. -/
theorem readsBack_table {levels : Nat} {entries : List (String × Value)}
    (hkeys : (entries.map Prod.fst).Nodup) (h : ∀ e ∈ entries, Inline levels e.2)
    (hread : ∀ e ∈ entries, ReadsBack (readValue? levels) e.2 e.2.chars) :
    ReadsBack (readValue? (levels + 1)) (.table entries) (Value.table entries).chars := by
  intro rest _
  cases entries with
  | nil => rfl
  | cons e entries =>
    have hmembers : readInlineMembers? (readAssignment? (readValue? levels))
        ([',', ' '].intercalate ((Node.undotted (e :: entries)).map memberChars) ++ '}' :: rest)
          = some (Node.undotted (e :: entries), rest) :=
      readInlineMembers?_intercalate (List.cons_ne_nil _ _) (readAssignment?_skipBlanks _)
        (readsBack_memberChars h hread) rest rfl (Nat.le_refl _)
    have hentries : Node.addEntries? (Node.undotted (e :: entries)) []
        = some (Node.ofMembers (e :: entries)) :=
      Node.addEntries?_members hkeys
    -- the quote of the first key comes first, so the table is not empty
    obtain ⟨after, hafter⟩ := intercalate_cons_append (memberChars (⟨[], e.1⟩, e.2))
      ((Node.undotted entries).map memberChars) ('}' :: rest)
    obtain ⟨cs, hcs⟩ : ∃ cs, [',', ' '].intercalate ((Node.undotted (e :: entries)).map memberChars)
        ++ '}' :: rest = '"' :: cs :=
      ⟨_, hafter⟩
    rw [hcs] at hmembers
    rw [Value.chars, entryChars_eq_map, List.cons_append, List.append_assoc, List.singleton_append, hcs]
    show (readInlineMembers? (readAssignment? (readValue? levels)) ('"' :: cs)).bind _ = _
    rw [hmembers]
    show (Node.addEntries? (Node.undotted (e :: entries)) []).bind _ = _
    rw [hentries, Option.bind_some, Node.finishEntries_ofMembers]
    rfl

/-- **Written values are read back.**  A value that nests to at most the levels that are left is read
    from its text as that value when the end of a value follows it. -/
theorem readValue?_chars {levels : Nat} {v : Value} (h : Inline levels v) :
    ReadsBack (readValue? levels) v v.chars := by
  induction h with
  | bool levels b =>
    intro rest hrest
    rw [Value.chars, ← readWord?_boolChars b hrest]
    cases b <;> exact readValue?_word levels (by decide) _
  | integer levels hn =>
    rename_i n
    intro rest hrest
    -- what decides about the kind of a value is its first character
    obtain ⟨c, cs, hcons, hc⟩ := exists_integerChars_eq_cons_isWordChar n
    rw [Value.chars, ← readWord?_integerChars hn hrest, hcons]
    exact readValue?_word levels hc _
  | string levels s =>
    intro rest hrest
    -- an empty string before one more quotation mark would begin a string of several lines
    have hquote : rest.head? ≠ some '"' := fun hhead =>
      absurd (hrest '"' hhead) (by decide)
    have hstring := readString?_quotedChars s hquote
    rw [Value.chars]
    unfold quotedChars at hstring ⊢
    rw [List.cons_append, readValue?_string, ← List.cons_append, hstring]
    rfl
  | array h ih =>
    rename_i levels items
    intro rest _
    have hstart : ∀ v ∈ items, ∃ c cs, v.chars = c :: cs ∧ isStart c = true := fun v hv =>
      exists_chars_eq_cons (h v hv)
    have hitems := readItems?_intercalate hstart ih rest (skipGap_intercalate hstart rest)
    rw [Value.chars, itemChars_eq_map, List.cons_append, List.append_assoc, readValue?]
    show (readItems? (readValue? levels) ([',', ' '].intercalate (items.map Value.chars) ++ ']' :: rest)).bind
      _ = _
    rw [hitems]
    rfl
  | table hkeys h ih => exact readsBack_table hkeys h ih

end CanaryMetrics.Toml
