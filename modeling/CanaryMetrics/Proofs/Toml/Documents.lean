import CanaryMetrics.Proofs.Toml.Values
import CanaryMetrics.Toml.Document

namespace CanaryMetrics.Toml

/-!
# Written TOML documents are read back

A document is written as sections: each a line for its header, a line for each entry, and a blank line.

* `HeaderText`, `SectionText` — a header and a section, as they are written.
* `readLine?_header`, `readLine?_entry` — each line is read as what it spells.
* `ofText?_sections` — so a written document defines what its sections do.
-/

/-! ### Lines -/

/-- A header, as it is written. -/
inductive HeaderText
  /-- A table. -/
  | table (key : KeyText)
  /-- An element of an array of tables. -/
  | element (key : KeyText)

namespace HeaderText

/-- The header that is spelled. -/
def header : HeaderText → Header
  | table key => .table key.key
  | element key => .element key.key

/-- The line that is spelled. -/
def line : HeaderText → Line
  | table key => .table key.key
  | element key => .element key.key

/-- The header as it is written, with the end of the line. -/
def chars : HeaderText → List Char
  | table key => '[' :: (key.chars ++ [']', '\n'])
  | element key => '[' :: '[' :: (key.chars ++ [']', ']', '\n'])

end HeaderText

/-- A key before a closing bracket is read up to the bracket. -/
theorem readKey?_chars_bracket (k : KeyText) (cs : List Char) :
    readKey? (k.chars ++ ']' :: cs) = some (k.key, ']' :: cs) :=
  k.readKey?_chars (by simp; decide) fun ds h => absurd (List.cons.inj h).1 (by decide)

/-- The line of a header is read as that header. -/
theorem readLine?_header (h : HeaderText) (rest : List Char) :
    readLine? (h.chars ++ rest) = some (h.line, rest) := by
  cases h with
  | table k =>
    have hchars : (HeaderText.table k).chars ++ rest = '[' :: (k.chars ++ ']' :: '\n' :: rest) := by
      simp [HeaderText.chars]
    -- the key does not begin with a second bracket
    obtain ⟨c, cs, hcons, hc⟩ := k.exists_chars_eq_cons
    have hbracket : ∀ ds, k.chars ++ ']' :: '\n' :: rest ≠ '[' :: ds := by
      intro ds heq
      rw [hcons, List.cons_append] at heq
      exact KeyPart.ne_of_isStart hc '[' (by decide) (List.cons.inj heq).1
    have hkey := readKey?_chars_bracket k ('\n' :: rest)
    rw [hchars, readLine?, skipBlanks_cons (by decide)]
    split
    · rename_i heq
      exact absurd (List.cons.inj heq).2 (hbracket _)
    · rename_i heq
      rw [← (List.cons.inj heq).2, hkey]
      rfl
    · rename_i hne
      exact absurd rfl (hne _)
  | element k =>
    have hchars : (HeaderText.element k).chars ++ rest
        = '[' :: '[' :: (k.chars ++ ']' :: ']' :: '\n' :: rest) := by
      simp [HeaderText.chars]
    have hkey := readKey?_chars_bracket k (']' :: '\n' :: rest)
    rw [hchars, readLine?, skipBlanks_cons (by decide)]
    show (readKey? (k.chars ++ ']' :: ']' :: '\n' :: rest)).bind _ = _
    rw [hkey]
    rfl

/-- Where a key begins, a line does not end. -/
theorem endOfLine?_of_isStart {c : Char} (h : KeyPart.isStart c = true) (cs : List Char) :
    endOfLine? (c :: cs) = none := by
  have hne := KeyPart.ne_of_isStart h
  have hcomment : skipComment (c :: cs) = c :: cs := by
    rw [skipComment]
    exact fun ds heq => hne '#' (by decide) (List.cons.inj heq).1
  rw [endOfLine?, KeyPart.skipBlanks_of_isStart h, hcomment, lineEnd?]
  · exact List.cons_ne_nil c cs
  · exact fun ds heq => hne '\n' (by decide) (List.cons.inj heq).1
  · exact fun ds heq => hne '\r' (by decide) (List.cons.inj heq).1

/-- The line of an entry is read as that entry. -/
theorem readLine?_entry (k : KeyText) {v : Value} (h : v.Inline (nestingLimit - 1)) (rest : List Char) :
    readLine? (assignmentChars k v.chars ++ '\n' :: rest) = some (.entry k.key v, rest) := by
  have hread : readAssignment? (readValue? (nestingLimit - 1)) (assignmentChars k v.chars ++ '\n' :: rest)
      = some ((k.key, v), '\n' :: rest) :=
    readsBack_assignment h (readValue?_chars h) k _ (by simp)
  obtain ⟨c, cs, hcons, hc⟩ := k.exists_chars_eq_cons
  obtain ⟨ds, hchars⟩ : ∃ ds, assignmentChars k v.chars ++ '\n' :: rest = c :: ds :=
    ⟨_, by rw [assignmentChars, hcons]; rfl⟩
  -- a key does not begin with a bracket, so that the line is no header
  have hbracket : ∀ es, c :: ds ≠ '[' :: es := fun es heq =>
    KeyPart.ne_of_isStart hc '[' (by decide) (List.cons.inj heq).1
  rw [hchars] at hread ⊢
  rw [readLine?, KeyPart.skipBlanks_of_isStart hc]
  split
  · rename_i heq
    exact absurd heq (hbracket _)
  · rename_i heq
    exact absurd heq (hbracket _)
  · rw [endOfLine?_of_isStart hc, hread]
    rfl

/-- A line that is read is the first one. -/
theorem readLines?_cons {cs rest : List Char} {l : Line} (h : readLine? cs = some (l, rest))
    (hlength : rest.length < cs.length) : readLines? cs = (l :: ·) <$> readLines? rest := by
  have hne : cs ≠ [] := by
    rintro rfl
    exact absurd hlength (Nat.not_lt_zero _)
  rw [readLines?, if_neg hne, h]
  exact if_pos hlength

/-! ### Sections -/

/-- A section of a document, as it is written. -/
structure SectionText where
  /-- The header. -/
  header : HeaderText
  /-- The entries, in document order. -/
  entries : List (KeyText × Value)

namespace SectionText

/-- The section that is spelled. -/
def toSection (s : SectionText) : Section where
  header := s.header.header
  entries := s.entries.map fun e => (e.1.key, e.2)

/-- All values of the section can be written on a single line. -/
def Inline (s : SectionText) : Prop :=
  ∀ e ∈ s.entries, e.2.Inline (nestingLimit - 1)

/-- The entries as they are written, each with the end of its line. -/
def entryChars (entries : List (KeyText × Value)) : List Char :=
  entries.flatMap fun e => assignmentChars e.1 e.2.chars ++ ['\n']

/-- The section as it is written, with a blank line at its end. -/
def chars (s : SectionText) : List Char :=
  s.header.chars ++ (entryChars s.entries ++ ['\n'])

/-- The lines that are spelled. -/
def lines (s : SectionText) : List Line :=
  s.header.line :: (s.entries.map (fun e => .entry e.1.key e.2) ++ [.blank])

theorem readLines?_entryChars {entries : List (KeyText × Value)}
    (h : ∀ e ∈ entries, e.2.Inline (nestingLimit - 1)) (rest : List Char) :
    readLines? (entryChars entries ++ rest)
      = (entries.map (fun e => Line.entry e.1.key e.2) ++ ·) <$> readLines? rest := by
  induction entries with
  | nil => exact (id_map _).symm
  | cons e entries ih =>
    have hchars : entryChars (e :: entries) ++ rest
        = assignmentChars e.1 e.2.chars ++ '\n' :: (entryChars entries ++ rest) := by
      simp [entryChars]
    have hline := readLine?_entry e.1 (h e List.mem_cons_self) (entryChars entries ++ rest)
    -- a line is read off, and what follows it is shorter
    rw [hchars, readLines?_cons hline (by simp; omega), ih fun d hd => h d (List.mem_cons_of_mem _ hd)]
    cases readLines? rest <;> rfl

/-- The lines of a section are read one after the other. -/
theorem readLines?_chars {s : SectionText} (h : s.Inline) (rest : List Char) :
    readLines? (s.chars ++ rest) = (s.lines ++ ·) <$> readLines? rest := by
  have hchars : s.chars ++ rest = s.header.chars ++ (entryChars s.entries ++ '\n' :: rest) := by
    simp [chars]
  have hheader := readLine?_header s.header (entryChars s.entries ++ '\n' :: rest)
  have hblank : readLines? ('\n' :: rest) = (Line.blank :: ·) <$> readLines? rest :=
    readLines?_cons rfl (Nat.lt_succ_self _)
  have hlength : 0 < s.header.chars.length := by
    cases s.header <;> exact Nat.succ_pos _
  rw [hchars, readLines?_cons hheader (by simp only [List.length_append]; omega), readLines?_entryChars h,
    hblank]
  cases readLines? rest <;> simp [lines]

/-- The lines of a section are taken together again, if another section or nothing follows. -/
theorem sections_lines_append (s : SectionText) {more : List Line} {rest : List Section}
    (h : sections more = ([], rest)) : sections (s.lines ++ more) = ([], s.toSection :: rest) := by
  -- the blank line ends the entries of the section, and brings none itself
  have hentries : ∀ entries : List (KeyText × Value),
      sections (entries.map (fun e => Line.entry e.1.key e.2) ++ .blank :: more)
        = (entries.map fun e => (e.1.key, e.2), rest) := by
    intro entries
    induction entries with
    | nil => exact h
    | cons e entries ih =>
      rw [List.map_cons, List.cons_append, sections, ih]
      rfl
  unfold lines toSection
  rw [List.cons_append, List.append_assoc, List.singleton_append]
  cases s.header with
  | table k => rw [HeaderText.line, sections, hentries]; rfl
  | element k => rw [HeaderText.line, sections, hentries]; rfl

end SectionText

/-- Sections are read one after the other. -/
theorem readLines?_sections {secs : List SectionText} (h : ∀ s ∈ secs, s.Inline) :
    readLines? (secs.flatMap SectionText.chars) = some (secs.flatMap SectionText.lines) := by
  induction secs with
  | nil => rw [List.flatMap_nil, readLines?, if_pos rfl]; rfl
  | cons s secs ih =>
    rw [List.flatMap_cons, SectionText.readLines?_chars (h s List.mem_cons_self),
      ih fun t ht => h t (List.mem_cons_of_mem _ ht)]
    rfl

theorem sections_lines (secs : List SectionText) :
    sections (secs.flatMap SectionText.lines) = ([], secs.map SectionText.toSection) := by
  induction secs with
  | nil => rfl
  | cons s secs ih => exact s.sections_lines_append ih

/-- **Written documents are read back.**  A document that is written as sections defines the table that
    these sections define, if they agree with each other. -/
theorem ofText?_sections {secs : List SectionText} (h : ∀ s ∈ secs, s.Inline) :
    ofText? (String.ofList (secs.flatMap SectionText.chars))
      = build? [] (secs.map SectionText.toSection) := by
  -- a document begins with a bracket, and not with a mark of byte order
  have hmark : dropByteOrderMark (secs.flatMap SectionText.chars) = secs.flatMap SectionText.chars := by
    cases secs with
    | nil => rfl
    | cons s secs =>
      obtain ⟨cs, hcs⟩ : ∃ cs, s.chars = '[' :: cs := by
        unfold SectionText.chars
        cases s.header <;> exact ⟨_, rfl⟩
      rw [List.flatMap_cons, hcs]
      rfl
  unfold ofText?
  rw [String.toList_ofList, hmark, readLines?_sections h]
  show build? (sections _).1 (sections _).2 = _
  rw [sections_lines]

end CanaryMetrics.Toml
