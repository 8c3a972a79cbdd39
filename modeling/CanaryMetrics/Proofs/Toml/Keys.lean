import CanaryMetrics.Proofs.Text.DigitRun
import CanaryMetrics.Proofs.Toml.Strings
import CanaryMetrics.Toml.Syntax
import Mathlib.Data.List.DropRight

namespace CanaryMetrics.Toml

open Text

/-!
# Written keys are read back

* `KeyPart`, `KeyText` — a key without dots and a dotted key, as they are written.
* `readSimpleKey?_chars`, `readKey?_chars` — both are read as what they spell.
* `readAssignment?_chars` — so is a key with an equals sign and a value behind it.
-/

/-! ### Blanks -/

theorem skipBlanks_cons {c : Char} (h : isBlank c = false) (cs : List Char) :
    skipBlanks (c :: cs) = c :: cs :=
  List.dropWhile_cons_of_neg (by simp [h])

theorem skipBlanks_skipBlanks (cs : List Char) : skipBlanks (skipBlanks cs) = skipBlanks cs :=
  List.dropWhile_idempotent isBlank cs

/-! ### Keys without dots -/

/-- A key without dots, as it is written. -/
inductive KeyPart
  /-- A key that needs no quotes. -/
  | bare (name : String)
      (isBare : name.toList ≠ [] ∧ name.toList.all isBareKeyChar = true := by decide)
  /-- A key between quotes. -/
  | quoted (key : String)

namespace KeyPart

/-- The key that is spelled. -/
def key : KeyPart → String
  | bare name _ => name
  | quoted key => key

@[simp] theorem key_bare (name : String) (h) : (bare name h).key = name := rfl

@[simp] theorem key_quoted (key : String) : (quoted key).key = key := rfl

/-- The key as it is written. -/
def chars : KeyPart → List Char
  | bare name _ => name.toList
  | quoted key => quotedChars key

/-- The characters with which written keys begin. -/
def isStart (c : Char) : Bool :=
  isBareKeyChar c || c = '"'

/-- None of these characters is passed over in front of a line or begins a header. -/
theorem ne_of_isStart {c : Char} (h : isStart c = true) :
    ∀ d ∈ [' ', '\t', '\n', '\r', '#', '['], c ≠ d :=
  ne_of_all_not (by decide) h

/-- A written key is not empty. -/
theorem exists_chars_eq_cons (p : KeyPart) : ∃ c cs, p.chars = c :: cs ∧ isStart c = true := by
  cases p with
  | bare name h =>
    obtain ⟨c, cs, hname⟩ := List.exists_cons_of_ne_nil h.1
    have hc : isBareKeyChar c = true := List.all_eq_true.1 h.2 c (hname ▸ List.mem_cons_self)
    exact ⟨c, cs, hname, by simp [isStart, hc]⟩
  | quoted key => exact ⟨'"', _, rfl, by decide⟩

/-- Nothing is passed over in front of a key. -/
theorem skipBlanks_of_isStart {c : Char} (h : isStart c = true) (cs : List Char) :
    skipBlanks (c :: cs) = c :: cs := by
  have hne := ne_of_isStart h
  refine skipBlanks_cons ?_ cs
  simp [isBlank, hne ' ' (by decide), hne '\t' (by decide)]

/-- A written key does not begin with a blank. -/
theorem skipBlanks_chars_append (p : KeyPart) (rest : List Char) :
    skipBlanks (p.chars ++ rest) = p.chars ++ rest := by
  obtain ⟨c, cs, hchars, hc⟩ := p.exists_chars_eq_cons
  rw [hchars]
  exact skipBlanks_of_isStart hc _

/-- What comes next does not prolong a key. -/
def Ends (cs : List Char) : Prop :=
  ∀ c ∈ cs.head?, isBareKeyChar c = false

@[simp] theorem ends_cons {c : Char} {cs : List Char} :
    Ends (c :: cs) ↔ isBareKeyChar c = false := by
  simp [Ends]

/-- A written key is read as what it spells when nothing prolongs it. -/
theorem readSimpleKey?_chars (p : KeyPart) {rest : List Char} (hrest : Ends rest) :
    readSimpleKey? (p.chars ++ rest) = some (p.key, rest) := by
  cases p with
  | quoted key =>
    have hchars : quotedChars key ++ rest = '"' :: (key.toList.flatMap escape ++ '"' :: rest) := by
      rw [quotedChars, List.cons_append, List.append_assoc, List.singleton_append]
    rw [chars, hchars, readSimpleKey?]
    exact readBasic?_escaped key rest
  | bare name h =>
    obtain ⟨hne, hall⟩ := h
    rw [List.all_eq_true] at hall
    -- neither mark of a string comes first
    have hfirst : ∀ c ∈ ['"', '\''], ∀ cs, name.toList ++ rest ≠ c :: cs := by
      intro c hc cs heq
      obtain ⟨d, ds, hname⟩ := List.exists_cons_of_ne_nil hne
      rw [hname, List.cons_append] at heq
      have hbare : isBareKeyChar d = true := hall d (hname ▸ List.mem_cons_self)
      exact ne_of_all_not (by decide) hbare c hc (List.cons.inj heq).1
    rw [chars, readSimpleKey?]
    · simp only [takeWhile_run_append hall hrest, dropWhile_run_append hall hrest, if_neg hne,
        String.ofList_toList]
      rfl
    · exact hfirst '"' (by decide)
    · exact hfirst '\'' (by decide)

end KeyPart

/-! ### Dotted keys -/

/-- A dotted key, as it is written. -/
structure KeyText where
  /-- The keys of the tables on the way, outermost first. -/
  path : List KeyPart
  /-- The last key. -/
  last : KeyPart
  /-- The key is not dotted too deeply. -/
  shallow : path.length + 1 < nestingLimit := by decide

namespace KeyText

/-- A key without dots as a whole key. -/
def single (p : KeyPart) : KeyText where
  path := []
  last := p

/-- A key with one table on the way. -/
def below (table p : KeyPart) : KeyText where
  path := [table]
  last := p
  shallow := show 1 + 1 < nestingLimit by decide

/-- The key that is spelled. -/
def key (k : KeyText) : Key :=
  ⟨k.path.map KeyPart.key, k.last.key⟩

/-- The keys on the way, each with the dot behind it. -/
def pathChars (path : List KeyPart) : List Char :=
  path.flatMap fun p => p.chars ++ ['.']

/-- The key as it is written. -/
def chars (k : KeyText) : List Char :=
  pathChars k.path ++ k.last.chars

theorem exists_chars_eq_cons (k : KeyText) :
    ∃ c cs, k.chars = c :: cs ∧ KeyPart.isStart c = true := by
  unfold chars pathChars
  cases k.path with
  | nil => exact k.last.exists_chars_eq_cons
  | cons p path =>
    obtain ⟨c, cs, hchars, hc⟩ := p.exists_chars_eq_cons
    exact ⟨c, _, by rw [List.flatMap_cons, hchars]; rfl, hc⟩

/-- The parts of a written key are read one after the other, with the blanks behind the last one. -/
theorem readKeyParts?_chars {parts : Nat} {path : List KeyPart} (hparts : path.length < parts)
    (last : KeyPart) {rest : List Char} (hrest : KeyPart.Ends rest)
    (hdot : ∀ cs, skipBlanks rest ≠ '.' :: cs) :
    readKeyParts? parts (pathChars path ++ (last.chars ++ rest))
      = some (⟨path.map KeyPart.key, last.key⟩, skipBlanks rest) := by
  -- the bound on the number of parts is at the same time the fuel of the reader
  induction path generalizing parts with
  | nil =>
    obtain ⟨parts, rfl⟩ : ∃ n, parts = n + 1 := ⟨parts - 1, by omega⟩
    rw [readKeyParts?]
    show (readSimpleKey? (skipBlanks (last.chars ++ rest))).bind _ = _
    rw [last.skipBlanks_chars_append, last.readSimpleKey?_chars hrest, Option.bind_some]
    -- no dot follows, so this part is the last one
    dsimp only
    split
    · rename_i cs hcs
      exact absurd hcs (hdot cs)
    · rfl
  | cons p path ih =>
    obtain ⟨parts, rfl⟩ : ∃ n, parts = n + 1 := ⟨parts - 1, by omega⟩
    have hpath : path.length < parts := by
      rw [List.length_cons] at hparts
      omega
    have hchars : pathChars (p :: path) ++ (last.chars ++ rest)
        = p.chars ++ '.' :: (pathChars path ++ (last.chars ++ rest)) := by
      simp [pathChars]
    rw [hchars, readKeyParts?, p.skipBlanks_chars_append, p.readSimpleKey?_chars (by simp; decide)]
    simp only [Option.bind_eq_bind, Option.bind_some,
      skipBlanks_cons (show isBlank '.' = false by decide), ih hpath]
    rfl

/-- A written key is read as what it spells, with the blanks behind it. -/
theorem readKey?_chars (k : KeyText) {rest : List Char} (hrest : KeyPart.Ends rest)
    (hdot : ∀ cs, skipBlanks rest ≠ '.' :: cs) :
    readKey? (k.chars ++ rest) = some (k.key, skipBlanks rest) := by
  have hshallow := k.shallow
  unfold readKey? chars
  rw [List.append_assoc]
  exact readKeyParts?_chars (by omega) k.last hrest hdot

end KeyText

/-! ### Assignments -/

/-- A written key with an equals sign and a value behind it. -/
def assignmentChars (k : KeyText) (value : List Char) : List Char :=
  k.chars ++ ' ' :: '=' :: ' ' :: value

/-- An assignment is read when its value is. -/
theorem readAssignment?_chars {read : Reader α} (k : KeyText) {value rest : List Char} {a : α}
    (hread : read (skipBlanks value) = some (a, rest)) :
    readAssignment? read (assignmentChars k value) = some ((k.key, a), rest) := by
  -- the blank behind the key belongs to the key, and the one behind the equals sign to the value
  have hkey : readKey? (assignmentChars k value) = some (k.key, '=' :: ' ' :: value) :=
    k.readKey?_chars (by simp; decide) fun cs h => absurd (List.cons.inj h).1 (by decide)
  have hblank : skipBlanks (' ' :: value) = skipBlanks value := rfl
  unfold readAssignment?
  rw [hkey]
  simp only [Option.bind_eq_bind, Option.bind_some, hblank, hread]
  rfl

/-- Blanks in front of an assignment make no difference. -/
theorem readAssignment?_skipBlanks (read : Reader α) (cs : List Char) :
    readAssignment? read (skipBlanks cs) = readAssignment? read cs := by
  -- the reader of a key skips blanks first, as long as there is fuel for one part
  have hkey : readKey? (skipBlanks cs) = readKey? cs := by
    show readKeyParts? (78 + 1) (skipBlanks cs) = readKeyParts? (78 + 1) cs
    rw [readKeyParts?, readKeyParts?, skipBlanks_skipBlanks]
  unfold readAssignment?
  rw [hkey]

end CanaryMetrics.Toml
