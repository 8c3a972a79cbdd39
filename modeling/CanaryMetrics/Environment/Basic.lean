namespace CanaryMetrics

/-!
# Environments

* `Environment` — variables with their values.
* `Environment.get?` — the value of a name: what follows the name and an equals sign in the first
  variable that is written so, as `variable=value`.  The name of a variable has the variable's value
  (`valueIn?_of_not_mem`); and where the variable `A` has the value `b=c`, the name `A=b` has the value `c`.
* `Environment.define` — adds a variable with its value; no name that has a value gets another one.
-/

/-- Variables with their values. -/
structure Environment where
  /-- Variables with values; the first one that gives a name a value counts. -/
  bindings : List (String × String) := []
deriving DecidableEq, Repr, Inhabited

namespace Environment

/-! ### One variable -/

/-- The value that a variable gives a name: what follows the name and an equals sign where the variable is
    written with its value, as `variable=value`.  The empty name has none. -/
def valueIn? (name : String) (binding : String × String) : Option String :=
  if name = "" then none
  else
    ((name.toList ++ ['=']).isPrefixOf? (binding.1.toList ++ '=' :: binding.2.toList)).map String.ofList

/-- One list begins with another when their first members agree and then the rest does. -/
theorem isPrefixOf?_cons_cons (c d : Char) (cs ds : List Char) :
    (c :: cs).isPrefixOf? (d :: ds) = if c == d then cs.isPrefixOf? ds else none := rfl

/-- What stands before the first equals sign is one name only. -/
theorem isPrefixOf?_append_equals {name other : List Char} (hname : '=' ∉ name) (hother : '=' ∉ other)
    (value : List Char) :
    (name ++ ['=']).isPrefixOf? (other ++ '=' :: value) = if name = other then some value else none := by
  -- the names are compared character by character; the sign ends both, since neither holds one
  induction name generalizing other with
  | nil =>
    cases other with
    | nil => rfl
    | cons d ds =>
      simp only [List.mem_cons, not_or] at hother
      simp [isPrefixOf?_cons_cons, hother.1]
  | cons c cs ih =>
    simp only [List.mem_cons, not_or] at hname
    cases other with
    | nil => simp [isPrefixOf?_cons_cons, Ne.symm hname.1]
    | cons d ds =>
      simp only [List.mem_cons, not_or] at hother
      by_cases h : c = d
      · simp [isPrefixOf?_cons_cons, h, ih hname.2 hother.2]
      · simp [isPrefixOf?_cons_cons, h]

/-- A variable gives its value to its own name and to no other name without an equals sign. -/
theorem valueIn?_of_not_mem {name other : String} (hname : '=' ∉ name.toList) (hother : '=' ∉ other.toList)
    (value : String) :
    valueIn? name (other, value) = if name ≠ "" ∧ name = other then some value else none := by
  by_cases h : name = ""
  · simp [valueIn?, h]
  · simp only [valueIn?, if_neg h, isPrefixOf?_append_equals hname hother, String.toList_inj]
    by_cases h' : name = other
    · simp [h', h' ▸ h]
    · simp [h']

/-! ### All variables -/

/-- The value of a name, if it has one. -/
def get? (env : Environment) (name : String) : Option String :=
  env.bindings.findSome? (valueIn? name)

/-- An environment with one more variable. -/
def define (env : Environment) (name value : String) : Environment :=
  ⟨env.bindings ++ [(name, value)]⟩

/-- A name keeps the value that it has; otherwise the new variable may give it one. -/
theorem get?_define (env : Environment) (name value other : String) :
    (env.define name value).get? other = (env.get? other).or (valueIn? other (name, value)) := by
  simp only [get?, define, List.findSome?_append, List.findSome?_cons, List.findSome?_nil]
  cases valueIn? other (name, value) <;> rfl

/-! ### Unit test: names with their values -/

example :
    let env : Environment := ⟨[("A", "b=c=d"), ("B", ""), ("C", "=x"), ("", "y")]⟩
    ["A", "A=b", "A=b=c", "A=", "A=c", "B", "B=", "C=", "C=x", "", "D"].map env.get?
      = [some "b=c=d", some "c=d", some "d", none, none, some "", none, some "x", none, none, none] := by
  decide +kernel

end Environment

end CanaryMetrics
