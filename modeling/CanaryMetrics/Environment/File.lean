import CanaryMetrics.Environment.Line

namespace CanaryMetrics.Environment

/-!
# Environment files

* `assignments` — the assignments in a file, up to the first line that is not well formed.
* `Environment.load?` — an environment with assignments added to it; variables that have a value keep it,
  and a value may mention the variables that are assigned before it.  No variable can hold a NUL
  character, and there is no such environment when one had to.
-/

/-! ### From bytes to lines -/

/-- The lines of a file, each with the byte that ends it. -/
def rawLines : List UInt8 → List (List UInt8)
  | [] => []
  | b :: bs =>
    if b = 0x0A then [b] :: rawLines bs
    else
      match rawLines bs with
      | [] => [[b]]
      | line :: lines => (b :: line) :: lines

/-- The lines as texts, up to the first one that is no text. -/
def textLines : List (List UInt8) → List (List Char)
  | [] => []
  | line :: lines =>
    match String.fromUTF8? line.toByteArray with
    | none => []
    | some s => s.toList :: textLines lines

/-- A file without the mark of byte order that may stand at its start. -/
def dropByteOrderMark : List UInt8 → List UInt8
  | 0xEF :: 0xBB :: 0xBF :: bs => bs
  | bs => bs

/-! ### From lines to assignments -/

/-- The assignments in lines, up to the first line that is not well formed. -/
def assignmentsOfLines : List (List Char) → List Assignment
  | [] => []
  | line :: lines =>
    match Assignment.ofLine? line with
    | none => []
    | some a => a.toList ++ assignmentsOfLines lines

/-- The assignments in a file. -/
def assignments (content : List UInt8) : List Assignment :=
  assignmentsOfLines (joinLines [] .nothing (textLines (rawLines (dropByteOrderMark content))))

/-! ### Loading -/

/-- An environment with an assignment added to it.  Nothing is assigned to a variable that has a value. -/
def assign? (env : Environment) (a : Assignment) : Option Environment :=
  let value := a.value.expand env
  if (env.get? a.name).isSome then some env
  else if '\x00' ∈ value.toList then none
  else some (env.define a.name value)

/-- An environment with assignments added to it, one after the other. -/
def load? (env : Environment) (as : List Assignment) : Option Environment :=
  as.foldlM assign? env

/-- The names that assignments give a value to or mention. -/
def mentioned (as : List Assignment) : List String :=
  as.flatMap fun a => a.name :: a.value.mentions

/-- An assignment changes no value that is there already. -/
theorem get?_of_assign? {env env' : Environment} {a : Assignment} (h : env.assign? a = some env')
    {name value : String} (hvalue : env.get? name = some value) : env'.get? name = some value := by
  simp only [assign?] at h
  split at h
  · cases h; exact hvalue
  · split at h
    · cases h
    · cases h
      simp [get?_define, hvalue]

/-- Loading changes no value that is there already. -/
theorem get?_of_load? {as : List Assignment} {env env' : Environment} (h : env.load? as = some env')
    {name value : String} (hvalue : env.get? name = some value) : env'.get? name = some value := by
  induction as generalizing env with
  | nil => cases h; exact hvalue
  | cons a as ih =>
    simp only [load?, List.foldlM_cons, bind, Option.bind_eq_some_iff] at h
    obtain ⟨next, hnext, h⟩ := h
    exact ih h (get?_of_assign? hnext hvalue)

/-! ### Unit test: a file and what it does not change, names that reach into a value, and a value that no
    variable can hold -/

example :
    let env := Environment.load? ⟨[("A", "a")]⟩
      (assignments "\uFEFF# c\nA=b\n\nB=\"$\x7bA\x7d\nx\" # d\r\nB=c\nC=$B \n D=1\nE".toUTF8.data.toList)
    env.map (fun env => ["A", "B", "C", "D", "E"].map env.get?)
      = some [some "a", some "a\nx", some "a\nx", some "1", none] := by
  decide +kernel

example :
    let env := Environment.load? ⟨[]⟩
      (assignments "A=b=c\nA=d=e\nB=[$\x7bA=b\x7d-$\x7bA=d\x7d-$\x7bA=\x7d]".toUTF8.data.toList)
    env.bind (fun env => env.get? "B") = some "[c--]" := by
  decide +kernel

example :
    let as := assignments "A='\x00'".toUTF8.data.toList
    Environment.load? ⟨[]⟩ as = none ∧ Environment.load? ⟨[("A", "a")]⟩ as = some ⟨[("A", "a")]⟩ := by
  decide +kernel

end CanaryMetrics.Environment
