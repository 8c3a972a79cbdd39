import CanaryMetrics.Proofs.Datum.Types
import CanaryMetrics.Proofs.Json.Members
import CanaryMetrics.Proofs.Json.Values

namespace CanaryMetrics.Scope

open Datum
open Json.Value (under known Optional IsString IsStringMap IsInstant IsWord memberData)

/-!
# Which objects describe a scope

* `slotted`, `fillsSlots_read` — a draft of a scope has a slot for each field, which is filled once if what
  stands under the field is not refused.
* `ofMembers_eq_error_iff` — members are not read as a scope exactly when one of them is not.
* `Described` — what the members of a JSON object must be to describe a scope.
* `ofMembers_eq_ok_iff` — the scope that is read is the one described.
* `Described.perm`, `ofMembers_eq_of_known` — the order of the members makes no difference to it, and
  members under other keys make none at all.
* `ofJson_scope_object` — so which objects are read, as which scope, and why others are not.
-/

/-! ### The slots of a draft -/

namespace Field

/-- What is read of a field.  Only the further parameters must have a value. -/
abbrev Content : Field → Type
  | expression => Option String
  | location => Option String
  | start => Option Instant
  | stop => Option Instant
  | step => Option UInt64
  | params => StringMap

/-- Reads what stands under a field. -/
def readContent : (field : Field) → Datum → Except ReadError field.Content
  | expression => fun d => d.readOptional readString
  | location => fun d => d.readOptional readString
  | start => fun d => d.readOptional readInstant
  | stop => fun d => d.readOptional readInstant
  | step => fun d => d.readOptional readWord
  | params => readStringMap

/-- Why what stands under the key of a field is refused. -/
def Refused : Field → Datum → ReadError → Prop
  | expression, d, e => d ≠ .null ∧ NoString d e
  | location, d, e => d ≠ .null ∧ NoString d e
  | start, d, e => d ≠ .null ∧ NoInstant d e
  | stop, d, e => d ≠ .null ∧ NoInstant d e
  | step, d, e => d ≠ .null ∧ NoWord d e
  | params, d, e => NoStringMap d e

theorem readContent_eq_error_iff {field : Field} {d : Datum} {e : ReadError} :
    field.readContent d = .error e ↔ field.Refused d e := by
  cases field with
  | expression | location =>
    simp only [readContent, Refused, readOptional_eq_error_iff, readString_eq_error_iff]
  | start | stop =>
    simp only [readContent, Refused, readOptional_eq_error_iff, readInstant_eq_error_iff]
  | step => simp only [readContent, Refused, readOptional_eq_error_iff, readWord_eq_error_iff]
  | params => simp only [readContent, Refused, readStringMap_eq_error_iff]

theorem ofKey?_eq_some_iff {field : Field} {key : String} : ofKey? key = some field ↔ key ∈ [field.name] := by
  rw [List.mem_singleton]
  constructor
  · intro h
    have hname := List.find?_some h
    exact (of_decide_eq_true hname).symm
  · rintro rfl
    exact ofKey?_name field

end Field

namespace Draft

/-- What a draft has of a field. -/
def slot : (field : Field) → Draft → Option field.Content
  | .expression, draft => draft.expression
  | .location, draft => draft.location
  | .start, draft => draft.start
  | .stop, draft => draft.stop
  | .step, draft => draft.step
  | .params, draft => draft.params

/-- Replaces what a draft has of a field. -/
def put : (field : Field) → Draft → Option field.Content → Draft
  | .expression, draft, filled => { draft with expression := filled }
  | .location, draft, filled => { draft with location := filled }
  | .start, draft, filled => { draft with start := filled }
  | .stop, draft, filled => { draft with stop := filled }
  | .step, draft, filled => { draft with step := filled }
  | .params, draft, filled => { draft with params := filled }

end Draft

theorem slotted : Slotted Field.name Draft.read Draft.slot Draft.put Field.readContent where
  read_eq := by
    intro draft field d
    cases field <;> rfl
  slot_put := by
    intro field draft filled
    cases field <;> rfl
  slot_put_of_ne := by
    intro field other hne draft filled
    cases field <;> cases other <;> first | rfl | exact absurd rfl hne
  ext := by
    intro draft draft' h
    have hexpression : draft.expression = draft'.expression := h .expression
    have hlocation : draft.location = draft'.location := h .location
    have hstart : draft.start = draft'.start := h .start
    have hstop : draft.stop = draft'.stop := h .stop
    have hstep : draft.step = draft'.step := h .step
    have hparams : draft.params = draft'.params := h .params
    cases draft
    cases draft'
    simp_all

theorem slot_empty (field : Field) : Draft.slot field {} = none := by
  cases field <;> rfl

/-- Each field of a scope is read once, if it is not refused. -/
theorem fillsSlots_read : FillsSlots Field.name Field.Refused Draft.read
    (fun field draft => Draft.slot field draft ≠ none) :=
  slotted.fillsSlots fun _ _ _ => Field.readContent_eq_error_iff

/-- **Members are not read as a scope for the first of them that is not read.** -/
theorem ofMembers_eq_error_iff {members : List (Option String × Datum)} {e : ReadError} :
    ofMembers members = .error e ↔ FirstOffence Field.ofKey? Field.name Field.Refused members e := by
  unfold ofMembers
  rw [bind_pure_eq_error_iff, fillsSlots_read.readMembers_eq_error_iff_firstOffence
    fun field => not_not_intro (slot_empty field)]

/-! ### The members of an object -/

variable {members members' : List (Option String × Json.Value)} {s : Scope}

/-- The members of an object describe a scope.  Members under other keys do not matter. -/
structure Described (members : List (Option String × Json.Value)) (s : Scope) : Prop where
  /-- All keys are texts. -/
  keys : ∀ member ∈ members, member.1 ≠ none
  /-- The expression. -/
  expression : Optional IsString (under ["scope"] members) s.expression
  /-- The location. -/
  location : Optional IsString (under ["location"] members) s.location
  /-- The start of the window. -/
  start : Optional IsInstant (under ["start"] members) s.start
  /-- The end of the window. -/
  stop : Optional IsInstant (under ["end"] members) s.stop
  /-- The step. -/
  step : Optional IsWord (under ["step"] members) s.step
  /-- The further parameters, which may be missing, but not `null`. -/
  params : under ["extendedScopeParams"] members = [] ∧ s.params = ∅ ∨
    ∃ v, under ["extendedScopeParams"] members = [v] ∧ IsStringMap v s.params

/-- The values under the key of a field are the data that are read into its slot. -/
theorem named_memberData (field : Field) (members : List (Option String × Json.Value)) :
    named Field.ofKey? field (memberData members) = (under [field.name] members).map Json.Value.datum :=
  Json.Value.named_memberData (fun _ => Field.ofKey?_eq_some_iff) members

/-- What the slot of the further parameters holds, which are empty if they are missing. -/
theorem holds_params_iff {vs : List Json.Value} {params : StringMap} :
    (∃ held, Holds readStringMap (vs.map Json.Value.datum) held ∧ held.getD ∅ = params) ↔
      vs = [] ∧ params = ∅ ∨ ∃ v, vs = [v] ∧ IsStringMap v params := by
  simp only [Json.Value.holds_iff fun _ _ => Json.Value.readStringMap_datum_eq_ok_iff]
  constructor
  · rintro ⟨held, ⟨rfl, rfl⟩ | ⟨v, m, rfl, hm, rfl⟩, rfl⟩
    · exact .inl ⟨rfl, rfl⟩
    · exact .inr ⟨v, rfl, hm⟩
  · rintro (⟨rfl, rfl⟩ | ⟨v, rfl, hm⟩)
    · exact ⟨none, .inl ⟨rfl, rfl⟩, rfl⟩
    · exact ⟨some params, .inr ⟨v, params, rfl, hm, rfl⟩, rfl⟩

/-- **The scope that is read is the one described.** -/
theorem ofMembers_eq_ok_iff : ofMembers (memberData members) = .ok s ↔ Described members s := by
  unfold ofMembers
  simp only [bind_eq_ok_iff, slotted.readMembers_eq_ok_iff slot_empty,
    Json.Value.forall_memberData_ne_none_iff, named_memberData]
  constructor
  · rintro ⟨draft, ⟨hkeys, hholds⟩, hfinish⟩
    cases hfinish
    exact
      { keys := hkeys
        expression := Json.Value.optional_string_iff.2 ⟨_, hholds .expression, rfl⟩
        location := Json.Value.optional_string_iff.2 ⟨_, hholds .location, rfl⟩
        start := Json.Value.optional_instant_iff.2 ⟨_, hholds .start, rfl⟩
        stop := Json.Value.optional_instant_iff.2 ⟨_, hholds .stop, rfl⟩
        step := Json.Value.optional_word_iff.2 ⟨_, hholds .step, rfl⟩
        params := holds_params_iff.1 ⟨_, hholds .params, rfl⟩ }
  · intro h
    -- the other way round, the contents of the six slots make the draft that reading ends with
    obtain ⟨expression, hexpression, hexpression'⟩ := Json.Value.optional_string_iff.1 h.expression
    obtain ⟨location, hlocation, hlocation'⟩ := Json.Value.optional_string_iff.1 h.location
    obtain ⟨start, hstart, hstart'⟩ := Json.Value.optional_instant_iff.1 h.start
    obtain ⟨stop, hstop, hstop'⟩ := Json.Value.optional_instant_iff.1 h.stop
    obtain ⟨step, hstep, hstep'⟩ := Json.Value.optional_word_iff.1 h.step
    obtain ⟨params, hparams, hparams'⟩ := holds_params_iff.2 h.params
    refine ⟨⟨expression, location, start, stop, step, params⟩, ⟨h.keys, fun field => ?_⟩, ?_⟩
    · cases field with
      | expression => exact hexpression
      | location => exact hlocation
      | start => exact hstart
      | stop => exact hstop
      | step => exact hstep
      | params => exact hparams
    · cases s
      simp_all [Draft.finish, pure, Except.pure]

/-- The order of the members makes no difference to what they describe. -/
theorem Described.perm (h : Described members s) (hperm : members'.Perm members) :
    Described members' s := by
  have hunder : ∀ keys, (under keys members').Perm (under keys members) :=
    fun keys => (hperm.filter _).map _
  refine ⟨fun member hmember => h.keys member (hperm.mem_iff.1 hmember), h.expression.perm (hunder _),
    h.location.perm (hunder _), h.start.perm (hunder _), h.stop.perm (hunder _), h.step.perm (hunder _),
    ?_⟩
  rcases h.params with ⟨hnil, hparams⟩ | ⟨v, hone, hv⟩
  · exact .inl ⟨(hnil ▸ hunder _).eq_nil, hparams⟩
  · exact .inr ⟨v, List.perm_singleton.1 (hone ▸ hunder _), hv⟩

/-! ### Members under other keys -/

/-- The keys that mean something in a scope. -/
def allKeys : List String :=
  Field.all.map Field.name

theorem isSome_ofKey?_iff (key : String) : (Field.ofKey? key).isSome = true ↔ key ∈ allKeys := by
  rw [Option.isSome_iff_exists, allKeys, List.mem_map]
  simp only [Field.ofKey?_eq_some_iff, List.mem_singleton]
  refine exists_congr fun field => ?_
  rw [and_iff_right (by cases field <;> decide), eq_comm]

/-- Members under other keys make no difference to what is read. -/
theorem ofMembers_eq_of_known (h : known allKeys members' = known allKeys members) :
    ofMembers (memberData members') = ofMembers (memberData members) := by
  unfold ofMembers
  rw [← readMembers_filter_isKnown, ← Json.Value.memberData_known isSome_ofKey?_iff, h,
    Json.Value.memberData_known isSome_ofKey?_iff, readMembers_filter_isKnown]

/-! ### Texts -/

/-- A text that is no instant's, under the first key of a time, is refused for what is wrong with it. -/
theorem firstOffence_notAnInstant {before after : List (Option String × Json.Value)} {key text : String}
    {fault : Instant.ReadError} (hkey : key ∈ ["start", "end"])
    (hbefore : Inoffensive Field.ofKey? Field.name Field.Refused (memberData before))
    (hfirst : under [key] before = []) (hfault : Instant.ofText text = .error fault) :
    FirstOffence Field.ofKey? Field.name Field.Refused
      (memberData (before ++ (some key, .ofString text) :: after)) (.shape (.notAnInstant fault)) := by
  -- either time is refused in the same way
  obtain ⟨field, hname, hrefused⟩ : ∃ field : Field, field.name = key ∧
      field.Refused (.string text) (.shape (.notAnInstant fault)) := by
    simp only [List.mem_cons, List.not_mem_nil, or_false] at hkey
    rcases hkey with rfl | rfl
    · exact ⟨.start, rfl, fun h => (by cases h), .text hfault⟩
    · exact ⟨.stop, rfl, fun h => (by cases h), .text hfault⟩
  subst hname
  refine ⟨memberData before, (some field.name, .string text), memberData after, ?_, hbefore,
    .refused (Field.ofKey?_name field) ?_ hrefused⟩
  · rw [Json.Value.memberData_eq_map, Json.Value.memberData_eq_map, Json.Value.memberData_eq_map,
      List.map_append, List.map_cons, Json.Value.datum_eq_string_iff.2 rfl]
  · rw [named_memberData, hfirst, List.map_nil]

/-- **Objects that describe a scope.**  Of a JSON object with certain members in document order

    * a scope is read exactly if the members describe it;
    * there is an error exactly if a member is not read, since its field has been named before or since it
      is not what the field accepts, and the first such member decides;
    * the message is that of the reader of instants if it is a time's text that spells no instant.

    The scope does not depend on the order of the members, and neither it nor the error on members under
    other keys. -/
theorem ofJson_scope_object {text : String} (h : Json.Value.ofText? text = some (.object members)) :
    (∀ s, ofJson text = .ok s ↔ Described members s) ∧
      (∀ e, ofJson text = .error e ↔
        FirstOffence Field.ofKey? Field.name Field.Refused (memberData members) e) ∧
      (∀ before key time after fault, members = before ++ (some key, .ofString time) :: after →
        key ∈ ["start", "end"] → under [key] before = [] → Instant.ofText time = .error fault →
        Inoffensive Field.ofKey? Field.name Field.Refused (memberData before) →
        ∃ e, ofJson text = .error (.shape e) ∧ e.message = fault.message) ∧
      ∀ text' members', Json.Value.ofText? text' = some (.object members') →
        (members'.Perm members → ∀ s, ofJson text' = .ok s ↔ ofJson text = .ok s) ∧
        (known allKeys members' = known allKeys members → ofJson text' = ofJson text) := by
  have hread : ofJson text = ofMembers (memberData members) := Json.Value.readJson_of_object h _
  -- all that is said about the text is about its members
  rw [hread]
  refine ⟨fun s => ofMembers_eq_ok_iff, fun e => ofMembers_eq_error_iff, ?_, fun text' members' h' => ?_⟩
  · rintro before key time after fault rfl hkey hfirst hfault hbefore
    exact ⟨.notAnInstant fault,
      ofMembers_eq_error_iff.2 (firstOffence_notAnInstant hkey hbefore hfirst hfault), rfl⟩
  · have hread' : ofJson text' = ofMembers (memberData members') := Json.Value.readJson_of_object h' _
    rw [hread']
    constructor
    · intro hperm s
      rw [ofMembers_eq_ok_iff, ofMembers_eq_ok_iff]
      exact ⟨fun hs => hs.perm hperm.symm, fun hs => hs.perm hperm⟩
    · exact ofMembers_eq_of_known

/-- Members of which one is the largest step, one is like a field's but for its spelling, and three are
    `null`. -/
def membersWithLargestStep : List (Option String × Json.Value) :=
  [(some "step", .number ⟨false, "18446744073709551615".toList, [], none⟩), (some "location", .null),
    (some "extended_scope_params", .null), (some "end", .ofString "1970-01-01T00:00:00Z"),
    (some "start", .null)]

/-- The members as an object, one key with an escape. -/
def textWithLargestStep : String :=
  "\x7b\"step\":18446744073709551615, \"loc\\u0061tion\":null, \"extended_scope_params\":null, "
    ++ "\"end\":\"1970-01-01T00:00:00Z\", \"start\":null\x7d"

/-- A step may be as large as a word, and parameters may not be `null` under their own key only. -/
theorem ofJson_scope_object_of_largestStep :
    Json.Value.ofText? textWithLargestStep = some (.object membersWithLargestStep) ∧
      ofJson textWithLargestStep
        = .ok ⟨none, none, none, some { seconds := 0, nanos := 0 }, some 18446744073709551615, ∅⟩ := by
  have htext : Json.Value.ofText? textWithLargestStep = some (.object membersWithLargestStep) :=
    Json.Value.ofText?_of_tokenize? (by decide +kernel)
  have hmembers : Described membersWithLargestStep
      ⟨none, none, none, some { seconds := 0, nanos := 0 }, some 18446744073709551615, ∅⟩ :=
    { keys := by decide
      expression := .missing
      location := .null
      start := .null
      stop := .value (.intro (by decide))
      step := .value (.intro rfl rfl (by decide) (by decide))
      params := .inl ⟨rfl, rfl⟩ }
  exact ⟨htext, ((ofJson_scope_object htext).1 _).2 hmembers⟩

end CanaryMetrics.Scope
