import CanaryMetrics.CommandLine.Arguments
import CanaryMetrics.Datum.Reader
import CanaryMetrics.Proofs.Instant.RoundTrip

namespace CanaryMetrics.Instant

open Calendar Text

/-!
# Accepted texts and their canonical form

Many texts spell an instant, and some of them only after a shift by an offset from UTC.  The reader
makes an instant of the shifted parts only if there is one with these seconds and nanoseconds.  Here
that test is shown to look at nothing but the calendar's range: a leap second that is shifted by an
offset still follows a second 59, and nanoseconds are never too many.

* `OnCalendar`, `exists_instant_iff` — the moments that are instants, by their date.
* `TimeOfDay.OnClock`, `onClock_of_readParts` — what the reader makes sure of while it reads.
* `ofLocal_eq_ok_iff`, `ofLocal_eq_impossible` — what putting the parts together comes to.
* `ofText_canonical` — hence every accepted text has a canonical form, which is accepted and spells
  the same instant.
-/

/-! ### Moments on the calendar -/

/-- The calendar covers the day of a moment, and the nanoseconds do not exceed the second, or the
    leap second after a second 59. -/
structure OnCalendar (seconds : Int) (nanos : Nat) : Prop where
  /-- The day lies in a year of the calendar. -/
  coversYear : coversYear (Date.ofDayNumber (seconds / 86400)).year
  /-- The nanoseconds are those of a second, or of a leap second. -/
  nanos_lt : nanos < nanosPerSecond ∨ seconds % 60 = 59 ∧ nanos < 2 * nanosPerSecond

/-- The bound on nanoseconds is the one that leap seconds call for. -/
theorem lt_nanosBound_iff {seconds : Int} {nanos : Nat} :
    nanos < nanosBound seconds ↔
      nanos < nanosPerSecond ∨ seconds % 60 = 59 ∧ nanos < 2 * nanosPerSecond := by
  unfold nanosBound
  split
  · omega
  · omega

/-- The moments that are instants are those on the calendar. -/
theorem exists_instant_iff {seconds : Int} {nanos : Nat} :
    (∃ t : Instant, t.seconds = seconds ∧ t.nanos = nanos) ↔ OnCalendar seconds nanos := by
  constructor
  · rintro ⟨t, rfl, rfl⟩
    exact ⟨t.coversYear_date, lt_nanosBound_iff.1 t.nanos_lt⟩
  · rintro ⟨hyear, hnanos⟩
    obtain ⟨hfirst, hlast⟩ := coversYear_ofDayNumber_iff.1 hyear
    exact ⟨⟨seconds, nanos, hfirst, hlast, lt_nanosBound_iff.2 hnanos⟩, rfl, rfl⟩

/-! ### What the reader makes sure of -/

/-- The digits that are taken are digits. -/
theorem isDigit_of_digits {limit : Nat} {cs ds rest : List Char}
    (h : digits limit cs = .ok (ds, rest)) : ∀ c ∈ ds, c.isDigit = true := by
  simp only [digits] at h
  split at h
  · cases h
  · cases h
    intro c hc
    exact List.all_eq_true.1 List.all_takeWhile c (List.mem_of_mem_take hc)

/-- A number that is read lies in its range. -/
theorem bounds_of_number {limit low high n : Nat} {cs rest : List Char}
    (h : number limit low high cs = .ok (n, rest)) : low ≤ n ∧ n ≤ high := by
  rw [number] at h
  obtain ⟨⟨ds, after⟩, -, h⟩ := bind_eq_ok_iff.1 h
  simp only at h
  split at h
  · rename_i hrange
    cases h
    exact hrange
  · cases h

/-- However many digits follow a point, they stand for less than a second. -/
theorem nanosOfDigits_lt {ds : List Char} (h : ∀ c ∈ ds, c.isDigit = true) :
    nanosOfDigits ds < nanosPerSecond := by
  have hdigits : ∀ c ∈ (ds.take 9).rightpad 9 '0', c.isDigit = true := by
    intro c hc
    rcases List.mem_append.1 hc with hc | hc
    · exact h c (List.mem_of_mem_take hc)
    · rw [List.eq_of_mem_replicate hc]; decide
  -- whatever their number, nine digits are counted
  have hlength : ((ds.take 9).rightpad 9 '0').length = 9 := by
    rw [List.length_rightpad, List.length_take]
    omega
  have hlt := ofDigitChars_lt hdigits
  rw [hlength] at hlt
  exact hlt

/-- A fraction that is read is less than a second. -/
theorem fraction_lt_of_readFraction {cs rest : List Char} {fraction : Nat}
    (h : readFraction cs = .ok (fraction, rest)) : fraction < nanosPerSecond := by
  unfold readFraction at h
  split at h
  · obtain ⟨⟨ds, after⟩, hds, h⟩ := bind_eq_ok_iff.1 h
    cases h
    exact nanosOfDigits_lt (isDigit_of_digits hds)
  · cases h
    decide

/-- A time of day that a clock shows, a leap second included. -/
structure TimeOfDay.OnClock (time : TimeOfDay) : Prop where
  /-- The hour. -/
  hour_le : time.hour ≤ 23
  /-- The minute. -/
  minute_le : time.minute ≤ 59
  /-- The second. -/
  second_le : time.second ≤ 60
  /-- The nanoseconds. -/
  fraction_lt : time.fraction < nanosPerSecond

/-- A time of day that is read is one that a clock shows. -/
theorem onClock_of_readTimeOfDay {cs rest : List Char} {time : TimeOfDay}
    (h : readTimeOfDay cs = .ok (time, rest)) : time.OnClock := by
  rw [readTimeOfDay] at h
  -- of the steps in between, which pass over blanks and colons, nothing has to be known
  obtain ⟨⟨hour, cs₁⟩, hhour, h⟩ := bind_eq_ok_iff.1 h
  obtain ⟨cs₂, -, h⟩ := bind_eq_ok_iff.1 h
  obtain ⟨⟨minute, cs₃⟩, hminute, h⟩ := bind_eq_ok_iff.1 h
  obtain ⟨cs₄, -, h⟩ := bind_eq_ok_iff.1 h
  obtain ⟨⟨second, cs₅⟩, hsecond, h⟩ := bind_eq_ok_iff.1 h
  obtain ⟨⟨fraction, cs₆⟩, hfraction, h⟩ := bind_eq_ok_iff.1 h
  cases h
  exact ⟨(bounds_of_number hhour).2, (bounds_of_number hminute).2, (bounds_of_number hsecond).2,
    fraction_lt_of_readFraction hfraction⟩

/-- The time of day among the parts of a text is one that a clock shows. -/
theorem onClock_of_readParts {cs : List Char} {d : Date} {time : TimeOfDay} {zone : Int}
    (h : readParts cs = .ok (d, time, zone)) : time.OnClock := by
  rw [readParts] at h
  obtain ⟨⟨d', cs₁⟩, -, h⟩ := bind_eq_ok_iff.1 h
  obtain ⟨cs₂, -, h⟩ := bind_eq_ok_iff.1 h
  obtain ⟨⟨time', cs₃⟩, htime, h⟩ := bind_eq_ok_iff.1 h
  obtain ⟨⟨zone', cs₄⟩, -, h⟩ := bind_eq_ok_iff.1 h
  simp only at h
  split at h
  · cases h
    exact onClock_of_readTimeOfDay htime
  · cases h

/-! ### Putting the parts together -/

variable {d : Date} {time : TimeOfDay} {zone : Int} {t : Instant}

/-- The seconds of a date and time of day in a zone, moved to UTC. -/
def utcSeconds (d : Date) (time : TimeOfDay) (zone : Int) : Int :=
  localSeconds d time - zone * 60

/-- The nanoseconds of a time of day; those of a second 60 are counted from the second before it. -/
def TimeOfDay.nanos (time : TimeOfDay) : Nat :=
  time.fraction + if time.second = 60 then nanosPerSecond else 0

/-- The date and the zone of a text can be put together with its time of day. -/
structure Joinable (d : Date) (zone : Int) : Prop where
  /-- The zone is less than a day away. -/
  zone_lt : zone.natAbs < 1440
  /-- The date exists. -/
  dateExists : d.Exists
  /-- The calendar covers the date. -/
  coversYear : coversYear d.year

/-- A leap second is moved by whole minutes, so it still follows a second 59. -/
theorem utcSeconds_mod_of_leap (h : time.second = 60) : utcSeconds d time zone % 60 = 59 := by
  unfold utcSeconds localSeconds
  rw [h]
  -- days, hours, minutes and the zone are whole minutes, and a second 60 counts as 59
  omega

/-- The nanoseconds of a clock's time are never too many. -/
theorem nanos_lt_nanosBound (h : time.OnClock) :
    time.nanos < nanosBound (utcSeconds d time zone) := by
  have hfraction := h.fraction_lt
  rw [lt_nanosBound_iff]
  unfold TimeOfDay.nanos
  split
  · rename_i hleap
    exact .inr ⟨utcSeconds_mod_of_leap hleap, by omega⟩
  · exact .inl (by omega)

/-- Parts are an instant exactly when they can be put together and the calendar covers the day in UTC;
    its seconds and nanoseconds are those of the parts. -/
theorem ofLocal_eq_ok_iff :
    ofLocal d time zone = .ok t ↔ Joinable d zone ∧
      coversYear (Date.ofDayNumber (utcSeconds d time zone / 86400)).year ∧
      t.seconds = utcSeconds d time zone ∧ t.nanos = time.nanos := by
  -- an instant is made exactly if it is on the calendar, and then of these seconds and nanoseconds
  have hparts : ofParts? (localSeconds d time - zone * 60)
      (time.fraction + if time.second = 60 then nanosPerSecond else 0) = some t ↔
      t.seconds = utcSeconds d time zone ∧ t.nanos = time.nanos := ofParts?_eq_some_iff
  constructor
  · intro hlocal
    unfold ofLocal at hlocal
    split at hlocal
    · rename_i hjoinable
      obtain ⟨hzone, hexists, hyear⟩ := hjoinable
      split at hlocal
      · rename_i u hu
        cases hlocal
        obtain ⟨hseconds, hnanos⟩ := hparts.1 hu
        exact ⟨⟨hzone, hexists, hyear⟩, hseconds ▸ t.coversYear_date, hseconds, hnanos⟩
      · cases hlocal
    · cases hlocal
  · rintro ⟨⟨hzone, hexists, hyear⟩, -, ht⟩
    rw [ofLocal, if_pos ⟨hzone, hexists, hyear⟩, hparts.2 ht]

/-- Parts that can be put together but lead out of the calendar are found out. -/
theorem ofLocal_eq_impossible (h : Joinable d zone)
    (hyear : ¬ coversYear (Date.ofDayNumber (utcSeconds d time zone / 86400)).year) :
    ofLocal d time zone = .error .impossible := by
  -- the nanoseconds need not be looked at: the seconds alone are out of range
  have hnone : ofParts? (localSeconds d time - zone * 60)
      (time.fraction + if time.second = 60 then nanosPerSecond else 0) = none := by
    refine dif_neg fun hrange => hyear ?_
    exact coversYear_ofDayNumber_iff.2 ⟨hrange.1, hrange.2.1⟩
  rw [ofLocal, if_pos ⟨h.zone_lt, h.dateExists, h.coversYear⟩, hnone]

/-- Parts that can be put together and stay on the calendar are an instant. -/
theorem exists_ofLocal_eq_ok (htime : time.OnClock) (h : Joinable d zone)
    (hyear : coversYear (Date.ofDayNumber (utcSeconds d time zone / 86400)).year) :
    ∃ t, ofLocal d time zone = .ok t ∧ t.seconds = utcSeconds d time zone ∧
      t.nanos = time.nanos := by
  have hmoment : OnCalendar (utcSeconds d time zone) time.nanos :=
    ⟨hyear, lt_nanosBound_iff.1 (nanos_lt_nanosBound htime)⟩
  obtain ⟨t, ht⟩ := exists_instant_iff.2 hmoment
  exact ⟨t, ofLocal_eq_ok_iff.2 ⟨h, hyear, ht⟩, ht⟩

/-! ### The canonical form of a text -/

/-- A text of an instant in the form in which instants are written. -/
def canonical (s : String) : Except ReadError String :=
  text <$> ofText s

/-- The canonical form of an accepted text is the text of its instant. -/
theorem canonical_of_ofText {s : String} (h : ofText s = .ok t) : canonical s = .ok t.text := by
  rw [canonical, h, map_ok]

/-- A text with a canonical form is the text of an instant. -/
theorem exists_of_canonical {s c : String} (h : canonical s = .ok c) :
    ∃ t, ofText s = .ok t ∧ t.text = c := by
  unfold canonical at h
  cases hs : ofText s with
  | error e => rw [hs] at h; cases h
  | ok t =>
    rw [hs, map_ok] at h
    exact ⟨t, rfl, Except.ok.inj h⟩

/-! ### Where texts of instants stand -/

/-- The end of a scope's window is the instant of its text. -/
theorem readInstant_string_eq_ok_iff {s : String} :
    (Datum.string s).readInstant = .ok t ↔ ofText s = .ok t := by
  unfold Datum.readInstant
  cases h : ofText s <;> simp [h]

/-- The end of a job's window is the instant of its text. -/
theorem readInstant_setting_eq_ok_iff {setting : CommandLine.Setting} {s : String} :
    CommandLine.Settings.readInstant setting s = .ok t ↔ ofText s = .ok t := by
  unfold CommandLine.Settings.readInstant
  cases h : ofText s <;> simp

/-- **Accepted texts have a canonical form.**

    * Whatever text is accepted, the instant lies on the calendar, and its own text is accepted and
      spells the same instant.
    * So bringing a text into canonical form once is enough, and two accepted texts spell the same
      instant exactly if their canonical forms are the same.
    * Every moment on the calendar is an instant, and its text spells it.
    * Of texts whose parts are in order, those that an offset moves off the calendar are refused for
      that reason, and all others spell the moment of their parts.
    * The ends of a scope's window and of a job's window accept the same texts. -/
theorem ofText_canonical :
    (∀ s t, ofText s = .ok t → OnCalendar t.seconds t.nanos ∧ ofText t.text = .ok t) ∧
    (∀ s c, canonical s = .ok c → canonical c = .ok c) ∧
    (∀ s s' t t', ofText s = .ok t → ofText s' = .ok t' →
      (t = t' ↔ canonical s = canonical s')) ∧
    (∀ seconds nanos, OnCalendar seconds nanos →
      ∃ t, t.seconds = seconds ∧ t.nanos = nanos ∧ ofText t.text = .ok t) ∧
    (∀ s d time zone, readParts s.toList = .ok (d, time, zone) → Joinable d zone →
      if coversYear (Date.ofDayNumber (utcSeconds d time zone / 86400)).year then
        ∃ t, ofText s = .ok t ∧ t.seconds = utcSeconds d time zone ∧ t.nanos = time.nanos
      else ofText s = .error .impossible) ∧
    (∀ s t, (Datum.string s).readInstant = .ok t ↔ ofText s = .ok t) ∧
    ∀ setting s t, CommandLine.Settings.readInstant setting s = .ok t ↔ ofText s = .ok t := by
  refine ⟨?_, ?_, ?_, ?_, ?_, ?_, ?_⟩
  · intro s t _
    exact ⟨exists_instant_iff.1 ⟨t, rfl, rfl⟩, ofText_text t⟩
  · -- a canonical form is the text of an instant, so it is read as that instant
    intro s c h
    obtain ⟨t, -, rfl⟩ := exists_of_canonical h
    exact canonical_of_ofText (ofText_text t)
  · intro s s' t t' h h'
    rw [canonical_of_ofText h, canonical_of_ofText h']
    exact ⟨fun heq => by rw [heq], fun heq => text_injective (Except.ok.inj heq)⟩
  · intro seconds nanos h
    obtain ⟨t, hseconds, hnanos⟩ := exists_instant_iff.2 h
    exact ⟨t, hseconds, hnanos, ofText_text t⟩
  · -- only the day in UTC decides, since the time of day is one that a clock shows
    intro s d time zone hparts h
    have htext : ofText s = ofLocal d time zone := by rw [ofText, hparts, ok_bind]
    rw [htext]
    split
    · rename_i hyear
      exact exists_ofLocal_eq_ok (onClock_of_readParts hparts) h hyear
    · rename_i hyear
      exact ofLocal_eq_impossible h hyear
  · exact fun s t => readInstant_string_eq_ok_iff
  · exact fun setting s t => readInstant_setting_eq_ok_iff

/-- A leap second that an offset moves into another day. -/
theorem canonical_of_leap_second :
    ∃ t, ofText "+2016-12-31 18:59 :60.50 -05 00" = .ok t ∧ OnCalendar t.seconds t.nanos ∧
      ofText t.text = .ok t ∧ t.text = "2016-12-31T23:59:60.500Z" := by
  have h : ofText "+2016-12-31 18:59 :60.50 -05 00"
      = .ok ⟨1483228799, 1500000000, by decide, by decide, by decide⟩ := by
    rfl
  obtain ⟨hmoment, hread⟩ := ofText_canonical.1 _ _ h
  exact ⟨_, h, hmoment, hread, by decide⟩

end CanaryMetrics.Instant
