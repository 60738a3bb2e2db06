import ProxSync.Lib.Calendar
import ProxSync.Lib.Lines
import ProxSync.Scheduler.Registration
/-!
# Fire times of accepted expressions

An expression is accepted when each of its fields is, while whether it ever fires depends on its
fields together: the days of a month it names have to be in one of the months it names. Where they
are, it fires after every instant, and the fire times that are listed increase from the start on,
unless the start is one of them, which is then the first.
-/
open ProxSync.Lib

namespace ProxSync.Scheduler.Firing

open Registration

variable {TimeZone Trigger : Type}

/-! ## Acceptance and fire times -/

/-- The normalised expression, if it is accepted. -/
def validateCron (library : Library TimeZone Trigger) (expression timezone : String) :
    Except Raised String := do
  let normalised := join ' ' (words expression)
  let _ ← buildTrigger library normalised timezone
  .ok normalised

/-- The next fire times of a trigger. -/
def fireTimes (library : Library TimeZone Trigger) (trigger : Trigger) :
    ℕ → Option Instant → Instant → List Instant
  | 0, _, _ => []
  | count + 1, previous, reference =>
    match library.getNextFireTime trigger previous reference with
    | none => []
    -- The next one is looked for from this one on, by both of the arguments.
    | some candidate => candidate :: fireTimes library trigger count (some candidate) candidate

/-- The next fire times of an expression. -/
def nextFireTimes (library : Library TimeZone Trigger) (expression timezone : String) (count : ℕ)
    (after : Instant) : Except Raised (List Instant) := do
  let trigger ← buildTrigger library expression timezone
  let _ ← resolveTimezone library timezone
  .ok (fireTimes library trigger count none after)

/-! ## Clocks and fields -/

/-- The time a clock shows. -/
structure LocalTime where
  date : Date
  hour : ℕ
  minute : ℕ
  second : ℕ
  microsecond : ℕ
  hour_lt : hour < 24
  minute_lt : minute < 60
  second_lt : second < 60
  microsecond_lt : microsecond < 1000000

/-- What the fields admit, the days of a month by its length, and the clocks of the timezones. -/
structure Reading (TimeZone : Type) where
  minutes : String → Set ℕ
  hours : String → Set ℕ
  days : String → ℕ → Set ℕ
  months : String → Set ℕ
  clock : TimeZone → Instant → LocalTime

namespace Reading

variable (reading : Reading TimeZone)

/-- Whether the fields of the day and the month admit a date. -/
def AdmitsDate (day month : String) (date : Date) : Prop :=
  date.month ∈ reading.months month ∧ date.day ∈ reading.days day (daysIn date.year date.month)

/-- Whether a time is a full minute that the fields admit, on a day of the week among some. -/
def Shows (minute hour day month : String) (weekdays : Set ℕ) (time : LocalTime) : Prop :=
  time.minute ∈ reading.minutes minute ∧ time.hour ∈ reading.hours hour ∧
    reading.AdmitsDate day month time.date ∧ time.date.weekday ∈ weekdays ∧
    time.second = 0 ∧ time.microsecond = 0

end Reading

/-- The instant from which a trigger looks for the next one. -/
def searchFrom (previous : Option Instant) (now : Instant) : Instant :=
  match previous with
  | none => now
  | some fired =>
    let start := min now (fired + 1)
    if start = fired then start + 1 else start

/-- The next instant with a property, if there is one. -/
def IsNext (holds : Instant → Prop) (start : Instant) : Option Instant → Prop
  | none => ∀ instant, start ≤ instant → ¬ holds instant
  | some next => IsLeast {instant | start ≤ instant ∧ holds instant} next

/-- How the libraries behave: a trigger fires at the full minutes that its own fields admit, each
field that is accepted admits something, and what recurs in the calendar recurs on every clock. -/
structure Behaves (library : Library TimeZone Trigger) (reading : Reading TimeZone) : Prop where
  next : ∀ {minute hour day month dayOfWeek zone trigger},
    library.cronTrigger minute hour day month dayOfWeek zone = .ok trigger → ∀ previous now,
      IsNext (fun instant => reading.Shows minute hour day month ↑(schedulerDays dayOfWeek)
        (reading.clock zone instant)) (searchFrom previous now)
        (library.getNextFireTime trigger previous now)
  exists_minute : ∀ {minute hour day month dayOfWeek zone trigger},
    library.cronTrigger minute hour day month dayOfWeek zone = .ok trigger →
      ∃ value < 60, value ∈ reading.minutes minute
  exists_hour : ∀ {minute hour day month dayOfWeek zone trigger},
    library.cronTrigger minute hour day month dayOfWeek zone = .ok trigger →
      ∃ value < 24, value ∈ reading.hours hour
  star : ∀ date : Date, date.day ∈ reading.days "*" (daysIn date.year date.month)
  clock_recurs : ∀ (zone : TimeZone) {kind : Date.Kind} {date : Date}, kind.Holds date →
    ∀ {hour minute}, hour < 24 → minute < 60 → ∀ start, ∃ instant, start ≤ instant ∧
      kind.Holds (reading.clock zone instant).date ∧ (reading.clock zone instant).hour = hour ∧
      (reading.clock zone instant).minute = minute ∧ (reading.clock zone instant).second = 0 ∧
      (reading.clock zone instant).microsecond = 0

/-- Whether the days and the months of an expression have a date in common. -/
def HasDate (reading : Reading TimeZone) (expression : String) : Prop :=
  ∃ minute hour day month dayOfWeek date,
    words expression = [minute, hour, day, month, dayOfWeek] ∧ reading.AdmitsDate day month date

/-- Whether an expression is due at an instant, by its translated fields. -/
def Due (library : Library TimeZone Trigger) (reading : Reading TimeZone)
    (expression timezone : String) (instant : Instant) : Prop :=
  ∃ minute hour day month dayOfWeek translated zone,
    words expression = [minute, hour, day, month, dayOfWeek] ∧
      translateDayOfWeek dayOfWeek = .ok translated ∧
      resolveTimezone library timezone = .ok zone ∧
      reading.Shows minute hour day month ↑(schedulerDays translated) (reading.clock zone instant)

/-- Whether an instant matches the fields of an expression as they are written, where the days of
the week are numbered from Sunday. -/
def Matches (library : Library TimeZone Trigger) (reading : Reading TimeZone)
    (expression timezone : String) (instant : Instant) : Prop :=
  ∃ minute hour day month dayOfWeek terms zone,
    words expression = [minute, hour, day, month, dayOfWeek] ∧
      readTerms dayOfWeek = some terms ∧ resolveTimezone library timezone = .ok zone ∧
      reading.Shows minute hour day month {weekday | (weekday + 1) % 7 ∈ denoted terms}
        (reading.clock zone instant)

variable {library : Library TimeZone Trigger} {reading : Reading TimeZone}
  {expression timezone normalised : String} {trigger : Trigger} {start : Instant} {count : ℕ}

/-! ## Accepted expressions -/

/-- An expression has a trigger exactly when it has five fields of which a day is free, its timezone
is known, its day of the week is translated and the library accepts the fields. -/
theorem buildTrigger_ok_iff : buildTrigger library expression timezone = .ok trigger ↔
    ∃ minute hour day month dayOfWeek translated zone,
      words expression = [minute, hour, day, month, dayOfWeek] ∧
        (strip day = "*" ∨ strip dayOfWeek = "*") ∧
        resolveTimezone library timezone = .ok zone ∧
        translateDayOfWeek dayOfWeek = .ok translated ∧
        library.cronTrigger minute hour day month translated zone = .ok trigger := by
  unfold buildTrigger
  constructor
  · intro built
    obtain ⟨zone, resolved, built⟩ := bind_eq_ok.mp built
    split at built
    · rename_i minute hour day month dayOfWeek five
      split at built
      · cases built
      · rename_i free
        refine ⟨minute, hour, day, month, dayOfWeek, ?_⟩
        unfold fieldsTrigger at built
        cases translation : translateDayOfWeek dayOfWeek with
        | error refused =>
          rw [translation] at built
          cases built
        | ok translated =>
          rw [translation] at built
          dsimp only at built
          split at built
          · cases built
          · exact ⟨translated, zone, five, by tauto, resolved, rfl, built⟩
    · cases built
  · rintro ⟨minute, hour, day, month, dayOfWeek, translated, zone, five, free, resolved, named,
      built⟩
    apply bind_eq_ok.mpr
    refine ⟨zone, resolved, ?_⟩
    rw [five]
    dsimp only
    rw [if_neg (by tauto)]
    unfold fieldsTrigger
    rw [named]
    dsimp only
    rw [built]

/-- Normalising keeps the words. -/
theorem words_normalised : words (join ' ' (words expression)) = words expression := by
  have chars : (words expression).map String.toList = wordsOf expression.toList := by
    unfold words wordsOf
    rw [List.map_map]
    exact (List.map_congr_left fun word _ => String.toList_ofList).trans (List.map_id _)
  unfold join
  rw [chars]
  show (wordsOf (String.toList (.ofList _))).map String.ofList = (wordsOf _).map String.ofList
  rw [String.toList_ofList, wordsOf_wordsOf]

/-- An accepted expression has a trigger. -/
theorem exists_trigger (accepted : validateCron library expression timezone = .ok normalised) :
    ∃ trigger, buildTrigger library expression timezone = .ok trigger := by
  obtain ⟨trigger, built, -⟩ := bind_eq_ok.mp accepted
  have fields := buildTrigger_ok_iff.mp built
  rw [words_normalised] at fields
  exact ⟨trigger, buildTrigger_ok_iff.mpr fields⟩

/-! ## Days of the week -/

/-- A day of the week of a date has a name. -/
theorem exists_schedulerNumber (date : Date) : ∃ day : Weekday,
    day.schedulerNumber = date.weekday ∧ day.crontabNumber = (date.weekday + 1) % 7 := by
  have all : ∀ number < 7, ∃ day ∈ [Weekday.mon, .tue, .wed, .thu, .fri, .sat, .sun],
      day.schedulerNumber = number ∧ day.crontabNumber = (number + 1) % 7 := by decide
  obtain ⟨day, -, named⟩ := all date.weekday (Nat.mod_lt _ (by decide))
  exact ⟨day, named⟩

/-- A translated field names a day, and only days that its terms denote. -/
theorem translated_days {field out : String} (translated : translateDayOfWeek field = .ok out) :
    ∃ terms, readTerms field = some terms ∧ (∃ day : Weekday,
      day.schedulerNumber ∈ schedulerDays out) ∧ ∀ day : Weekday,
        day.schedulerNumber ∈ schedulerDays out → day.crontabNumber ∈ denoted terms := by
  unfold translateDayOfWeek at translated
  split at translated
  · rename_i star
    obtain rfl := Except.ok.inj translated
    refine ⟨_, readTerms_of_star star, ⟨.mon, by decide⟩, ?_⟩
    intro day _
    cases day <;> decide
  · obtain ⟨days, added, rendered⟩ := bind_eq_ok.mp translated
    obtain ⟨terms, read, formed, rfl⟩ := foldlM_addPart added
    rw [Finset.empty_union] at rendered
    have named := mem_schedulerDays_render (rewritten_subset_range formed) rendered
    refine ⟨terms, read, ?_, ?_⟩
    · obtain ⟨number, inside⟩ :=
        Finset.nonempty_iff_ne_empty.mpr (rewritten_ne_empty formed read)
      obtain ⟨day, rfl⟩ :=
        exists_weekday (Finset.mem_range.mp (rewritten_subset_range formed inside))
      exact ⟨day, (named day).mpr inside⟩
    · intro day inside
      obtain ⟨term, listed, kept⟩ := mem_rewritten.mp ((named day).mp inside)
      exact mem_denoted.mpr ⟨term, listed, translated_subset (formed term listed) kept⟩

/-! ## Recurrence -/

/-- A word has nothing to strip. -/
theorem strip_of_mem_words {word : String} (inside : word ∈ words expression) :
    strip word = word := by
  obtain ⟨chars, part, rfl⟩ := List.mem_map.mp inside
  have solid : ∀ char ∈ chars, isSpace char = false :=
    fun char held => false_of_mem_splitOnP (List.mem_filter.mp part).1 held
  unfold strip
  rw [String.toList_ofList, trim_of_trimmed (trimmed_of_all solid)]

/-- Fields with a date in common are shown after every instant. -/
theorem exists_shown (behaves : Behaves library reading)
    {minute hour day month dayOfWeek translated : String} {zone : TimeZone} {date : Date}
    (built : library.cronTrigger minute hour day month translated zone = .ok trigger)
    (named : translateDayOfWeek dayOfWeek = .ok translated)
    (free : day = "*" ∨ strip dayOfWeek = "*")
    (admitted : reading.AdmitsDate day month date) (start : Instant) :
    ∃ instant, start ≤ instant ∧
      reading.Shows minute hour day month ↑(schedulerDays translated)
        (reading.clock zone instant) := by
  obtain ⟨minuteValue, minute_lt, minutes⟩ := behaves.exists_minute built
  obtain ⟨hourValue, hour_lt, hours⟩ := behaves.exists_hour built
  rcases free with rfl | star
  · -- A day of the week is in every month.
    obtain ⟨terms, -, ⟨weekday, listed⟩, -⟩ := translated_days named
    obtain ⟨other, holds⟩ := Date.exists_monthWeekday date.month_pos date.month_le
      (schedulerNumber_lt weekday)
    obtain ⟨instant, after, ⟨sameMonth, sameDay⟩, shownHour, shownMinute, full⟩ :=
      behaves.clock_recurs zone holds hour_lt minute_lt start
    refine ⟨instant, after, ?_, ?_, ⟨?_, ?_⟩, ?_, full⟩
    · rw [shownMinute]
      exact minutes
    · rw [shownHour]
      exact hours
    · rw [sameMonth]
      exact admitted.1
    · exact behaves.star _
    · rw [sameDay]
      exact listed
  · -- The day of the month recurs in a month of the same length.
    have holds :
        (Date.Kind.monthDay date.month date.day (daysIn date.year date.month)).Holds date :=
      ⟨rfl, rfl, rfl⟩
    obtain ⟨instant, after, ⟨sameMonth, sameDay, sameLength⟩, shownHour, shownMinute, full⟩ :=
      behaves.clock_recurs zone holds hour_lt minute_lt start
    refine ⟨instant, after, ?_, ?_, ⟨?_, ?_⟩, ?_, full⟩
    · rw [shownMinute]
      exact minutes
    · rw [shownHour]
      exact hours
    · rw [sameMonth]
      exact admitted.1
    · rw [sameDay, sameLength]
      exact admitted.2
    · unfold translateDayOfWeek at named
      rw [if_pos star] at named
      obtain rfl := Except.ok.inj named
      show _ ∈ ((Finset.range 7 : Finset ℕ) : Set ℕ)
      rw [Finset.mem_coe, Finset.mem_range]
      exact Nat.mod_lt _ (by decide)

section Times

variable {holds : Instant → Prop} (recurs : ∀ start, ∃ instant, start ≤ instant ∧ holds instant)
  (next : ∀ previous now,
    IsNext holds (searchFrom previous now) (library.getNextFireTime trigger previous now))

include recurs next

/-- What recurs has a next time. -/
theorem exists_next (previous : Option Instant) (now : Instant) : ∃ candidate,
    library.getNextFireTime trigger previous now = some candidate ∧
      searchFrom previous now ≤ candidate ∧ holds candidate := by
  have least := next previous now
  cases found : library.getNextFireTime trigger previous now with
  | none =>
    rw [found] at least
    obtain ⟨instant, after, shown⟩ := recurs (searchFrom previous now)
    exact absurd shown (least instant after)
  | some candidate =>
    rw [found] at least
    exact ⟨candidate, rfl, least.1⟩

/-- The times behind one that fired increase from it on. -/
theorem fireTimes_some (count : ℕ) (fired : Instant) :
    (fireTimes library trigger count (some fired) fired).length = count ∧
      (fired :: fireTimes library trigger count (some fired) fired).IsChain (· < ·) ∧
      ∀ time ∈ fireTimes library trigger count (some fired) fired, holds time := by
  induction count generalizing fired with
  | zero => exact ⟨rfl, List.isChain_singleton _, fun _ inside => absurd inside List.not_mem_nil⟩
  | succ count ih =>
    obtain ⟨candidate, found, after, shown⟩ := exists_next recurs next (some fired) fired
    obtain ⟨length, chain, rest⟩ := ih candidate
    have beyond : fired < candidate := by
      have start : searchFrom (some fired) fired = fired + 1 := by
        simp [searchFrom]
      rw [start] at after
      exact after
    rw [fireTimes, found]
    exact ⟨congrArg (· + 1) length, List.isChain_cons_cons.mpr ⟨beyond, chain⟩,
      List.forall_mem_cons.mpr ⟨shown, rest⟩⟩

/-- The times from a start on are as many as are asked for, and the first is the start itself only
where it fires. -/
theorem fireTimes_none (count : ℕ) (start : Instant) :
    (fireTimes library trigger count none start).length = count ∧
      (∀ time ∈ fireTimes library trigger count none start, holds time) ∧
      ((start :: fireTimes library trigger count none start).Pairwise (· < ·) ↔
        count = 0 ∨ ¬ holds start) := by
  cases count with
  | zero =>
    exact ⟨rfl, fun _ inside => absurd inside List.not_mem_nil,
      iff_of_true (List.pairwise_singleton _ _) (.inl rfl)⟩
  | succ count =>
    obtain ⟨candidate, found, after, shown⟩ := exists_next recurs next none start
    obtain ⟨length, chain, rest⟩ := fireTimes_some recurs next count candidate
    have least := next none start
    rw [found] at least
    rw [fireTimes, found]
    refine ⟨congrArg (· + 1) length, List.forall_mem_cons.mpr ⟨shown, rest⟩, ?_⟩
    rw [← List.isChain_iff_pairwise, List.isChain_cons_cons]
    constructor
    · rintro ⟨beyond, -⟩
      right
      intro fires
      exact absurd (least.2 ⟨le_rfl, fires⟩) (Nat.not_le.mpr beyond)
    · rintro (none | idle)
      · exact absurd none (Nat.succ_ne_zero count)
      · refine ⟨Nat.lt_of_le_of_ne after ?_, chain⟩
        rintro rfl
        exact idle shown

end Times

/-- A time that the translated fields show matches the fields as they are written. -/
theorem matches_of_shows {minute hour day month dayOfWeek translated : String} {zone : TimeZone}
    {time : Instant} (five : words expression = [minute, hour, day, month, dayOfWeek])
    (named : translateDayOfWeek dayOfWeek = .ok translated)
    (resolved : resolveTimezone library timezone = .ok zone)
    (shown : reading.Shows minute hour day month ↑(schedulerDays translated)
      (reading.clock zone time)) : Matches library reading expression timezone time := by
  obtain ⟨minutes, hours, date, weekday, full⟩ := shown
  obtain ⟨terms, read, -, denotes⟩ := translated_days named
  obtain ⟨name, numbered, written⟩ := exists_schedulerNumber (reading.clock zone time).date
  have listed : name.schedulerNumber ∈ schedulerDays translated := by
    rw [numbered]
    exact weekday
  refine ⟨minute, hour, day, month, dayOfWeek, terms, zone, five, read, resolved, minutes, hours,
    date, ?_, full⟩
  show _ ∈ denoted terms
  rw [← written]
  exact denotes name listed

/-- An expression that fires has a date. -/
theorem hasDate_of_next (behaves : Behaves library reading)
    (found : buildTrigger library expression timezone = .ok trigger) {first : Instant}
    (next : library.getNextFireTime trigger none start = some first) :
    HasDate reading expression := by
  obtain ⟨minute, hour, day, month, dayOfWeek, _, _, five, -, -, -, built⟩ :=
    buildTrigger_ok_iff.mp found
  have least := behaves.next built none start
  rw [next] at least
  exact ⟨minute, hour, day, month, dayOfWeek, _, five, least.1.2.2.2.1⟩

/-- An accepted expression fires after every instant, and its next fire times are as many as are
asked for, match its fields as they are written and increase from the start on, exactly when its
days and months have a date in common and the start is not one of them. -/
theorem fires_iff_hasDate (behaves : Behaves library reading)
    (accepted : validateCron library expression timezone = .ok normalised) :
    ((∀ instant, ∃ next, nextFireTime library expression timezone instant = .ok (some next)) ∧
      ∃ times, nextFireTimes library expression timezone count start = .ok times ∧
        times.length = count ∧ (start :: times).Pairwise (· < ·) ∧
        ∀ time ∈ times, Matches library reading expression timezone time) ↔
    HasDate reading expression ∧
      (count = 0 ∨ ¬ Due library reading expression timezone start) := by
  obtain ⟨trigger, found⟩ := exists_trigger accepted
  obtain ⟨minute, hour, day, month, dayOfWeek, translated, zone, five, free, resolved, named,
    built⟩ := buildTrigger_ok_iff.mp found
  have single : ∀ instant, nextFireTime library expression timezone instant =
      .ok (library.getNextFireTime trigger none instant) := by
    intro instant
    unfold nextFireTime
    rw [found, resolved]
    rfl
  have several : nextFireTimes library expression timezone count start =
      .ok (fireTimes library trigger count none start) := by
    unfold nextFireTimes
    rw [found, resolved]
    rfl
  have due : Due library reading expression timezone start ↔ reading.Shows minute hour day month
      ↑(schedulerDays translated) (reading.clock zone start) := by
    constructor
    · rintro ⟨_, _, _, _, _, _, _, five', named', resolved', shown⟩
      obtain ⟨rfl, rfl, rfl, rfl, rfl⟩ : _ ∧ _ ∧ _ ∧ _ ∧ _ := by
        simpa using five.symm.trans five'
      obtain rfl := Except.ok.inj (named.symm.trans named')
      obtain rfl := Except.ok.inj (resolved.symm.trans resolved')
      exact shown
    · intro shown
      exact ⟨minute, hour, day, month, dayOfWeek, translated, zone, five, named, resolved, shown⟩
  have next := behaves.next built
  have recurs : HasDate reading expression → ∀ start, ∃ instant, start ≤ instant ∧
      reading.Shows minute hour day month ↑(schedulerDays translated)
        (reading.clock zone instant) := by
    rintro ⟨_, _, _, _, _, date, five', admitted⟩
    obtain ⟨rfl, rfl, rfl, rfl, rfl⟩ : _ ∧ _ ∧ _ ∧ _ ∧ _ := by
      simpa using five.symm.trans five'
    have trimmed : strip day = day := @strip_of_mem_words expression day (by simp [five])
    rw [trimmed] at free
    exact exists_shown behaves built named free admitted
  rw [due]
  constructor
  · rintro ⟨fires, times, listed, -, increasing, -⟩
    obtain ⟨first, answered⟩ := fires start
    rw [single] at answered
    have dated := hasDate_of_next behaves found (Except.ok.inj answered)
    rw [several] at listed
    obtain rfl := Except.ok.inj listed
    exact ⟨dated, (fireTimes_none (recurs dated) next count start).2.2.mp increasing⟩
  · rintro ⟨dated, idle⟩
    obtain ⟨length, shown, increasing⟩ := fireTimes_none (recurs dated) next count start
    refine ⟨?_, _, several, length, increasing.mpr idle, ?_⟩
    · intro instant
      obtain ⟨candidate, answered, -⟩ := exists_next (recurs dated) next none instant
      exact ⟨candidate, by rw [single, answered]⟩
    · intro time inside
      exact matches_of_shows five named resolved (shown time inside)

/-! ## Universal time -/

/-- The clock of universal time, whose first instant is midnight of the first day of 1970. -/
def utcClock (instant : Instant) : LocalTime where
  date := Date.ofOrdinal (719163 + instant / 86400000000)
  hour := instant / 3600000000 % 24
  minute := instant / 60000000 % 60
  second := instant / 1000000 % 60
  microsecond := instant % 1000000
  hour_lt := Nat.mod_lt _ (by decide)
  minute_lt := Nat.mod_lt _ (by decide)
  second_lt := Nat.mod_lt _ (by decide)
  microsecond_lt := Nat.mod_lt _ (by decide)

/-- The numbers between two bounds that a star or a single number admits. -/
def numbers (low high : ℕ) (field : String) : Finset ℕ :=
  if field = "*" then Finset.Icc low high
  else if isdigit field then
    match int field with
    | .ok number => if low ≤ number ∧ number ≤ high then {number} else ∅
    | .error _ => ∅
  else ∅

/-- Stars and single numbers on the clock of universal time. -/
def utcReading : Reading Unit where
  minutes field := numbers 0 59 field
  hours field := numbers 0 23 field
  days field _ := numbers 1 31 field
  months field := numbers 1 12 field
  clock _ := utcClock

/-- The fields of a trigger. -/
structure Fields where
  minute : String
  hour : String
  day : String
  month : String
  dayOfWeek : String

open Classical in
/-- A library that knows universal time and accepts stars and single numbers. -/
noncomputable def utcLibrary : Library Unit Fields where
  zoneInfo name := if name = "UTC" then .ok () else .error .zoneInfoNotFound
  cronTrigger minute hour day month dayOfWeek _ :=
    if numbers 0 59 minute ≠ ∅ ∧ numbers 0 23 hour ≠ ∅ ∧ numbers 1 31 day ≠ ∅ ∧
        numbers 1 12 month ≠ ∅ then .ok ⟨minute, hour, day, month, dayOfWeek⟩
    else .error (.valueError "Unrecognized expression")
  getNextFireTime trigger previous now :=
    if found : ∃ instant, searchFrom previous now ≤ instant ∧
        utcReading.Shows trigger.minute trigger.hour trigger.day trigger.month
          ↑(schedulerDays trigger.dayOfWeek) (utcClock instant) then
      some (Nat.find found)
    else none

/-- The numbers of a field are within its bounds. -/
theorem numbers_le {low high : ℕ} {field : String} {number : ℕ}
    (inside : number ∈ numbers low high field) : low ≤ number ∧ number ≤ high := by
  unfold numbers at inside
  split at inside
  · exact Finset.mem_Icc.mp inside
  · split at inside
    · split at inside
      · split at inside
        · rw [Finset.mem_singleton.mp inside]
          assumption
        · exact absurd inside (Finset.notMem_empty _)
      · exact absurd inside (Finset.notMem_empty _)
    · exact absurd inside (Finset.notMem_empty _)

/-- Universal time shows every date again, at every minute. -/
theorem utcClock_recurs {kind : Date.Kind} {date : Date} (holds : kind.Holds date)
    {hour minute : ℕ} (hour_lt : hour < 24) (minute_lt : minute < 60) (start : ℕ) :
    ∃ instant, start ≤ instant ∧ kind.Holds (utcClock instant).date ∧
      (utcClock instant).hour = hour ∧ (utcClock instant).minute = minute ∧
      (utcClock instant).second = 0 ∧ (utcClock instant).microsecond = 0 := by
  obtain ⟨other, same, after⟩ := Date.Kind.recurs holds (719163 + start + 1)
  obtain ⟨days, counted⟩ : ∃ days, other.ordinal = 719163 + days :=
    ⟨other.ordinal - 719163, by omega⟩
  let instant := days * 86400000000 + hour * 3600000000 + minute * 60000000
  have whole : instant / 86400000000 = days := by omega
  have shown : (utcClock instant).date = other := by
    show Date.ofOrdinal (719163 + instant / 86400000000) = other
    rw [whole, ← counted, Date.ofOrdinal_ordinal]
  refine ⟨instant, ?_, ?_, ?_, ?_, ?_, ?_⟩
  · show start ≤ days * 86400000000 + hour * 3600000000 + minute * 60000000
    omega
  · rw [shown]
    exact same
  · show instant / 3600000000 % 24 = hour
    omega
  · show instant / 60000000 % 60 = minute
    omega
  · show instant / 1000000 % 60 = 0
    omega
  · show instant % 1000000 = 0
    omega

/-- The sample library builds a trigger of fields that have numbers. -/
theorem utcLibrary_ok {minute hour day month dayOfWeek : String} {trigger : Fields}
    (built : utcLibrary.cronTrigger minute hour day month dayOfWeek () = .ok trigger) :
    numbers 0 59 minute ≠ ∅ ∧ numbers 0 23 hour ≠ ∅ ∧
      trigger = ⟨minute, hour, day, month, dayOfWeek⟩ := by
  unfold utcLibrary at built
  dsimp only at built
  split at built
  · rename_i accepted
    exact ⟨accepted.1, accepted.2.1, (Except.ok.inj built).symm⟩
  · cases built

/-- The sample library behaves as documented. -/
theorem utcLibrary_behaves : Behaves utcLibrary utcReading where
  next := by
    intro minute hour day month dayOfWeek _ trigger built previous now
    classical
    obtain ⟨-, -, rfl⟩ := utcLibrary_ok built
    unfold utcLibrary
    dsimp only
    split
    · rename_i found
      have spec := Nat.find_spec found
      exact ⟨spec, fun other meets => Nat.find_min' found meets⟩
    · rename_i none
      intro instant after shown
      exact none ⟨instant, after, shown⟩
  exists_minute := by
    intro minute hour day month dayOfWeek _ trigger built
    obtain ⟨number, inside⟩ := Finset.nonempty_iff_ne_empty.mpr (utcLibrary_ok built).1
    exact ⟨number, Nat.lt_succ_of_le (numbers_le inside).2, inside⟩
  exists_hour := by
    intro minute hour day month dayOfWeek _ trigger built
    obtain ⟨number, inside⟩ := Finset.nonempty_iff_ne_empty.mpr (utcLibrary_ok built).2.1
    exact ⟨number, Nat.lt_succ_of_le (numbers_le inside).2, inside⟩
  star date := by
    have bounded := date.day_le.trans (daysIn_le date.year date.month)
    exact Finset.mem_coe.mpr (Finset.mem_Icc.mpr ⟨date.day_pos, bounded⟩)
  clock_recurs _ := utcClock_recurs

/-- The schedule of every Sunday at one. -/
theorem fires_iff_hasDate_weekly :
    Behaves utcLibrary utcReading ∧ validateCron utcLibrary "0 1 * * 0" "UTC" = .ok "0 1 * * 0" ∧
    (((∀ instant, ∃ next, nextFireTime utcLibrary "0 1 * * 0" "UTC" instant = .ok (some next)) ∧
      ∃ times, nextFireTimes utcLibrary "0 1 * * 0" "UTC" 5 0 = .ok times ∧
        times.length = 5 ∧ (0 :: times).Pairwise (· < ·) ∧
        ∀ time ∈ times, Matches utcLibrary utcReading "0 1 * * 0" "UTC" time) ↔
    HasDate utcReading "0 1 * * 0" ∧
      (5 = 0 ∨ ¬ Due utcLibrary utcReading "0 1 * * 0" "UTC" 0)) := by
  have accepted : validateCron utcLibrary "0 1 * * 0" "UTC" = .ok "0 1 * * 0" := by
    decide +kernel
  exact ⟨utcLibrary_behaves, accepted, fires_iff_hasDate utcLibrary_behaves accepted⟩

/-- The thirtieth of February is accepted and never fires. -/
theorem not_fires_of_february : Behaves utcLibrary utcReading ∧
    validateCron utcLibrary "0 0 30 2 *" "UTC" = .ok "0 0 30 2 *" ∧
      ∀ instant, nextFireTime utcLibrary "0 0 30 2 *" "UTC" instant = .ok none := by
  have accepted : validateCron utcLibrary "0 0 30 2 *" "UTC" = .ok "0 0 30 2 *" := by
    decide +kernel
  have dateless : ¬ HasDate utcReading "0 0 30 2 *" := by
    rintro ⟨_, _, _, _, _, date, five, february, thirtieth⟩
    have fields : words "0 0 30 2 *" = ["0", "0", "30", "2", "*"] := by decide +kernel
    obtain ⟨rfl, rfl, rfl, rfl, rfl⟩ : _ ∧ _ ∧ _ ∧ _ ∧ _ := by
      simpa using fields.symm.trans five
    have months : numbers 1 12 "2" = {2} := by decide +kernel
    have days : numbers 1 31 "30" = {30} := by decide +kernel
    have month : date.month = 2 := Finset.mem_singleton.mp (months ▸ february)
    have day : date.day = 30 := Finset.mem_singleton.mp (days ▸ thirtieth)
    have last := date.day_le
    unfold daysIn at last
    rw [month, day, if_pos rfl] at last
    split at last
    · omega
    · omega
  refine ⟨utcLibrary_behaves, accepted, ?_⟩
  intro instant
  obtain ⟨trigger, built, -⟩ := bind_eq_ok.mp accepted
  have trimmed : join ' ' (words "0 0 30 2 *") = "0 0 30 2 *" := by decide +kernel
  rw [trimmed] at built
  obtain ⟨_, _, _, _, _, _, zone, -, -, resolved, -⟩ := buildTrigger_ok_iff.mp built
  unfold nextFireTime
  rw [built, resolved]
  show Except.ok (utcLibrary.getNextFireTime trigger none instant) = _
  cases next : utcLibrary.getNextFireTime trigger none instant with
  | none => rfl
  | some first => exact absurd (hasDate_of_next utcLibrary_behaves built next) dateless

end ProxSync.Scheduler.Firing
