import ProxSync.Lib.Numeral
import ProxSync.Lib.Raising
/-!
# Days of the week

A crontab field numbers the days from Sunday, which is both 0 and 7, and the scheduler's library
numbers them from Monday, so the field is rewritten with the names of the days. What the field means
is stated apart, on its terms as they are written. The rewriting maps 7 to 0 before it looks at a
range, and treats a step of one as none, so a range from Sunday to 7 and a day with a step of one
are rewritten as a single day.
-/
open ProxSync.Lib

namespace ProxSync.Scheduler

/-- The days of the week. -/
inductive Weekday
  | mon
  | tue
  | wed
  | thu
  | fri
  | sat
  | sun
  deriving DecidableEq, Repr

/-- The number of a day in a crontab. -/
def Weekday.crontabNumber : Weekday → Nat
  | .sun => 0
  | .mon => 1
  | .tue => 2
  | .wed => 3
  | .thu => 4
  | .fri => 5
  | .sat => 6

/-- The number of a day in the scheduler's library. -/
def Weekday.schedulerNumber : Weekday → Nat
  | .mon => 0
  | .tue => 1
  | .wed => 2
  | .thu => 3
  | .fri => 4
  | .sat => 5
  | .sun => 6

/-- The names of the days in the order of their crontab numbers. -/
def crontabWeekdays : List String := ["sun", "mon", "tue", "wed", "thu", "fri", "sat"]

/-- The names of the days in the order of the scheduler's library. -/
def apschedulerOrder : List String := ["mon", "tue", "wed", "thu", "fri", "sat", "sun"]

/-- Every element whose place is a multiple of a step, from the first one on. -/
def everyNth {α : Type} (step : Nat) (items : List α) : List α :=
  (items.zipIdx.filter fun item => item.2 % step == 0).map (·.1)

/-- The numbers from one up to another. -/
def span (first last : Nat) : List Nat := List.range' first (last + 1 - first)

/-! ## Translation -/

/-- One crontab weekday as its number, from 0 for Sunday. -/
def weekdayValue (token : String) : Except ValueError Nat :=
  let cleaned := lower (strip token)
  let unknown : ValueError :=
    ⟨s!"'{token}' is not a weekday; expected 0-7 or a name like 'sun'"⟩
  if isdigit cleaned then do
    let value ← int cleaned
    if 7 < value then .error unknown else .ok (if value = 7 then 0 else value)
  else
    match crontabWeekdays.idxOf? cleaned with
    | some index => .ok index
    | none => .error unknown

/-- The step of a token, one where it has none. -/
def stepValue (token : String) (separated : Bool) (stepText : String) : Except ValueError Nat :=
  let invalid : ValueError := ⟨s!"'{token}' has an invalid step"⟩
  if separated then
    if isdigit stepText then do
      let step ← int stepText
      if step < 1 then .error invalid else .ok step
    else .error invalid
  else .ok 1

/-- The days of one token of a list. -/
def weekdayToken (token : String) : Except ValueError (Finset Nat) := do
  let (base, separated, stepText) := partition '/' (strip token)
  let step ← stepValue token separated stepText
  let base := strip base
  if base = "*" then .ok (everyNth step (List.range 7)).toFinset
  else if base.toList.contains '-' then do
    let (startText, _, endText) := partition '-' base
    let start ← weekdayValue startText
    let finish ← weekdayValue endText
    let ordered := if start ≤ finish then span start finish
      -- A range such as fri-mon wraps.
      else span start 6 ++ span 0 finish
    .ok (everyNth step ordered).toFinset
  else do
    let first ← weekdayValue base
    -- A day with a step runs to the end of the week.
    let ordered := if 1 < step then span first 6 else [first]
    .ok (everyNth step ordered).toFinset

/-- Add the days of one part of a field. -/
def addPart (field : String) (days : Finset Nat) (part : String) :
    Except ValueError (Finset Nat) :=
  if strip part = "" then .error ⟨s!"'{field}' contains an empty day-of-week entry"⟩
  else do
    let more ← weekdayToken part
    .ok (days ∪ more)

/-- The names of days in the order of the scheduler's library. -/
def dayNames (days : Finset Nat) : List String :=
  apschedulerOrder.filter fun name => crontabWeekdays.idxOf name ∈ days

/-- Days as a field of the scheduler's library. -/
def render (field : String) (days : Finset Nat) : Except ValueError String :=
  if days = ∅ then .error ⟨s!"'{field}' selects no days"⟩
  else if days.card = 7 then .ok "*"
  else .ok (join ',' (dayNames days))

/-- Rewrite a crontab field as names of days. -/
def translateDayOfWeek (field : String) : Except ValueError String :=
  if strip field = "*" then .ok "*"
  else do
    let days ← (split ',' field).foldlM (addPart field) ∅
    render field days

/-! ## Meanings -/

/-- The numbers of the days that a field of the scheduler's library names. -/
def schedulerDays (field : String) : Finset Nat :=
  if field = "*" then Finset.range 7
  else ((split ',' field).map apschedulerOrder.idxOf).toFinset

/-- What stands before the step of a term, with its numbers as they are written. -/
inductive Base
  | every
  | range (first last : Nat)
  | single (day : Nat)
  deriving DecidableEq, Repr

/-- A term of a crontab field. -/
structure Term where
  base : Base
  step : Option Nat
  deriving DecidableEq, Repr

namespace Term

/-- The days of a term in order, where 7 may stand for Sunday. -/
def sequence (term : Term) : List Nat :=
  match term.base, term.step with
  | .every, _ => span 0 6
  | .range first last, _ => if first ≤ last then span first last else span first 6 ++ span 0 last
  | .single day, none => [day]
  | .single day, some _ => span (day % 7) 6

/-- The days a term denotes. -/
def days (term : Term) : Finset Nat :=
  ((everyNth (term.step.getD 1) term.sequence).map (· % 7)).toFinset

/-- The first day of a term. -/
def first (term : Term) : Nat :=
  match term.base with
  | .every => 0
  | .range first _ => first % 7
  | .single day => day % 7

/-- Whether a term is a range from Sunday as 0 to Sunday as 7, or a day with a step of one. -/
def collapses (term : Term) : Bool :=
  match term.base, term.step with
  | .range first last, _ => first == 0 && last == 7
  | .single _, some step => step == 1
  | _, _ => false

end Term

/-- The number of a day as it is written, from 0 to 7. -/
def writtenDay (token : String) : Option Nat :=
  let cleaned := lower (strip token)
  if isdigit cleaned then
    match int cleaned with
    | .ok value => if value ≤ 7 then some value else none
    | .error _ => none
  else crontabWeekdays.idxOf? cleaned

/-- The step of a term as it is written, if it has one. -/
def writtenStep (separated : Bool) (stepText : String) : Option (Option Nat) :=
  if separated then
    if isdigit stepText then
      match int stepText with
      | .ok step => if 1 ≤ step then some (some step) else none
      | .error _ => none
    else none
  else some none

/-- The term that a token is written as. -/
def readTerm (token : String) : Option Term := do
  let (base, separated, stepText) := partition '/' (strip token)
  let step ← writtenStep separated stepText
  let base := strip base
  if base = "*" then some ⟨.every, step⟩
  else if base.toList.contains '-' then do
    let (startText, _, endText) := partition '-' base
    let start ← writtenDay startText
    let finish ← writtenDay endText
    some ⟨.range start finish, step⟩
  else do
    let day ← writtenDay base
    some ⟨.single day, step⟩

/-- The terms of a crontab field. -/
def readTerms (field : String) : Option (List Term) := (split ',' field).mapM readTerm

/-- The days a list of terms denotes. -/
def denoted (terms : List Term) : Finset Nat := terms.foldr (fun term days => term.days ∪ days) ∅

/-- A field of the scheduler's library denotes the days that a list of terms denotes. -/
def Agrees (field : String) (terms : List Term) : Prop :=
  ∀ day : Weekday, day.schedulerNumber ∈ schedulerDays field ↔ day.crontabNumber ∈ denoted terms

/-- Every day of a term that collapses is its first, or is in another term, as the first day where
that one collapses too. -/
def Covered (terms : List Term) : Prop :=
  ∀ term ∈ terms, term.collapses = true → ∀ day ∈ term.days, ∃ other ∈ terms,
    if other.collapses = true then day = other.first else day ∈ other.days

/-! ## Tokens are read as terms -/

variable {token field : String} {term : Term} {terms : List Term} {days : Finset Nat}

/-- The numbers of a term are from 0 to 7 and its step is positive. -/
def Term.WellFormed (term : Term) : Prop :=
  (match term.base with
    | .every => True
    | .range first last => first ≤ 7 ∧ last ≤ 7
    | .single day => day ≤ 7) ∧ 1 ≤ term.step.getD 1

/-- The days that a term is rewritten as. -/
def Term.translated (term : Term) : Finset Nat :=
  let step := term.step.getD 1
  (everyNth step (match term.base with
    | .every => List.range 7
    | .range first last =>
      if first % 7 ≤ last % 7 then span (first % 7) (last % 7)
      else span (first % 7) 6 ++ span 0 (last % 7)
    | .single day => if 1 < step then span (day % 7) 6 else [day % 7])).toFinset

/-- A day is read from a token as it is written. -/
theorem weekdayValue_ok {value : Nat} (read : weekdayValue token = .ok value) :
    ∃ day, writtenDay token = some day ∧ day ≤ 7 ∧ value = day % 7 := by
  unfold weekdayValue at read
  unfold writtenDay
  simp only at read ⊢
  split at read
  · rename_i digits
    obtain ⟨number, parsed, chosen⟩ := bind_eq_ok.mp read
    split at chosen
    · cases chosen
    · rename_i small
      have le : number ≤ 7 := Nat.le_of_not_lt small
      obtain rfl := Except.ok.inj chosen
      refine ⟨number, ?_, le, ?_⟩
      · simp only [digits, parsed, if_true, if_pos le]
      · split
        · omega
        · omega
  · rename_i digits
    split at read
    · rename_i index found
      obtain rfl := Except.ok.inj read
      have short : index < 7 := (List.findIdx?_eq_some_iff_getElem.mp found).1
      refine ⟨index, ?_, by omega, by omega⟩
      simp only [digits, found, Bool.false_eq_true, if_false]
    · cases read

/-- A step is read from a token as it is written. -/
theorem stepValue_ok {separated : Bool} {stepText : String} {value : Nat}
    (read : stepValue token separated stepText = .ok value) :
    ∃ step, writtenStep separated stepText = some step ∧ 1 ≤ value ∧ value = step.getD 1 := by
  unfold stepValue at read
  unfold writtenStep
  simp only at read ⊢
  split at read
  · rename_i separated
    split at read
    · rename_i digits
      obtain ⟨number, parsed, chosen⟩ := bind_eq_ok.mp read
      split at chosen
      · cases chosen
      · rename_i positive
        obtain rfl := Except.ok.inj chosen
        have le : 1 ≤ number := Nat.le_of_not_lt positive
        refine ⟨some number, ?_, le, rfl⟩
        simp only [separated, digits, parsed, if_true, if_pos le]
    · cases read
  · rename_i separated
    obtain rfl := Except.ok.inj read
    exact ⟨none, if_neg separated, Nat.le_refl 1, rfl⟩

/-- The days of a token are those its term is rewritten as. -/
theorem weekdayToken_ok (read : weekdayToken token = .ok days) :
    ∃ term, readTerm token = some term ∧ term.WellFormed ∧ days = term.translated := by
  unfold weekdayToken at read
  unfold readTerm
  generalize partition '/' (strip token) = parts at read ⊢
  obtain ⟨before, separated, stepText⟩ := parts
  simp only at read ⊢
  generalize strip before = base at read ⊢
  obtain ⟨value, stepped, rest⟩ := bind_eq_ok.mp read
  obtain ⟨step, written, positive, rfl⟩ := stepValue_ok stepped
  simp only [written, bind, Option.bind]
  split at rest
  · rename_i star
    obtain rfl := Except.ok.inj rest
    exact ⟨⟨.every, step⟩, if_pos star, ⟨trivial, positive⟩, rfl⟩
  · rename_i star
    split at rest
    · rename_i dashed
      obtain ⟨start, first, rest⟩ := bind_eq_ok.mp rest
      obtain ⟨finish, last, chosen⟩ := bind_eq_ok.mp rest
      obtain ⟨day, written, small, rfl⟩ := weekdayValue_ok first
      obtain ⟨day', written', small', rfl⟩ := weekdayValue_ok last
      obtain rfl := Except.ok.inj chosen
      refine ⟨⟨.range day day', step⟩, ?_, ⟨⟨small, small'⟩, positive⟩, rfl⟩
      simp only [star, dashed, written, written', if_true, if_false]
    · rename_i dashed
      obtain ⟨first, found, chosen⟩ := bind_eq_ok.mp rest
      obtain ⟨day, written, small, rfl⟩ := weekdayValue_ok found
      obtain rfl := Except.ok.inj chosen
      refine ⟨⟨.single day, step⟩, ?_, ⟨small, positive⟩, rfl⟩
      simp only [star, dashed, written, Bool.false_eq_true, if_false]

/-- A day that is written is read. -/
theorem exists_weekdayValue {day : Nat} (written : writtenDay token = some day) :
    ∃ value, weekdayValue token = .ok value := by
  unfold writtenDay at written
  unfold weekdayValue
  simp only at written ⊢
  split at written
  · rename_i digits
    rw [if_pos digits]
    split at written
    · rename_i number parsed
      split at written
      · rename_i small
        exact ⟨_, bind_eq_ok.mpr ⟨number, parsed, if_neg (Nat.not_lt.mpr small)⟩⟩
      · cases written
    · cases written
  · rename_i digits
    rw [if_neg digits, written]
    exact ⟨day, rfl⟩

/-- A step that is written is read. -/
theorem exists_stepValue {separated : Bool} {stepText : String} {step : Option Nat}
    (written : writtenStep separated stepText = some step) :
    ∃ value, stepValue token separated stepText = .ok value := by
  unfold writtenStep at written
  unfold stepValue
  simp only
  split at written
  · rename_i separated
    rw [if_pos separated]
    split at written
    · rename_i digits
      rw [if_pos digits]
      split at written
      · rename_i number parsed
        split at written
        · rename_i positive
          exact ⟨number, bind_eq_ok.mpr ⟨number, parsed, if_neg (Nat.not_lt.mpr positive)⟩⟩
        · cases written
      · cases written
    · cases written
  · rename_i separated
    exact ⟨1, if_neg separated⟩

/-- A token that is read as a term has days. -/
theorem exists_weekdayToken (read : readTerm token = some term) :
    ∃ days, weekdayToken token = .ok days := by
  unfold readTerm at read
  unfold weekdayToken
  generalize partition '/' (strip token) = parts at read ⊢
  obtain ⟨before, separated, stepText⟩ := parts
  simp only at read ⊢
  generalize strip before = base at read ⊢
  obtain ⟨step, written, rest⟩ := Option.bind_eq_some_iff.mp read
  obtain ⟨value, stepped⟩ : ∃ value, stepValue token separated stepText = .ok value :=
    exists_stepValue written
  apply exists_bind_eq_ok stepped
  split at rest
  · rename_i star
    exact ⟨_, if_pos star⟩
  · rename_i star
    rw [if_neg star]
    split at rest
    · rename_i dashed
      obtain ⟨first, written, rest⟩ := Option.bind_eq_some_iff.mp rest
      obtain ⟨last, written', -⟩ := Option.bind_eq_some_iff.mp rest
      obtain ⟨start, read⟩ := exists_weekdayValue written
      obtain ⟨finish, read'⟩ := exists_weekdayValue written'
      rw [if_pos dashed]
      exact exists_bind_eq_ok read (exists_bind_eq_ok read' ⟨_, rfl⟩)
    · rename_i dashed
      obtain ⟨day, written, -⟩ := Option.bind_eq_some_iff.mp rest
      obtain ⟨first, read⟩ := exists_weekdayValue written
      rw [if_neg dashed]
      exact exists_bind_eq_ok read ⟨_, rfl⟩

/-! ## Days of a term -/

/-- Every step of mapped items is mapped. -/
theorem everyNth_map {α β : Type} (step : Nat) (items : List α) (f : α → β) :
    everyNth step (items.map f) = (everyNth step items).map f := by
  unfold everyNth
  rw [List.zipIdx_map, List.filter_map, List.map_map, List.map_map]
  rfl

/-- One item is taken with every step. -/
theorem everyNth_singleton {α : Type} (step : Nat) (item : α) : everyNth step [item] = [item] := by
  simp [everyNth]

/-- The first element is kept. -/
theorem mem_everyNth_cons {α : Type} (step : Nat) (item : α) (rest : List α) :
    item ∈ everyNth step (item :: rest) := by
  unfold everyNth
  rw [List.zipIdx_cons]
  apply List.mem_map.mpr
  exact ⟨(item, 0), List.mem_filter.mpr ⟨List.mem_cons_self, by simp⟩, rfl⟩

/-- A range on the numbers as they are written is the range after 7 was mapped to 0, unless it is
from 0 to 7. -/
theorem range_translated : ∀ first ≤ 7, ∀ last ≤ 7, ¬ (first = 0 ∧ last = 7) →
    (if first ≤ last then span first last else span first 6 ++ span 0 last).map (· % 7) =
      if first % 7 ≤ last % 7 then span (first % 7) (last % 7)
      else span (first % 7) 6 ++ span 0 (last % 7) := by
  decide

/-- The days from any first one to the last are days of the week. -/
theorem span_mod : ∀ first < 7, (span first 6).map (· % 7) = span first 6 := by decide

/-- A term that does not collapse is rewritten as the days it denotes. -/
theorem translated_of_not_collapses (formed : term.WellFormed) (whole : term.collapses = false) :
    term.translated = term.days := by
  obtain ⟨base, step⟩ := term
  obtain ⟨written, positive⟩ := formed
  unfold Term.translated Term.days
  rw [← everyNth_map]
  refine congrArg (fun items : List Nat => (everyNth (step.getD 1) items).toFinset) ?_
  cases base with
  | every => rfl
  | range first last =>
    have narrow : ¬ (first = 0 ∧ last = 7) := by
      rintro ⟨rfl, rfl⟩
      cases whole
    exact (range_translated first written.1 last written.2 narrow).symm
  | single day =>
    have small : day % 7 < 7 := Nat.mod_lt _ (by decide)
    cases step with
    | none => rfl
    | some step =>
      have large : 1 < step := by
        have some : 1 ≤ step := positive
        have other : step ≠ 1 := by
          rintro rfl
          cases whole
        omega
      show (if 1 < step then span (day % 7) 6 else [day % 7]) = (span (day % 7) 6).map (· % 7)
      rw [if_pos large, span_mod _ small]

/-- A term that collapses is rewritten as its first day. -/
theorem translated_of_collapses (collapses : term.collapses = true) :
    term.translated = {term.first} := by
  obtain ⟨base, step⟩ := term
  cases base with
  | every => cases collapses
  | range first last =>
    obtain ⟨zero, seven⟩ := Bool.and_eq_true_iff.mp collapses
    obtain rfl := beq_iff_eq.mp zero
    obtain rfl := beq_iff_eq.mp seven
    show (everyNth _ [0]).toFinset = {0}
    rw [everyNth_singleton]
    rfl
  | single day =>
    cases step with
    | none => cases collapses
    | some step =>
      obtain rfl := beq_iff_eq.mp collapses
      show (everyNth 1 [day % 7]).toFinset = {day % 7}
      rw [everyNth_singleton]
      rfl

/-- The sequence of a term starts with its first day. -/
theorem sequence_cons (formed : term.WellFormed) :
    ∃ rest, term.sequence.map (· % 7) = term.first :: rest := by
  obtain ⟨base, step⟩ := term
  obtain ⟨written, -⟩ := formed
  have starts : ∀ first ≤ 7, ∀ last ≤ 7,
      ((if first ≤ last then span first last else span first 6 ++ span 0 last).map (· % 7)).head? =
        some (first % 7) := by decide
  have runs : ∀ first < 7, ((span first 6).map (· % 7)).head? = some first := by decide
  cases base with
  | every => exact ⟨_, rfl⟩
  | range first last =>
    have head := starts first written.1 last written.2
    exact ⟨_, (List.head?_eq_some_iff.mp head).choose_spec⟩
  | single day =>
    cases step with
    | none => exact ⟨[], rfl⟩
    | some step =>
      have head := runs (day % 7) (Nat.mod_lt _ (by decide))
      exact ⟨_, (List.head?_eq_some_iff.mp head).choose_spec⟩

/-- The first day of a term is one of its days. -/
theorem first_mem_days (formed : term.WellFormed) : term.first ∈ term.days := by
  obtain ⟨rest, starts⟩ := sequence_cons formed
  unfold Term.days
  rw [← everyNth_map, starts, List.mem_toFinset]
  exact mem_everyNth_cons _ _ _

/-- A day of a term is one of the week. -/
theorem mem_days_lt {day : Nat} (inside : day ∈ term.days) : day < 7 := by
  unfold Term.days at inside
  obtain ⟨written, -, rfl⟩ := List.mem_map.mp (List.mem_toFinset.mp inside)
  exact Nat.mod_lt _ (by decide)

/-- A term is rewritten as some of the days it denotes. -/
theorem translated_subset (formed : term.WellFormed) : term.translated ⊆ term.days := by
  cases collapses : term.collapses with
  | false => rw [translated_of_not_collapses formed collapses]
  | true =>
    rw [translated_of_collapses collapses]
    exact Finset.singleton_subset_iff.mpr (first_mem_days formed)

/-! ## Days of a field -/

/-- The days that a list of terms is rewritten as. -/
def rewritten (terms : List Term) : Finset Nat :=
  terms.foldr (fun term days => term.translated ∪ days) ∅

/-- The denoted days are those of the terms. -/
theorem mem_denoted {day : Nat} : day ∈ denoted terms ↔ ∃ term ∈ terms, day ∈ term.days := by
  induction terms with
  | nil => simp [denoted]
  | cons term rest ih =>
    show day ∈ term.days ∪ denoted rest ↔ _
    simp only [Finset.mem_union, ih, List.mem_cons, exists_eq_or_imp]

/-- The rewritten days are those the terms are translated to. -/
theorem mem_rewritten {day : Nat} :
    day ∈ rewritten terms ↔ ∃ term ∈ terms, day ∈ term.translated := by
  induction terms with
  | nil => simp [rewritten]
  | cons term rest ih =>
    show day ∈ term.translated ∪ rewritten rest ↔ _
    simp only [Finset.mem_union, ih, List.mem_cons, exists_eq_or_imp]

/-- Terms are rewritten as the days they denote exactly when they are covered. -/
theorem rewritten_eq_denoted_iff (formed : ∀ term ∈ terms, term.WellFormed) :
    rewritten terms = denoted terms ↔ Covered terms := by
  have among : ∀ {term}, term ∈ terms → ∀ {day}, (day ∈ term.translated ↔
      if term.collapses = true then day = term.first else day ∈ term.days) := by
    intro term inside day
    cases collapses : term.collapses with
    | true =>
      rw [translated_of_collapses collapses, Finset.mem_singleton]
      exact Iff.rfl
    | false =>
      rw [translated_of_not_collapses (formed term inside) collapses]
      exact Iff.rfl
  constructor
  · intro same term inside _ day denotes
    have there : day ∈ rewritten terms := same ▸ mem_denoted.mpr ⟨term, inside, denotes⟩
    obtain ⟨other, member, kept⟩ := mem_rewritten.mp there
    exact ⟨other, member, (among member).mp kept⟩
  · intro covered
    apply Finset.ext
    intro day
    rw [mem_rewritten, mem_denoted]
    constructor
    · rintro ⟨term, inside, kept⟩
      exact ⟨term, inside, translated_subset (formed term inside) kept⟩
    · rintro ⟨term, inside, denotes⟩
      cases collapses : term.collapses with
      | true =>
        obtain ⟨other, member, kept⟩ := covered term inside collapses day denotes
        exact ⟨other, member, (among member).mpr kept⟩
      | false =>
        refine ⟨term, inside, (among inside).mpr ?_⟩
        rw [collapses]
        exact denotes

/-- The parts of a field are read as terms, and their days are added. -/
theorem foldlM_addPart {parts : List String} {start : Finset Nat}
    (added : parts.foldlM (addPart field) start = .ok days) :
    ∃ terms, parts.mapM readTerm = some terms ∧ (∀ term ∈ terms, term.WellFormed) ∧
      days = start ∪ rewritten terms := by
  induction parts generalizing start with
  | nil =>
    obtain rfl := Except.ok.inj added
    exact ⟨[], rfl, fun _ inside => absurd inside List.not_mem_nil, (Finset.union_empty _).symm⟩
  | cons part rest ih =>
    rw [List.foldlM_cons] at added
    obtain ⟨middle, here, later⟩ := bind_eq_ok.mp added
    obtain ⟨terms, read, formed, rfl⟩ := ih later
    unfold addPart at here
    split at here
    · cases here
    · obtain ⟨more, found, chosen⟩ := bind_eq_ok.mp here
      obtain ⟨term, written, shaped, rfl⟩ := weekdayToken_ok found
      obtain rfl := Except.ok.inj chosen
      refine ⟨term :: terms, ?_, List.forall_mem_cons.mpr ⟨shaped, formed⟩,
        Finset.union_assoc _ _ _⟩
      rw [List.mapM_cons, written, read]
      rfl

/-- The rewritten days of well-formed terms are days of the week. -/
theorem rewritten_subset_range (formed : ∀ term ∈ terms, term.WellFormed) :
    rewritten terms ⊆ Finset.range 7 := by
  intro day inside
  obtain ⟨term, listed, kept⟩ := mem_rewritten.mp inside
  exact Finset.mem_range.mpr (mem_days_lt (translated_subset (formed term listed) kept))

/-! ## Names of days -/

/-- The name of a day. -/
def Weekday.name (day : Weekday) : String := crontabWeekdays.getD day.crontabNumber ""

/-- A day of the crontab stands at its number. -/
theorem idxOf_name (day : Weekday) : crontabWeekdays.idxOf day.name = day.crontabNumber := by
  cases day <;> decide

/-- A day of the scheduler stands at its number. -/
theorem schedulerNumber_eq (day : Weekday) :
    day.schedulerNumber = apschedulerOrder.idxOf day.name := by
  cases day <;> decide

/-- The scheduler knows the name of every day. -/
theorem name_mem (day : Weekday) : day.name ∈ apschedulerOrder := by
  cases day <;> decide

/-- The scheduler numbers the days up to seven. -/
theorem schedulerNumber_lt (day : Weekday) : day.schedulerNumber < 7 := by
  cases day <;> decide

/-- Every number of the week has a day. -/
theorem exists_weekday {number : Nat} (small : number < 7) :
    ∃ day : Weekday, day.crontabNumber = number := by
  have all : ∀ number < 7, number ∈ [Weekday.sun, .mon, .tue, .wed, .thu, .fri, .sat].map
      Weekday.crontabNumber := by decide
  obtain ⟨day, -, same⟩ := List.mem_map.mp (all number small)
  exact ⟨day, same⟩

/-- The rendered field names a day exactly when its number is among the days. -/
theorem mem_schedulerDays_render {out : String} (known : days ⊆ Finset.range 7)
    (rendered : render field days = .ok out) (day : Weekday) :
    day.schedulerNumber ∈ schedulerDays out ↔ day.crontabNumber ∈ days := by
  unfold render at rendered
  split at rendered
  · cases rendered
  rename_i some
  split at rendered
  · rename_i whole
    obtain rfl := Except.ok.inj rendered
    have all : days = Finset.range 7 := Finset.eq_of_subset_of_card_le known (by rw [whole]; decide)
    show day.schedulerNumber ∈ Finset.range 7 ↔ _
    rw [all]
    cases day <;> decide
  · obtain rfl := Except.ok.inj rendered
    have member : ∀ {name}, name ∈ dayNames days ↔
        name ∈ apschedulerOrder ∧ crontabWeekdays.idxOf name ∈ days := by
      intro name
      unfold dayNames
      rw [List.mem_filter, decide_eq_true_iff]
    have plain : ∀ name ∈ dayNames days, ',' ∉ name.toList := by
      intro name inside
      have none : ∀ name ∈ apschedulerOrder, ',' ∉ name.toList := by decide
      exact none name (member.mp inside).1
    have nonempty : dayNames days ≠ [] := by
      obtain ⟨number, inside⟩ := Finset.nonempty_iff_ne_empty.mpr some
      obtain ⟨day, rfl⟩ := exists_weekday (Finset.mem_range.mp (known inside))
      apply List.ne_nil_of_mem
      exact member.mpr ⟨name_mem day, (idxOf_name day).symm ▸ inside⟩
    have apart := split_join nonempty plain
    have starless : join ',' (dayNames days) ≠ "*" := by
      intro star
      have single : dayNames days = ["*"] := by
        rw [← apart, star]
        decide
      have listed : "*" ∈ apschedulerOrder := by
        apply (member.mp _).1
        rw [single]
        exact List.mem_cons_self
      exact absurd listed (by decide)
    unfold schedulerDays
    rw [if_neg starless, apart, List.mem_toFinset, List.mem_map, schedulerNumber_eq]
    constructor
    · rintro ⟨name, inside, same⟩
      obtain ⟨listed, chosen⟩ := member.mp inside
      obtain rfl := (List.idxOf_inj listed).mp same
      rw [← idxOf_name]
      exact chosen
    · intro inside
      exact ⟨day.name, member.mpr ⟨name_mem day, (idxOf_name day).symm ▸ inside⟩, rfl⟩

/-- The field of all days is read as a single term. -/
theorem readTerms_of_star (star : strip field = "*") : readTerms field = some [⟨.every, none⟩] := by
  have plain : ',' ∉ field.toList := by
    intro inside
    have kept : ',' ∈ (strip field).toList := by
      unfold strip
      rw [String.toList_ofList]
      exact (mem_trim isSpace inside).resolve_left (by decide)
    rw [star] at kept
    exact absurd kept (by decide)
  have read : readTerm field = some ⟨.every, none⟩ := by
    unfold readTerm
    rw [star]
    decide +kernel
  unfold readTerms
  rw [split_of_notMem plain, List.mapM_cons, read]
  rfl

/-! ## Translated fields -/

/-- The first day of a term is one that it is rewritten as. -/
theorem first_mem_translated (formed : term.WellFormed) : term.first ∈ term.translated := by
  cases collapses : term.collapses with
  | true =>
    rw [translated_of_collapses collapses]
    exact Finset.mem_singleton_self _
  | false =>
    rw [translated_of_not_collapses formed collapses]
    exact first_mem_days formed

/-- A field that is read has a day. -/
theorem rewritten_ne_empty (formed : ∀ term ∈ terms, term.WellFormed)
    (read : readTerms field = some terms) : rewritten terms ≠ ∅ := by
  unfold readTerms split at read
  obtain ⟨part, rest, parts⟩ :=
    List.exists_cons_of_ne_nil (List.splitOn_ne_nil ',' field.toList)
  rw [parts, List.map_cons, List.mapM_cons] at read
  obtain ⟨term, -, read⟩ := Option.bind_eq_some_iff.mp read
  obtain ⟨others, -, read⟩ := Option.bind_eq_some_iff.mp read
  obtain rfl := Option.some.inj read
  apply Finset.nonempty_iff_ne_empty.mp
  exact ⟨term.first, mem_rewritten.mpr ⟨term, List.mem_cons_self,
    first_mem_translated (formed term List.mem_cons_self)⟩⟩

/-- Terms that are read are read from each part. -/
theorem forall_readTerm_of_mapM {parts : List String} (read : parts.mapM readTerm = some terms) :
    ∀ part ∈ parts, ∃ term, readTerm part = some term := by
  induction parts generalizing terms with
  | nil => exact fun _ inside => absurd inside List.not_mem_nil
  | cons part rest ih =>
    rw [List.mapM_cons] at read
    obtain ⟨term, here, read⟩ := Option.bind_eq_some_iff.mp read
    obtain ⟨others, later, -⟩ := Option.bind_eq_some_iff.mp read
    exact List.forall_mem_cons.mpr ⟨⟨term, here⟩, ih later⟩

/-- A blank token is no term. -/
theorem readTerm_of_blank (empty : strip token = "") : readTerm token = none := by
  unfold readTerm
  rw [empty]
  decide +kernel

/-- Parts that are read as terms are added. -/
theorem exists_foldlM_addPart {parts : List String} {start : Finset Nat}
    (read : ∀ part ∈ parts, ∃ term, readTerm part = some term) :
    ∃ days, parts.foldlM (addPart field) start = .ok days := by
  induction parts generalizing start with
  | nil => exact ⟨start, rfl⟩
  | cons part rest ih =>
    obtain ⟨⟨term, here⟩, later⟩ := List.forall_mem_cons.mp read
    obtain ⟨more, found⟩ := exists_weekdayToken here
    have added : addPart field start part = .ok (start ∪ more) := by
      unfold addPart
      rw [if_neg]
      · exact bind_eq_ok.mpr ⟨more, found, rfl⟩
      · intro empty
        rw [readTerm_of_blank empty] at here
        cases here
    rw [List.foldlM_cons]
    exact exists_bind_eq_ok added (ih later)

/-- A field is translated exactly when each of its parts is read as a term. -/
theorem exists_translated_iff :
    (∃ out, translateDayOfWeek field = .ok out) ↔
      ∀ part ∈ split ',' field, ∃ term, readTerm part = some term := by
  constructor
  · rintro ⟨out, translated⟩
    unfold translateDayOfWeek at translated
    split at translated
    · rename_i star
      exact forall_readTerm_of_mapM (readTerms_of_star star)
    · obtain ⟨days, added, -⟩ := bind_eq_ok.mp translated
      obtain ⟨terms, read, -⟩ := foldlM_addPart added
      exact forall_readTerm_of_mapM read
  · intro read
    unfold translateDayOfWeek
    split
    · exact ⟨_, rfl⟩
    · obtain ⟨days, added⟩ : ∃ days, (split ',' field).foldlM (addPart field) ∅ = .ok days :=
        exists_foldlM_addPart read
      apply exists_bind_eq_ok added
      obtain ⟨terms, parsed, formed, rfl⟩ := foldlM_addPart added
      have some : ∅ ∪ rewritten terms ≠ ∅ := by
        rw [Finset.empty_union]
        exact rewritten_ne_empty formed parsed
      unfold render
      rw [if_neg some]
      split
      · exact ⟨_, rfl⟩
      · exact ⟨_, rfl⟩

/-- The rewritten days are those the terms denote exactly when the field agrees with them. -/
theorem agrees_iff {out : String} (formed : ∀ term ∈ terms, term.WellFormed)
    (named : ∀ day : Weekday,
      day.schedulerNumber ∈ schedulerDays out ↔ day.crontabNumber ∈ rewritten terms) :
    Agrees out terms ↔ rewritten terms = denoted terms := by
  constructor
  · intro agrees
    apply Finset.ext
    intro number
    constructor
    · intro inside
      obtain ⟨day, rfl⟩ :=
        exists_weekday (Finset.mem_range.mp (rewritten_subset_range formed inside))
      exact (agrees day).mp ((named day).mpr inside)
    · intro inside
      obtain ⟨term, -, denotes⟩ := mem_denoted.mp inside
      obtain ⟨day, rfl⟩ := exists_weekday (mem_days_lt denotes)
      exact (named day).mp ((agrees day).mpr inside)
  · intro same day
    rw [named, same]

/-- A field that is translated denotes the days of its terms exactly when they are covered. -/
theorem agrees_iff_covered {out : String} (translated : translateDayOfWeek field = .ok out) :
    ∃ terms, readTerms field = some terms ∧ (Agrees out terms ↔ Covered terms) := by
  unfold translateDayOfWeek at translated
  split at translated
  · rename_i star
    obtain rfl := Except.ok.inj translated
    have formed : ∀ term ∈ [(⟨.every, none⟩ : Term)], term.WellFormed := by
      intro term inside
      rw [List.mem_singleton.mp inside]
      exact ⟨trivial, Nat.le_refl 1⟩
    refine ⟨_, readTerms_of_star star, ?_⟩
    rw [agrees_iff formed _, rewritten_eq_denoted_iff formed]
    intro day
    cases day <;> decide
  · obtain ⟨days, added, rendered⟩ := bind_eq_ok.mp translated
    obtain ⟨terms, read, formed, rfl⟩ := foldlM_addPart added
    rw [Finset.empty_union] at rendered
    refine ⟨terms, read, ?_⟩
    rw [agrees_iff formed (mem_schedulerDays_render (rewritten_subset_range formed) rendered),
      rewritten_eq_denoted_iff formed]

/-- A range over the end of the week agrees with a step and a day. -/
theorem agrees_iff_covered_of_wrapping :
    translateDayOfWeek "fri-mon/2,3" = .ok "wed,fri,sun" ∧
      ∃ terms, readTerms "fri-mon/2,3" = some terms ∧
        (Agrees "wed,fri,sun" terms ↔ Covered terms) := by
  have translated : translateDayOfWeek "fri-mon/2,3" = .ok "wed,fri,sun" := by decide +kernel
  exact ⟨translated, agrees_iff_covered translated⟩

/-- A range over the whole week is rewritten as Sunday alone. -/
theorem not_agrees_of_whole_week : ∃ terms, readTerms "0-7" = some terms ∧
    translateDayOfWeek "0-7" = .ok "sun" ∧ ¬ Agrees "sun" terms := by
  have read : readTerms "0-7" = some [⟨.range 0 7, none⟩] := by decide +kernel
  have translated : translateDayOfWeek "0-7" = .ok "sun" := by decide +kernel
  refine ⟨_, read, translated, ?_⟩
  intro agrees
  have monday := (agrees .mon).mpr (by decide)
  exact absurd monday (by decide +kernel)

end ProxSync.Scheduler
