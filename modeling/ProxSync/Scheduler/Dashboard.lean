import ProxSync.Lib.Double
import ProxSync.Scheduler.Weekday
/-!
# The dashboard's check of a schedule

The dashboard checks an expression before it is sent, and reads numbers the way JavaScript does. The
terms of a field are stated as a grammar of days and steps, apart from how either side reads them:
what the dashboard accepts is loose in its numerals, what the translation accepts without names is
in the digits of any script, and the two agree on the fields that are written in plain digits.
-/
open ProxSync.Lib

namespace ProxSync.Scheduler.Dashboard

/-- The fields of an expression. -/
structure CronParts where
  minute : String
  hour : String
  dayOfMonth : String
  month : String
  dayOfWeek : String
  deriving DecidableEq, Repr

/-- The answer of the check. -/
structure CronValidation where
  valid : Bool
  error : Option String
  deriving DecidableEq, Repr

/-- The words of a text between the blanks of JavaScript, a single empty one where it is blank. -/
def jsWords (text : String) : List String :=
  match (text.toList.splitOnP jsSpace).filter fun word => !word.isEmpty with
  | [] => [""]
  | words => words.map .ofList

/-- An expression as its fields, if there are five. -/
def parseCron (expression : String) : Option CronParts :=
  match jsWords expression with
  | [minute, hour, dayOfMonth, month, dayOfWeek] =>
    some { minute, hour, dayOfMonth, month, dayOfWeek }
  | _ => none

/-- What stands before the first slash of a term, and what stands between it and the second. -/
def slashParts (term : String) : String × Option String :=
  match split '/' term with
  | rangePart :: stepPart :: _ => (rangePart, some stepPart)
  | [rangePart] => (rangePart, none)
  | [] => ("", none)

/-- A step is a positive integer. -/
def validateStep (stepPart : String) : Bool := (number stepPart).whole.any (0 < ·)

/-- A term is a step, a range or a single number within bounds. -/
def validateTerm (least most : ℤ) (term : String) : Bool :=
  let (rangePart, stepPart) := slashParts term
  stepPart.all validateStep &&
    (rangePart == "*" ||
      if rangePart.toList.contains '-' then
        match split '-' rangePart with
        | [first, last] =>
          match (number first).whole, (number last).whole with
          | some lo, some hi => least ≤ lo && hi ≤ most && lo ≤ hi
          | _, _ => false
        | _ => false
      else
        match (number rangePart).whole with
        | some num => least ≤ num && num ≤ most
        | none => false)

/-- A field is a list of terms. -/
def validateField (value : String) (least most : ℤ) : Bool :=
  value == "*" || (split ',' value).all (validateTerm least most)

/-- A field of an expression with its bounds. -/
structure FieldBounds where
  name : String
  part : CronParts → String
  least : ℤ
  most : ℤ

/-- The fields of an expression with their bounds. -/
def fieldBounds : List FieldBounds :=
  [⟨"minute", CronParts.minute, 0, 59⟩, ⟨"hour", CronParts.hour, 0, 23⟩,
    ⟨"dayOfMonth", CronParts.dayOfMonth, 1, 31⟩, ⟨"month", CronParts.month, 1, 12⟩,
    ⟨"dayOfWeek", CronParts.dayOfWeek, 0, 7⟩]

/-- Check an expression. -/
def validateCron (expression : String) : CronValidation :=
  match parseCron expression with
  | none => ⟨false, some "A schedule needs exactly 5 fields."⟩
  | some parts =>
    match fieldBounds.find? fun bounds =>
        !validateField (bounds.part parts) bounds.least bounds.most with
    | some bounds => ⟨false, some s!"The {bounds.name} field is out of range."⟩
    | none => ⟨true, none⟩

/-! ## Terms -/

/-- Whether a base and a step are written in given numerals of days and steps: the base is a star, a
day, or a range whose first day is not after its last. -/
def written (day : String → Option Nat) (step : String → Bool) (base : String)
    (stepText : Option String) : Bool :=
  stepText.all step &&
    (base == "*" ||
      if base.toList.contains '-' then
        let (first, _, last) := partition '-' base
        match day first, day last with
        | some first, some last => first ≤ last
        | _, _ => false
      else (day base).isSome)

/-- A day as JavaScript reads it. -/
def looseDay (token : String) : Option Nat :=
  if token.toList.contains '-' then none
  else
    (number token).whole.bind fun value =>
      if 0 ≤ value ∧ value ≤ 7 then some value.toNat else none

/-- A term whose numbers JavaScript reads, where what follows a second slash is ignored. -/
def loose (term : String) : Bool :=
  written looseDay validateStep (slashParts term).1 (slashParts term).2

/-- What stands before the first slash of a term, and what stands after it. -/
def wholeParts (term : String) : String × Option String :=
  let (base, separated, stepText) := partition '/' term
  (base, if separated then some stepText else none)

/-- A day in the digits of any script. -/
def scriptDay (token : String) : Option Nat :=
  if isdigit token then
    match int token with
    | .ok value => if value ≤ 7 then some value else none
    | .error _ => none
  else none

/-- A step in the digits of any script. -/
def scriptStep (text : String) : Bool :=
  isdigit text &&
    match int text with
    | .ok step => 1 ≤ step
    | .error _ => false

/-- A term whose numbers are in the digits of any script. -/
def script (term : String) : Bool :=
  written scriptDay scriptStep (wholeParts term).1 (wholeParts term).2

/-- Whether a text consists of ASCII digits, at least one and not too many. -/
def plainDigits (text : String) : Bool :=
  !text.toList.isEmpty && text.toList.all asciiDigit && text.toList.length ≤ maxStrDigits

/-- A day in ASCII digits. -/
def plainDay (token : String) : Option Nat :=
  if plainDigits token && digitsValue token.toList ≤ 7 then some (digitsValue token.toList)
  else none

/-- A step in ASCII digits that does not overflow a double. -/
def plainStep (text : String) : Bool :=
  plainDigits text && 1 ≤ digitsValue text.toList && digitsValue text.toList < 2 ^ 1024 - 2 ^ 970

/-- A term whose numbers are in ASCII digits. -/
def plain (term : String) : Bool :=
  written plainDay plainStep (wholeParts term).1 (wholeParts term).2

/-! ## Digits -/

variable {text token term field : String} {char : Char} {value other : Nat}

/-- A text without blanks. -/
def Solid (text : String) : Prop :=
  ∀ char ∈ text.toList, isSpace char = false ∧ jsSpace char = false

/-- A solid text has nothing to strip. -/
theorem strip_of_solid (solid : Solid text) : strip text = text := by
  unfold strip
  rw [trim_of_forall fun char inside => (solid char inside).1, String.ofList_toList]

/-- Plain digits are some digits that are not too many. -/
theorem plainDigits_iff : plainDigits text = true ↔
    text.toList ≠ [] ∧ (∀ char ∈ text.toList, asciiDigit char = true) ∧
      text.toList.length ≤ maxStrDigits := by
  unfold plainDigits
  rw [Bool.and_eq_true, Bool.and_eq_true, decide_eq_true_eq, Bool.not_eq_true',
    List.isEmpty_eq_false_iff, List.all_eq_true, and_assoc]

/-- Digits in ASCII are digits, and are read as what they stand for. -/
theorem int_of_plainDigits (digits : plainDigits text = true) :
    isdigit text = true ∧ int text = .ok (digitsValue text.toList) := by
  obtain ⟨some, ascii, few⟩ := plainDigits_iff.mp digits
  have decimal : ∀ char ∈ text.toList, (decimalValue char).isSome = true := by
    intro char inside
    rw [decimalValue_of_asciiDigit (ascii char inside)]
    rfl
  constructor
  · unfold isdigit
    rw [Bool.and_eq_true, List.all_eq_true, List.isEmpty_eq_false_iff.mpr some]
    refine ⟨rfl, fun char inside => ?_⟩
    unfold isDigitChar
    rw [decimal char inside, Bool.true_or]
  · unfold int
    rw [if_pos (List.all_eq_true.mpr decimal), if_pos few]

/-- Digits that are read as a number are decimal, and not too many. -/
theorem decimal_of_int (digits : isdigit text = true) (read : int text = .ok value) :
    text.toList ≠ [] ∧ (∀ char ∈ text.toList, (decimalValue char).isSome = true) ∧
      text.toList.length ≤ maxStrDigits ∧ value = digitsValue text.toList := by
  unfold isdigit at digits
  rw [Bool.and_eq_true, Bool.not_eq_true', List.isEmpty_eq_false_iff] at digits
  unfold int at read
  split at read
  · rename_i decimal
    split at read
    · rename_i few
      exact ⟨digits.1, List.all_eq_true.mp decimal, few, (Except.ok.inj read).symm⟩
    · cases read
  · cases read

/-! ## Days -/

/-- A count is below a difference of powers as a rational exactly when it is as an integer. -/
theorem cast_lt_sub_iff {low high : Nat} (le : low ≤ high) :
    (value : ℚ) < 2 ^ high - 2 ^ low ↔ value < 2 ^ high - 2 ^ low := by
  have powers : 2 ^ low ≤ 2 ^ high := Nat.pow_le_pow_right (by decide) le
  have cast : ((2 ^ high - 2 ^ low : ℕ) : ℚ) = 2 ^ high - 2 ^ low := by
    rw [Nat.cast_sub powers]
    push_cast
    rfl
  rw [← cast, Nat.cast_lt]

/-- Between two powers of two lies the smaller one at least. -/
theorem pow_le_sub {least low high : Nat} (le : least ≤ low) (lt : low < high) :
    2 ^ least ≤ 2 ^ high - 2 ^ low := by
  apply Nat.le_sub_of_add_le
  calc
    2 ^ least + 2 ^ low ≤ 2 ^ low + 2 ^ low :=
      Nat.add_le_add_right (Nat.pow_le_pow_right (by decide) le) _
    _ = 2 ^ (low + 1) := (Nat.two_pow_succ low).symm
    _ ≤ 2 ^ high := Nat.pow_le_pow_right (by decide) lt

/-- A count is below the overflow of doubles as a rational exactly when it is as an integer. -/
theorem cast_lt_overflow : (value : ℚ) < 2 ^ 1024 - 2 ^ 970 ↔ value < 2 ^ 1024 - 2 ^ 970 :=
  cast_lt_sub_iff (by decide)

/-- Numbers that are exact do not overflow. -/
theorem small_le_overflow : 2 ^ 53 ≤ 2 ^ 1024 - 2 ^ 970 := pow_le_sub (by decide) (by decide)

/-- Digits of a small number are read as it. -/
theorem whole_of_small (digits : plainDigits text = true)
    (small : digitsValue text.toList < 2 ^ 53) :
    (number text).whole = some (digitsValue text.toList : ℤ) := by
  obtain ⟨nonempty, ascii, -⟩ := plainDigits_iff.mp digits
  rw [number_digits nonempty ascii]
  obtain ⟨rounded, read, exact, -⟩ :=
    whole_ofRounded _ (cast_lt_overflow.mpr (small.trans_le small_le_overflow))
  rw [read, exact small]

/-- A plain day is a number up to seven. -/
theorem plainDay_iff : plainDay token = some value ↔
    plainDigits token = true ∧ digitsValue token.toList ≤ 7 ∧ value = digitsValue token.toList := by
  unfold plainDay
  split
  · rename_i within
    rw [Bool.and_eq_true, decide_eq_true_eq] at within
    rw [Option.some_inj, eq_comm]
    exact ⟨fun same => ⟨within.1, within.2, same⟩, fun all => all.2.2⟩
  · rename_i without
    rw [Bool.and_eq_true, decide_eq_true_eq] at without
    constructor
    · intro none
      cases none
    · rintro ⟨digits, small, -⟩
      exact absurd ⟨digits, small⟩ without

/-- A day is read from digits up to seven. -/
theorem scriptDay_iff : scriptDay token = some value ↔
    isdigit token = true ∧ int token = .ok value ∧ value ≤ 7 := by
  unfold scriptDay
  split
  · rename_i digits
    split
    · rename_i number read
      split
      · rename_i small
        rw [Option.some_inj, read, Except.ok.injEq]
        exact ⟨fun same => ⟨digits, same, same ▸ small⟩, fun all => all.2.1⟩
      · rename_i large
        constructor
        · intro none
          cases none
        · rintro ⟨-, same, small⟩
          rw [read, Except.ok.injEq] at same
          exact absurd (same ▸ small) large
    · rename_i raised read
      rw [read]
      simp
  · rename_i digits
    simp [digits]

/-- A plain day is a day to both sides. -/
theorem day_of_plainDay (day : plainDay token = some value) :
    looseDay token = some value ∧ scriptDay token = some value := by
  obtain ⟨digits, small, rfl⟩ := plainDay_iff.mp day
  obtain ⟨-, ascii, -⟩ := plainDigits_iff.mp digits
  constructor
  · have undashed : token.toList.contains '-' = false := by
      rw [Bool.eq_false_iff]
      intro dashed
      exact absurd (ascii '-' (List.contains_iff_mem.mp dashed)) (by decide)
    unfold looseDay
    rw [undashed, whole_of_small digits (by omega)]
    simp [small]
  · obtain ⟨is, read⟩ := int_of_plainDigits digits
    exact scriptDay_iff.mpr ⟨is, read, small⟩

/-- A day to both sides is a plain day. -/
theorem plainDay_of_day (solid : Solid token) (loose : looseDay token = some value)
    (script : scriptDay token = some other) : plainDay token = some value ∧ value = other := by
  obtain ⟨digits, read, small⟩ := scriptDay_iff.mp script
  obtain ⟨nonempty, decimal, few, rfl⟩ := decimal_of_int digits read
  unfold looseDay at loose
  split at loose
  · cases loose
  · obtain ⟨whole, found, bounded⟩ := Option.bind_eq_some_iff.mp loose
    have read : number token ≠ .nan := by
      intro nan
      rw [nan] at found
      cases found
    have ascii := asciiDigit_of_number decimal (fun char inside => (solid char inside).2) read
    have plain := plainDigits_iff.mpr ⟨nonempty, ascii, few⟩
    rw [whole_of_small plain (by omega)] at found
    obtain rfl := Option.some.inj found
    split at bounded
    · obtain rfl := Option.some.inj bounded
      exact ⟨plainDay_iff.mpr ⟨plain, small, rfl⟩, rfl⟩
    · cases bounded

/-! ## Steps -/

/-- A plain step is a positive number that does not overflow. -/
theorem plainStep_iff : plainStep text = true ↔ plainDigits text = true ∧
    1 ≤ digitsValue text.toList ∧ digitsValue text.toList < 2 ^ 1024 - 2 ^ 970 := by
  unfold plainStep
  rw [Bool.and_eq_true, Bool.and_eq_true, decide_eq_true_eq, decide_eq_true_eq, and_assoc]

/-- A step is read from digits of a positive number. -/
theorem scriptStep_iff : scriptStep text = true ↔
    isdigit text = true ∧ ∃ step, int text = .ok step ∧ 1 ≤ step := by
  unfold scriptStep
  rw [Bool.and_eq_true]
  cases int text with
  | ok step => simp
  | error raised => simp

/-- A plain step is a step to both sides. -/
theorem step_of_plainStep (step : plainStep text = true) :
    validateStep text = true ∧ scriptStep text = true := by
  obtain ⟨digits, positive, bounded⟩ := plainStep_iff.mp step
  obtain ⟨nonempty, ascii, -⟩ := plainDigits_iff.mp digits
  constructor
  · obtain ⟨rounded, read, exact, large⟩ := whole_ofRounded _ (cast_lt_overflow.mpr bounded)
    unfold validateStep
    rw [number_digits nonempty ascii, read]
    show decide (0 < rounded) = true
    rw [decide_eq_true_eq]
    rcases Nat.lt_or_ge (digitsValue text.toList) (2 ^ 53) with small | big
    · have same := exact small
      omega
    · have least := large big
      omega
  · obtain ⟨is, read⟩ := int_of_plainDigits digits
    exact scriptStep_iff.mpr ⟨is, _, read, positive⟩

/-- A step to both sides is a plain step. -/
theorem plainStep_of_step (solid : Solid text) (loose : validateStep text = true)
    (script : scriptStep text = true) : plainStep text = true := by
  obtain ⟨digits, step, read, positive⟩ := scriptStep_iff.mp script
  obtain ⟨nonempty, decimal, few, rfl⟩ := decimal_of_int digits read
  unfold validateStep at loose
  obtain ⟨whole, found, -⟩ := (Option.any_eq_true _ _).mp loose
  have number : number text ≠ .nan := by
    intro nan
    rw [nan] at found
    cases found
  have ascii := asciiDigit_of_number decimal (fun char inside => (solid char inside).2) number
  refine plainStep_iff.mpr ⟨plainDigits_iff.mpr ⟨nonempty, ascii, few⟩, positive, ?_⟩
  rw [← cast_lt_overflow]
  by_contra overflows
  rw [number_digits nonempty ascii, PyFloat.ofRounded, if_pos (not_lt.mp overflows)] at found
  cases found

/-! ## Names -/

/-- A token is the name of a day. -/
def Named (token : String) : Prop := lower (strip token) ∈ crontabWeekdays

/-- A day in digits is written without a name. -/
theorem writtenDay_of_scriptDay (solid : Solid token) (script : scriptDay token = some value) :
    writtenDay token = some value ∧ ¬ Named token := by
  obtain ⟨digits, read, small⟩ := scriptDay_iff.mp script
  have cleaned : lower (strip token) = token := by
    rw [strip_of_solid solid, lower_of_isdigit (.inl digits)]
  constructor
  · unfold writtenDay
    simp only [cleaned, digits, read, small, if_true]
  · intro named
    unfold Named at named
    rw [cleaned] at named
    have letters : ∀ name ∈ crontabWeekdays, isdigit name = false := by decide +kernel
    rw [letters token named] at digits
    cases digits

/-- A day that is written without a name is in digits. -/
theorem scriptDay_of_writtenDay (solid : Solid token) (written : writtenDay token = some value)
    (unnamed : ¬ Named token) : scriptDay token = some value := by
  unfold Named at unnamed
  unfold writtenDay at written
  rw [strip_of_solid solid] at written unnamed
  simp only at written
  split at written
  · rename_i digits
    have same : lower token = token := lower_of_isdigit (Or.inr digits)
    rw [same] at digits written
    split at written
    · rename_i number read
      split at written
      · rename_i small
        obtain rfl := Option.some.inj written
        exact scriptDay_iff.mpr ⟨digits, read, small⟩
      · cases written
    · cases written
  · exact absurd (List.isSome_idxOf?.mp (Option.isSome_of_eq_some written)) unnamed

/-- A day that JavaScript reads is no name. -/
theorem not_named_of_looseDay (solid : Solid token) (loose : looseDay token = some value) :
    ¬ Named token := by
  intro named
  unfold Named at named
  rw [strip_of_solid solid] at named
  have read : number token ≠ .nan := by
    intro nan
    unfold looseDay at loose
    rw [nan] at loose
    split at loose
    · cases loose
    · obtain ⟨whole, found, -⟩ := Option.bind_eq_some_iff.mp loose
      cases found
  unfold number at read
  rw [trim_of_forall fun char inside => (solid char inside).2] at read
  have chars : token.toList.map Char.toLower = (lower token).toList := String.toList_ofList.symm
  rcases readNumber_chars read with ⟨mark, rest, marked, -⟩ | numeral
  · have letters : ∀ name ∈ crontabWeekdays, name.toList.head? ≠ some '0' := by decide +kernel
    apply letters _ named
    rw [← chars, marked]
    rfl
  · have letters : ∀ name ∈ crontabWeekdays, name.toList.all numeralChar = false := by
      decide +kernel
    have lowered : (lower token).toList.all numeralChar = true := by
      rw [← chars, List.all_eq_true]
      intro lowered inside
      obtain ⟨char, there, rfl⟩ := List.mem_map.mp inside
      exact numeralChar_toLower (numeral char there)
    rw [letters _ named] at lowered
    cases lowered

/-! ## Terms of both sides -/

variable {day first second third : String → Option Nat} {step start middle last : String → Bool}
variable {base : String} {stepText : Option String}

/-- A term is written when its step, its day or the ends of its range are. -/
theorem written_iff : written day step base stepText = true ↔
    (∀ text ∈ stepText, step text = true) ∧ (base ≠ "*" →
      if base.toList.contains '-' = true then
        ∃ low high, day (partition '-' base).1 = some low ∧
          day (partition '-' base).2.2 = some high ∧ low ≤ high
      else ∃ value, day base = some value) := by
  unfold written
  rw [Bool.and_eq_true, Bool.or_eq_true, beq_iff_eq, Option.all_eq_true]
  apply and_congr Iff.rfl
  by_cases star : base = "*"
  · simp [star]
  · simp only [star, ne_eq, not_false_eq_true, false_or, true_implies]
    split
    · cases day (partition '-' base).1 with
      | none => simp
      | some low =>
        cases day (partition '-' base).2.2 with
        | none => simp
        | some high => simp
    · exact Option.isSome_iff_exists

/-- A term that two kinds of numerals can write is written in a third one that they determine. -/
theorem written_of_both
    (days : ∀ token, (∀ char ∈ token.toList, char ∈ base.toList) → ∀ value other,
      first token = some value → second token = some other → third token = some value)
    (steps : ∀ text ∈ stepText, start text = true → middle text = true → last text = true)
    (one : written first start base stepText = true)
    (two : written second middle base stepText = true) :
    written third last base stepText = true := by
  rw [written_iff] at one two ⊢
  obtain ⟨starts, one⟩ := one
  obtain ⟨middles, two⟩ := two
  refine ⟨fun text inside => steps text inside (starts text inside) (middles text inside), ?_⟩
  intro star
  have one := one star
  have two := two star
  split at one
  · rename_i dashed
    rw [if_pos dashed] at two ⊢
    obtain ⟨low, high, read, read', le⟩ := one
    obtain ⟨other, another, also, also', -⟩ := two
    exact ⟨low, high, days _ (fun _ inside => mem_of_mem_partition (.inl inside)) _ _ read also,
      days _ (fun _ inside => mem_of_mem_partition (.inr inside)) _ _ read' also', le⟩
  · rename_i undashed
    rw [if_neg undashed] at two ⊢
    obtain ⟨value, read⟩ := one
    obtain ⟨other, also⟩ := two
    exact ⟨value, days base (fun _ inside => inside) _ _ read also⟩

/-- The parts of a term have its characters. -/
theorem toList_wholeParts :
    (∀ char ∈ (wholeParts term).1.toList, char ∈ term.toList) ∧
      ∀ text ∈ (wholeParts term).2, ∀ char ∈ text.toList, char ∈ term.toList := by
  refine ⟨fun _ inside => mem_of_mem_partition (.inl inside), ?_⟩
  intro text stepped char inside
  unfold wholeParts at stepped
  simp only at stepped
  split at stepped
  · obtain rfl := Option.some.inj stepped
    exact mem_of_mem_partition (.inr inside)
  · cases stepped

/-- What stands before the first slash is the same, and so is what stands after it where there is no
other one. -/
theorem slashParts_of_wholeParts : (slashParts term).1 = (wholeParts term).1 ∧
    ((∀ text ∈ (wholeParts term).2, '/' ∉ text.toList) → slashParts term = wholeParts term) := by
  unfold slashParts wholeParts
  cases separated : (partition '/' term).2.1 with
  | false =>
    obtain ⟨same, plain⟩ := toList_of_not_partition separated
    rw [split_of_notMem plain]
    simp [same, separated]
  | true =>
    rw [split_of_partition separated]
    obtain ⟨next, others, parts⟩ :=
      List.exists_cons_of_ne_nil (@split_ne_nil '/' (partition '/' term).2.2)
    rw [parts]
    refine ⟨rfl, ?_⟩
    intro undivided
    rw [split_of_notMem (undivided _ (by simp [separated]))] at parts
    rw [← (List.cons.inj parts).1]
    simp [separated]

/-- A plain term is written in the numerals of both sides. -/
theorem both_of_plain (is : plain term = true) : loose term = true ∧ script term = true := by
  have undivided : ∀ text ∈ (wholeParts term).2, '/' ∉ text.toList := by
    intro text inside slash
    have step := (written_iff.mp is).1 text inside
    have ascii := (plainDigits_iff.mp (plainStep_iff.mp step).1).2.1
    exact absurd (ascii '/' slash) (by decide)
  constructor
  · unfold loose
    rw [slashParts_of_wholeParts.2 undivided]
    apply written_of_both _ _ is is
    · exact fun token _ value _ read _ => (day_of_plainDay read).1
    · exact fun text _ step _ => (step_of_plainStep step).1
  · apply written_of_both _ _ is is
    · exact fun token _ value _ read _ => (day_of_plainDay read).2
    · exact fun text _ step _ => (step_of_plainStep step).2

/-- A term that is written in the numerals of both sides is plain. -/
theorem plain_of_both (solid : Solid term) (one : loose term = true) (two : script term = true) :
    plain term = true := by
  have undivided : ∀ text ∈ (wholeParts term).2, '/' ∉ text.toList := by
    intro text inside slash
    have step := (written_iff.mp two).1 text inside
    obtain ⟨digits, number, read, -⟩ := scriptStep_iff.mp step
    have decimal := (decimal_of_int digits read).2.1
    exact absurd (decimal '/' slash) (by decide)
  unfold loose at one
  rw [slashParts_of_wholeParts.2 undivided] at one
  apply written_of_both _ _ one two
  · intro token within value other read also
    have part : Solid token :=
      fun char inside => solid char (toList_wholeParts.1 char (within char inside))
    exact (plainDay_of_day part read also).1
  · intro text inside step also
    have part : Solid text :=
      fun char within => solid char (toList_wholeParts.2 text inside char within)
    exact plainStep_of_step part step also

/-! ## The dashboard -/

/-- Without a dash a day is a whole number up to seven. -/
theorem looseDay_iff (undashed : '-' ∉ token.toList) : looseDay token = some value ↔
    (number token).whole = some (value : ℤ) ∧ value ≤ 7 := by
  unfold looseDay
  rw [if_neg (fun dashed => undashed (List.contains_iff_mem.mp dashed)), Option.bind_eq_some_iff]
  constructor
  · rintro ⟨whole, read, bounded⟩
    split at bounded
    · obtain rfl := Option.some.inj bounded
      rw [read, Option.some_inj]
      omega
    · cases bounded
  · rintro ⟨read, small⟩
    refine ⟨_, read, ?_⟩
    rw [if_pos (by omega)]
    rfl

/-- A text with a dash is no day. -/
theorem looseDay_of_dashed (dashed : '-' ∈ token.toList) : looseDay token = none :=
  if_pos (List.contains_iff_mem.mpr dashed)

/-- The bounds of a range as the dashboard checks them. -/
theorem bounds_iff {first last : String} (undashed : '-' ∉ first.toList)
    (undashed' : '-' ∉ last.toList) :
    (match (number first).whole, (number last).whole with
      | some lo, some hi => decide (0 ≤ lo) && decide (hi ≤ 7) && decide (lo ≤ hi)
      | _, _ => false) = true ↔
      ∃ low high, looseDay first = some low ∧ looseDay last = some high ∧ low ≤ high := by
  simp only [looseDay_iff undashed, looseDay_iff undashed']
  cases (number first).whole with
  | none => simp
  | some lo =>
    cases (number last).whole with
    | none => simp
    | some hi =>
      simp only [Bool.and_eq_true, decide_eq_true_eq, Option.some_inj]
      constructor
      · rintro ⟨⟨least, most⟩, ordered⟩
        exact ⟨lo.toNat, hi.toNat, by omega, by omega, by omega⟩
      · rintro ⟨low, high, ⟨rfl, -⟩, ⟨rfl, most⟩, ordered⟩
        omega

/-- A term is accepted by the dashboard exactly when it is loosely written. -/
theorem validateTerm_iff : validateTerm 0 7 term = true ↔ loose term = true := by
  unfold loose validateTerm
  generalize slashParts term = parts
  obtain ⟨base, stepText⟩ := parts
  rw [written_iff]
  simp only [Bool.and_eq_true, Bool.or_eq_true, beq_iff_eq, Option.all_eq_true]
  apply and_congr Iff.rfl
  by_cases star : base = "*"
  · simp [star]
  simp only [star, ne_eq, not_false_eq_true, false_or, true_implies]
  split
  · rename_i dashed
    cases separated : (partition '-' base).2.1 with
    | false =>
      exact absurd (List.contains_iff_mem.mp dashed) (toList_of_not_partition separated).2
    | true =>
      have undashed := (toList_of_partition separated).2
      rw [split_of_partition separated]
      by_cases again : '-' ∈ (partition '-' base).2.2.toList
      · cases separated' : (partition '-' (partition '-' base).2.2).2.1 with
        | false => exact absurd again (toList_of_not_partition separated').2
        | true =>
          obtain ⟨next, others, rest⟩ := List.exists_cons_of_ne_nil
            (@split_ne_nil '-' (partition '-' (partition '-' base).2.2).2.2)
          rw [split_of_partition separated', rest, looseDay_of_dashed again]
          simp
      · rw [split_of_notMem again]
        exact bounds_iff undashed again
  · rename_i undashed
    have plain : '-' ∉ base.toList := fun dashed => undashed (List.contains_iff_mem.mpr dashed)
    simp only [looseDay_iff plain]
    cases (number base).whole with
    | none => simp
    | some num =>
      simp only [Bool.and_eq_true, decide_eq_true_eq, Option.some_inj]
      constructor
      · rintro ⟨least, most⟩
        exact ⟨num.toNat, by omega, by omega⟩
      · rintro ⟨value, rfl, most⟩
        omega

/-- A field is accepted by the dashboard exactly when its terms are loosely written. -/
theorem validateField_iff :
    validateField field 0 7 = true ↔ ∀ term ∈ split ',' field, loose term = true := by
  unfold validateField
  rw [Bool.or_eq_true, beq_iff_eq, List.all_eq_true]
  simp only [validateTerm_iff]
  constructor
  · rintro (rfl | all)
    · decide +kernel
    · exact all
  · exact .inr

/-- The default schedule with a field for the days of the week. -/
def onDays (field : String) : String := "0 1 * * " ++ field

/-- A field without blanks is the last field of an expression. -/
theorem parseCron_onDays (nonempty : field ≠ "") (solid : Solid field) :
    parseCron (onDays field) = some ⟨"0", "1", "*", "*", field⟩ := by
  have chars : (onDays field).toList =
      ['0'] ++ ' ' :: (['1'] ++ ' ' :: (['*'] ++ ' ' :: (['*'] ++ ' ' :: field.toList))) := by
    unfold onDays
    rw [String.toList_append]
    simp
  have last : field.toList.splitOnP jsSpace = [field.toList] :=
    List.splitOnP_eq_singleton fun char inside => (solid char inside).2
  have words : (onDays field).toList.splitOnP jsSpace =
      [['0'], ['1'], ['*'], ['*'], field.toList] := by
    rw [chars, List.splitOnP_append_cons _ _ rfl, List.splitOnP_append_cons _ _ rfl,
      List.splitOnP_append_cons _ _ rfl, List.splitOnP_append_cons _ _ rfl, last]
    rfl
  have some : field.toList.isEmpty = false := by
    rw [List.isEmpty_eq_false_iff]
    intro none
    exact nonempty (String.toList_inj.mp (none.trans String.toList_empty.symm))
  unfold parseCron jsWords
  rw [words]
  simp only [List.filter, List.isEmpty_cons, some, Bool.not_false]
  show Option.some (CronParts.mk _ _ _ _ (String.ofList field.toList)) = _
  rw [String.ofList_toList]

/-- An expression is accepted exactly when each of its fields is. -/
theorem validateCron_onDays (nonempty : field ≠ "") (solid : Solid field) :
    (validateCron (onDays field)).valid = true ↔ validateField field 0 7 = true := by
  unfold validateCron
  rw [parseCron_onDays nonempty solid]
  have front : validateField "0" 0 59 = true ∧ validateField "1" 0 23 = true ∧
      validateField "*" 1 31 = true ∧ validateField "*" 1 12 = true := by decide +kernel
  obtain ⟨minute, hour, dayOfMonth, month⟩ := front
  unfold fieldBounds
  cases checked : validateField field 0 7 with
  | true => simp [minute, hour, dayOfMonth, month, checked]
  | false => simp [minute, hour, dayOfMonth, month, checked]

/-! ## The translation -/

/-- The tokens of a term that stand for days. -/
def weekdayTokens (part : String) : List String :=
  let base := strip (partition '/' (strip part)).1
  if base = "*" then []
  else if base.toList.contains '-' then [(partition '-' base).1, (partition '-' base).2.2]
  else [base]

/-- A step is written unless it is separated and not read. -/
theorem writtenStep_iff {separated : Bool} {stepText : String} :
    (∃ step, writtenStep separated stepText = some step) ↔
      (separated = true → scriptStep stepText = true) := by
  unfold writtenStep scriptStep
  cases separated with
  | false => simp
  | true =>
    cases isdigit stepText with
    | false => simp
    | true =>
      cases int stepText with
      | error raised => simp
      | ok step =>
        by_cases positive : 1 ≤ step
        · simp [positive]
        · simp [positive]

/-- A term is written in the digits of any script exactly when it is read without names and without
a range that descends. -/
theorem script_iff (solid : Solid term) : script term = true ↔
    ∃ found, readTerm term = some found ∧ (∀ token ∈ weekdayTokens term, ¬ Named token) ∧
      ∀ low high step, found = ⟨.range low high, step⟩ → low ≤ high := by
  have within := fun char => @mem_of_mem_partition '/' term char
  unfold script wholeParts readTerm weekdayTokens
  rw [strip_of_solid solid]
  generalize partition '/' term = parts at within ⊢
  obtain ⟨base, separated, stepText⟩ := parts
  simp only at within ⊢
  have part : ∀ token : String, (∀ char ∈ token.toList, char ∈ base.toList) → Solid token :=
    fun token inside char there => solid char (within char (.inl (inside char there)))
  have whole : Solid base := part base fun _ inside => inside
  have before : Solid (partition '-' base).1 :=
    part _ fun _ inside => mem_of_mem_partition (.inl inside)
  have after : Solid (partition '-' base).2.2 :=
    part _ fun _ inside => mem_of_mem_partition (.inr inside)
  rw [strip_of_solid whole, written_iff]
  have steps : (∀ text ∈ if separated = true then some stepText else none, scriptStep text = true) ↔
      ∃ step, writtenStep separated stepText = some step := by
    rw [writtenStep_iff]
    cases separated <;> simp
  rw [steps]
  constructor
  · rintro ⟨⟨step, stepped⟩, days⟩
    rw [stepped]
    by_cases star : base = "*"
    · exact ⟨⟨.every, step⟩, if_pos star, by simp [star], nofun⟩
    have days := days star
    rw [if_neg star]
    split at days
    · rename_i dashed
      obtain ⟨low, high, read, read', le⟩ := days
      obtain ⟨write, unnamed⟩ := writtenDay_of_scriptDay before read
      obtain ⟨write', unnamed'⟩ := writtenDay_of_scriptDay after read'
      refine ⟨⟨.range low high, step⟩, ?_, ?_, ?_⟩
      · simp only [Option.bind_eq_bind, Option.bind_some, star, dashed, if_true, if_false, write,
          write']
      · rw [if_pos dashed]
        exact List.forall_mem_cons.mpr ⟨unnamed, List.forall_mem_singleton.mpr unnamed'⟩
      · rintro low' high' step' same
        cases same
        exact le
    · rename_i undashed
      obtain ⟨value, read⟩ := days
      obtain ⟨write, unnamed⟩ := writtenDay_of_scriptDay whole read
      refine ⟨⟨.single value, step⟩, ?_, ?_, nofun⟩
      · simp only [Option.bind_eq_bind, Option.bind_some, star, undashed, Bool.false_eq_true,
          if_false, write]
      · rw [if_neg undashed]
        exact List.forall_mem_singleton.mpr unnamed
  · rintro ⟨found, read, unnamed, ordered⟩
    obtain ⟨step, stepped, rest⟩ := Option.bind_eq_some_iff.mp read
    refine ⟨⟨step, stepped⟩, ?_⟩
    intro star
    rw [if_neg star] at rest unnamed
    split at rest
    · rename_i dashed
      rw [if_pos dashed] at unnamed ⊢
      obtain ⟨first, others⟩ := List.forall_mem_cons.mp unnamed
      have second := List.forall_mem_singleton.mp others
      obtain ⟨low, write, rest⟩ := Option.bind_eq_some_iff.mp rest
      obtain ⟨high, write', rest⟩ := Option.bind_eq_some_iff.mp rest
      exact ⟨low, high, scriptDay_of_writtenDay before write first,
        scriptDay_of_writtenDay after write' second,
        ordered low high step (Option.some.inj rest).symm⟩
    · rename_i undashed
      rw [if_neg undashed] at unnamed ⊢
      obtain ⟨value, write, -⟩ := Option.bind_eq_some_iff.mp rest
      exact ⟨value, scriptDay_of_writtenDay whole write (unnamed base List.mem_cons_self)⟩

/-- A term that JavaScript reads and that the translation reads has no names and does not descend.
-/
theorem script_of_loose {found : Term} (solid : Solid term) (is : loose term = true)
    (read : readTerm term = some found) : script term = true := by
  rw [script_iff solid]
  unfold loose at is
  rw [slashParts_of_wholeParts.1] at is
  have days := (written_iff.mp is).2
  have within := (@toList_wholeParts term).1
  refine ⟨found, read, ?_⟩
  unfold readTerm at read
  unfold weekdayTokens
  rw [strip_of_solid solid] at read ⊢
  unfold wholeParts at days within
  generalize partition '/' term = parts at days within read ⊢
  obtain ⟨base, separated, stepText⟩ := parts
  simp only at days within read ⊢
  have part : ∀ token : String, (∀ char ∈ token.toList, char ∈ base.toList) → Solid token :=
    fun token inside char there => solid char (within char (inside char there))
  have whole : Solid base := part base fun _ inside => inside
  rw [strip_of_solid whole] at read ⊢
  obtain ⟨step, -, read⟩ := Option.bind_eq_some_iff.mp read
  by_cases star : base = "*"
  · rw [if_pos star] at read ⊢
    obtain rfl := Option.some.inj read
    exact ⟨fun _ inside => absurd inside List.not_mem_nil, nofun⟩
  have days := days star
  rw [if_neg star] at read ⊢
  split at days
  · rename_i dashed
    rw [if_pos dashed] at read ⊢
    have before : Solid (partition '-' base).1 :=
      part _ fun _ inside => mem_of_mem_partition (.inl inside)
    have after : Solid (partition '-' base).2.2 :=
      part _ fun _ inside => mem_of_mem_partition (.inr inside)
    obtain ⟨low, high, lower, upper, le⟩ := days
    have unnamed := not_named_of_looseDay before lower
    have unnamed' := not_named_of_looseDay after upper
    refine ⟨List.forall_mem_cons.mpr ⟨unnamed, List.forall_mem_singleton.mpr unnamed'⟩, ?_⟩
    rintro first last step' rfl
    obtain ⟨low', write, read⟩ := Option.bind_eq_some_iff.mp read
    obtain ⟨high', write', read⟩ := Option.bind_eq_some_iff.mp read
    cases Option.some.inj read
    have same := (plainDay_of_day before lower (scriptDay_of_writtenDay before write unnamed)).2
    have same' := (plainDay_of_day after upper (scriptDay_of_writtenDay after write' unnamed')).2
    omega
  · rename_i undashed
    rw [if_neg undashed] at read ⊢
    obtain ⟨value, day⟩ := days
    refine ⟨List.forall_mem_singleton.mpr (not_named_of_looseDay whole day), ?_⟩
    rintro first last step' rfl
    obtain ⟨value', -, read⟩ := Option.bind_eq_some_iff.mp read
    cases Option.some.inj read

/-! ## Agreement -/

/-- No token of a field names a day. -/
def Nameless (field : String) : Prop :=
  ∀ part ∈ split ',' field, ∀ token ∈ weekdayTokens part, ¬ Named token

/-- No range of a field is written from a larger number to a smaller one. -/
def Ascending (field : String) : Prop :=
  ∀ part ∈ split ',' field, ∀ low high step,
    readTerm part = some ⟨.range low high, step⟩ → low ≤ high

/-- Whether the translation accepts a field. -/
def Accepted (field : String) : Prop := ∃ out, translateDayOfWeek field = .ok out

/-- The translation accepts what the dashboard accepts, and the dashboard accepts what the
translation accepts without names and without a range that descends. -/
def Agree (field : String) : Prop :=
  ((validateCron (onDays field)).valid = true → Accepted field) ∧
    (Accepted field → Nameless field → Ascending field →
      (validateCron (onDays field)).valid = true)

/-- A field that is written in the numerals of JavaScript, or in the digits of any script, is
written in plain digits. -/
def Plain (field : String) : Prop :=
  (∀ term ∈ split ',' field, loose term = true) ∨ (∀ term ∈ split ',' field, script term = true) →
    ∀ term ∈ split ',' field, plain term = true

/-- The two sides agree on a field exactly when it is not written in numerals of one of them only.
-/
theorem agree_iff_plain (nonempty : field ≠ "") (solid : Solid field) :
    Agree field ↔ Plain field := by
  have parts : ∀ part ∈ split ',' field, Solid part :=
    fun part listed char inside => solid char (mem_of_mem_split inside listed)
  unfold Agree Accepted Plain
  rw [validateCron_onDays nonempty solid, validateField_iff, exists_translated_iff]
  have scripts : (∀ part ∈ split ',' field, script part = true) ↔
      (∀ part ∈ split ',' field, ∃ term, readTerm part = some term) ∧
        Nameless field ∧ Ascending field := by
    constructor
    · intro all
      have each := fun part listed => (script_iff (parts part listed)).mp (all part listed)
      refine ⟨?_, ?_, ?_⟩
      · intro part listed
        obtain ⟨found, read, -⟩ := each part listed
        exact ⟨found, read⟩
      · intro part listed
        obtain ⟨found, -, unnamed, -⟩ := each part listed
        exact unnamed
      · intro part listed low high step same
        obtain ⟨found, read, -, ordered⟩ := each part listed
        exact ordered low high step (Option.some.inj (read.symm.trans same))
    · rintro ⟨read, unnamed, ordered⟩ part listed
      obtain ⟨found, reads⟩ := read part listed
      apply (script_iff (parts part listed)).mpr
      refine ⟨found, reads, unnamed part listed, ?_⟩
      rintro low high step rfl
      exact ordered part listed low high step reads
  constructor
  · rintro ⟨forward, backward⟩ (loose | script)
    · intro part listed
      obtain ⟨found, read⟩ := forward loose part listed
      exact plain_of_both (parts part listed) (loose part listed)
        (script_of_loose (parts part listed) (loose part listed) read)
    · obtain ⟨read, unnamed, ordered⟩ := scripts.mp script
      intro part listed
      exact plain_of_both (parts part listed) (backward read unnamed ordered part listed)
        (script part listed)
  · intro plain
    constructor
    · intro loose
      exact (scripts.mp fun part listed => (both_of_plain (plain (.inl loose) part listed)).2).1
    · intro read unnamed ordered part listed
      have script := scripts.mpr ⟨read, unnamed, ordered⟩
      exact (both_of_plain (plain (.inr script) part listed)).1

/-- Both sides agree on a range with a step and a day. -/
theorem agree_iff_plain_of_range : "1-5/2,7" ≠ "" ∧ Solid "1-5/2,7" ∧
    (Agree "1-5/2,7" ↔ Plain "1-5/2,7") := by
  have solid : Solid "1-5/2,7" := by
    unfold Solid
    simp [isSpace, jsSpace]
  exact ⟨by decide, solid, agree_iff_plain (by decide) solid⟩

/-- The dashboard accepts an empty term, which the translation refuses. -/
theorem not_agree_of_empty_term : "1,,3" ≠ "" ∧ Solid "1,,3" ∧ ¬ Agree "1,,3" := by
  refine ⟨by decide, ?_, ?_⟩
  · unfold Solid
    simp [isSpace, jsSpace]
  · rintro ⟨forward, -⟩
    obtain ⟨out, translated⟩ := forward (by decide +kernel)
    have refused : (translateDayOfWeek "1,,3").isOk = false := by decide +kernel
    rw [translated] at refused
    cases refused

end ProxSync.Scheduler.Dashboard
