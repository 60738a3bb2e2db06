import ProxSync.Lib.Text
/-!
# Numerals

Texts read as numbers the way Python reads them. The decimal digits of every script count, and a
floating point numeral may also name an infinity or no number at all. Any other numeral stands for
the double that is nearest to it, which is infinite from half a unit beyond the largest one on.
Rounding keeps the integers that a double holds exactly as they are.
-/
namespace ProxSync.Lib

/-- The zeros of the scripts with decimal digits; the ten digits of a script are adjacent. -/
def decimalZeros : List Nat :=
  [0x30, 0x660, 0x6f0, 0x7c0, 0x966, 0x9e6, 0xa66, 0xae6, 0xb66, 0xbe6, 0xc66, 0xce6, 0xd66, 0xde6,
    0xe50, 0xed0, 0xf20, 0x1040, 0x1090, 0x17e0, 0x1810, 0x1946, 0x19d0, 0x1a80, 0x1a90, 0x1b50,
    0x1bb0, 0x1c40, 0x1c50, 0xa620, 0xa8d0, 0xa900, 0xa9d0, 0xa9f0, 0xaa50, 0xabf0, 0xff10, 0x104a0,
    0x10d30, 0x11066, 0x110f0, 0x11136, 0x111d0, 0x112f0, 0x11450, 0x114d0, 0x11650, 0x116c0,
    0x11730, 0x118e0, 0x11950, 0x11c50, 0x11d50, 0x11da0, 0x11f50, 0x16a60, 0x16ac0, 0x16b50,
    0x1d7ce, 0x1d7d8, 0x1d7e2, 0x1d7ec, 0x1d7f6, 0x1e140, 0x1e2f0, 0x1e4f0, 0x1e950, 0x1fbf0]

/-- The value of a decimal digit. -/
def decimalValue (char : Char) : Option Nat :=
  (decimalZeros.find? fun start => start ≤ char.toNat && char.toNat < start + 10).map
    (char.toNat - ·)

/-- The ranges of digits that are not decimal, such as superscripts. -/
def symbolDigits : List (Nat × Nat) :=
  [(0xb2, 0xb3), (0xb9, 0xb9), (0x1369, 0x1371), (0x19da, 0x19da), (0x2070, 0x2070),
    (0x2074, 0x2079), (0x2080, 0x2089), (0x2460, 0x2468), (0x2474, 0x247c), (0x2488, 0x2490),
    (0x24ea, 0x24ea), (0x24f5, 0x24fd), (0x24ff, 0x24ff), (0x2776, 0x277e), (0x2780, 0x2788),
    (0x278a, 0x2792), (0x10a40, 0x10a43), (0x10e60, 0x10e68), (0x11052, 0x1105a),
    (0x1f100, 0x1f10a)]

/-- Whether a code point is a digit. -/
def isDigitChar (char : Char) : Bool :=
  (decimalValue char).isSome ||
    symbolDigits.any fun range => range.1 ≤ char.toNat && char.toNat ≤ range.2

/-- Whether a text consists of digits, of which there is at least one. -/
def isdigit (text : String) : Bool := !text.toList.isEmpty && text.toList.all isDigitChar

/-- Whether a code point is an ASCII digit. -/
def asciiDigit (char : Char) : Bool := 48 ≤ char.toNat && char.toNat ≤ 57

/-- The number that decimal digits stand for. -/
def digitsValue (digits : List Char) : Nat :=
  digits.foldl (fun value digit => 10 * value + (decimalValue digit).getD 0) 0

/-- The error of a value that is not understood. -/
structure ValueError where
  message : String
  deriving DecidableEq, Repr

/-- The most digits an integer is read from. -/
def maxStrDigits : Nat := 4300

/-- The integer a text of digits stands for. -/
def int (text : String) : Except ValueError Nat :=
  if text.toList.all fun char => (decimalValue char).isSome then
    if text.toList.length ≤ maxStrDigits then .ok (digitsValue text.toList)
    else
      .error ⟨s!"Exceeds the limit ({maxStrDigits} digits) for integer string conversion: value " ++
        s!"has {text.toList.length} digits; use sys.set_int_max_str_digits() to increase the limit"⟩
  else .error ⟨s!"invalid literal for int() with base 10: '{text}'"⟩

/-! ## Floating point -/

/-- A floating point number. -/
inductive PyFloat
  | nan
  | infinite (negative : Bool)
  | finite (value : ℚ)
  deriving DecidableEq, Repr

/-- The number of the other sign. -/
def PyFloat.negate : PyFloat → PyFloat
  | .nan => .nan
  | .infinite negative => .infinite !negative
  | .finite value => .finite (-value)

/-- A number to the nearest integer, an even one where two are as near. -/
def roundHalfEven (value : ℚ) : ℤ :=
  let fraction := value - ⌊value⌋
  if fraction < 1 / 2 then ⌊value⌋
  else if 1 / 2 < fraction then ⌊value⌋ + 1
  else if ⌊value⌋ % 2 = 0 then ⌊value⌋ else ⌊value⌋ + 1

/-- The nearest double of a magnitude, where exponents are not bounded above. -/
def nearestDouble (value : ℚ) : ℚ :=
  let unit : ℚ := 2 ^ max (Int.log 2 value - 52) (-1074)
  roundHalfEven (value / unit) * unit

/-- The double of a magnitude. -/
def PyFloat.ofRounded (value : ℚ) : PyFloat :=
  if 2 ^ 1024 - 2 ^ 970 ≤ value then .infinite false else .finite (nearestDouble value)

/-- The blanks around a floating point numeral. -/
def asciiSpace (char : Char) : Bool :=
  char.toNat == 32 || (9 ≤ char.toNat && char.toNat ≤ 13)

/-- A code point of a numeral in ASCII. -/
def asciiNumeral (char : Char) : Char :=
  if char.toNat < 127 then char
  else if isSpace char then ' '
  else
    match decimalValue char with
    | some value => Char.ofNat (48 + value)
    | none => '?'

/-- The code points without the underscores, each of which must stand between two digits. -/
def dropUnderscores (previous : Char) : List Char → Option (List Char)
  | [] => if previous = '_' then none else some []
  | char :: rest =>
    if char = '_' then if asciiDigit previous then dropUnderscores '_' rest else none
    else if previous = '_' && !asciiDigit char then none
    else (dropUnderscores char rest).map (char :: ·)

/-- ASCII digits as a number, of which there is at least one. -/
def readDigits (chars : List Char) : Option Nat :=
  if !chars.isEmpty && chars.all asciiDigit then some (digitsValue chars) else none

/-- The sign of a numeral, and what follows it. -/
def splitSign : List Char → Bool × List Char
  | '-' :: rest => (true, rest)
  | '+' :: rest => (false, rest)
  | rest => (false, rest)

/-- The integer a text stands for, with blanks around it, a sign and underscores between digits. -/
def integer (text : String) : Except ValueError ℤ :=
  let (negative, unsigned) := splitSign (trim asciiSpace (text.toList.map asciiNumeral))
  match (dropUnderscores '\x00' unsigned).bind fun digits =>
      (readDigits digits).map fun value => (digits.length, value) with
  | some (length, value) =>
    if length ≤ maxStrDigits then .ok (if negative then -(value : ℤ) else value)
    else
      .error ⟨s!"Exceeds the limit ({maxStrDigits} digits) for integer string conversion: value " ++
        s!"has {length} digits; use sys.set_int_max_str_digits() to increase the limit"⟩
  | none => .error ⟨s!"invalid literal for int() with base 10: '{text}'"⟩

/-- The exponent that ends a numeral, zero where nothing is left. -/
def readExponent : List Char → Option ℤ
  | [] => some 0
  | mark :: rest =>
    if mark = 'e' || mark = 'E' then
      match rest with
      | '-' :: digits => (readDigits digits).map fun value : Nat => -(value : ℤ)
      | '+' :: digits => (readDigits digits).map Int.ofNat
      | digits => (readDigits digits).map Int.ofNat
    else none

/-- The fraction after the digits before the point, with what follows it. -/
def splitFraction : List Char → List Char × List Char
  | '.' :: rest => (rest.takeWhile asciiDigit, rest.dropWhile asciiDigit)
  | rest => ([], rest)

/-- The magnitude of a decimal numeral. -/
def readMagnitude (chars : List Char) : Option ℚ :=
  let whole := chars.takeWhile asciiDigit
  let (fraction, rest) := splitFraction (chars.dropWhile asciiDigit)
  if (whole ++ fraction).isEmpty then none
  else
    (readExponent rest).map fun exponent : ℤ =>
      (digitsValue (whole ++ fraction) : ℚ) * 10 ^ (exponent - (fraction.length : ℤ))

/-- The double that a numeral without its sign stands for. -/
def readUnsigned (chars : List Char) : Option PyFloat :=
  let word := chars.map Char.toLower
  if word = ['n', 'a', 'n'] then some .nan
  else if word = ['i', 'n', 'f'] || word = ['i', 'n', 'f', 'i', 'n', 'i', 't', 'y'] then
    some (.infinite false)
  else (readMagnitude chars).map .ofRounded

/-- A numeral with its sign. -/
def readSigned : List Char → Option PyFloat
  | '-' :: rest => (readUnsigned rest).map .negate
  | '+' :: rest => readUnsigned rest
  | rest => readUnsigned rest

/-- The floating point number a text stands for. -/
def float (text : String) : Option PyFloat :=
  (dropUnderscores '\x00' (trim asciiSpace (text.toList.map asciiNumeral))).bind readSigned

/-! ## Rounding of integers -/

/-- An integer is its own rounding. -/
theorem roundHalfEven_intCast (value : ℤ) : roundHalfEven value = value := by
  unfold roundHalfEven
  rw [Int.floor_intCast, sub_self, if_pos (by norm_num)]

/-- An integer that a double holds exactly is not rounded. -/
theorem nearestDouble_of_lt {count : Nat} (small : count < 2 ^ 53) :
    nearestDouble count = count := by
  have log : Nat.log 2 count ≤ 52 := Nat.le_of_lt_succ (Nat.log_lt_of_lt_pow' (by decide) small)
  obtain ⟨places, exponent⟩ : ∃ places : Nat,
      max (Int.log 2 (count : ℚ) - 52) (-1074) = -(places : ℤ) := by
    rw [Int.log_natCast]
    exact ⟨(-(max ((Nat.log 2 count : ℤ) - 52) (-1074))).toNat, by omega⟩
  unfold nearestDouble
  simp only
  rw [exponent, zpow_neg, zpow_natCast, div_inv_eq_mul]
  have whole : (count : ℚ) * 2 ^ places = ((count * 2 ^ places : ℤ) : ℚ) := by push_cast; rfl
  rw [whole, roundHalfEven_intCast, ← whole]
  exact mul_inv_cancel_right₀ (pow_ne_zero _ (by norm_num)) _

/-! ## The code points of a numeral -/

/-- The code points a floating point numeral is written in. -/
def numeralChar (char : Char) : Bool :=
  asciiDigit char || ['+', '-', '.'].contains char ||
    ['i', 'n', 'f', 't', 'y', 'a', 'e'].contains char.toLower

variable {chars others : List Char} {char previous : Char}

/-- A digit is a character of a numeral. -/
theorem numeralChar_digit (digit : asciiDigit char = true) : numeralChar char = true := by
  unfold numeralChar
  rw [digit]
  rfl

/-- An element is before the first that fails a test, or from it on. -/
theorem mem_takeWhile_or_dropWhile (test : Char → Bool) (inside : char ∈ chars) :
    char ∈ chars.takeWhile test ∨ char ∈ chars.dropWhile test := by
  rw [← List.takeWhile_append_dropWhile (p := test) (l := chars)] at inside
  exact List.mem_append.mp inside

/-- An element that is trimmed away passes the test. -/
theorem mem_trim (test : Char → Bool) (inside : char ∈ chars) :
    test char = true ∨ char ∈ trim test chars := by
  by_cases passes : test char = true
  · exact .inl passes
  · have front : char ∈ chars.dropWhile test := by
      apply (mem_takeWhile_or_dropWhile test inside).resolve_left
      intro before
      exact passes (List.mem_takeWhile_imp before)
    have back : char ∈ (chars.dropWhile test).reverse.dropWhile test := by
      apply (mem_takeWhile_or_dropWhile test (List.mem_reverse.mpr front)).resolve_left
      intro before
      exact passes (List.mem_takeWhile_imp before)
    exact .inr (List.mem_reverse.mpr back)

/-- Only underscores are dropped. -/
theorem mem_dropUnderscores (dropped : dropUnderscores previous chars = some others)
    (inside : char ∈ chars) : char = '_' ∨ char ∈ others := by
  induction chars generalizing previous others with
  | nil => cases inside
  | cons first rest ih =>
    unfold dropUnderscores at dropped
    split at dropped
    · rename_i underscore
      split at dropped
      · rcases List.mem_cons.mp inside with same | later
        · exact .inl (same.trans underscore)
        · exact ih dropped later
      · cases dropped
    · split at dropped
      · cases dropped
      · obtain ⟨kept, tail, rfl⟩ := Option.map_eq_some_iff.mp dropped
        rcases List.mem_cons.mp inside with same | later
        · exact .inr (same ▸ List.mem_cons_self)
        · exact (ih tail later).imp_right (List.mem_cons_of_mem _)

/-- Digits that are read are characters of a numeral. -/
theorem readDigits_chars {value : Nat} (read : readDigits chars = some value)
    (inside : char ∈ chars) : numeralChar char = true := by
  unfold readDigits at read
  split at read
  · rename_i digits
    rw [Bool.and_eq_true] at digits
    exact numeralChar_digit (List.all_eq_true.mp digits.2 char inside)
  · cases read

/-- An exponent that is read has characters of a numeral. -/
theorem readExponent_chars {value : ℤ} (read : readExponent chars = some value)
    (inside : char ∈ chars) : numeralChar char = true := by
  unfold readExponent at read
  split at read
  · cases inside
  · rename_i mark rest
    split at read
    · rename_i marked
      rcases List.mem_cons.mp inside with rfl | later
      · rw [Bool.or_eq_true, decide_eq_true_eq, decide_eq_true_eq] at marked
        rcases marked with rfl | rfl <;> rfl
      · split at read
        · obtain ⟨digits, found, -⟩ := Option.map_eq_some_iff.mp read
          rcases List.mem_cons.mp later with rfl | digit
          · rfl
          · exact readDigits_chars found digit
        · obtain ⟨digits, found, -⟩ := Option.map_eq_some_iff.mp read
          rcases List.mem_cons.mp later with rfl | digit
          · rfl
          · exact readDigits_chars found digit
        · obtain ⟨digits, found, -⟩ := Option.map_eq_some_iff.mp read
          exact readDigits_chars found later
    · cases read

/-- What stands before and after the fraction is split apart at the point. -/
theorem mem_splitFraction (inside : char ∈ chars) :
    numeralChar char = true ∨ char ∈ (splitFraction chars).2 := by
  unfold splitFraction
  split
  · rename_i rest
    rcases List.mem_cons.mp inside with rfl | later
    · exact .inl rfl
    · rcases mem_takeWhile_or_dropWhile asciiDigit later with digit | after
      · exact .inl (numeralChar_digit (List.mem_takeWhile_imp digit))
      · exact .inr after
  · exact .inr inside

/-- A magnitude that is read has characters of a numeral. -/
theorem readMagnitude_chars {value : ℚ} (read : readMagnitude chars = some value)
    (inside : char ∈ chars) : numeralChar char = true := by
  unfold readMagnitude at read
  simp only at read
  split at read
  · cases read
  · obtain ⟨exponent, found, -⟩ := Option.map_eq_some_iff.mp read
    rcases mem_takeWhile_or_dropWhile asciiDigit inside with digit | after
    · exact numeralChar_digit (List.mem_takeWhile_imp digit)
    · rcases mem_splitFraction after with plain | rest
      · exact plain
      · exact readExponent_chars found rest

/-- The letters of the words are code points of numerals. -/
theorem word_chars {word : List Char} (same : chars.map Char.toLower = word)
    (letters : ∀ letter ∈ word, letter ∈ ['i', 'n', 'f', 't', 'y', 'a', 'e'])
    (inside : char ∈ chars) : numeralChar char = true := by
  have lowered : char.toLower ∈ word := same ▸ List.mem_map_of_mem inside
  have letter := letters _ lowered
  unfold numeralChar
  rw [Bool.or_eq_true]
  exact .inr (List.contains_iff_mem.mpr letter)

/-- A number without a sign that is read has characters of a numeral. -/
theorem readUnsigned_chars {value : PyFloat} (read : readUnsigned chars = some value)
    (inside : char ∈ chars) : numeralChar char = true := by
  unfold readUnsigned at read
  simp only at read
  split at read
  · rename_i word
    exact word_chars word (by simp) inside
  · split at read
    · rename_i word
      rw [Bool.or_eq_true, decide_eq_true_eq, decide_eq_true_eq] at word
      rcases word with word | word
      · exact word_chars word (by simp) inside
      · exact word_chars word (by simp) inside
    · obtain ⟨magnitude, found, -⟩ := Option.map_eq_some_iff.mp read
      exact readMagnitude_chars found inside

/-- A number that is read has characters of a numeral. -/
theorem readSigned_chars {value : PyFloat} (read : readSigned chars = some value)
    (inside : char ∈ chars) : numeralChar char = true := by
  unfold readSigned at read
  split at read
  · obtain ⟨unsigned, found, -⟩ := Option.map_eq_some_iff.mp read
    rcases List.mem_cons.mp inside with rfl | later
    · rfl
    · exact readUnsigned_chars found later
  · rcases List.mem_cons.mp inside with rfl | later
    · rfl
    · exact readUnsigned_chars read later
  · exact readUnsigned_chars read inside

/-- A text read as a floating point number has only blanks, underscores and code points of numerals,
in the digits of any script. -/
theorem float_chars {text : String} {value : PyFloat} (read : float text = some value)
    (inside : char ∈ text.toList) :
    asciiSpace (asciiNumeral char) = true ∨ asciiNumeral char = '_' ∨
      numeralChar (asciiNumeral char) = true := by
  obtain ⟨kept, dropped, signed⟩ := Option.bind_eq_some_iff.mp read
  have seen : asciiNumeral char ∈ text.toList.map asciiNumeral := List.mem_map_of_mem inside
  rcases mem_trim asciiSpace seen with blank | remains
  · exact .inl blank
  · rcases mem_dropUnderscores dropped remains with underscore | digit
    · exact .inr (.inl underscore)
    · exact .inr (.inr (readSigned_chars signed digit))

/-! ## Numbers that are written out -/

/-- The digits by their code points. -/
theorem asciiDigit_iff : asciiDigit char = true ↔ 48 ≤ char.toNat ∧ char.toNat ≤ 57 := by
  unfold asciiDigit
  rw [Bool.and_eq_true, decide_eq_true_eq, decide_eq_true_eq]

/-- The value of a digit. -/
theorem decimalValue_of_asciiDigit (digit : asciiDigit char = true) :
    decimalValue char = some (char.toNat - 48) := by
  have bounds := asciiDigit_iff.mp digit
  have first : decimalZeros.find? (fun start => start ≤ char.toNat && char.toNat < start + 10) =
      some 0x30 := by
    apply List.find?_cons_of_pos
    rw [Bool.and_eq_true, decide_eq_true_eq, decide_eq_true_eq]
    omega
  unfold decimalValue
  rw [first]
  rfl

/-- A digit is written as it is. -/
theorem asciiNumeral_of_asciiDigit (digit : asciiDigit char = true) : asciiNumeral char = char := by
  have bounds := asciiDigit_iff.mp digit
  exact if_pos (by omega)

/-- A digit is no blank. -/
theorem asciiSpace_of_asciiDigit (digit : asciiDigit char = true) : asciiSpace char = false := by
  have bounds := asciiDigit_iff.mp digit
  unfold asciiSpace
  rw [Bool.or_eq_false_iff, Bool.and_eq_false_iff, beq_eq_false_iff_ne, decide_eq_false_iff_not,
    decide_eq_false_iff_not]
  omega

/-- A list none of whose elements passes the test is not trimmed. -/
theorem trim_of_forall {α : Type} {test : α → Bool} {items : List α}
    (none : ∀ item ∈ items, test item = false) : trim test items = items := by
  have stays : ∀ {items : List α}, (∀ item ∈ items, test item = false) →
      items.dropWhile test = items := by
    intro items none
    cases items with
    | nil => rfl
    | cons first rest =>
      apply List.dropWhile_cons_of_neg
      rw [none first List.mem_cons_self]
      exact Bool.false_ne_true
  unfold trim
  rw [stays none, stays fun item inside => none item (List.mem_reverse.mp inside),
    List.reverse_reverse]

/-- Digits have no sign. -/
theorem splitSign_digits (digits : ∀ digit ∈ chars, asciiDigit digit = true) :
    splitSign chars = (false, chars) := by
  unfold splitSign
  split
  · exact absurd (digits _ List.mem_cons_self) (by decide)
  · exact absurd (digits _ List.mem_cons_self) (by decide)
  · rfl

/-- Digits hold no underscores. -/
theorem dropUnderscores_digits (digits : ∀ digit ∈ chars, asciiDigit digit = true)
    (plain : previous ≠ '_') : dropUnderscores previous chars = some chars := by
  induction chars generalizing previous with
  | nil => exact if_neg plain
  | cons first rest ih =>
    have other : first ≠ '_' := by
      rintro rfl
      exact absurd (digits _ List.mem_cons_self) (by decide)
    have tail := ih (fun digit inside => digits digit (List.mem_cons_of_mem _ inside)) other
    unfold dropUnderscores
    rw [if_neg other, if_neg, tail]
    · rfl
    · rw [Bool.and_eq_true, decide_eq_true_eq]
      exact fun both => plain both.1

/-- A number is written with digits. -/
theorem asciiDigit_of_mem_toDigits {number : Nat} (inside : char ∈ Nat.toDigits 10 number) :
    asciiDigit char = true :=
  asciiDigit_iff.mpr
    (Char.isDigit_iff_toNat.mp (Nat.isDigit_of_mem_toDigits (by decide) (by decide) inside))

/-- The digits of a number stand for it. -/
theorem digitsValue_toDigits (number : Nat) : digitsValue (Nat.toDigits 10 number) = number := by
  have same : ∀ (chars : List Char) (start : Nat), (∀ digit ∈ chars, asciiDigit digit = true) →
      chars.foldl (fun value digit => 10 * value + (decimalValue digit).getD 0) start =
        Nat.ofDigitChars 10 chars start := by
    intro chars
    induction chars with
    | nil => intros; rfl
    | cons first rest ih =>
      intro start digits
      rw [List.foldl_cons, Nat.ofDigitChars_cons,
        decimalValue_of_asciiDigit (digits _ List.mem_cons_self)]
      exact ih _ fun digit inside => digits digit (List.mem_cons_of_mem _ inside)
  unfold digitsValue
  rw [same _ _ fun _ inside => asciiDigit_of_mem_toDigits inside, Nat.ofDigitChars_ten_toDigits]

/-- A number is read back from its digits. -/
theorem readDigits_toDigits (number : Nat) : readDigits (Nat.toDigits 10 number) = some number := by
  unfold readDigits
  rw [if_pos, digitsValue_toDigits]
  rw [Bool.and_eq_true, List.all_eq_true, List.isEmpty_eq_false_iff.mpr Nat.toDigits_ne_nil]
  exact ⟨rfl, fun _ inside => asciiDigit_of_mem_toDigits inside⟩

/-- A number that is written out is read again unless it has too many digits. -/
theorem toOption_integer_toString (number : Nat) : (integer (toString number)).toOption =
    if (Nat.toDigits 10 number).length ≤ maxStrDigits then some (number : ℤ) else none := by
  have digits : ∀ digit ∈ Nat.toDigits 10 number, asciiDigit digit = true :=
    fun _ inside => asciiDigit_of_mem_toDigits inside
  have ascii : (Nat.toDigits 10 number).map asciiNumeral = Nat.toDigits 10 number :=
    (List.map_congr_left fun digit inside => asciiNumeral_of_asciiDigit (digits digit inside)).trans
      (List.map_id _)
  have bare : trim asciiSpace (Nat.toDigits 10 number) = Nat.toDigits 10 number :=
    trim_of_forall fun digit inside => asciiSpace_of_asciiDigit (digits digit inside)
  have whole : ((dropUnderscores '\x00' (Nat.toDigits 10 number)).bind fun digits =>
      (readDigits digits).map fun value => (digits.length, value)) =
        some ((Nat.toDigits 10 number).length, number) := by
    rw [dropUnderscores_digits digits (by decide), Option.bind_some, readDigits_toDigits]
    rfl
  have chars : (toString number).toList = Nat.toDigits 10 number := Nat.toList_repr
  unfold integer
  rw [chars, ascii, bare, splitSign_digits digits]
  simp only [whole]
  split <;> rfl

/-- A number that is written out and read again is the same number. -/
theorem integer_toString {number : Nat} {value : ℤ}
    (read : integer (toString number) = .ok value) : value = number := by
  have found := toOption_integer_toString number
  rw [read] at found
  split at found
  · exact Option.some.inj found
  · cases found

/-- A digit has no case. -/
theorem toLower_of_asciiDigit (digit : asciiDigit char = true) : char.toLower = char := by
  apply Char.toLower_eq_of_not_isUpper
  intro upper
  have bounds := asciiDigit_iff.mp digit
  unfold Char.isUpper at upper
  have letter : 'A'.val ≤ char.val := (of_decide_eq_true upper).1
  rw [Char.toNat_val.symm] at bounds
  have above : 'A'.val.toNat ≤ char.val.toNat := UInt32.le_iff_toNat_le.mp letter
  rw [show 'A'.val.toNat = 65 from rfl] at above
  omega

/-- Digits are no word that starts with a letter. -/
theorem digits_ne_word {letter : Char} {word : List Char}
    (digits : ∀ digit ∈ chars, asciiDigit digit = true) (other : asciiDigit letter = false) :
    chars.map Char.toLower ≠ letter :: word := by
  cases chars with
  | nil => exact List.cons_ne_nil _ _ ∘ Eq.symm
  | cons first rest =>
    intro same
    have head := digits first List.mem_cons_self
    rw [List.map_cons, toLower_of_asciiDigit head] at same
    rw [(List.cons.inj same).1, other] at head
    cases head

/-- The digits of a number are its magnitude. -/
theorem readMagnitude_toDigits (number : Nat) :
    readMagnitude (Nat.toDigits 10 number) = some (number : ℚ) := by
  have digits : ∀ digit ∈ Nat.toDigits 10 number, asciiDigit digit = true :=
    fun _ inside => asciiDigit_of_mem_toDigits inside
  have whole : (Nat.toDigits 10 number).takeWhile asciiDigit = Nat.toDigits 10 number :=
    List.takeWhile_eq_self_iff.mpr digits
  have rest : (Nat.toDigits 10 number).dropWhile asciiDigit = [] :=
    List.dropWhile_eq_nil_iff.mpr digits
  unfold readMagnitude
  rw [whole, rest]
  simp only [splitFraction, readExponent, List.append_nil, digitsValue_toDigits]
  simp

/-- Digits are read without a sign. -/
theorem readSigned_digits (digits : ∀ digit ∈ chars, asciiDigit digit = true) :
    readSigned chars = readUnsigned chars := by
  unfold readSigned
  split
  · exact absurd (digits _ List.mem_cons_self) (by decide)
  · exact absurd (digits _ List.mem_cons_self) (by decide)
  · rfl

/-- A number that is written out is read as the double nearest to it. -/
theorem float_toString (number : Nat) :
    float (toString number) = some (PyFloat.ofRounded number) := by
  have digits : ∀ digit ∈ Nat.toDigits 10 number, asciiDigit digit = true :=
    fun _ inside => asciiDigit_of_mem_toDigits inside
  have ascii : (Nat.toDigits 10 number).map asciiNumeral = Nat.toDigits 10 number :=
    (List.map_congr_left fun digit inside => asciiNumeral_of_asciiDigit (digits digit inside)).trans
      (List.map_id _)
  have bare : trim asciiSpace (Nat.toDigits 10 number) = Nat.toDigits 10 number :=
    trim_of_forall fun digit inside => asciiSpace_of_asciiDigit (digits digit inside)
  have unsigned : readUnsigned (Nat.toDigits 10 number) = some (PyFloat.ofRounded number) := by
    unfold readUnsigned
    have nan := @digits_ne_word _ 'n' ['a', 'n'] digits rfl
    have inf := @digits_ne_word _ 'i' ['n', 'f'] digits rfl
    have infinity := @digits_ne_word _ 'i' ['n', 'f', 'i', 'n', 'i', 't', 'y'] digits rfl
    simp only [nan, inf, infinity, Bool.or_eq_true, or_self, if_false]
    rw [readMagnitude_toDigits]
    rfl
  have chars : (toString number).toList = Nat.toDigits 10 number := Nat.toList_repr
  unfold float
  rw [chars, ascii, bare, dropUnderscores_digits digits (by decide)]
  exact (readSigned_digits digits).trans unsigned

/-- A whole number that a double holds exactly is read as itself. -/
theorem float_toString_of_lt {number : Nat} (small : number < 2 ^ 53) :
    float (toString number) = some (.finite number) := by
  have power : (2 : ℚ) ^ 1024 = 2 ^ 970 * 2 ^ 54 := (pow_add 2 970 54)
  have more : (2 : ℚ) ^ 53 ≤ 2 ^ 970 := pow_le_pow_right₀ (by norm_num) (by norm_num)
  have below : (number : ℚ) < 2 ^ 53 := by exact_mod_cast small
  have bounded : ¬ (2 : ℚ) ^ 1024 - 2 ^ 970 ≤ number := by
    rw [power]
    generalize (2 : ℚ) ^ 970 = large at more
    apply not_le.mpr
    linarith
  rw [float_toString]
  unfold PyFloat.ofRounded
  rw [if_neg bounded, nearestDouble_of_lt small]

end ProxSync.Lib
