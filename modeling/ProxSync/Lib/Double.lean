import ProxSync.Lib.Numeral
/-!
# Numerals of JavaScript

Texts read as numbers the way JavaScript reads them: a blank text is zero, a numeral may be written
in another radix, and every number is rounded to the nearest double. Rounding keeps the integers
integers, and those that a double holds exactly as they are.
-/
namespace ProxSync.Lib

/-- The blanks of JavaScript. -/
def jsSpace (char : Char) : Bool :=
  let code := char.toNat
  (9 ≤ code && code ≤ 13) || code == 32 || code == 0xa0 || code == 0x1680 ||
    (0x2000 ≤ code && code ≤ 0x200a) || code == 0x2028 || code == 0x2029 || code == 0x202f ||
    code == 0x205f || code == 0x3000 || code == 0xfeff

/-- The radix that a mark stands for. -/
def radixOf (mark : Char) : Option Nat :=
  if mark = 'x' || mark = 'X' then some 16
  else if mark = 'o' || mark = 'O' then some 8
  else if mark = 'b' || mark = 'B' then some 2
  else none

/-- The value of a digit in a radix. -/
def radixDigit (radix : Nat) (digit : Char) : Option Nat :=
  let code := digit.toLower.toNat
  let value :=
    if asciiDigit digit then code - 48 else if 97 ≤ code && code ≤ 122 then code - 87 else radix
  if value < radix then some value else none

/-- Digits in a radix as a number, of which there is at least one. -/
def readRadix (radix : Nat) (digits : List Char) : Option Nat :=
  if digits.isEmpty then none
  else
    digits.foldlM (fun value digit => (radixDigit radix digit).map (radix * value + ·)) 0

/-- A decimal numeral without its sign. -/
def readPositive (chars : List Char) : PyFloat :=
  if chars = ['I', 'n', 'f', 'i', 'n', 'i', 't', 'y'] then .infinite false
  else
    match readMagnitude chars with
    | some value => .ofRounded value
    | none => .nan

/-- A decimal numeral with its sign. -/
def readDecimal (chars : List Char) : PyFloat :=
  let (negative, unsigned) := splitSign chars
  if negative then (readPositive unsigned).negate else readPositive unsigned

/-- The number a text without blanks around it stands for. -/
def readNumber : List Char → PyFloat
  | [] => .finite 0
  | '0' :: mark :: digits =>
    match radixOf mark with
    | some radix =>
      match readRadix radix digits with
      | some value => .ofRounded value
      | none => .nan
    | none => readDecimal ('0' :: mark :: digits)
  | chars => readDecimal chars

/-- The number a text stands for. -/
def number (text : String) : PyFloat := readNumber (trim jsSpace text.toList)

/-- The integer that a number is, if it is one. -/
def PyFloat.whole : PyFloat → Option ℤ
  | .finite value => if value.den = 1 then some value.num else none
  | _ => none

/-! ## Rounding of integers -/

/-- Rounding goes down no further than to the next integer. -/
theorem floor_le_roundHalfEven (value : ℚ) : ⌊value⌋ ≤ roundHalfEven value := by
  unfold roundHalfEven
  simp only
  split_ifs <;> omega

variable {count : Nat}

/-- A larger integer is rounded to an integer that is not small. -/
theorem nearestDouble_of_le (large : 2 ^ 53 ≤ count) :
    ∃ rounded : ℤ, nearestDouble count = rounded ∧ 2 ^ 52 ≤ rounded := by
  have log : 53 ≤ Nat.log 2 count := Nat.le_log_of_pow_le (by decide) large
  obtain ⟨places, exact⟩ := Nat.exists_eq_add_of_le log
  have exponent : max (Int.log 2 (count : ℚ) - 52) (-1074) = ((places + 1 : ℕ) : ℤ) := by
    rw [Int.log_natCast]
    omega
  have start : (2 : ℚ) ^ 52 ≤ (count : ℚ) / 2 ^ (places + 1) := by
    rw [le_div_iff₀ (by positivity), ← pow_add]
    have power : 2 ^ (52 + (places + 1)) ≤ count := by
      calc
        2 ^ (52 + (places + 1)) = 2 ^ Nat.log 2 count := by rw [exact]; congr 1; omega
        _ ≤ count := Nat.pow_log_le_self 2 (by omega)
    exact_mod_cast power
  have floor : (2 : ℤ) ^ 52 ≤ ⌊(count : ℚ) / 2 ^ (places + 1)⌋ := by
    apply Int.le_floor.mpr
    exact_mod_cast start
  have rounded := floor.trans (floor_le_roundHalfEven _)
  refine ⟨roundHalfEven ((count : ℚ) / 2 ^ (places + 1)) * 2 ^ (places + 1), ?_, ?_⟩
  · unfold nearestDouble
    simp only
    rw [exponent, zpow_natCast]
    push_cast
    rfl
  · have unit : (1 : ℤ) ≤ 2 ^ (places + 1) := one_le_pow₀ (by decide)
    calc
      (2 : ℤ) ^ 52 ≤ roundHalfEven ((count : ℚ) / 2 ^ (places + 1)) := rounded
      _ ≤ _ := le_mul_of_one_le_right (le_trans (by positivity) rounded) unit

/-- An integer below the largest double is read back as one, itself where a double holds it. -/
theorem whole_ofRounded (count : Nat) (bounded : (count : ℚ) < 2 ^ 1024 - 2 ^ 970) :
    ∃ rounded : ℤ, (PyFloat.ofRounded count).whole = some rounded ∧
      (count < 2 ^ 53 → rounded = count) ∧ (2 ^ 53 ≤ count → 2 ^ 52 ≤ rounded) := by
  have kept : PyFloat.ofRounded (count : ℚ) = .finite (nearestDouble count) :=
    if_neg (not_le.mpr bounded)
  rw [kept]
  rcases Nat.lt_or_ge count (2 ^ 53) with small | large
  · rw [nearestDouble_of_lt small]
    exact ⟨count, rfl, fun _ => rfl, fun large => absurd large (Nat.not_le.mpr small)⟩
  · obtain ⟨rounded, same, least⟩ := nearestDouble_of_le large
    rw [same]
    exact ⟨rounded, rfl, fun small => absurd small (Nat.not_lt.mpr large), fun _ => least⟩

/-! ## Plain decimal numerals -/

variable {chars : List Char} {char : Char}

/-- A digit is no blank. -/
theorem jsSpace_of_asciiDigit (digit : asciiDigit char = true) : jsSpace char = false := by
  have bounds := asciiDigit_iff.mp digit
  unfold jsSpace
  simp only [Bool.or_eq_false_iff, Bool.and_eq_false_iff, beq_eq_false_iff_ne,
    decide_eq_false_iff_not]
  omega

/-- Digits are read as the number they stand for. -/
theorem readMagnitude_digits (some : chars ≠ [])
    (digits : ∀ digit ∈ chars, asciiDigit digit = true) :
    readMagnitude chars = .some (digitsValue chars : ℚ) := by
  have whole : chars.takeWhile asciiDigit = chars := List.takeWhile_eq_self_iff.mpr digits
  have nothing : chars.dropWhile asciiDigit = [] := List.dropWhile_eq_nil_iff.mpr digits
  unfold readMagnitude
  rw [whole, nothing]
  have kept : (chars ++ (splitFraction []).1).isEmpty = false := by
    show (chars ++ []).isEmpty = false
    rw [List.append_nil]
    exact List.isEmpty_eq_false_iff.mpr some
  simp only [kept, Bool.false_eq_true, if_false]
  show Option.some ((digitsValue (chars ++ []) : ℚ) * 10 ^ ((0 : ℤ) - (0 : ℤ))) = _
  rw [List.append_nil, sub_zero, zpow_zero, mul_one]

/-- Digits are read as the double nearest the number they stand for. -/
theorem readNumber_digits (some : chars ≠ [])
    (digits : ∀ digit ∈ chars, asciiDigit digit = true) :
    readNumber chars = .ofRounded (digitsValue chars : ℚ) := by
  have decimal : readDecimal chars = .ofRounded (digitsValue chars : ℚ) := by
    have word : chars ≠ ['I', 'n', 'f', 'i', 'n', 'i', 't', 'y'] := by
      rintro rfl
      exact absurd (digits 'I' List.mem_cons_self) (by decide)
    unfold readDecimal readPositive
    rw [splitSign_digits digits]
    simp only [word, readMagnitude_digits some digits, if_false, Bool.false_eq_true]
  unfold readNumber
  split
  · exact absurd rfl some
  · rename_i mark rest
    have unmarked : radixOf mark = none := by
      have digit := digits mark (List.mem_cons_of_mem _ List.mem_cons_self)
      have other : ∀ letter : Char, asciiDigit letter = false → mark ≠ letter := by
        rintro letter plain rfl
        rw [digit] at plain
        cases plain
      unfold radixOf
      simp [other 'x' rfl, other 'X' rfl, other 'o' rfl, other 'O' rfl, other 'b' rfl,
        other 'B' rfl]
    rw [unmarked]
    exact decimal
  · exact decimal

/-- Digits are read as their number, rounded to a double. -/
theorem number_digits {text : String} (some : text.toList ≠ [])
    (digits : ∀ digit ∈ text.toList, asciiDigit digit = true) :
    number text = .ofRounded (digitsValue text.toList : ℚ) := by
  unfold number
  rw [trim_of_forall fun digit inside => jsSpace_of_asciiDigit (digits digit inside)]
  exact readNumber_digits some digits

/-! ## Digits of other scripts -/

/-- Decimal digits are ASCII digits or beyond ASCII. -/
theorem asciiDigit_of_decimalValue (decimal : (decimalValue char).isSome = true)
    (low : char.toNat < 128) : asciiDigit char = true := by
  have starts : ∀ start ∈ decimalZeros, start = 48 ∨ 128 ≤ start := by decide +kernel
  unfold decimalValue at decimal
  rw [Option.isSome_map, List.find?_isSome] at decimal
  obtain ⟨start, listed, within⟩ := decimal
  rw [Bool.and_eq_true, decide_eq_true_eq, decide_eq_true_eq] at within
  rcases starts start listed with rfl | high
  · exact asciiDigit_iff.mpr (by omega)
  · omega

/-- Digits are ASCII digits or beyond ASCII. -/
theorem asciiDigit_of_isDigitChar (digit : isDigitChar char = true) (low : char.toNat < 128) :
    asciiDigit char = true := by
  unfold isDigitChar at digit
  rw [Bool.or_eq_true, List.any_eq_true] at digit
  rcases digit with decimal | ⟨range, listed, within⟩
  · exact asciiDigit_of_decimalValue decimal low
  · have high : ∀ range ∈ symbolDigits, 128 ≤ range.1 := by decide +kernel
    have start := high range listed
    rw [Bool.and_eq_true, decide_eq_true_eq, decide_eq_true_eq] at within
    omega

/-- Neither a digit nor what is lowered to one is a capital. -/
theorem toLower_of_isDigitChar (digit : isDigitChar char = true ∨ isDigitChar char.toLower = true) :
    char.toLower = char := by
  by_cases upper : char.isUpper = true
  · have lowered := Char.toLower_eq_of_isUpper upper
    unfold Char.isUpper at upper
    rw [decide_eq_true_eq] at upper
    have least : 65 ≤ char.toNat := upper.1
    have most : char.toNat ≤ 90 := upper.2
    have letter : char.toLower.toNat = char.toNat + 32 := by
      rw [lowered, Char.toNat_ofNat, if_pos (.inl (by omega))]
    rcases digit with digit | digit
    · have bounds := asciiDigit_iff.mp (asciiDigit_of_isDigitChar digit (by omega))
      omega
    · have bounds := asciiDigit_iff.mp (asciiDigit_of_isDigitChar digit (by omega))
      omega
  · exact Char.toLower_eq_of_not_isUpper upper

/-- Digits are not changed by lowering, and nothing else is lowered to digits. -/
theorem lower_of_isdigit {text : String}
    (digits : isdigit text = true ∨ isdigit (lower text) = true) : lower text = text := by
  have same : text.toList.map Char.toLower = text.toList := by
    apply (List.map_congr_left _).trans (List.map_id _)
    intro char inside
    apply toLower_of_isDigitChar
    unfold isdigit at digits
    rw [Bool.and_eq_true, List.all_eq_true, Bool.and_eq_true, List.all_eq_true] at digits
    apply digits.imp (fun digits => digits.2 char inside)
    intro digits
    apply digits.2
    unfold lower
    rw [String.toList_ofList]
    exact List.mem_map_of_mem inside
  unfold lower
  rw [same, String.ofList_toList]

/-- The code points of numerals are in ASCII. -/
theorem toNat_of_numeralChar (numeral : numeralChar char = true) : char.toNat < 128 := by
  unfold numeralChar at numeral
  rw [Bool.or_eq_true, Bool.or_eq_true] at numeral
  rcases numeral with (digit | sign) | letter
  · have bounds := asciiDigit_iff.mp digit
    omega
  · have low : ∀ sign ∈ ['+', '-', '.'], sign.toNat < 128 := by simp
    exact low char (List.contains_iff_mem.mp sign)
  · by_cases upper : char.isUpper = true
    · unfold Char.isUpper at upper
      rw [decide_eq_true_eq] at upper
      have bound : char.toNat ≤ 90 := upper.2
      omega
    · have low : ∀ letter ∈ ['i', 'n', 'f', 't', 'y', 'a', 'e'], letter.toNat < 128 := by simp
      rw [Char.toLower_eq_of_not_isUpper upper] at letter
      exact low char (List.contains_iff_mem.mp letter)

/-- What is read as a number has characters of a numeral only. -/
theorem readPositive_chars (read : readPositive chars ≠ .nan) (inside : char ∈ chars) :
    numeralChar char = true := by
  unfold readPositive at read
  split at read
  · rename_i word
    have lowered : chars.map Char.toLower = ['i', 'n', 'f', 'i', 'n', 'i', 't', 'y'] := by
      rw [word]
      rfl
    exact word_chars lowered (by simp) inside
  · split at read
    · rename_i value magnitude
      exact readMagnitude_chars magnitude inside
    · exact absurd rfl read

/-- A text read as a decimal numeral has only code points of numerals. -/
theorem readDecimal_chars (read : readDecimal chars ≠ .nan) (inside : char ∈ chars) :
    numeralChar char = true := by
  have signed : numeralChar char = true ∨ char ∈ (splitSign chars).2 := by
    unfold splitSign
    split
    · rcases List.mem_cons.mp inside with rfl | later
      · exact .inl rfl
      · exact .inr later
    · rcases List.mem_cons.mp inside with rfl | later
      · exact .inl rfl
      · exact .inr later
    · exact .inr inside
  apply signed.elim id
  intro later
  apply readPositive_chars _ later
  intro none
  apply read
  unfold readDecimal
  simp only [none]
  split <;> rfl

/-- A text read as a number starts with a mark of a radix, or is a decimal numeral. -/
theorem readNumber_chars (read : readNumber chars ≠ .nan) :
    (∃ mark rest, chars = '0' :: mark :: rest ∧ radixOf mark ≠ none) ∨
      ∀ char ∈ chars, numeralChar char = true := by
  unfold readNumber at read
  split at read
  · exact .inr fun _ inside => absurd inside List.not_mem_nil
  · rename_i mark rest
    split at read
    · rename_i radix marked
      refine .inl ⟨mark, rest, rfl, ?_⟩
      rw [marked]
      exact Option.some_ne_none radix
    · exact .inr fun _ inside => readDecimal_chars read inside
  · exact .inr fun _ inside => readDecimal_chars read inside

/-- A character of a numeral in upper case is one in lower case. -/
theorem numeralChar_toLower (numeral : numeralChar char = true) :
    numeralChar char.toLower = true := by
  have is := numeral
  unfold numeralChar at is
  rw [Bool.or_eq_true, Bool.or_eq_true] at is
  rcases is with (digit | sign) | letter
  · have decimal : isDigitChar char = true := by
      unfold isDigitChar
      rw [decimalValue_of_asciiDigit digit]
      rfl
    rw [toLower_of_isDigitChar (.inl decimal)]
    exact numeral
  · have same : ∀ sign ∈ ['+', '-', '.'], sign.toLower = sign := by simp
    rw [same char (List.contains_iff_mem.mp sign)]
    exact numeral
  · unfold numeralChar
    rw [Bool.or_eq_true, Char.toLower_toLower_eq_toLower]
    exact .inr letter

/-- Decimal digits that are read as a number are in ASCII. -/
theorem asciiDigit_of_number {text : String}
    (decimal : ∀ digit ∈ text.toList, (decimalValue digit).isSome = true)
    (solid : ∀ char ∈ text.toList, jsSpace char = false) (read : number text ≠ .nan) :
    ∀ digit ∈ text.toList, asciiDigit digit = true := by
  unfold number at read
  rw [trim_of_forall solid] at read
  rcases readNumber_chars read with ⟨mark, rest, marked, radix⟩ | numeral
  · have digit := decimal mark (by rw [marked]; exact List.mem_cons_of_mem _ List.mem_cons_self)
    have other : ∀ letter : Char, decimalValue letter = none → mark ≠ letter := by
      rintro letter none rfl
      rw [none] at digit
      cases digit
    apply absurd _ radix
    unfold radixOf
    simp [other 'x' (by decide), other 'X' (by decide), other 'o' (by decide),
      other 'O' (by decide), other 'b' (by decide), other 'B' (by decide)]
  · intro digit inside
    exact asciiDigit_of_decimalValue (decimal digit inside)
      (toNat_of_numeralChar (numeral digit inside))

end ProxSync.Lib
