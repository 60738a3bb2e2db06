import ProxSync.Lib.JsonText
/-!
# Writing JSON

A value is written as JSON in ASCII: what lies beyond it, and what must not stand in a text, is
escaped as code units. An integer with too many digits raises. A number that is not finite is
written as a word that JSON does not have, and half of a code point as it is, so whether a store
accepts what is written depends on the leaves of the value and on its keys.
-/
namespace ProxSync.Lib

/-- A code point of a text, which may be half of another one. -/
abbrev CodePoint := Fin 0x110000

/-- A text as its code points. -/
abbrev PyText := List CodePoint

/-- A code point of a literal. -/
def CodePoint.ofChar (char : Char) : CodePoint := Fin.ofNat 0x110000 char.toNat

/-- The text of a literal. -/
def PyText.of (literal : String) : PyText := literal.toList.map CodePoint.ofChar

/-- A value that can be written as JSON. -/
inductive PyJson
  | none
  | bool (value : Bool)
  | int (value : ℤ)
  | float (value : PyFloat)
  | str (text : PyText)
  | list (items : List PyJson)
  | dict (entries : List (PyText × PyJson))

namespace Dumps

/-! ## Texts -/

/-- A hexadecimal digit. -/
def hexDigit (digit : ℕ) : Char := .ofNat (if digit < 10 then 48 + digit else 87 + digit)

/-- An escaped code unit. -/
def escapedUnit (value : ℕ) : List Char :=
  ['\\', 'u', hexDigit (value / 4096 % 16), hexDigit (value / 256 % 16),
    hexDigit (value / 16 % 16), hexDigit (value % 16)]

/-- A code point as it is written in a text. -/
def escape (point : CodePoint) : List Char :=
  let code := point.val
  if code = 34 then ['\\', '"']
  else if code = 92 then ['\\', '\\']
  else if code = 10 then ['\\', 'n']
  else if code = 13 then ['\\', 'r']
  else if code = 9 then ['\\', 't']
  else if code = 12 then ['\\', 'f']
  else if code = 8 then ['\\', 'b']
  else if 32 ≤ code ∧ code ≤ 126 then [.ofNat code]
  else if code < 0x10000 then escapedUnit code
  else
    escapedUnit (0xd800 + (code - 0x10000) / 0x400) ++
      escapedUnit (0xdc00 + (code - 0x10000) % 0x400)

/-- A text between quotes. -/
def quoted (text : PyText) : List Char := '"' :: (text.flatMap escape ++ ['"'])

/-! ## Numbers -/

/-- The first digits of a magnitude, rounded. -/
def significand (value : ℚ) (digits : ℕ) : ℕ :=
  (roundHalfEven (value / 10 ^ (Int.log 10 value - digits + 1))).toNat

/-- How many digits tell a double from the other ones. -/
def significantDigits (value : ℚ) : ℕ :=
  ((List.range' 1 16).find? fun digits =>
    nearestDouble (significand value digits * 10 ^ (Int.log 10 value - digits + 1)) = value).getD 17

/-- The shortest digits of a magnitude, and where the point stands among them. -/
def shortest (value : ℚ) : List Char × ℤ :=
  let digits := significantDigits value
  let scaled := significand value digits
  -- rounded up to the next power of ten
  if scaled = 10 ^ digits then (['1'], Int.log 10 value + 2)
  else (Nat.toDigits 10 scaled, Int.log 10 value + 1)

/-- A magnitude with a point or an exponent. -/
def magnitude (value : ℚ) : List Char :=
  if value = 0 then ['0', '.', '0']
  else
    let (digits, point) := shortest value
    if point ≤ -4 ∨ 16 < point then
      let power := point - 1
      digits.take 1 ++ (if digits.length = 1 then [] else '.' :: digits.drop 1) ++
        ['e', if power < 0 then '-' else '+'] ++ padded 2 (Nat.toDigits 10 power.natAbs)
    else if point ≤ 0 then ['0', '.'] ++ List.replicate (-point).toNat '0' ++ digits
    else if digits.length ≤ point.toNat then
      digits ++ List.replicate (point.toNat - digits.length) '0' ++ ['.', '0']
    else digits.take point.toNat ++ ['.'] ++ digits.drop point.toNat

/-- A number with a point as it is written; what is no number is a word. -/
def floatText : PyFloat → List Char
  | .nan => "NaN".toList
  | .infinite negative => signed negative "Infinity".toList
  | .finite value => signed (decide (value < 0)) (magnitude |value|)

/-- An integer as it is written; there may not be too many digits. -/
def intText (value : ℤ) : Except PyError (List Char) :=
  let digits := Nat.toDigits 10 value.natAbs
  if digits.length ≤ maxStrDigits then .ok (signed (decide (value < 0)) digits)
  else .error .valueError

/-! ## Values -/

mutual

/-- A value as it is written. -/
def dumps : PyJson → Except PyError (List Char)
  | .none => .ok "null".toList
  | .bool value => .ok (if value then "true".toList else "false".toList)
  | .int value => intText value
  | .float value => .ok (floatText value)
  | .str text => .ok (quoted text)
  | .list items => do
    let written ← dumpsItems items
    .ok ('[' :: (written ++ [']']))
  | .dict entries => do
    let written ← dumpsEntries entries
    .ok ('\x7b' :: (written ++ ['\x7d']))

/-- The elements of a list. -/
def dumpsItems : List PyJson → Except PyError (List Char)
  | [] => .ok []
  | [item] => dumps item
  | item :: rest => do
    let first ← dumps item
    let others ← dumpsItems rest
    .ok (first ++ ", ".toList ++ others)

/-- The entries of a dictionary. -/
def dumpsEntries : List (PyText × PyJson) → Except PyError (List Char)
  | [] => .ok []
  | [(key, value)] => do
    let written ← dumps value
    .ok (quoted key ++ ": ".toList ++ written)
  | (key, value) :: rest => do
    let first ← dumps value
    let others ← dumpsEntries rest
    .ok (quoted key ++ ": ".toList ++ first ++ ", ".toList ++ others)

end

open JsonText

variable {dialect : Dialect} {stack : List Container} {isKey waiting : Bool} {text : PyText}

/-! ## What is read of a text -/

/-- Whether half of a code point waits after a code point, if it may follow. -/
def pair (dialect : Dialect) (waiting : Bool) (point : CodePoint) : Option Bool :=
  if point.val < 0x10000 then unit dialect waiting point.val
  else
    (unit dialect waiting (0xd800 + (point.val - 0x10000) / 0x400)).bind fun waiting =>
      unit dialect waiting (0xdc00 + (point.val - 0x10000) % 0x400)

/-- Whether a store takes a text, of which half a code point may have come before. -/
def paired (dialect : Dialect) (waiting : Bool) : PyText → Bool
  | [] => !waiting
  | point :: rest =>
    match pair dialect waiting point with
    | some waiting => paired dialect waiting rest
    | none => false

/-- A hexadecimal digit is read back. -/
theorem hexValue_hexDigit {digit : ℕ} (small : digit < 16) :
    Json.hexValue (hexDigit digit) = some digit := by
  have every : ∀ digit : Fin 16, Json.hexValue (hexDigit digit.val) = some digit.val := by decide
  exact every ⟨digit, small⟩

/-- An escaped code unit is read as that unit. -/
theorem foldl_escapedUnit {value : ℕ} (small : value < 0x10000) :
    (escapedUnit value).foldl (step dialect) ⟨.text isKey .plain waiting, stack⟩ =
      inside dialect stack isKey waiting value := by
  have whole : ((value / 4096 % 16 * 16 + value / 256 % 16) * 16 + value / 16 % 16) * 16 +
      value % 16 = value := by
    omega
  have digit (number : ℕ) : Json.hexValue (hexDigit (number % 16)) = some (number % 16) :=
    hexValue_hexDigit (Nat.mod_lt _ (by decide))
  simp only [escapedUnit, List.foldl_cons, List.foldl_nil, step, withinText]
  simp [digit, whole]

/-- A code point that is written as itself is read as itself. -/
theorem step_plain {code : ℕ} (low : 32 ≤ code) (high : code ≤ 126) (quote : code ≠ 34)
    (backslash : code ≠ 92) :
    step dialect ⟨.text isKey .plain waiting, stack⟩ (.ofNat code) =
      inside dialect stack isKey waiting code := by
  have same : (Char.ofNat code).toNat = code := by
    rw [Char.toNat_ofNat, if_pos (.inl (by omega))]
  have noQuote : Char.ofNat code ≠ '"' := by
    intro equal
    rw [equal] at same
    exact quote same.symm
  have noBackslash : Char.ofNat code ≠ '\\' := by
    intro equal
    rw [equal] at same
    exact backslash same.symm
  simp only [step, withinText, if_neg noQuote, if_neg noBackslash, same]
  exact if_neg (by omega)

/-- What is written of a code point is read as its code units. -/
theorem foldl_escape (point : CodePoint) :
    (escape point).foldl (step dialect) ⟨.text isKey .plain waiting, stack⟩ =
      resume stack isKey (pair dialect waiting point) := by
  obtain ⟨code, bounded⟩ := point
  by_cases quote : code = 34
  · subst quote
    rfl
  by_cases backslash : code = 92
  · subst backslash
    rfl
  by_cases newline : code = 10
  · subst newline
    rfl
  by_cases carriage : code = 13
  · subst carriage
    rfl
  by_cases tab : code = 9
  · subst tab
    rfl
  by_cases feed : code = 12
  · subst feed
    rfl
  by_cases back : code = 8
  · subst back
    rfl
  simp only [escape, pair, quote, backslash, newline, carriage, tab, feed, back, if_false]
  by_cases printable : 32 ≤ code ∧ code ≤ 126
  · rw [if_pos printable, if_pos (show code < 0x10000 by omega)]
    exact step_plain printable.1 printable.2 quote backslash
  · rw [if_neg printable]
    by_cases small : code < 0x10000
    · rw [if_pos small, if_pos small]
      exact foldl_escapedUnit small
    · rw [if_neg small, if_neg small, List.foldl_append, foldl_escapedUnit (by omega)]
      unfold inside
      cases first : unit dialect waiting (0xd800 + (code - 0x10000) / 0x400) with
      | none => exact foldl_broken rfl
      | some waiting => exact foldl_escapedUnit (by omega)

/-- A text that a store does not take breaks the scan; another one leaves it at the quote. -/
theorem foldl_points (text : PyText) (waiting : Bool) :
    ((text.flatMap escape ++ ['"']).foldl (step dialect) ⟨.text isKey .plain waiting, stack⟩) =
      if paired dialect waiting text then ⟨if isKey then .colon else .after, stack⟩
      else ⟨.broken, stack⟩ := by
  induction text generalizing waiting with
  | nil => cases waiting <;> rfl
  | cons point rest ih =>
    rw [List.flatMap_cons, List.append_assoc, List.foldl_append, foldl_escape, paired]
    cases pair dialect waiting point with
    | none => exact foldl_broken rfl
    | some waiting => exact ih waiting

/-! ## What is read of a number -/

/-- The digits before a point; only zero begins with a zero. -/
inductive Whole : List Char → Prop
  | zero : Whole ['0']
  | digits {head : Char} {rest : List Char} (leading : asciiDigit head = true)
      (nonzero : head ≠ '0') (others : ∀ digit ∈ rest, asciiDigit digit = true) :
      Whole (head :: rest)

variable {digits rest : List Char} {number : ℕ} {part : Part}

/-- The digits of a number after zero begin with another digit. -/
theorem whole_toDigits (number : ℕ) : Whole (Nat.toDigits 10 number) := by
  induction number using Nat.strong_induction_on with
  | _ number ih =>
    by_cases small : number < 10
    · have every : ∀ digit : Fin 10, digit.val = 0 ∨
          (asciiDigit digit.val.digitChar = true ∧ digit.val.digitChar ≠ '0') := by
        decide
      rw [Nat.toDigits_of_lt_base small]
      rcases every ⟨number, small⟩ with zero | ⟨leading, nonzero⟩
      · obtain rfl : number = 0 := zero
        exact .zero
      · exact .digits leading nonzero (by simp)
    · rw [Nat.toDigits_of_base_le (by decide) (by omega)]
      have last : asciiDigit (number % 10).digitChar = true := by
        have inside : (number % 10).digitChar ∈ Nat.toDigits 10 (number % 10) := by
          rw [Nat.toDigits_of_lt_base (Nat.mod_lt _ (by decide))]
          exact List.mem_singleton_self _
        exact asciiDigit_of_mem_toDigits inside
      have front := ih (number / 10) (by omega)
      have positive : Nat.toDigits 10 (number / 10) ≠ ['0'] := by
        intro zero
        have value := digitsValue_toDigits (number / 10)
        rw [zero] at value
        have none : digitsValue ['0'] = 0 := by decide
        omega
      generalize Nat.toDigits 10 (number / 10) = shown at front positive
      cases front with
      | zero => exact absurd rfl positive
      | digits leading nonzero others =>
        refine .digits leading nonzero fun digit inside => ?_
        rcases List.mem_append.mp inside with early | final
        · exact others digit early
        · rw [List.mem_singleton.mp final]
          exact last

/-- Digits go on with a number. -/
theorem foldl_digits (all : ∀ digit ∈ digits, asciiDigit digit = true)
    (open_ : part = .whole ∨ part = .fraction ∨ part = .power) :
    digits.foldl (step dialect) ⟨.number part, stack⟩ = ⟨.number part, stack⟩ := by
  induction digits with
  | nil => rfl
  | cons digit rest ih =>
    have goes : part.next digit = some part := by
      have here := all digit List.mem_cons_self
      rcases open_ with rfl | rfl | rfl <;> simp [Part.next, here]
    rw [List.foldl_cons, step_number goes]
    exact ih fun other inside => all other (List.mem_cons_of_mem _ inside)

/-- The digits before a point are read after a sign. -/
theorem foldl_whole (whole : Whole digits) : ∃ part, (part = .zero ∨ part = .whole) ∧
    digits.foldl (step dialect) ⟨.number .minus, stack⟩ = ⟨.number part, stack⟩ := by
  cases whole with
  | zero => exact ⟨.zero, .inl rfl, rfl⟩
  | @digits head rest leading nonzero others =>
    have goes : Part.minus.next head = some .whole := by
      simp [Part.next, zeroOrDigit, nonzero, leading]
    refine ⟨.whole, .inr rfl, ?_⟩
    rw [List.foldl_cons, step_number goes]
    exact foldl_digits others (.inl rfl)

/-- Digits are read behind a point. -/
theorem foldl_fraction (some : digits ≠ []) (all : ∀ digit ∈ digits, asciiDigit digit = true)
    (start : part = .zero ∨ part = .whole) :
    ('.' :: digits).foldl (step dialect) ⟨.number part, stack⟩ = ⟨.number .fraction, stack⟩ := by
  obtain ⟨head, rest, rfl⟩ := List.exists_cons_of_ne_nil some
  have point : part.next '.' = Option.some .point := by
    rcases start with rfl | rfl <;> rfl
  have goes : Part.point.next head = Option.some .fraction := by
    simp [Part.next, all head List.mem_cons_self]
  rw [List.foldl_cons, step_number point, List.foldl_cons, step_number goes]
  have others := fun other inside => all other (List.mem_cons_of_mem _ inside)
  exact foldl_digits others (.inr (.inl rfl))

/-- Digits are read behind an exponent and its sign. -/
theorem foldl_power {sign : Char} (signs : sign = '+' ∨ sign = '-') (some : digits ≠ [])
    (all : ∀ digit ∈ digits, asciiDigit digit = true)
    (start : part = .zero ∨ part = .whole ∨ part = .fraction) :
    ('e' :: sign :: digits).foldl (step dialect) ⟨.number part, stack⟩ =
      ⟨.number .power, stack⟩ := by
  obtain ⟨head, rest, rfl⟩ := List.exists_cons_of_ne_nil some
  have mark : part.next 'e' = Option.some .exponent := by
    rcases start with rfl | rfl | rfl <;> rfl
  have goes : Part.exponentSign.next head = Option.some .power := by
    simp [Part.next, all head List.mem_cons_self]
  have signed : Part.exponent.next sign = Option.some .exponentSign := by
    rcases signs with rfl | rfl <;> rfl
  rw [List.foldl_cons, step_number mark, List.foldl_cons, step_number signed, List.foldl_cons,
    step_number goes]
  have others := fun other inside => all other (List.mem_cons_of_mem _ inside)
  exact foldl_digits others (.inr (.inr rfl))

/-- A number without its sign: it begins with a digit and may end where it does. -/
structure Numeral (dialect : Dialect) (chars : List Char) : Prop where
  begins : ∃ head rest, chars = head :: rest ∧ asciiDigit head = true
  ends : ∀ stack, ∃ part : Part, part.complete = true ∧
    chars.foldl (step dialect) ⟨.number .minus, stack⟩ = ⟨.number part, stack⟩

/-- A number is read, with a sign or without. -/
theorem Numeral.reads {chars : List Char} (numeral : Numeral dialect chars) (negative : Bool) :
    Reads dialect stack (signed negative chars) true := by
  cases negative with
  | false =>
    obtain ⟨head, rest, rfl, digit⟩ := numeral.begins
    have least := (asciiDigit_iff.mp digit).1
    have most := (asciiDigit_iff.mp digit).2
    have apart : ∀ other : Char, other.toNat < 48 ∨ 57 < other.toNat → head ≠ other := by
      rintro other outside rfl
      omega
    refine ⟨⟨head, rest, rfl, by simp [Json.blank, apart], apart _ (by decide)⟩, ?_⟩
    obtain ⟨part, complete, same⟩ := numeral.ends stack
    rw [List.foldl_cons, ← step_value_digit digit, ← List.foldl_cons] at same
    rw [if_pos rfl]
    show Complete ((head :: rest).foldl _ _) stack
    rw [same]
    exact ⟨complete, rfl⟩
  | true =>
    refine ⟨⟨'-', chars, rfl, rfl, by decide⟩, ?_⟩
    obtain ⟨part, complete, same⟩ := numeral.ends stack
    rw [if_pos rfl]
    show Complete (chars.foldl _ ⟨.number .minus, stack⟩) stack
    rw [same]
    exact ⟨complete, rfl⟩

/-- A whole number begins with a digit. -/
theorem Whole.begins (whole : Whole digits) :
    ∃ head rest, digits = head :: rest ∧ asciiDigit head = true := by
  cases whole with
  | zero => exact ⟨'0', [], rfl, rfl⟩
  | digits leading nonzero others => exact ⟨_, _, rfl, leading⟩

/-- A whole number has digits only. -/
theorem Whole.all (whole : Whole digits) : ∀ digit ∈ digits, asciiDigit digit = true := by
  cases whole with
  | zero =>
    intro digit inside
    rw [List.mem_singleton.mp inside]
    rfl
  | digits leading nonzero others =>
    intro digit inside
    rcases List.mem_cons.mp inside with rfl | later
    · exact leading
    · exact others digit later

/-- A whole number is a numeral. -/
theorem numeral_whole (whole : Whole digits) : Numeral dialect digits := by
  refine ⟨whole.begins, fun stack => ?_⟩
  obtain ⟨part, kind, same⟩ := foldl_whole whole
  refine ⟨part, ?_, same⟩
  rcases kind with rfl | rfl <;> rfl

/-- Digits with a point among them. -/
theorem numeral_fraction (whole : Whole digits) (some : rest ≠ [])
    (all : ∀ digit ∈ rest, asciiDigit digit = true) :
    Numeral dialect (digits ++ '.' :: rest) := by
  obtain ⟨head, others, rfl, digit⟩ := whole.begins
  refine ⟨⟨head, _, rfl, digit⟩, fun stack => ⟨.fraction, rfl, ?_⟩⟩
  obtain ⟨part, kind, same⟩ := foldl_whole whole
  rw [List.foldl_append, same]
  exact foldl_fraction some all kind

/-- One digit, perhaps with others behind a point, and an exponent. -/
theorem numeral_power {head sign : Char} {power : List Char} (leading : asciiDigit head = true)
    (all : ∀ digit ∈ rest, asciiDigit digit = true) (signs : sign = '+' ∨ sign = '-')
    (some : power ≠ []) (powers : ∀ digit ∈ power, asciiDigit digit = true) :
    Numeral dialect
      ([head] ++ (if rest = [] then [] else '.' :: rest) ++ ['e', sign] ++ power) := by
  have whole : Whole [head] := by
    by_cases zero : head = '0'
    · subst zero
      exact .zero
    · exact .digits leading zero (by simp)
  refine ⟨⟨head, _, rfl, leading⟩, fun stack => ⟨.power, rfl, ?_⟩⟩
  obtain ⟨part, kind, same⟩ := foldl_whole whole
  rw [List.append_assoc, List.append_assoc, List.foldl_append, same, List.foldl_append]
  by_cases none : rest = []
  · rw [if_pos none]
    refine foldl_power signs some powers ?_
    rcases kind with rfl | rfl <;> simp
  · rw [if_neg none, foldl_fraction none all kind]
    exact foldl_power signs some powers (.inr (.inr rfl))

/-! ## What is read of a number with a point -/

/-- The significand of a positive number is positive. -/
theorem significand_pos {value : ℚ} (positive : 0 < value) {count : ℕ} (some : 1 ≤ count) :
    0 < significand value count := by
  have unit : (0 : ℚ) < 10 ^ (Int.log 10 value - count + 1) := by positivity
  have power : (10 : ℚ) ^ (Int.log 10 value - count + 1) ≤ value := by
    calc (10 : ℚ) ^ (Int.log 10 value - count + 1)
        ≤ 10 ^ Int.log 10 value := zpow_le_zpow_right₀ (by norm_num) (by omega)
      _ ≤ value := by exact_mod_cast Int.zpow_log_le_self (by norm_num) positive
  have one : 1 ≤ ⌊value / 10 ^ (Int.log 10 value - count + 1)⌋ := by
    rw [Int.le_floor, Int.cast_one, one_le_div unit]
    exact power
  have rounded := one.trans (floor_le_roundHalfEven _)
  unfold significand
  omega

/-- A number has one significant digit at least. -/
theorem significantDigits_pos (value : ℚ) : 1 ≤ significantDigits value := by
  unfold significantDigits
  cases found : (List.range' 1 16).find? fun digits =>
      nearestDouble (significand value digits * 10 ^ (Int.log 10 value - digits + 1)) = value with
  | none => simp
  | some digits =>
    have inside := List.mem_range'_1.mp (List.mem_of_find?_eq_some found)
    exact inside.1

/-- The digits of a positive number begin with one that is not zero. -/
theorem shortest_digits {value : ℚ} (positive : 0 < value) :
    ∃ head rest, (shortest value).1 = head :: rest ∧ asciiDigit head = true ∧ head ≠ '0' ∧
      ∀ digit ∈ rest, asciiDigit digit = true := by
  unfold shortest
  dsimp only
  split
  · exact ⟨'1', [], rfl, rfl, by decide, by simp⟩
  · have scaled := significand_pos positive (significantDigits_pos value)
    have whole := whole_toDigits (significand value (significantDigits value))
    have shown := digitsValue_toDigits (significand value (significantDigits value))
    generalize Nat.toDigits 10 (significand value (significantDigits value)) = digits at whole shown
    cases whole with
    | zero =>
      have none : digitsValue ['0'] = 0 := by decide
      omega
    | digits leading nonzero others => exact ⟨_, _, rfl, leading, nonzero, others⟩

/-- A magnitude is written as a number. -/
theorem numeral_magnitude {value : ℚ} (nonneg : 0 ≤ value) :
    Numeral dialect (magnitude value) := by
  unfold magnitude
  by_cases zero : value = 0
  · rw [if_pos zero]
    have point : Numeral dialect (['0'] ++ '.' :: ['0']) := by
      refine numeral_fraction .zero (by simp) fun digit inside => ?_
      rw [List.mem_singleton.mp inside]
      rfl
    exact point
  · rw [if_neg zero]
    have positive := lt_of_le_of_ne nonneg (Ne.symm zero)
    obtain ⟨head, rest, same, leading, nonzero, others⟩ := shortest_digits positive
    have zeros (count : ℕ) : ∀ digit ∈ List.replicate count '0', asciiDigit digit = true := by
      intro digit inside
      rw [List.eq_of_mem_replicate inside]
      rfl
    have all : ∀ digit ∈ head :: rest, asciiDigit digit = true := by
      intro digit inside
      rcases List.mem_cons.mp inside with rfl | later
      · exact leading
      · exact others digit later
    generalize shortest value = found at same
    obtain ⟨digits, point⟩ := found
    obtain rfl : digits = head :: rest := same
    dsimp only
    have powers (count : ℕ) : ∀ digit ∈ padded 2 (Nat.toDigits 10 count),
        asciiDigit digit = true := by
      intro digit inside
      rcases List.mem_append.mp inside with zero | shown
      · exact zeros _ digit zero
      · exact asciiDigit_of_mem_toDigits shown
    have padding (count : ℕ) : padded 2 (Nat.toDigits 10 count) ≠ [] := by
      intro none
      exact Nat.toDigits_ne_nil (List.append_eq_nil_iff.mp none).2
    by_cases far : point ≤ -4 ∨ 16 < point
    · rw [if_pos far]
      have single : ((head :: rest).length = 1) = (rest = []) := by
        rw [List.length_cons, Nat.add_eq_right, List.length_eq_zero_iff]
      simp only [single, List.take_succ_cons, List.take_zero, List.drop_succ_cons, List.drop_zero]
      refine numeral_power leading others ?_ (padding _) (powers _)
      split
      · exact .inr rfl
      · exact .inl rfl
    · rw [if_neg far]
      by_cases before : point ≤ 0
      · rw [if_pos before]
        have behind : ∀ digit ∈ List.replicate (-point).toNat '0' ++ head :: rest,
            asciiDigit digit = true := by
          intro digit inside
          rcases List.mem_append.mp inside with zero | shown
          · exact zeros _ digit zero
          · exact all digit shown
        exact numeral_fraction .zero (by simp) behind
      · rw [if_neg before]
        by_cases short : (head :: rest).length ≤ point.toNat
        · rw [if_pos short]
          have whole (count : ℕ) : Whole (head :: (rest ++ List.replicate count '0')) := by
            refine .digits leading nonzero fun digit inside => ?_
            rcases List.mem_append.mp inside with shown | zero
            · exact others digit shown
            · exact zeros _ digit zero
          exact numeral_fraction (whole _) (by simp) (zeros 1)
        · rw [if_neg short]
          obtain ⟨count, counted⟩ : ∃ count, point.toNat = count + 1 :=
            ⟨point.toNat - 1, by omega⟩
          rw [counted, List.length_cons] at short
          rw [counted, List.take_succ_cons, List.drop_succ_cons, List.append_assoc]
          refine numeral_fraction (.digits leading nonzero fun digit inside => ?_) ?_
            fun digit inside => ?_
          · exact others digit (List.mem_of_mem_take inside)
          · intro none
            have few := List.drop_eq_nil_iff.mp none
            omega
          · exact others digit (List.mem_of_mem_drop inside)

/-! ## Values that a store takes -/

/-- Whether a number is one. -/
def isFinite : PyFloat → Bool
  | .finite _ => true
  | .infinite _ | .nan => false

/-- Whether an integer can be written. -/
def printable (value : ℤ) : Bool := (Nat.toDigits 10 value.natAbs).length ≤ maxStrDigits

mutual

/-- Whether a store takes what is written of a value. -/
def storable (dialect : Dialect) : PyJson → Bool
  | .none | .bool _ => true
  | .int value => printable value
  | .float value => isFinite value
  | .str text => paired dialect false text
  | .list items => storableItems dialect items
  | .dict entries => storableEntries dialect entries

/-- Whether every element of a list can be stored. -/
def storableItems (dialect : Dialect) : List PyJson → Bool
  | [] => true
  | item :: rest => storable dialect item && storableItems dialect rest

/-- Whether every entry of a dictionary can be stored. -/
def storableEntries (dialect : Dialect) : List (PyText × PyJson) → Bool
  | [] => true
  | (key, value) :: rest =>
    paired dialect false key && storable dialect value && storableEntries dialect rest

end

/-- A quoted text is read when its surrogates are paired. -/
theorem reads_quoted (text : PyText) :
    Reads dialect stack (quoted text) (paired dialect false text) := by
  refine ⟨⟨'"', _, rfl, rfl, by decide⟩, ?_⟩
  have scanned : (quoted text).foldl (step dialect) ⟨.value, stack⟩ = _ :=
    foldl_points text false
  rw [scanned]
  cases paired dialect false text with
  | false => rfl
  | true => exact ⟨rfl, rfl⟩

/-- A number is read when it is finite. -/
theorem reads_float (value : PyFloat) : Reads dialect stack (floatText value) (isFinite value) := by
  cases value with
  | nan => exact ⟨⟨'N', _, rfl, rfl, by decide⟩, rfl⟩
  | infinite negative =>
    cases negative with
    | false => exact ⟨⟨'I', _, rfl, rfl, by decide⟩, rfl⟩
    | true => exact ⟨⟨'-', _, rfl, rfl, by decide⟩, rfl⟩
  | finite value => exact (numeral_magnitude (abs_nonneg value)).reads _

/-- An integer is read when it is printed. -/
theorem reads_int {value : ℤ} {chars : List Char} (written : intText value = .ok chars) :
    Reads dialect stack chars (printable value) := by
  unfold intText at written
  dsimp only at written
  split at written
  · rename_i short
    obtain rfl := Except.ok.inj written
    rw [show printable value = true from decide_eq_true short]
    exact (numeral_whole (whole_toDigits _)).reads _
  · cases written

/-- The element of a list and those after it are read one after the other. -/
theorem reads_comma {first others : List Char} {good well : Bool}
    (head : Reads dialect (.array :: stack) first good)
    (tail : Reads dialect (.array :: stack) others well) :
    Reads dialect (.array :: stack) (first ++ ", ".toList ++ others) (good && well) := by
  obtain ⟨start, rest, same, solid, other⟩ := head.starts
  refine ⟨⟨start, rest ++ ", ".toList ++ others, by simp [same], solid, other⟩, ?_⟩
  rw [List.append_assoc, List.foldl_append]
  cases good with
  | false =>
    rw [foldl_broken head.breaks]
    exact head.breaks
  | true =>
    rw [List.foldl_append, show ", ".toList = [',', ' '] from rfl, List.foldl_cons,
      head.complete.step (.inl rfl)]
    exact tail.reads

/-- A list is read when its elements are. -/
theorem reads_list {chars : List Char} {good : Bool}
    (items : Reads dialect (.array :: stack) chars good) :
    Reads dialect stack ('[' :: (chars ++ [']'])) good := by
  obtain ⟨start, rest, same, solid, other⟩ := items.starts
  refine ⟨⟨'[', _, rfl, rfl, by decide⟩, ?_⟩
  have inner : ('[' :: (chars ++ [']'])).foldl (step dialect) ⟨.value, stack⟩ =
      step dialect (chars.foldl (step dialect) ⟨.value, .array :: stack⟩) ']' := by
    rw [List.foldl_cons, List.foldl_append, same, List.foldl_cons, List.foldl_cons]
    show step dialect (rest.foldl _ (step dialect ⟨.first, .array :: stack⟩ start)) ']' = _
    rw [step_first solid other]
    rfl
  rw [inner]
  cases good with
  | false =>
    rw [step_broken items.breaks]
    exact items.breaks
  | true =>
    rw [items.complete.step (.inr (.inl rfl))]
    exact ⟨rfl, rfl⟩

/-- What a store makes of the entries of a dictionary. -/
def ReadsEntries (dialect : Dialect) (stack : List Container) (chars : List Char) (good : Bool) :
    Prop :=
  ∀ mode, mode = .firstKey ∨ mode = .key →
    if good then
      Complete (chars.foldl (step dialect) ⟨mode, .object :: stack⟩) (.object :: stack)
    else (chars.foldl (step dialect) ⟨mode, .object :: stack⟩).mode = .broken

/-- An entry is read when its key and its value are. -/
theorem readsEntries_entry {key : PyText} {chars : List Char} {good : Bool}
    (value : Reads dialect (.object :: stack) chars good) :
    ReadsEntries dialect stack (quoted key ++ ": ".toList ++ chars)
      (paired dialect false key && good) := by
  intro mode open_
  have begun : (quoted key).foldl (step dialect) ⟨mode, .object :: stack⟩ =
      if paired dialect false key then ⟨.colon, .object :: stack⟩
      else ⟨.broken, .object :: stack⟩ := by
    have scanned : (key.flatMap escape ++ ['"']).foldl (step dialect)
        ⟨.text true .plain false, .object :: stack⟩ = _ := foldl_points key false
    rcases open_ with rfl | rfl <;> exact scanned
  rw [List.append_assoc, List.foldl_append, begun]
  cases paired dialect false key with
  | false =>
    have broken : ((": ".toList ++ chars).foldl (step dialect)
        ⟨.broken, .object :: stack⟩).mode = .broken := by
      rw [foldl_broken rfl]
    exact broken
  | true => exact value.reads

/-- The entry of a dictionary and those after it are read one after the other. -/
theorem readsEntries_comma {first others : List Char} {good well : Bool}
    (head : ReadsEntries dialect stack first good)
    (tail : ReadsEntries dialect stack others well) :
    ReadsEntries dialect stack (first ++ ", ".toList ++ others) (good && well) := by
  intro mode open_
  have here := head mode open_
  rw [List.append_assoc, List.foldl_append]
  cases good with
  | false =>
    have broken : (first.foldl (step dialect) ⟨mode, .object :: stack⟩).mode = .broken := here
    rw [foldl_broken broken]
    exact broken
  | true =>
    have complete : Complete (first.foldl (step dialect) ⟨mode, .object :: stack⟩)
        (.object :: stack) := here
    rw [List.foldl_append, show ", ".toList = [',', ' '] from rfl, List.foldl_cons,
      complete.step (.inl rfl)]
    exact tail .key (.inr rfl)

/-- A dictionary is read when its entries are. -/
theorem reads_dict {chars : List Char} {good : Bool}
    (entries : ReadsEntries dialect stack chars good) :
    Reads dialect stack ('\x7b' :: (chars ++ ['\x7d'])) good := by
  refine ⟨⟨'\x7b', _, rfl, rfl, by decide⟩, ?_⟩
  have inner : ('\x7b' :: (chars ++ ['\x7d'])).foldl (step dialect) ⟨.value, stack⟩ =
      step dialect (chars.foldl (step dialect) ⟨.firstKey, .object :: stack⟩) '\x7d' := by
    rw [List.foldl_cons, List.foldl_append]
    rfl
  have here := entries .firstKey (.inl rfl)
  rw [inner]
  cases good with
  | false =>
    have broken : (chars.foldl (step dialect) ⟨.firstKey, .object :: stack⟩).mode = .broken := here
    rw [step_broken broken]
    exact broken
  | true =>
    have complete : Complete (chars.foldl (step dialect) ⟨.firstKey, .object :: stack⟩)
        (.object :: stack) := here
    rw [complete.step (.inr (.inr rfl))]
    exact ⟨rfl, rfl⟩

mutual

/-- What is written of a value is read exactly when a store takes the value. -/
theorem reads_dumps (stack : List Container) {chars : List Char} :
    ∀ value, dumps value = .ok chars → Reads dialect stack chars (storable dialect value)
  | .none, written => by
    obtain rfl := Except.ok.inj written
    exact ⟨⟨'n', _, rfl, rfl, by decide⟩, rfl, rfl⟩
  | .bool value, written => by
    obtain rfl := Except.ok.inj written
    cases value with
    | false => exact ⟨⟨'f', _, rfl, rfl, by decide⟩, rfl, rfl⟩
    | true => exact ⟨⟨'t', _, rfl, rfl, by decide⟩, rfl, rfl⟩
  | .int value, written => reads_int written
  | .float value, written => by
    obtain rfl := Except.ok.inj written
    exact reads_float value
  | .str text, written => by
    obtain rfl := Except.ok.inj written
    exact reads_quoted text
  | .list items, written => by
    rw [dumps] at written
    obtain ⟨inner, listed, written⟩ := bind_eq_ok.mp written
    obtain rfl := Except.ok.inj written
    cases items with
    | nil =>
      obtain rfl := Except.ok.inj listed
      exact ⟨⟨'[', _, rfl, rfl, by decide⟩, rfl, rfl⟩
    | cons item rest => exact reads_list (reads_dumpsItems stack (item :: rest) (by simp) listed)
  | .dict entries, written => by
    rw [dumps] at written
    obtain ⟨inner, listed, written⟩ := bind_eq_ok.mp written
    obtain rfl := Except.ok.inj written
    cases entries with
    | nil =>
      obtain rfl := Except.ok.inj listed
      exact ⟨⟨'\x7b', _, rfl, rfl, by decide⟩, rfl, rfl⟩
    | cons entry rest =>
      exact reads_dict (reads_dumpsEntries stack (entry :: rest) (by simp) listed)

/-- The text of elements is read when each of them can be stored. -/
theorem reads_dumpsItems (stack : List Container) {chars : List Char} :
    ∀ items, items ≠ [] → dumpsItems items = .ok chars →
      Reads dialect (.array :: stack) chars (storableItems dialect items)
  | [], filled, _ => absurd rfl filled
  | [item], _, written => by
    rw [storableItems, storableItems, Bool.and_true]
    exact reads_dumps _ item written
  | item :: next :: rest, _, written => by
    rw [dumpsItems] at written
    · obtain ⟨first, here, written⟩ := bind_eq_ok.mp written
      obtain ⟨others, later, written⟩ := bind_eq_ok.mp written
      obtain rfl := Except.ok.inj written
      rw [storableItems]
      exact reads_comma (reads_dumps _ item here)
        (reads_dumpsItems stack (next :: rest) (by simp) later)
    · simp

/-- The text of entries is read when each of them can be stored. -/
theorem reads_dumpsEntries (stack : List Container) {chars : List Char} :
    ∀ entries, entries ≠ [] → dumpsEntries entries = .ok chars →
      ReadsEntries dialect stack chars (storableEntries dialect entries)
  | [], filled, _ => absurd rfl filled
  | [(key, value)], _, written => by
    obtain ⟨first, here, written⟩ := bind_eq_ok.mp written
    obtain rfl := Except.ok.inj written
    rw [storableEntries, storableEntries, Bool.and_true]
    exact readsEntries_entry (reads_dumps _ value here)
  | (key, value) :: next :: rest, _, written => by
    rw [dumpsEntries] at written
    · obtain ⟨first, here, written⟩ := bind_eq_ok.mp written
      obtain ⟨others, later, written⟩ := bind_eq_ok.mp written
      obtain rfl := Except.ok.inj written
      rw [storableEntries]
      exact readsEntries_comma (readsEntries_entry (reads_dumps _ value here))
        (reads_dumpsEntries stack (next :: rest) (by simp) later)
    · simp

end

mutual

/-- A value that a store takes can be written. -/
theorem exists_dumps : ∀ value, storable dialect value = true → ∃ chars, dumps value = .ok chars
  | .none, _ => ⟨_, rfl⟩
  | .bool _, _ => ⟨_, rfl⟩
  | .int value, good => ⟨_, if_pos (of_decide_eq_true good)⟩
  | .float _, _ => ⟨_, rfl⟩
  | .str _, _ => ⟨_, rfl⟩
  | .list items, good => by
    obtain ⟨chars, written⟩ := exists_dumpsItems items good
    refine ⟨'[' :: (chars ++ [']']), ?_⟩
    rw [dumps, written]
    rfl
  | .dict entries, good => by
    obtain ⟨chars, written⟩ := exists_dumpsEntries entries good
    refine ⟨'\x7b' :: (chars ++ ['\x7d']), ?_⟩
    rw [dumps, written]
    rfl

/-- Elements that can be stored have a text. -/
theorem exists_dumpsItems : ∀ items, storableItems dialect items = true →
    ∃ chars, dumpsItems items = .ok chars
  | [], _ => ⟨_, rfl⟩
  | [item], good => by
    rw [storableItems, Bool.and_eq_true] at good
    exact exists_dumps item good.1
  | item :: next :: rest, good => by
    rw [storableItems, Bool.and_eq_true] at good
    obtain ⟨first, here⟩ := exists_dumps item good.1
    obtain ⟨others, later⟩ := exists_dumpsItems (next :: rest) good.2
    refine ⟨first ++ ", ".toList ++ others, ?_⟩
    rw [dumpsItems, here, later]
    · rfl
    · simp

/-- Entries that can be stored have a text. -/
theorem exists_dumpsEntries : ∀ entries, storableEntries dialect entries = true →
    ∃ chars, dumpsEntries entries = .ok chars
  | [], _ => ⟨_, rfl⟩
  | [(key, value)], good => by
    rw [storableEntries, Bool.and_eq_true, Bool.and_eq_true] at good
    obtain ⟨first, here⟩ := exists_dumps value good.1.2
    refine ⟨quoted key ++ ": ".toList ++ first, ?_⟩
    rw [dumpsEntries, here]
    rfl
  | (key, value) :: next :: rest, good => by
    rw [storableEntries, Bool.and_eq_true, Bool.and_eq_true] at good
    obtain ⟨first, here⟩ := exists_dumps value good.1.2
    obtain ⟨others, later⟩ := exists_dumpsEntries (next :: rest) good.2
    refine ⟨quoted key ++ ": ".toList ++ first ++ ", ".toList ++ others, ?_⟩
    rw [dumpsEntries, here, later]
    · rfl
    · simp

end

/-- A value can be written and a store accepts what is written exactly when its leaves and keys are
such that a store takes them. -/
theorem storable_iff {value : PyJson} : storable dialect value = true ↔
    ∃ chars, dumps value = .ok chars ∧ accepts dialect chars = true := by
  constructor
  · intro good
    obtain ⟨chars, written⟩ := exists_dumps value good
    have read : Reads dialect [] chars _ := reads_dumps [] value written
    rw [good] at read
    refine ⟨chars, written, ?_⟩
    unfold accepts
    dsimp only
    rw [read.complete.1, read.complete.2]
    rfl
  · rintro ⟨chars, written, accepted⟩
    by_contra bad
    have read : Reads dialect [] chars _ := reads_dumps [] value written
    rw [Bool.not_eq_true _ |>.mp bad] at read
    unfold accepts at accepted
    dsimp only at accepted
    rw [read.breaks] at accepted
    cases accepted

end Dumps

end ProxSync.Lib
