import ProxSync.Lib.Dumps
/-!
# What is written as JSON is printable

Whatever value is written as JSON, its text holds printable characters of ASCII only, so it stays on
one line and holds no control character. The numbers that are not finite, and half of a code point,
are no exceptions.
-/
namespace ProxSync.Lib.Dumps

/-- A printable character of ASCII. -/
def shown (char : Char) : Bool := 32 ≤ char.toNat && char.toNat ≤ 126

/-- A text of printable characters. -/
def Shown (text : List Char) : Prop := ∀ char ∈ text, shown char = true

variable {text first second : List Char}

namespace Shown

/-- Two shown texts are shown together. -/
theorem append (left : Shown first) (right : Shown second) : Shown (first ++ second) := by
  intro char inside
  rcases List.mem_append.mp inside with before | behind
  · exact left char before
  · exact right char behind

/-- A shown character in front of a shown text is shown. -/
theorem cons {char : Char} (here : shown char = true) (rest : Shown text) :
    Shown (char :: text) := by
  intro other inside
  rcases List.mem_cons.mp inside with rfl | later
  · exact here
  · exact rest other later

/-- An empty text is shown. -/
theorem nil : Shown [] := fun _ inside => absurd inside List.not_mem_nil

/-- A text between two characters. -/
theorem between {before behind : Char} (left : shown before = true) (right : shown behind = true)
    (inside : Shown text) : Shown (before :: (text ++ [behind])) :=
  cons left (inside.append (cons right nil))

/-- Digits are shown. -/
theorem of_digits (all : ∀ digit ∈ text, asciiDigit digit = true) : Shown text := by
  intro digit inside
  have range := asciiDigit_iff.mp (all digit inside)
  simp only [shown, Bool.and_eq_true, decide_eq_true_eq]
  omega

/-- Zeros are shown. -/
theorem zeros (count : ℕ) : Shown (List.replicate count '0') := by
  intro char inside
  rw [List.eq_of_mem_replicate inside]
  rfl

/-- A number is shown by its digits. -/
theorem toDigits (number : ℕ) : Shown (Nat.toDigits 10 number) :=
  of_digits fun _ => asciiDigit_of_mem_toDigits

/-- A sign in front of a shown text is shown. -/
theorem sign (inside : Shown text) (negative : Bool) : Shown (signed negative text) := by
  unfold signed
  split
  · exact cons rfl inside
  · exact inside

/-- A part of a shown text is shown. -/
theorem of_sublist (whole : Shown second) (part : first.Sublist second) : Shown first :=
  fun char inside => whole char (part.subset inside)

end Shown

/-- A hexadecimal digit is printable. -/
theorem shown_hexDigit {digit : ℕ} (small : digit < 16) : shown (hexDigit digit) = true := by
  have every : ∀ digit : Fin 16, shown (hexDigit digit.val) = true := by decide
  exact every ⟨digit, small⟩

/-- An escaped code unit is shown. -/
theorem shown_escapedUnit (value : ℕ) : Shown (escapedUnit value) := by
  have digit (number : ℕ) : shown (hexDigit (number % 16)) = true :=
    shown_hexDigit (Nat.mod_lt _ (by decide))
  simp [Shown, escapedUnit, digit]
  decide

/-- A code point is written in printable characters. -/
theorem shown_escape (point : CodePoint) : Shown (escape point) := by
  unfold escape
  dsimp only
  have pair (char : Char) (good : shown char = true) : Shown ['\\', char] :=
    .cons rfl (.cons good .nil)
  by_cases quote : point.val = 34
  · rw [if_pos quote]
    exact pair _ rfl
  rw [if_neg quote]
  by_cases backslash : point.val = 92
  · rw [if_pos backslash]
    exact pair _ rfl
  rw [if_neg backslash]
  by_cases feed : point.val = 10
  · rw [if_pos feed]
    exact pair _ rfl
  rw [if_neg feed]
  by_cases back : point.val = 13
  · rw [if_pos back]
    exact pair _ rfl
  rw [if_neg back]
  by_cases tab : point.val = 9
  · rw [if_pos tab]
    exact pair _ rfl
  rw [if_neg tab]
  by_cases page : point.val = 12
  · rw [if_pos page]
    exact pair _ rfl
  rw [if_neg page]
  by_cases space : point.val = 8
  · rw [if_pos space]
    exact pair _ rfl
  rw [if_neg space]
  by_cases plain : 32 ≤ point.val ∧ point.val ≤ 126
  · have same : (Char.ofNat point.val).toNat = point.val := by
      rw [Char.toNat_ofNat, if_pos (.inl (by omega))]
    rw [if_pos plain]
    apply Shown.cons _ .nil
    simpa [shown, same] using plain
  rw [if_neg plain]
  by_cases single : point.val < 0x10000
  · rw [if_pos single]
    exact shown_escapedUnit _
  · rw [if_neg single]
    exact (shown_escapedUnit _).append (shown_escapedUnit _)

/-- A text is written in printable characters. -/
theorem shown_quoted (text : PyText) : Shown (quoted text) := by
  apply Shown.between rfl rfl
  intro char inside
  obtain ⟨point, -, written⟩ := List.mem_flatMap.mp inside
  exact shown_escape point char written

/-- A magnitude is shown. -/
theorem shown_magnitude {value : ℚ} (nonneg : 0 ≤ value) : Shown (magnitude value) := by
  unfold magnitude
  by_cases zero : value = 0
  · rw [if_pos zero]
    exact .cons rfl (.cons rfl (.cons rfl .nil))
  rw [if_neg zero]
  have positive := lt_of_le_of_ne nonneg (Ne.symm zero)
  have all : Shown (shortest value).1 := by
    obtain ⟨head, rest, same, leading, -, others⟩ := shortest_digits positive
    rw [same]
    apply Shown.of_digits
    intro digit inside
    rcases List.mem_cons.mp inside with rfl | later
    · exact leading
    · exact others digit later
  generalize shortest value = found at all
  obtain ⟨digits, point⟩ := found
  dsimp only at all ⊢
  by_cases far : point ≤ -4 ∨ 16 < point
  · rw [if_pos far]
    have power : Shown (padded 2 (Nat.toDigits 10 (point - 1).natAbs)) :=
      (Shown.zeros _).append (.toDigits _)
    have signs : Shown ['e', if point - 1 < 0 then '-' else '+'] := by
      apply Shown.cons rfl
      apply Shown.cons _ .nil
      split <;> rfl
    have fraction : Shown (if digits.length = 1 then [] else '.' :: digits.drop 1) := by
      split
      · exact .nil
      · exact .cons rfl (all.of_sublist (List.drop_sublist _ _))
    exact (((all.of_sublist (List.take_sublist _ _)).append fraction).append signs).append power
  rw [if_neg far]
  by_cases before : point ≤ 0
  · rw [if_pos before]
    exact (Shown.append (.cons rfl (.cons rfl .nil)) (.zeros _)).append all
  rw [if_neg before]
  by_cases short : digits.length ≤ point.toNat
  · rw [if_pos short]
    exact (all.append (.zeros _)).append (.cons rfl (.cons rfl .nil))
  · rw [if_neg short]
    exact ((all.of_sublist (List.take_sublist _ _)).append (.cons rfl .nil)).append
      (all.of_sublist (List.drop_sublist _ _))

/-- A number is shown. -/
theorem shown_float (value : PyFloat) : Shown (floatText value) := by
  cases value with
  | nan => simp [Shown, floatText]; decide
  | infinite negative =>
    have word : Shown "Infinity".toList := by simp [Shown]; decide
    exact word.sign negative
  | finite value => exact (shown_magnitude (abs_nonneg value)).sign _

/-- An integer is shown. -/
theorem shown_int {value : ℤ} (written : intText value = .ok text) : Shown text := by
  unfold intText at written
  dsimp only at written
  split at written
  · rw [← Except.ok.inj written]
    exact (Shown.toDigits _).sign _
  · cases written

/-- The separators are shown. -/
theorem shown_separator : Shown ", ".toList ∧ Shown ": ".toList := by
  constructor <;> (simp [Shown]; decide)

mutual

/-- What is written of a value is printable. -/
theorem shown_dumps {text : List Char} : ∀ value, dumps value = .ok text → Shown text
  | .none, written => by
    rw [← Except.ok.inj written]
    simp [Shown]
    decide
  | .bool value, written => by
    rw [← Except.ok.inj written]
    cases value <;> (simp [Shown]; decide)
  | .int value, written => shown_int written
  | .float value, written => by
    rw [← Except.ok.inj written]
    exact shown_float value
  | .str text, written => by
    rw [← Except.ok.inj written]
    exact shown_quoted text
  | .list items, written => by
    obtain ⟨inner, here, written⟩ := bind_eq_ok.mp written
    rw [← Except.ok.inj written]
    exact .between rfl rfl (shown_dumpsItems items here)
  | .dict entries, written => by
    obtain ⟨inner, here, written⟩ := bind_eq_ok.mp written
    rw [← Except.ok.inj written]
    exact .between rfl rfl (shown_dumpsEntries entries here)

/-- The text of the elements of a list is shown. -/
theorem shown_dumpsItems {text : List Char} :
    ∀ items, dumpsItems items = .ok text → Shown text
  | [], written => by
    rw [← Except.ok.inj written]
    exact .nil
  | [item], written => shown_dumps item written
  | item :: next :: rest, written => by
    rw [dumpsItems] at written
    · obtain ⟨first, here, written⟩ := bind_eq_ok.mp written
      obtain ⟨others, there, written⟩ := bind_eq_ok.mp written
      rw [← Except.ok.inj written]
      exact ((shown_dumps item here).append shown_separator.1).append
        (shown_dumpsItems (next :: rest) there)
    · simp

/-- The text of the entries of a dictionary is shown. -/
theorem shown_dumpsEntries {text : List Char} :
    ∀ entries, dumpsEntries entries = .ok text → Shown text
  | [], written => by
    rw [← Except.ok.inj written]
    exact .nil
  | [(key, value)], written => by
    obtain ⟨first, here, written⟩ := bind_eq_ok.mp written
    rw [← Except.ok.inj written]
    exact ((shown_quoted key).append shown_separator.2).append (shown_dumps value here)
  | (key, value) :: next :: rest, written => by
    rw [dumpsEntries] at written
    · obtain ⟨first, here, written⟩ := bind_eq_ok.mp written
      obtain ⟨others, there, written⟩ := bind_eq_ok.mp written
      rw [← Except.ok.inj written]
      exact ((((shown_quoted key).append shown_separator.2).append (shown_dumps value here)).append
        shown_separator.1).append (shown_dumpsEntries (next :: rest) there)
    · simp

end

end ProxSync.Lib.Dumps
