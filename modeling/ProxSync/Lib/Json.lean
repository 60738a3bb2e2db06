import ProxSync.Lib.Format
/-!
# Reading JSON

A text is read as one value between blanks. The reader is a scanner from left to right that calls
itself for the elements of a list and the members of a dictionary; how deep they may nest is limited
by the stack, and what lies deeper raises an error of its own. All other faults raise a value error.
-/
namespace ProxSync.Lib

namespace Json

/-- What a scanner makes of a text, and what follows it. -/
abbrev Scanner (α : Type) := List Char → Except PyError (α × List Char)

/-- Whether a character is a blank between values. -/
def blank (char : Char) : Bool := char == ' ' || char == '\t' || char == '\n' || char == '\r'

/-- A text without the blanks it starts with. -/
def skip (chars : List Char) : List Char := chars.dropWhile blank

/-! ## Texts -/

/-- The value of a hexadecimal digit. -/
def hexValue (char : Char) : Option Nat :=
  let code := char.toNat
  if asciiDigit char then some (code - 48)
  else if 97 ≤ code ∧ code ≤ 102 then some (code - 87)
  else if 65 ≤ code ∧ code ≤ 70 then some (code - 55)
  else none

/-- The number of four hexadecimal digits. -/
def codeUnit (first second third fourth : Char) : Option Nat := do
  let first ← hexValue first
  let second ← hexValue second
  let third ← hexValue third
  let fourth ← hexValue fourth
  some (((first * 16 + second) * 16 + third) * 16 + fourth)

/-- What a letter after a backslash stands for. -/
def escaped : Char → Option Nat
  | '"' => some 34
  | '\\' => some 92
  | '/' => some 47
  | 'b' => some 8
  | 'f' => some 12
  | 'n' => some 10
  | 'r' => some 13
  | 't' => some 9
  | _ => none

/-- A scanned element in front of the scanned rest. -/
def push {α β : Type} (item : α) : Option (List α × β) → Option (List α × β) :=
  Option.map (Prod.map (item :: ·) id)

/-- The code units of a text up to its closing quote. -/
def units : List Char → Option (List Nat × List Char)
  | [] => none
  | '"' :: rest => some ([], rest)
  | '\\' :: 'u' :: first :: second :: third :: fourth :: rest =>
    (codeUnit first second third fourth).bind fun unit => push unit (units rest)
  | '\\' :: char :: rest => (escaped char).bind fun unit => push unit (units rest)
  | char :: rest => if char.toNat < 32 then none else push char.toNat (units rest)

/-- A code unit that stands alone; half of a pair is no code point. -/
def single (unit : Nat) : Char := if unit.isValidChar then Char.ofNat unit else '\ufffd'

/-- Whether a code unit is the first of a pair. -/
def isHigh (unit : Nat) : Bool := 0xd800 ≤ unit && unit < 0xdc00

/-- Whether a code unit is the second of a pair. -/
def isLow (unit : Nat) : Bool := 0xdc00 ≤ unit && unit < 0xe000

/-- The code points of code units. -/
def characters : List Nat → List Char
  | [] => []
  | [unit] => [single unit]
  | high :: low :: rest =>
    if isHigh high && isLow low then
      Char.ofNat (0x10000 + (high - 0xd800) * 0x400 + (low - 0xdc00)) :: characters rest
    else single high :: characters (low :: rest)

/-- A text after its opening quote. -/
def text : Scanner String := fun chars =>
  match units chars with
  | some (units, rest) => .ok (.ofList (characters units), rest)
  | none => .error .valueError

/-! ## Numbers and words -/

/-- The digits before the point; only zero begins with a zero. -/
def whole : List Char → Option (List Char × List Char)
  | [] => none
  | '0' :: rest => some (['0'], rest)
  | char :: rest =>
    if asciiDigit char then some (char :: rest.takeWhile asciiDigit, rest.dropWhile asciiDigit)
    else none

/-- The point and the digits behind it, if there are any. -/
def fraction : List Char → List Char × List Char
  | '.' :: rest =>
    if (rest.takeWhile asciiDigit).isEmpty then ([], '.' :: rest)
    else ('.' :: rest.takeWhile asciiDigit, rest.dropWhile asciiDigit)
  | rest => ([], rest)

/-- The sign of an exponent and what follows it. -/
def exponentSign : List Char → List Char × List Char
  | '+' :: rest => (['+'], rest)
  | '-' :: rest => (['-'], rest)
  | rest => ([], rest)

/-- The exponent, if it has digits. -/
def exponent : List Char → List Char × List Char
  | [] => ([], [])
  | mark :: rest =>
    let digits := (exponentSign rest).2.takeWhile asciiDigit
    if (mark == 'e' || mark == 'E') && !digits.isEmpty then
      (mark :: (exponentSign rest).1 ++ digits, (exponentSign rest).2.dropWhile asciiDigit)
    else ([], mark :: rest)

/-- A number after its sign. -/
def unsignedNumber (negative : Bool) : Scanner Value := fun chars =>
  match whole chars with
  | none => .error .valueError
  | some (digits, rest) =>
    let point := fraction rest
    let power := exponent point.2
    if point.1.isEmpty && power.1.isEmpty then
      match integer (.ofList (signed negative digits)) with
      | .ok value => .ok (.int value, power.2)
      | .error _ => .error .valueError
    else
      match Lib.float (.ofList (signed negative (digits ++ point.1 ++ power.1))) with
      | some value => .ok (.float value, power.2)
      | none => .error .valueError

/-- The words that stand for values. -/
def words : List (List Char × Value) :=
  [("null".toList, .none), ("true".toList, .bool true), ("false".toList, .bool false),
    ("NaN".toList, .float .nan), ("Infinity".toList, .float (.infinite false)),
    ("-Infinity".toList, .float (.infinite true))]

/-- A word or a number. -/
def scalar : Scanner Value := fun chars =>
  match words.find? fun entry => entry.1.isPrefixOf chars with
  | some (word, value) => .ok (value, chars.drop word.length)
  | none =>
    match chars with
    | '-' :: rest => unsignedNumber true rest
    | rest => unsignedNumber false rest

/-! ## Lists and dictionaries -/

section Nested

variable (scan : Scanner Value)

/-- The elements of a list up to its closing bracket. -/
def items : Nat → Scanner (List Value)
  | 0, _ => .error .valueError
  | fuel + 1, chars =>
    match scan chars with
    | .error raised => .error raised
    | .ok (value, after) =>
      match skip after with
      | ']' :: rest => .ok ([value], rest)
      | ',' :: rest => (items fuel (skip rest)).map (Prod.map (value :: ·) id)
      | _ => .error .valueError

/-- The members of a dictionary up to its closing brace, behind those that were read. -/
def members : Nat → List (Value × Value) → Scanner (List (Value × Value))
  | 0, _, _ => .error .valueError
  | fuel + 1, entries, chars =>
    match chars with
    | '"' :: quoted =>
      match text quoted with
      | .error raised => .error raised
      | .ok (key, after) =>
        match skip after with
        | ':' :: rest =>
          match scan (skip rest) with
          | .error raised => .error raised
          | .ok (value, after) =>
            match skip after with
            | '\x7d' :: rest => .ok (Value.assign entries (.str key) value, rest)
            | ',' :: rest => members fuel (Value.assign entries (.str key) value) (skip rest)
            | _ => .error .valueError
        | _ => .error .valueError
    | _ => .error .valueError

/-- A list after its opening bracket. -/
def array : Scanner Value := fun chars =>
  match skip chars with
  | ']' :: rest => .ok (.list [], rest)
  | rest => (items scan (rest.length + 1) rest).map (Prod.map .list id)

/-- A dictionary after its opening brace. -/
def object : Scanner Value := fun chars =>
  match skip chars with
  | '\x7d' :: rest => .ok (.dict [], rest)
  | rest => (members scan (rest.length + 1) [] rest).map (Prod.map .dict id)

end Nested

/-- A value, of which the lists and dictionaries nest no deeper than a limit. -/
def value : Nat → Scanner Value
  | 0, chars =>
    match chars with
    | '"' :: rest => (text rest).map (Prod.map .str id)
    | '[' :: _ => .error .recursionError
    | '\x7b' :: _ => .error .recursionError
    | chars => scalar chars
  | limit + 1, chars =>
    match chars with
    | '"' :: rest => (text rest).map (Prod.map .str id)
    | '[' :: rest => array (value limit) rest
    | '\x7b' :: rest => object (value limit) rest
    | chars => scalar chars

/-! ## What a scanner leaves -/

/-- A scanner that reads at least one code point. -/
def Consumes {α : Type} (scan : Scanner α) : Prop :=
  ∀ chars value rest, scan chars = .ok (value, rest) → rest.length < chars.length

/-- A scanner that raises a value error unless values nest too deep. -/
def Raises {α : Type} (scan : Scanner α) : Prop :=
  ∀ chars raised, scan chars = .error raised → raised = .valueError ∨ raised = .recursionError

section Leaves

variable {scan : Scanner Value} {chars rest : List Char} {raised : PyError} {fuel : Nat}

/-- Without blanks a text is not longer. -/
theorem length_skip_le : (skip chars).length ≤ chars.length := List.length_dropWhile_le _ _

/-- What is mapped was scanned. -/
theorem map_eq_ok {α β γ : Type} {answer : Except PyError (α × γ)} {wrap : α → β} {value : β}
    {rest : γ} : answer.map (Prod.map wrap id) = .ok (value, rest) ↔
      ∃ scanned, answer = .ok (scanned, rest) ∧ wrap scanned = value := by
  cases answer with
  | error raised => simp [Except.map]
  | ok scanned =>
    obtain ⟨first, after⟩ := scanned
    simp only [Except.map, Prod.map, id_eq, Except.ok.injEq, Prod.mk.injEq]
    constructor
    · rintro ⟨wrapped, same⟩
      exact ⟨first, ⟨rfl, same⟩, wrapped⟩
    · rintro ⟨scanned, ⟨rfl, same⟩, wrapped⟩
      exact ⟨wrapped, same⟩

/-- Wrapping an answer leaves what it raises. -/
theorem map_eq_error {α β : Type} {answer : Except PyError α} {wrap : α → β} :
    answer.map wrap = .error raised ↔ answer = .error raised := by
  cases answer <;> simp [Except.map]

/-- Items with one in front were scanned without it. -/
theorem push_eq_some {α β : Type} {item : α} {scanned : Option (List α × β)} {items : List α}
    {rest : β} (pushed : push item scanned = some (items, rest)) :
    ∃ others, scanned = some (others, rest) := by
  obtain ⟨⟨others, after⟩, found, same⟩ := Option.map_eq_some_iff.mp pushed
  obtain ⟨-, rfl⟩ := Prod.mk.inj same
  exact ⟨others, found⟩

/-- The code units of a text end before what follows it. -/
theorem length_units {scanned : List Nat} (found : units chars = some (scanned, rest)) :
    rest.length < chars.length := by
  fun_induction units chars generalizing scanned with
  | case1 => cases found
  | case2 after =>
    obtain ⟨-, rfl⟩ := Prod.mk.inj (Option.some.inj found)
    exact Nat.lt_succ_self _
  | case3 first second third fourth after ih =>
    obtain ⟨unit, -, pushed⟩ := Option.bind_eq_some_iff.mp found
    obtain ⟨others, later⟩ := push_eq_some pushed
    have shorter := ih later
    simp only [List.length_cons]
    omega
  | case4 char after _ ih =>
    obtain ⟨unit, -, pushed⟩ := Option.bind_eq_some_iff.mp found
    obtain ⟨others, later⟩ := push_eq_some pushed
    have shorter := ih later
    simp only [List.length_cons]
    omega
  | case5 => cases found
  | case6 char after _ _ _ _ ih =>
    obtain ⟨others, later⟩ := push_eq_some found
    have shorter := ih later
    simp only [List.length_cons]
    omega

/-- A text takes characters. -/
theorem consumes_text : Consumes text := by
  intro chars value rest scanned
  unfold text at scanned
  split at scanned
  · rename_i units after found
    obtain ⟨-, rfl⟩ := Prod.mk.inj (Except.ok.inj scanned)
    exact length_units found
  · cases scanned

/-- A text raises a value error. -/
theorem raises_text : Raises text := by
  intro chars raised failed
  unfold text at failed
  split at failed
  · cases failed
  · exact .inl (Except.error.inj failed).symm

/-- A whole number takes characters. -/
theorem length_whole {digits : List Char} (found : whole chars = some (digits, rest)) :
    rest.length < chars.length := by
  unfold whole at found
  split at found
  · cases found
  · obtain ⟨-, rfl⟩ := Prod.mk.inj (Option.some.inj found)
    exact Nat.lt_succ_self _
  · split at found
    · obtain ⟨-, rfl⟩ := Prod.mk.inj (Option.some.inj found)
      exact Nat.lt_succ_of_le (List.length_dropWhile_le _ _)
    · cases found

/-- A fraction gives no characters back. -/
theorem length_fraction_le : (fraction chars).2.length ≤ chars.length := by
  unfold fraction
  split
  · split
    · exact le_rfl
    · exact Nat.le_succ_of_le (List.length_dropWhile_le _ _)
  · exact le_rfl

/-- An exponent gives no characters back. -/
theorem length_exponent_le : (exponent chars).2.length ≤ chars.length := by
  unfold exponent
  split
  · exact le_rfl
  · rename_i mark after
    have sign : (exponentSign after).2.length ≤ after.length := by
      unfold exponentSign
      split <;> simp
    dsimp only
    split
    · exact ((List.length_dropWhile_le _ _).trans sign).trans (Nat.le_succ _)
    · exact le_rfl

/-- A number takes characters. -/
theorem consumes_unsignedNumber {negative : Bool} : Consumes (unsignedNumber negative) := by
  intro chars value rest scanned
  unfold unsignedNumber at scanned
  split at scanned
  · cases scanned
  · rename_i digits after found
    have shorter := length_whole found
    have point := @length_fraction_le after
    have power := @length_exponent_le (fraction after).2
    have left : rest = (exponent (fraction after).2).2 := by
      dsimp only at scanned
      split at scanned
      · split at scanned
        · exact (Prod.mk.inj (Except.ok.inj scanned)).2.symm
        · cases scanned
      · split at scanned
        · exact (Prod.mk.inj (Except.ok.inj scanned)).2.symm
        · cases scanned
    rw [left]
    omega

/-- A number raises a value error. -/
theorem raises_unsignedNumber {negative : Bool} : Raises (unsignedNumber negative) := by
  intro chars raised failed
  unfold unsignedNumber at failed
  split at failed
  · exact .inl (Except.error.inj failed).symm
  · dsimp only at failed
    split at failed
    · split at failed
      · cases failed
      · exact .inl (Except.error.inj failed).symm
    · split at failed
      · cases failed
      · exact .inl (Except.error.inj failed).symm

/-- A value without parts takes characters. -/
theorem consumes_scalar : Consumes scalar := by
  intro chars value rest scanned
  unfold scalar at scanned
  split at scanned
  · rename_i word _ found
    obtain ⟨-, rfl⟩ := Prod.mk.inj (Except.ok.inj scanned)
    have starts : word <+: chars :=
      List.isPrefixOf_iff_prefix.mp (by simpa using List.find?_some found)
    have some : 0 < word.length := by
      have lengths : ∀ entry ∈ words, 0 < entry.1.length := by simp [words]
      exact lengths _ (List.mem_of_find?_eq_some found)
    have within := starts.length_le
    rw [List.length_drop]
    omega
  · split at scanned
    · exact (consumes_unsignedNumber _ _ _ scanned).trans (Nat.lt_succ_self _)
    · exact consumes_unsignedNumber _ _ _ scanned

/-- A value without parts raises a value error. -/
theorem raises_scalar : Raises scalar := by
  intro chars raised failed
  unfold scalar at failed
  split at failed
  · cases failed
  · split at failed <;> exact raises_unsignedNumber _ _ failed

/-! ## What nested scanners leave -/

/-- The elements of a list take characters. -/
theorem consumes_items (consumes : Consumes scan) : Consumes (items scan fuel) := by
  intro chars values rest scanned
  induction fuel generalizing chars values with
  | zero => cases scanned
  | succ fuel ih =>
    unfold items at scanned
    split at scanned
    · cases scanned
    · rename_i value after found
      have shorter := consumes chars value after found
      have blanks := @length_skip_le after
      split at scanned
      · rename_i next ended
        obtain ⟨-, rfl⟩ := Prod.mk.inj (Except.ok.inj scanned)
        rw [ended, List.length_cons] at blanks
        omega
      · rename_i next comma
        obtain ⟨others, later, -⟩ := map_eq_ok.mp scanned
        have remaining := ih _ _ later
        have gap := @length_skip_le next
        rw [comma, List.length_cons] at blanks
        omega
      · cases scanned

/-- The elements of a list raise a value error unless they nest too deep. -/
theorem raises_items (raises : Raises scan) : Raises (items scan fuel) := by
  intro chars raised failed
  induction fuel generalizing chars with
  | zero => exact .inl (Except.error.inj failed).symm
  | succ fuel ih =>
    unfold items at failed
    split at failed
    · rename_i other found
      obtain rfl := Except.error.inj failed
      exact raises _ _ found
    · split at failed
      · cases failed
      · exact ih _ (map_eq_error.mp failed)
      · exact .inl (Except.error.inj failed).symm

/-- The length of the text is enough fuel for the elements of a list. -/
theorem items_fuel (consumes : Consumes scan) {other : Nat} (enough : chars.length < fuel)
    (more : chars.length < other) : items scan fuel chars = items scan other chars := by
  induction fuel generalizing chars other with
  | zero => cases enough
  | succ fuel ih =>
    cases other with
    | zero => cases more
    | succ other =>
      unfold items
      cases scanned : scan chars with
      | error raised => rfl
      | ok found =>
        obtain ⟨value, after⟩ := found
        have shorter := consumes chars value after scanned
        have blanks := @length_skip_le after
        dsimp only
        split
        · rfl
        · rename_i next comma
          have gap := @length_skip_le next
          rw [comma, List.length_cons] at blanks
          have same : items scan fuel (skip next) = items scan other (skip next) :=
            ih (by omega) (by omega)
          rw [same]
        · rfl

/-- The members of a dictionary take characters. -/
theorem consumes_members (consumes : Consumes scan) {entries : List (Value × Value)} :
    Consumes (members scan fuel entries) := by
  intro chars values rest scanned
  induction fuel generalizing chars entries with
  | zero => cases scanned
  | succ fuel ih =>
    unfold members at scanned
    split at scanned
    · rename_i quoted
      split at scanned
      · cases scanned
      · rename_i key after read
        have begun := consumes_text quoted key after read
        have blanks := @length_skip_le after
        split at scanned
        · rename_i colon separated
          split at scanned
          · cases scanned
          · rename_i value remaining found
            have shorter := consumes _ value remaining found
            have gap := @length_skip_le colon
            have end' := @length_skip_le remaining
            rw [separated, List.length_cons] at blanks
            rw [List.length_cons]
            split at scanned
            · rename_i next closed
              obtain ⟨-, rfl⟩ := Prod.mk.inj (Except.ok.inj scanned)
              rw [closed, List.length_cons] at end'
              omega
            · rename_i next comma
              have later := ih _ scanned
              have last := @length_skip_le next
              rw [comma, List.length_cons] at end'
              omega
            · cases scanned
        · cases scanned
    · cases scanned

/-- The members of a dictionary raise a value error unless they nest too deep. -/
theorem raises_members (raises : Raises scan) {entries : List (Value × Value)} :
    Raises (members scan fuel entries) := by
  intro chars raised failed
  induction fuel generalizing chars entries with
  | zero => exact .inl (Except.error.inj failed).symm
  | succ fuel ih =>
    unfold members at failed
    split at failed
    · split at failed
      · rename_i other read
        obtain rfl := Except.error.inj failed
        exact raises_text _ _ read
      · split at failed
        · split at failed
          · rename_i other found
            obtain rfl := Except.error.inj failed
            exact raises _ _ found
          · split at failed
            · cases failed
            · exact ih _ failed
            · exact .inl (Except.error.inj failed).symm
        · exact .inl (Except.error.inj failed).symm
    · exact .inl (Except.error.inj failed).symm

/-- The length of the text is enough fuel for the members of a dictionary. -/
theorem members_fuel (consumes : Consumes scan) {entries : List (Value × Value)} {other : Nat}
    (enough : chars.length < fuel) (more : chars.length < other) :
    members scan fuel entries chars = members scan other entries chars := by
  induction fuel generalizing chars entries other with
  | zero => cases enough
  | succ fuel ih =>
    cases other with
    | zero => cases more
    | succ other =>
      unfold members
      split
      · rename_i quoted
        cases read : text quoted with
        | error raised => rfl
        | ok found =>
          obtain ⟨key, after⟩ := found
          have begun := consumes_text quoted key after read
          have blanks := @length_skip_le after
          rw [List.length_cons] at enough more
          dsimp only
          split
          · rename_i colon separated
            cases scanned : scan (skip colon) with
            | error raised => rfl
            | ok found =>
              obtain ⟨value, remaining⟩ := found
              have shorter := consumes _ value remaining scanned
              have gap := @length_skip_le colon
              have end' := @length_skip_le remaining
              rw [separated, List.length_cons] at blanks
              dsimp only
              split
              · rfl
              · rename_i next comma
                have last := @length_skip_le next
                rw [comma, List.length_cons] at end'
                exact ih (by omega) (by omega)
              · rfl
          · rfl
      · rfl

/-- A list takes characters. -/
theorem length_array (consumes : Consumes scan) {value : Value}
    (scanned : array scan chars = .ok (value, rest)) : rest.length < chars.length := by
  have blanks := @length_skip_le chars
  unfold array at scanned
  split at scanned
  · rename_i next ended
    obtain ⟨-, rfl⟩ := Prod.mk.inj (Except.ok.inj scanned)
    rw [ended, List.length_cons] at blanks
    omega
  · obtain ⟨values, found, -⟩ := map_eq_ok.mp scanned
    exact (consumes_items consumes _ _ _ found).trans_le blanks

/-- A dictionary takes characters. -/
theorem length_object (consumes : Consumes scan) {value : Value}
    (scanned : object scan chars = .ok (value, rest)) : rest.length < chars.length := by
  have blanks := @length_skip_le chars
  unfold object at scanned
  split at scanned
  · rename_i next ended
    obtain ⟨-, rfl⟩ := Prod.mk.inj (Except.ok.inj scanned)
    rw [ended, List.length_cons] at blanks
    omega
  · obtain ⟨entries, found, -⟩ := map_eq_ok.mp scanned
    exact (consumes_members consumes _ _ _ found).trans_le blanks

/-- A value takes characters. -/
theorem consumes_value (limit : Nat) : Consumes (value limit) := by
  induction limit with
  | zero =>
    intro chars result rest scanned
    unfold value at scanned
    split at scanned
    · obtain ⟨read, found, -⟩ := map_eq_ok.mp scanned
      exact (consumes_text _ _ _ found).trans (Nat.lt_succ_self _)
    · cases scanned
    · cases scanned
    · exact consumes_scalar _ _ _ scanned
  | succ limit ih =>
    intro chars result rest scanned
    unfold value at scanned
    split at scanned
    · obtain ⟨read, found, -⟩ := map_eq_ok.mp scanned
      exact (consumes_text _ _ _ found).trans (Nat.lt_succ_self _)
    · exact (length_array ih scanned).trans (Nat.lt_succ_self _)
    · exact (length_object ih scanned).trans (Nat.lt_succ_self _)
    · exact consumes_scalar _ _ _ scanned

/-- Reading a value raises a value error, or it nests too deep. -/
theorem raises_value (limit : Nat) : Raises (value limit) := by
  induction limit with
  | zero =>
    intro chars raised failed
    unfold value at failed
    split at failed
    · exact raises_text _ _ (map_eq_error.mp failed)
    · exact .inr (Except.error.inj failed).symm
    · exact .inr (Except.error.inj failed).symm
    · exact raises_scalar _ _ failed
  | succ limit ih =>
    intro chars raised failed
    unfold value at failed
    split at failed
    · exact raises_text _ _ (map_eq_error.mp failed)
    · unfold array at failed
      split at failed
      · cases failed
      · exact raises_items ih _ _ (map_eq_error.mp failed)
    · unfold object at failed
      split at failed
      · cases failed
      · exact raises_members ih _ _ (map_eq_error.mp failed)
    · exact raises_scalar _ _ failed

end Leaves

end Json

/-- Read a text. -/
def loads (limit : Nat) (text : String) : Except PyError Value :=
  match text.toList with
  | '\ufeff' :: _ => .error .valueError
  | chars =>
    match Json.value limit (Json.skip chars) with
    | .error raised => .error raised
    | .ok (value, after) => if (Json.skip after).isEmpty then .ok value else .error .valueError

/-- Reading a text raises a value error, or its value nests too deep. -/
theorem loads_error {limit : Nat} {text : String} {raised : PyError}
    (failed : loads limit text = .error raised) :
    raised = .valueError ∨ raised = .recursionError := by
  unfold loads at failed
  split at failed
  · exact .inl (Except.error.inj failed).symm
  · split at failed
    · rename_i other found
      obtain rfl := Except.error.inj failed
      exact Json.raises_value limit _ _ found
    · split at failed
      · cases failed
      · exact .inl (Except.error.inj failed).symm

end ProxSync.Lib
