import ProxSync.Lib.Json
/-!
# Strict JSON texts

A text is scanned from left to right by a machine that remembers the containers that are open and
how far it is in a word, a number or a text; a code point that cannot follow breaks the scan, for
good. A text is JSON when the scan ends after one value with nothing open. A store may ask for more
than the grammar: that the code units of every text are code points other than null.
-/
namespace ProxSync.Lib

namespace JsonText

open Json

/-- What a store asks of the code units of a text: nothing, or that they are code points. -/
inductive Dialect
  | anyUnits
  | codePoints
  deriving DecidableEq, Repr

/-- The parts of a number. -/
inductive Part
  | minus
  | zero
  | whole
  | point
  | fraction
  | exponent
  | exponentSign
  | power
  deriving DecidableEq, Repr

/-- Whether a number may end with a part. -/
def Part.complete : Part → Bool
  | .zero | .whole | .fraction | .power => true
  | .minus | .point | .exponent | .exponentSign => false

/-- The part of a numeral that a first digit begins. -/
def zeroOrDigit (char : Char) : Option Part :=
  if char = '0' then some .zero else if asciiDigit char then some .whole else none

/-- The part of a numeral that an exponent's mark begins. -/
def exponentMark (char : Char) : Option Part :=
  if char = 'e' ∨ char = 'E' then some .exponent else none

/-- The part of a number a code point leads to, if it goes on with it. -/
def Part.next (char : Char) : Part → Option Part
  | .minus => zeroOrDigit char
  | .zero => if char = '.' then some .point else exponentMark char
  | .whole =>
    if asciiDigit char then some .whole
    else if char = '.' then some .point else exponentMark char
  | .point => if asciiDigit char then some .fraction else none
  | .fraction => if asciiDigit char then some .fraction else exponentMark char
  | .exponent =>
    if char = '+' ∨ char = '-' then some .exponentSign
    else if asciiDigit char then some .power else none
  | .exponentSign | .power => if asciiDigit char then some .power else none

/-- Where in a text a scan is; of an escaped code unit some digits are still to come. -/
inductive Place
  | plain
  | escape
  | hex (left value : ℕ)
  deriving DecidableEq, Repr

/-- Where a scan is. -/
inductive Mode
  | value
  /-- A list has been opened. -/
  | first
  /-- A dictionary has been opened. -/
  | firstKey
  | key
  | colon
  | after
  | word (rest : List Char)
  | number (part : Part)
  /-- Inside a text, which may be a key; the first half of a code point may wait for the second. -/
  | text (isKey : Bool) (place : Place) (waiting : Bool)
  | broken
  deriving DecidableEq, Repr

/-- The containers that may be open. -/
inductive Container
  | array
  | object
  deriving DecidableEq, Repr

/-- A scan: where it is, and the containers that are open, innermost first. -/
structure Scan where
  mode : Mode
  stack : List Container
  deriving DecidableEq, Repr

/-- Whether half of a code point waits after a code unit, if the unit may follow. -/
def unit (dialect : Dialect) (waiting : Bool) (value : ℕ) : Option Bool :=
  match dialect with
  | .anyUnits => some false
  | .codePoints =>
    if value = 0 then none
    else if isHigh value then if waiting then none else some true
    else if isLow value then if waiting then some false else none
    else if waiting then none else some false

section Step

variable (dialect : Dialect) (stack : List Container)

/-- A value begins, or the scan stays where it is at a blank. -/
def begins (mode : Mode) (char : Char) : Scan :=
  if Json.blank char then ⟨mode, stack⟩
  else if char = '"' then ⟨.text false .plain false, stack⟩
  else if char = '{' then ⟨.firstKey, .object :: stack⟩
  else if char = '[' then ⟨.first, .array :: stack⟩
  else if char = 't' then ⟨.word ['r', 'u', 'e'], stack⟩
  else if char = 'f' then ⟨.word ['a', 'l', 's', 'e'], stack⟩
  else if char = 'n' then ⟨.word ['u', 'l', 'l'], stack⟩
  else if char = '-' then ⟨.number .minus, stack⟩
  else
    match zeroOrDigit char with
    | some part => ⟨.number part, stack⟩
    | none => ⟨.broken, stack⟩

/-- A key begins, or the scan stays where it is at a blank. -/
def beginsKey (mode : Mode) (char : Char) : Scan :=
  if Json.blank char then ⟨mode, stack⟩
  else if char = '"' then ⟨.text true .plain false, stack⟩
  else ⟨.broken, stack⟩

/-- What follows a value. -/
def follows (char : Char) : Scan :=
  if Json.blank char then ⟨.after, stack⟩
  else
    match stack with
    | .array :: outer =>
      if char = ',' then ⟨.value, stack⟩
      else if char = ']' then ⟨.after, outer⟩ else ⟨.broken, stack⟩
    | .object :: outer =>
      if char = ',' then ⟨.key, stack⟩
      else if char = '}' then ⟨.after, outer⟩ else ⟨.broken, stack⟩
    | [] => ⟨.broken, stack⟩

/-- Go on inside a text, if what was met may stand there. -/
def resume (isKey : Bool) : Option Bool → Scan
  | some waiting => ⟨.text isKey .plain waiting, stack⟩
  | none => ⟨.broken, stack⟩

/-- A code unit of a text. -/
def inside (isKey waiting : Bool) (value : ℕ) : Scan :=
  resume stack isKey (unit dialect waiting value)

/-- A code point inside a text. -/
def withinText (isKey waiting : Bool) (char : Char) : Place → Scan
  | .plain =>
    if char = '"' then
      if waiting then ⟨.broken, stack⟩ else ⟨if isKey then .colon else .after, stack⟩
    else if char = '\\' then ⟨.text isKey .escape waiting, stack⟩
    else if char.toNat < 32 then ⟨.broken, stack⟩
    else inside dialect stack isKey waiting char.toNat
  | .escape =>
    if char = 'u' then ⟨.text isKey (.hex 4 0) waiting, stack⟩
    else
      match escaped char with
      | some value => inside dialect stack isKey waiting value
      | none => ⟨.broken, stack⟩
  | .hex left value =>
    match hexValue char with
    | none => ⟨.broken, stack⟩
    | some digit =>
      if left ≤ 1 then inside dialect stack isKey waiting (value * 16 + digit)
      else ⟨.text isKey (.hex (left - 1) (value * 16 + digit)) waiting, stack⟩

/-- Scan a code point. -/
def step (scan : Scan) (char : Char) : Scan :=
  match scan.mode with
  | .value => begins scan.stack .value char
  | .first => if char = ']' then follows scan.stack char else begins scan.stack .first char
  | .firstKey => if char = '}' then follows scan.stack char else beginsKey scan.stack .firstKey char
  | .key => beginsKey scan.stack .key char
  | .colon =>
    if Json.blank char then scan
    else if char = ':' then ⟨.value, scan.stack⟩ else ⟨.broken, scan.stack⟩
  | .after => follows scan.stack char
  | .word rest =>
    if rest.head? = some char then
      ⟨if rest.tail = [] then .after else .word rest.tail, scan.stack⟩
    else ⟨.broken, scan.stack⟩
  | .number part =>
    match part.next char with
    | some part => ⟨.number part, scan.stack⟩
    | none => if part.complete then follows scan.stack char else ⟨.broken, scan.stack⟩
  | .text isKey place waiting => withinText dialect scan.stack isKey waiting char place
  | .broken => scan

end Step

/-- Whether a value is complete. -/
def Mode.complete : Mode → Bool
  | .after => true
  | .number part => part.complete
  | _ => false

/-- Whether a store accepts a text. -/
def accepts (dialect : Dialect) (text : List Char) : Bool :=
  let scan := text.foldl (step dialect) ⟨.value, []⟩
  scan.mode.complete && scan.stack.isEmpty

variable {dialect : Dialect} {scan : Scan} {stack : List Container} {char : Char}
variable {chars : List Char}

/-- What is broken stays so. -/
theorem step_broken (broken : scan.mode = .broken) : step dialect scan char = scan := by
  simp [step, broken]

/-- A broken scan stays broken. -/
theorem foldl_broken (broken : scan.mode = .broken) : chars.foldl (step dialect) scan = scan := by
  induction chars with
  | nil => rfl
  | cons char rest ih => rw [List.foldl_cons, step_broken broken, ih]

/-- A numeral goes on. -/
theorem step_number {part next : Part} (goes : part.next char = some next) :
    step dialect ⟨.number part, stack⟩ char = ⟨.number next, stack⟩ := by
  simp [step, goes]

/-- A digit begins a value as it goes on with a number after its sign. -/
theorem step_value_digit (digit : asciiDigit char = true) :
    step dialect ⟨.value, stack⟩ char = step dialect ⟨.number .minus, stack⟩ char := by
  have least := (asciiDigit_iff.mp digit).1
  have most := (asciiDigit_iff.mp digit).2
  have apart : ∀ other : Char, other.toNat < 48 ∨ 57 < other.toNat → char ≠ other := by
    rintro other outside rfl
    omega
  have solid : Json.blank char = false := by
    simp [Json.blank, apart]
  by_cases zero : char = '0'
  · subst zero
    rfl
  · simp [step, begins, solid, Part.next, zeroOrDigit, zero, digit, apart]

/-- A value begins a list as it begins elsewhere, unless it is a blank or closes the list. -/
theorem step_first (solid : Json.blank char = false) (open_ : char ≠ ']') :
    step dialect ⟨.first, stack⟩ char = step dialect ⟨.value, stack⟩ char := by
  simp [step, begins, solid, open_]

/-- A value is complete. -/
def Complete (scan : Scan) (stack : List Container) : Prop :=
  scan.mode.complete = true ∧ scan.stack = stack

/-- A code point that separates or closes follows a complete value. -/
theorem Complete.step (complete : Complete scan stack)
    (separates : char = ',' ∨ char = ']' ∨ char = '\x7d') :
    step dialect scan char = follows stack char := by
  have ends (part : Part) : part.next char = none := by
    rcases separates with rfl | rfl | rfl <;> cases part <;> rfl
  obtain ⟨mode, outer⟩ := scan
  obtain ⟨done, rfl⟩ := complete
  cases mode with
  | after => rfl
  | number part =>
    have done : part.complete = true := done
    simp [JsonText.step, ends part, done]
  | _ => simp [Mode.complete] at done

/-- What a store makes of the text of a value: it is read completely, or it breaks the scan. -/
structure Reads (dialect : Dialect) (stack : List Container) (chars : List Char) (good : Bool) :
    Prop where
  starts : ∃ head rest, chars = head :: rest ∧ Json.blank head = false ∧ head ≠ ']'
  reads : if good then Complete (chars.foldl (JsonText.step dialect) ⟨.value, stack⟩) stack
    else (chars.foldl (JsonText.step dialect) ⟨.value, stack⟩).mode = .broken

/-- A text that is read is complete. -/
theorem Reads.complete (read : Reads dialect stack chars true) :
    Complete (chars.foldl (JsonText.step dialect) ⟨.value, stack⟩) stack := read.reads

/-- A text that is not read breaks. -/
theorem Reads.breaks (read : Reads dialect stack chars false) :
    (chars.foldl (JsonText.step dialect) ⟨.value, stack⟩).mode = .broken := read.reads

/-! ## Stores that ask for more -/

/-- The scan without the half of a code point that waits. -/
def Scan.forget (scan : Scan) : Scan :=
  match scan.mode with
  | .text isKey place _ => ⟨.text isKey place false, scan.stack⟩
  | _ => scan

/-- Where code points are accepted, code units are. -/
theorem inside_forget {isKey waiting : Bool} {value : ℕ}
    (sound : (inside .codePoints stack isKey waiting value).mode ≠ .broken) :
    inside .anyUnits stack isKey false value =
      (inside .codePoints stack isKey waiting value).forget := by
  unfold inside at sound ⊢
  cases found : unit .codePoints waiting value with
  | none => simp [found, resume] at sound
  | some later => rfl

/-- A code point of a text that one store lets through is let through by the other. -/
theorem withinText_forget {isKey waiting : Bool} {place : Place}
    (sound : (withinText .codePoints stack isKey waiting char place).mode ≠ .broken) :
    withinText .anyUnits stack isKey false char place =
      (withinText .codePoints stack isKey waiting char place).forget := by
  cases place with
  | plain =>
    simp only [withinText] at sound ⊢
    split_ifs at sound ⊢ <;> first | exact inside_forget sound | simp_all [Scan.forget]
  | escape =>
    simp only [withinText] at sound ⊢
    split_ifs at sound ⊢
    · rfl
    · cases found : escaped char with
      | none => simp [found] at sound
      | some value =>
        simp only [found] at sound ⊢
        exact inside_forget sound
  | hex left value =>
    simp only [withinText] at sound ⊢
    cases found : hexValue char with
    | none => simp [found] at sound
    | some digit =>
      simp only [found] at sound ⊢
      split_ifs at sound ⊢
      · exact inside_forget sound
      · rfl

/-- A value that begins has no half waiting. -/
theorem forget_begins {mode : Mode} (still : (⟨mode, stack⟩ : Scan).forget = ⟨mode, stack⟩) :
    (begins stack mode char).forget = begins stack mode char := by
  unfold begins
  split_ifs <;> first | exact still | rfl | (split <;> rfl)

/-- What follows a value depends on no surrogate. -/
theorem forget_follows : (follows stack char).forget = follows stack char := by
  unfold follows
  rcases stack with _ | ⟨container, outer⟩
  · split_ifs <;> rfl
  · cases container <;> (simp only; split_ifs <;> rfl)

/-- A code point that does not break the scan of one store has the same effect on the other. -/
theorem step_forget (sound : (step .codePoints scan char).mode ≠ .broken) :
    step .anyUnits scan.forget char = (step .codePoints scan char).forget := by
  obtain ⟨mode, stack⟩ := scan
  cases mode with
  | value => exact (forget_begins rfl).symm
  | first =>
    show step .anyUnits ⟨.first, stack⟩ char = _
    simp only [step]
    split_ifs
    · exact forget_follows.symm
    · exact (forget_begins rfl).symm
  | firstKey =>
    show step .anyUnits ⟨.firstKey, stack⟩ char = _
    simp only [step, beginsKey]
    split_ifs
    · exact forget_follows.symm
    all_goals rfl
  | key =>
    show step .anyUnits ⟨.key, stack⟩ char = _
    simp only [step, beginsKey]
    split_ifs <;> rfl
  | colon =>
    show step .anyUnits ⟨.colon, stack⟩ char = _
    simp only [step]
    split_ifs <;> rfl
  | after => exact forget_follows.symm
  | word rest =>
    show step .anyUnits ⟨.word rest, stack⟩ char = _
    simp only [step]
    split_ifs <;> rfl
  | number part =>
    show step .anyUnits ⟨.number part, stack⟩ char = _
    simp only [step]
    split
    · rfl
    · split_ifs
      · exact forget_follows.symm
      · rfl
  | text isKey place waiting => exact withinText_forget sound
  | broken => rfl

/-- What a store that asks for code points accepts, every store accepts. -/
theorem accepts_anyUnits {text : List Char} (accepted : accepts .codePoints text = true) :
    accepts .anyUnits text = true := by
  have same : ∀ (chars : List Char) (scan : Scan),
      (chars.foldl (step .codePoints) scan).mode ≠ .broken →
      chars.foldl (step .anyUnits) scan.forget = (chars.foldl (step .codePoints) scan).forget := by
    intro chars
    induction chars with
    | nil => exact fun _ _ => rfl
    | cons char rest ih =>
      intro scan sound
      rw [List.foldl_cons] at sound ⊢
      have here : (step .codePoints scan char).mode ≠ .broken := by
        intro broken
        rw [foldl_broken broken] at sound
        exact sound broken
      rw [step_forget here]
      exact ih _ sound
  unfold accepts at accepted ⊢
  simp only [Bool.and_eq_true] at accepted ⊢
  have sound : (text.foldl (step .codePoints) ⟨.value, []⟩).mode ≠ .broken := by
    intro broken
    rw [broken] at accepted
    exact absurd accepted.1 (by simp [Mode.complete])
  have started : text.foldl (step .anyUnits) ⟨.value, []⟩ = _ := same text ⟨.value, []⟩ sound
  rw [started]
  generalize text.foldl (step .codePoints) ⟨.value, []⟩ = final at accepted
  obtain ⟨mode, stack⟩ := final
  cases mode with
  | text isKey place waiting => simp [Mode.complete] at accepted
  | _ => exact accepted

end JsonText

end ProxSync.Lib
