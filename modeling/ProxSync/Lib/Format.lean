import ProxSync.Lib.Double
import ProxSync.Lib.Markup
import ProxSync.Lib.Value
/-!
# Numbers and texts of values

Values are converted to numbers, which raises where they stand for none, and numbers are written in
decimals. A formatted text is made of literals and of what is put into their holes; what is put
there may raise.
-/
namespace ProxSync.Lib

/-- The double nearest a number. -/
def PyFloat.round : PyFloat → PyFloat
  | .finite value => if value < 0 then (PyFloat.ofRounded (-value)).negate else .ofRounded value
  | value => value

/-- The floating point number of a value. -/
def Value.toFloat : Value → Except PyError PyFloat
  | .bool value => .ok (.finite (if value then 1 else 0))
  | .int value =>
    match (PyFloat.finite value).round with
    | .infinite _ => .error .overflowError
    | rounded => .ok rounded
  | .float value => .ok value
  | .str text =>
    match Lib.float text with
    | some value => .ok value
    | Option.none => .error .valueError
  | .none | .list _ | .dict _ => .error .typeError

/-- The integer that a number is cut to. -/
def PyFloat.truncate : PyFloat → Except PyError ℤ
  | .nan => .error .valueError
  | .infinite _ => .error .overflowError
  | .finite value => .ok (value.num.tdiv value.den)

/-- The integer of a value. -/
def Value.toInt : Value → Except PyError ℤ
  | .bool value => .ok (if value then 1 else 0)
  | .int value => .ok value
  | .float value => value.truncate
  | .str text =>
    match integer text with
    | .ok value => .ok value
    | .error _ => .error .valueError
  | .none | .list _ | .dict _ => .error .typeError

/-- Digits filled up with zeros in front. -/
def padded (width : Nat) (digits : List Char) : List Char :=
  List.replicate (width - digits.length) '0' ++ digits

/-- A sign in front of the digits of a negative number. -/
def signed (negative : Bool) (digits : List Char) : List Char :=
  if negative then '-' :: digits else digits

/-- An integer in decimals; there may not be too many of them. -/
def decimal (value : ℤ) : Except PyError String :=
  let digits := Nat.toDigits 10 value.natAbs
  if digits.length ≤ maxStrDigits then .ok (.ofList (signed (decide (value < 0)) digits))
  else .error .valueError

/-- A number with a fixed number of decimal places. -/
def fixed (places : Nat) : PyFloat → String
  | .nan => "nan"
  | .infinite negative => .ofList (signed negative ['i', 'n', 'f'])
  | .finite value =>
    let scaled := (roundHalfEven (|value| * 10 ^ places)).toNat
    let digits := padded (places + 1) (Nat.toDigits 10 scaled)
    let whole := digits.take (digits.length - places)
    let fraction := if places = 0 then [] else '.' :: digits.drop (digits.length - places)
    .ofList (signed (decide (value < 0)) (whole ++ fraction))

/-- A value as a text, given how numbers with a point, lists and dictionaries are written. -/
def Value.written (repr : Value → Except PyError String) : Value → Except PyError String
  | .none => .ok "None"
  | .bool value => .ok (if value then "True" else "False")
  | .int value => decimal value
  | .str text => .ok text
  | value => repr value

/-- A part of a formatted text. -/
inductive Piece
  | literal (text : String)
  | hole (fragment : Except PyError String)

/-- The text of a part. -/
def Piece.text : Piece → Except PyError String
  | .literal text => .ok text
  | .hole fragment => fragment

/-- A formatted text. -/
def fstring : List Piece → Except PyError String
  | [] => .ok ""
  | piece :: rest => do
    let first ← piece.text
    let others ← fstring rest
    .ok (first ++ others)

/-- A formatted text without what is in its holes. -/
def Piece.outline : Piece → Option String
  | .literal text => some text
  | .hole _ => none

/-- Texts with a separator between them. -/
def joined (separator : String) : List String → String
  | [] => ""
  | [text] => text
  | text :: rest => text ++ separator ++ joined separator rest

/-! ## The code points of numbers -/

variable {char : Char} {digits : List Char} {number : Nat}

/-- A digit marks nothing. -/
theorem marking_of_asciiDigit (digit : asciiDigit char = true) : marking char = false := by
  have bounds := asciiDigit_iff.mp digit
  unfold marking
  simp only [Bool.or_eq_false_iff, beq_eq_false_iff_ne]
  refine ⟨⟨?_, ?_⟩, ?_⟩ <;> rintro rfl <;> exact absurd bounds (by decide)

/-- The digits of a number mark nothing. -/
theorem plain_toDigits (inside : char ∈ Nat.toDigits 10 number) : marking char = false :=
  marking_of_asciiDigit (asciiDigit_of_mem_toDigits inside)

/-- Padding marks nothing. -/
theorem plain_padded {width : Nat} (plain : ∀ char ∈ digits, marking char = false)
    (inside : char ∈ padded width digits) : marking char = false := by
  rcases List.mem_append.mp inside with zero | digit
  · rw [List.eq_of_mem_replicate zero]
    rfl
  · exact plain char digit

/-- A sign marks nothing. -/
theorem plain_signed {negative : Bool} (plain : ∀ char ∈ digits, marking char = false)
    (inside : char ∈ signed negative digits) : marking char = false := by
  unfold signed at inside
  split at inside
  · rcases List.mem_cons.mp inside with rfl | digit
    · rfl
    · exact plain char digit
  · exact plain char inside

/-- An integer is written without markup. -/
theorem plain_decimal {value : ℤ} {text : String} (written : decimal value = .ok text) :
    ∀ char ∈ text.toList, marking char = false := by
  intro char inside
  simp only [decimal] at written
  split at written
  · rw [← Except.ok.inj written, String.toList_ofList] at inside
    exact plain_signed (fun _ => plain_toDigits) inside
  · cases written

/-- A number is written without markup. -/
theorem plain_fixed (places : Nat) (value : PyFloat) :
    ∀ char ∈ (fixed places value).toList, marking char = false := by
  intro char inside
  unfold fixed at inside
  cases value with
  | nan =>
    have plain : ∀ char ∈ "nan".toList, marking char = false := by simp [marking]
    exact plain char inside
  | infinite negative =>
    rw [String.toList_ofList] at inside
    exact plain_signed (by simp [marking]) inside
  | finite value =>
    rw [String.toList_ofList] at inside
    apply plain_signed _ inside
    intro char inside
    have digit : ∀ char ∈ padded (places + 1)
        (Nat.toDigits 10 (roundHalfEven (|value| * 10 ^ places)).toNat), marking char = false :=
      fun _ => plain_padded fun _ => plain_toDigits
    rcases List.mem_append.mp inside with whole | fraction
    · exact digit char (List.mem_of_mem_take whole)
    · split at fraction
      · cases fraction
      · rcases List.mem_cons.mp fraction with rfl | later
        · rfl
        · exact digit char (List.mem_of_mem_drop later)

/-! ## Formatted texts with markup -/

/-- Scan the literals of a text whose holes are all between tags. -/
def outlined (grammar : Grammar) (scan : Scan) : List (Option String) → Option Scan
  | [] => some scan
  | some text :: rest => outlined grammar (scan.scanFrom grammar text) rest
  | none :: rest => if scan.mode = .text then outlined grammar scan rest else none

variable {grammar : Grammar} {scan after : Scan} {pieces : List Piece} {text : String}
variable {tags : List String}

/-- Whatever a computation answers is marked up with the tags. -/
def Marked (grammar : Grammar) (part : Except PyError String) (tags : List String) : Prop :=
  ∀ text, part = .ok text → Marks grammar text tags

/-- What follows on any answer is marked up. -/
theorem Marked.andThen {α : Type} {first : Except PyError α} {next : α → Except PyError String}
    (later : ∀ value, Marked grammar (next value) tags) : Marked grammar (first >>= next) tags := by
  intro text answered
  obtain ⟨value, -, answered⟩ := bind_eq_ok.mp answered
  exact later value text answered

/-- What is put into a hole adds no tag. -/
def Piece.Tame (grammar : Grammar) : Piece → Prop
  | .literal _ => True
  | .hole fragment => Marked grammar fragment []

/-- Tame holes do not change the scan of the literals. -/
theorem scanFrom_fstring (tame : ∀ piece ∈ pieces, piece.Tame grammar)
    (outline : outlined grammar scan (pieces.map Piece.outline) = some after)
    (written : fstring pieces = .ok text) : scan.scanFrom grammar text = after := by
  induction pieces generalizing scan text with
  | nil =>
    cases written
    exact Option.some.inj outline
  | cons piece rest ih =>
    obtain ⟨first, here, written⟩ := bind_eq_ok.mp written
    obtain ⟨others, later, written⟩ := bind_eq_ok.mp written
    obtain rfl := Except.ok.inj written
    have remaining := fun piece inside => tame piece (List.mem_cons_of_mem _ inside)
    rw [Scan.scanFrom_append]
    cases piece with
    | literal literal =>
      obtain rfl := Except.ok.inj here
      exact ih remaining outline later
    | hole fragment =>
      have marks : Marks grammar first [] := tame _ List.mem_cons_self first here
      simp only [List.map_cons, Piece.outline, outlined] at outline
      split at outline
      · rename_i between
        have same : scan.scanFrom grammar first = scan := by
          rw [marks.scanFrom between, List.append_nil, ← between]
        rw [same]
        exact ih remaining outline later
      · cases outline

/-- A formatted text has the tags of its literals when its holes are tame. -/
theorem marked_fstring (tame : ∀ piece ∈ pieces, piece.Tame grammar)
    (outline : outlined grammar .start (pieces.map Piece.outline) = some ⟨.text, [], tags⟩) :
    Marked grammar (fstring pieces) tags :=
  fun _ => scanFrom_fstring tame outline

/-- A part that adds no tag: a plain literal, or a tame hole. -/
def Piece.Plain (grammar : Grammar) : Piece → Prop
  | .literal text => ∀ char ∈ text.toList, marking char = false
  | .hole fragment => Marked grammar fragment []

/-- A formatted text of parts that add no tag has none. -/
theorem marked_plain_fstring (plain : ∀ piece ∈ pieces, piece.Plain grammar) :
    Marked grammar (fstring pieces) [] := by
  intro text written
  induction pieces generalizing text with
  | nil =>
    cases written
    exact marks_empty
  | cons piece rest ih =>
    obtain ⟨first, here, written⟩ := bind_eq_ok.mp written
    obtain ⟨others, later, written⟩ := bind_eq_ok.mp written
    obtain rfl := Except.ok.inj written
    have marks : Marks grammar first [] := by
      have one := plain piece List.mem_cons_self
      cases piece with
      | literal literal =>
        obtain rfl := Except.ok.inj here
        exact marks_plain one
      | hole fragment => exact one first here
    have remaining := fun other inside => plain other (List.mem_cons_of_mem _ inside)
    exact marks.append (ih remaining _ later)

/-- A computation that answers plain texts adds no tag. -/
theorem marked_of_plain {part : Except PyError String}
    (plain : ∀ text, part = .ok text → ∀ char ∈ text.toList, marking char = false) :
    Marked grammar part [] :=
  fun text answered => marks_plain (plain text answered)

/-- Texts with a plain separator between them have the tags of the texts. -/
theorem marks_joined {separator : String} {texts : List String} {parts : List (List String)}
    (plain : ∀ char ∈ separator.toList, marking char = false)
    (marks : List.Forall₂ (Marks grammar) texts parts) :
    Marks grammar (joined separator texts) parts.flatten := by
  induction marks with
  | nil => rfl
  | @cons text tags rest others here later ih =>
    cases later with
    | nil => simpa [joined] using here
    | cons =>
      have apart := (here.append (marks_plain plain)).append ih
      rwa [List.append_nil] at apart

end ProxSync.Lib
