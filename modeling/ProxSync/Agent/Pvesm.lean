import ProxSync.Lib.Lines
import ProxSync.Lib.Numeral
/-!
# The table of storages

The host prints its storages as a table with a header, one line for each storage, with sizes in
units of 1024 bytes. The reader drops blank lines, lines that begin like the header and lines whose
sizes are no integers, so a storage whose id begins like the header is not there.
-/
open ProxSync.Lib

namespace ProxSync.Agent

/-- What is known of a storage. -/
structure StorageStatus where
  name : String
  type : String
  active : Bool
  totalBytes : ℤ
  usedBytes : ℤ
  availableBytes : ℤ
  deriving DecidableEq, Repr

/-- The unit of the sizes. -/
def kib : ℤ := 1024

/-- The header begins with the name of its first column. -/
def headerStart : List Char := "Name".toList

/-- The storage of the first six columns, if its sizes are integers. -/
def readColumns : List (List Char) → Option StorageStatus
  | name :: type :: status :: total :: used :: available :: _ => do
    let totalKib ← (integer (.ofList total)).toOption
    let usedKib ← (integer (.ofList used)).toOption
    let availableKib ← (integer (.ofList available)).toOption
    some ⟨.ofList name, .ofList type, status == "active".toList, totalKib * kib, usedKib * kib,
      availableKib * kib⟩
  | _ => none

/-- The storage of a line, unless the line is dropped. -/
def parseStatusLine (raw : List Char) : Option StorageStatus :=
  let line := trim isSpace raw
  if line.isEmpty || headerStart.isPrefixOf line then none else readColumns (wordsOf line)

/-- The storages of a table. -/
def parseStatus (output : String) : List StorageStatus :=
  (splitlines output.toList).filterMap parseStatusLine

/-! ## The table that is printed -/

/-- Whether a character is an ASCII letter. -/
def isLetter (char : Char) : Bool := ('a' ≤ char && char ≤ 'z') || ('A' ≤ char && char ≤ 'Z')

/-- A letter followed by letters, digits, dashes, underscores and dots. -/
def isStorageId : List Char → Bool
  | [] => false
  | first :: rest => isLetter first &&
      rest.all fun char => isLetter char || asciiDigit char || char ∈ ['-', '_', '.']

/-- A storage as the host prints it, with its sizes in units of 1024 bytes. -/
structure StorageRow where
  id : List Char
  legal : isStorageId id = true
  type : Word
  state : Word
  total : Nat
  used : Nat
  available : Nat
  percent : Word

/-- The widths of the columns. -/
structure Widths where
  name : Nat
  type : Nat
  state : Nat
  size : Nat
  percent : Nat

/-- The code points of words in ASCII are no blanks. -/
theorem isSpace_of_graph {char : Char} (low : 33 ≤ char.toNat) (high : char.toNat < 127) :
    isSpace char = false := by
  unfold isSpace
  simp only [Bool.or_eq_false_iff, Bool.and_eq_false_imp, decide_eq_true_eq,
    decide_eq_false_iff_not, beq_eq_false_iff_ne]
  omega

/-- A letter is a printed character. -/
theorem graph_of_isLetter {char : Char} (letter : isLetter char = true) :
    33 ≤ char.toNat ∧ char.toNat < 127 := by
  unfold isLetter at letter
  simp only [Char.le_def, UInt32.le_iff_toNat_le, Bool.or_eq_true, Bool.and_eq_true,
    decide_eq_true_eq] at letter
  change (97 ≤ char.toNat ∧ char.toNat ≤ 122) ∨ (65 ≤ char.toNat ∧ char.toNat ≤ 90) at letter
  omega

/-- A digit is no blank. -/
theorem isSpace_of_digit {char : Char} (digit : asciiDigit char = true) : isSpace char = false := by
  have bounds := asciiDigit_iff.mp digit
  exact isSpace_of_graph (by omega) (by omega)

/-- The name of a storage has no blanks. -/
theorem isSpace_of_isStorageId {id : List Char} (legal : isStorageId id = true) :
    ∀ char ∈ id, isSpace char = false := by
  have letters : ∀ char, isLetter char = true → isSpace char = false := by
    intro char letter
    obtain ⟨low, high⟩ := graph_of_isLetter letter
    exact isSpace_of_graph low high
  cases id with
  | nil => cases legal
  | cons first rest =>
    simp only [isStorageId, Bool.and_eq_true, List.all_eq_true, Bool.or_eq_true,
      decide_eq_true_eq] at legal
    rw [List.forall_mem_cons]
    refine ⟨letters first legal.1, fun char inside => ?_⟩
    rcases legal.2 char inside with (letter | digit) | mark
    · exact letters char letter
    · exact isSpace_of_digit digit
    · simp only [List.mem_cons, List.not_mem_nil, or_false] at mark
      rcases mark with rfl | rfl | rfl <;> rfl

/-- The word of an id. -/
def StorageRow.name (row : StorageRow) : Word where
  chars := row.id
  nonempty := by
    intro none
    have legal := row.legal
    rw [none] at legal
    cases legal
  solid := isSpace_of_isStorageId row.legal

/-- The word of a number. -/
def number (value : Nat) : Word where
  chars := Nat.toDigits 10 value
  nonempty := Nat.toDigits_ne_nil
  solid _ inside := isSpace_of_digit (asciiDigit_of_mem_toDigits inside)

/-- The line of a storage. -/
def StorageRow.line (widths : Widths) (row : StorageRow) : List Char :=
  tableLine (widths.name, row.name) [(widths.type, row.type), (widths.state, row.state),
    (widths.size, number row.total), (widths.size, number row.used),
    (widths.size, number row.available), (widths.percent, row.percent)]

/-- A title of a column. -/
def title (text : String) (nonempty : text.toList ≠ [])
    (solid : text.toList.all (!isSpace ·) = true) : Word where
  chars := text.toList
  nonempty := nonempty
  solid := by simpa using solid

/-- The header. -/
def header (widths : Widths) : List Char :=
  tableLine (widths.name, title "Name" (by decide) (by decide))
    [(widths.type, title "Type" (by decide) (by decide)),
      (widths.state, title "Status" (by decide) (by decide)),
      (widths.size, title "Total" (by decide) (by decide)),
      (widths.size, title "Used" (by decide) (by decide)),
      (widths.size, title "Available" (by decide) (by decide)),
      (widths.percent, title "%" (by decide) (by decide))]

/-- The table of storages. -/
def printStatus (widths : Widths) (rows : List StorageRow) : String :=
  .ofList ((header widths :: rows.map (StorageRow.line widths)).flatMap fun line => line ++ ['\n'])

/-- What a row says of its storage. -/
def StorageRow.status (row : StorageRow) : StorageStatus where
  name := .ofList row.id
  type := .ofList row.type.chars
  active := row.state.chars == "active".toList
  totalBytes := row.total * kib
  usedBytes := row.used * kib
  availableBytes := row.available * kib

/-! ## What is read of the table -/

/-- A storage that is read: its id does not begin like the header, and each of its sizes has few
enough digits to be an integer. -/
structure Readable (row : StorageRow) : Prop where
  distinct : ¬ headerStart <+: row.id
  total : (Nat.toDigits 10 row.total).length ≤ maxStrDigits
  used : (Nat.toDigits 10 row.used).length ≤ maxStrDigits
  available : (Nat.toDigits 10 row.available).length ≤ maxStrDigits

variable {widths : Widths} {row : StorageRow} {rows : List StorageRow}

/-- The start of the header has no blanks. -/
theorem solid_headerStart : ∀ char ∈ headerStart, isSpace char = false := by
  simp [headerStart, isSpace]

/-- A line of a table is read by its words unless it begins like the header. -/
theorem parseStatusLine_tableLine {first : Nat × Word} {cells : List (Nat × Word)}
    (some : cells ≠ []) : parseStatusLine (tableLine first cells) =
      if headerStart <+: first.2.chars then none
      else readColumns (first.2.chars :: cells.map fun cell => cell.2.chars) := by
  have visible : (tableLine first cells).isEmpty = false := by
    rw [List.isEmpty_eq_false_iff]
    intro empty
    have begins := List.append_eq_nil_iff.mp empty
    exact first.2.nonempty (List.append_eq_nil_iff.mp begins.1).1
  have line : trim isSpace (tableLine first cells) = tableLine first cells :=
    trim_of_trimmed (trimmed_tableLine some)
  unfold parseStatusLine
  simp only [line, visible, Bool.false_or, List.isPrefixOf_iff_prefix, wordsOf_tableLine,
    prefix_tableLine_iff solid_headerStart]

/-- The header is dropped. -/
theorem parseStatusLine_header : parseStatusLine (header widths) = none := by
  unfold header
  rw [parseStatusLine_tableLine (by simp)]
  exact if_pos (List.prefix_refl _)

/-- A number that is printed is read unless it has too many digits. -/
theorem toOption_number (value : Nat) : (integer (.ofList (number value).chars)).toOption =
    if (Nat.toDigits 10 value).length ≤ maxStrDigits then some (value : ℤ) else none := by
  have text : String.ofList (number value).chars = toString value := by
    rw [← String.toList_inj, String.toList_ofList]
    exact Nat.toList_repr.symm
  rw [text]
  exact toOption_integer_toString value

/-- The line of a storage is read as the storage if it is readable, and dropped if it is not. -/
theorem parseStatusLine_line (row : StorageRow) :
    (Readable row → parseStatusLine (row.line widths) = some row.status) ∧
      (¬ Readable row → parseStatusLine (row.line widths) = none) := by
  have read : parseStatusLine (row.line widths) =
      if headerStart <+: row.id then none
      else readColumns [row.id, row.type.chars, row.state.chars, (number row.total).chars,
        (number row.used).chars, (number row.available).chars, row.percent.chars] :=
    parseStatusLine_tableLine (by simp)
  rw [read]
  unfold readColumns
  simp only [toOption_number]
  constructor
  · intro readable
    rw [if_neg readable.distinct, if_pos readable.total, if_pos readable.used,
      if_pos readable.available]
    rfl
  · intro unreadable
    by_cases distinct : headerStart <+: row.id
    · exact if_pos distinct
    · rw [if_neg distinct]
      by_cases total : (Nat.toDigits 10 row.total).length ≤ maxStrDigits
      · by_cases used : (Nat.toDigits 10 row.used).length ≤ maxStrDigits
        · by_cases available : (Nat.toDigits 10 row.available).length ≤ maxStrDigits
          · exact absurd ⟨distinct, total, used, available⟩ unreadable
          · simp [total, used, available]
        · simp [total, used]
      · simp [total]

/-- The storages that are read of a table are the readable ones. -/
theorem parseStatus_printStatus : parseStatus (printStatus widths rows) =
    rows.filterMap fun row => parseStatusLine (row.line widths) := by
  unfold parseStatus printStatus
  rw [String.toList_ofList, splitlines_flatMap, List.filterMap_cons, parseStatusLine_header,
    List.filterMap_map]
  · rfl
  · intro line inside char held
    rcases List.mem_cons.mp inside with rfl | row
    · exact endsLine_tableLine held
    · obtain ⟨row, -, rfl⟩ := List.mem_map.mp row
      exact endsLine_tableLine held

/-- Storages that are printed are read back, in order, exactly when each of them is readable. -/
theorem parseStatus_eq_iff (widths : Widths) (rows : List StorageRow) :
    parseStatus (printStatus widths rows) = rows.map StorageRow.status ↔
      ∀ row ∈ rows, Readable row := by
  rw [parseStatus_printStatus]
  constructor
  · intro same row inside
    by_contra unreadable
    have shorter : (rows.filterMap fun row => parseStatusLine (row.line widths)).length <
        rows.length :=
      List.length_filterMap_lt_length_iff_exists.mpr
        ⟨row, inside, (parseStatusLine_line row).2 unreadable⟩
    rw [same, List.length_map] at shorter
    exact absurd shorter (lt_irrefl _)
  · intro readable
    have found : ∀ row ∈ rows, parseStatusLine (row.line widths) = some row.status :=
      fun row inside => (parseStatusLine_line row).1 (readable row inside)
    rw [List.filterMap_congr found, List.filterMap_eq_map']

/-- An active storage with an id that begins like the header. -/
def namedRow : StorageRow where
  id := "NameNAS".toList
  legal := by decide
  type := title "nfs" (by decide) (by decide)
  state := title "active" (by decide) (by decide)
  total := 488384352
  used := 312516608
  available := 151011744
  percent := title "64.00%" (by decide) (by decide)

/-- It is not there when the table is read. -/
theorem not_parsed_back :
    parseStatus (printStatus ⟨8, 10, 10, 15, 8⟩ [namedRow]) ≠ [namedRow.status] := by
  decide +kernel

end ProxSync.Agent
