import Mathlib.Data.List.Basic
/-!
# Comma-separated values

Rows of fields are written with commas between the fields and a line feed behind each row. A field
that holds a comma, a quote or the end of a line is written between quotes, with each quote in it
doubled, and so is an empty field that is the only one of its row. A reader goes through the
characters of a line and is told where each line ends. What is written is read back as it was,
whatever the fields hold.
-/
namespace ProxSync.Lib.Csv

/-! ## Writing -/

/-- Whether a character puts its field between quotes. -/
def special (char : Char) : Bool := char == ',' || char == '"' || char == '\n' || char == '\r'

/-- A character between quotes. -/
def doubled (char : Char) : List Char := if char = '"' then ['"', '"'] else [char]

/-- A field between quotes. -/
def quoted (field : List Char) : List Char := '"' :: (field.flatMap doubled ++ ['"'])

/-- A field as it is written. -/
def writeField (field : List Char) : List Char := if field.any special then quoted field else field

/-- The fields of a row with commas between them. -/
def writeFields : List (List Char) → List Char
  | [] => []
  | [last] => writeField last
  | field :: rest => writeField field ++ ',' :: writeFields rest

/-- A row as it is written. -/
def writeRow (fields : List (List Char)) : List Char :=
  (if fields = [[]] then quoted [] else writeFields fields) ++ ['\n']

/-! ## Reading -/

/-- Where a reader is. -/
inductive Place
  | startRecord
  | startField
  | inField
  | inQuotedField
  | quoteInQuotedField
  | eatNewline
  deriving DecidableEq, Repr

/-- A reader with the field it reads, the fields before it, and the rows before them. -/
structure Reader where
  place : Place
  field : List Char
  fields : List (List Char)
  rows : List (List (List Char))
  deriving DecidableEq, Repr

namespace Reader

/-- A reader between two rows. -/
def idle (rows : List (List (List Char))) : Reader := ⟨.startRecord, [], [], rows⟩

/-- Add a character to the field. -/
def add (reader : Reader) (char : Char) (place : Place) : Reader :=
  { reader with place, field := reader.field ++ [char] }

/-- End the field. -/
def save (reader : Reader) (place : Place) : Reader :=
  { reader with place, field := [], fields := reader.fields ++ [reader.field] }

/-- Read a character at the start of a field. -/
def begins (reader : Reader) (char : Char) : Reader :=
  if char = '\n' ∨ char = '\r' then reader.save .eatNewline
  else if char = '"' then { reader with place := .inQuotedField }
  else if char = ',' then reader.save .startField
  else reader.add char .inField

/-- Read a character of a line; behind the end of a row nothing but the end of the line may come. -/
def next (reader : Reader) (char : Char) : Option Reader :=
  match reader.place with
  | .startRecord =>
    if char = '\n' ∨ char = '\r' then some { reader with place := .eatNewline }
    else some (reader.begins char)
  | .startField => some (reader.begins char)
  | .inField =>
    if char = '\n' ∨ char = '\r' then some (reader.save .eatNewline)
    else if char = ',' then some (reader.save .startField)
    else some (reader.add char .inField)
  | .inQuotedField =>
    if char = '"' then some { reader with place := .quoteInQuotedField }
    else some (reader.add char .inQuotedField)
  | .quoteInQuotedField =>
    if char = '"' then some (reader.add char .inQuotedField)
    else if char = ',' then some (reader.save .startField)
    else if char = '\n' ∨ char = '\r' then some (reader.save .eatNewline)
    else some (reader.add char .inField)
  | .eatNewline => if char = '\n' ∨ char = '\r' then some reader else none

/-- End the row. -/
def emit (reader : Reader) : Reader := idle (reader.rows ++ [reader.fields])

/-- The line ends, and with it the row, unless a field goes on behind it. -/
def endLine (reader : Reader) : Reader :=
  match reader.place with
  | .startRecord | .eatNewline => reader.emit
  | .startField | .inField | .quoteInQuotedField => (reader.save .startRecord).emit
  | .inQuotedField => reader

/-- Read a character, which may end the line. -/
def feed (reader : Reader) (char : Char) : Option Reader :=
  if char = '\n' then (reader.next char).map endLine else reader.next char

/-- The rows where the text ends; a field that goes on ends there. -/
def finish (reader : Reader) : List (List (List Char)) :=
  match reader.place with
  | .startRecord => reader.rows
  | .inQuotedField => (reader.save .startRecord).emit.rows
  | _ => reader.endLine.rows

end Reader

/-- The rows of a text, if it can be read. -/
def read (text : List Char) : Option (List (List (List Char))) :=
  (text.foldlM Reader.feed (Reader.idle [])).map Reader.finish

/-! ## Round trip -/

variable {reader after : Reader} {field text : List Char} {char : Char} {place : Place}
  {fields : List (List Char)} {rows : List (List (List Char))}

/-- A text is read after the one before it. -/
theorem foldlM_append_of (first : text.foldlM Reader.feed reader = some after)
    (second : List Char) :
    (text ++ second).foldlM Reader.feed reader = second.foldlM Reader.feed after := by
  rw [List.foldlM_append, first]
  rfl

/-- What is between quotes is read as it was. -/
theorem read_doubled (read_ : List Char) :
    (field.flatMap doubled).foldlM Reader.feed ⟨.inQuotedField, read_, fields, rows⟩ =
      some ⟨.inQuotedField, read_ ++ field, fields, rows⟩ := by
  induction field generalizing read_ with
  | nil => simp
  | cons char rest ih =>
    have step : (doubled char).foldlM Reader.feed ⟨.inQuotedField, read_, fields, rows⟩ =
        some ⟨.inQuotedField, read_ ++ [char], fields, rows⟩ := by
      unfold doubled
      by_cases quote : char = '"'
      · subst quote
        rfl
      · rw [if_neg quote]
        by_cases ends : char = '\n'
        · subst ends
          rfl
        · simp [Reader.feed, Reader.next, Reader.add, quote, ends]
    rw [List.flatMap_cons, foldlM_append_of step, ih, List.append_assoc]
    rfl

/-- A character that is not special separates and quotes nothing. -/
theorem not_special (plain : special char = false) :
    char ≠ ',' ∧ char ≠ '"' ∧ char ≠ '\n' ∧ char ≠ '\r' := by
  simpa [special, and_assoc] using plain

/-- What is not between quotes is read as it was. -/
theorem read_inField (plain : ∀ char ∈ field, special char = false) (read_ : List Char) :
    field.foldlM Reader.feed ⟨.inField, read_, fields, rows⟩ =
      some ⟨.inField, read_ ++ field, fields, rows⟩ := by
  induction field generalizing read_ with
  | nil => simp
  | cons char rest ih =>
    obtain ⟨here, others⟩ := List.forall_mem_cons.mp plain
    obtain ⟨comma, -, feed, return_⟩ := not_special here
    have step : Reader.feed ⟨.inField, read_, fields, rows⟩ char =
        some ⟨.inField, read_ ++ [char], fields, rows⟩ := by
      simp [Reader.feed, Reader.next, Reader.add, comma, feed, return_]
    rw [List.foldlM_cons, step]
    show rest.foldlM Reader.feed _ = _
    rw [ih others, List.append_assoc]
    rfl

/-- Where a reader is behind a field: it may go on or end the row. -/
def Place.ready : Place → Bool
  | .startField | .inField | .quoteInQuotedField => true
  | _ => false

/-- A field is read as it was. -/
theorem read_field (field : List Char) : ∃ place, Place.ready place = true ∧
    (writeField field).foldlM Reader.feed ⟨.startField, [], fields, rows⟩ =
      some ⟨place, field, fields, rows⟩ := by
  unfold writeField
  split
  · refine ⟨.quoteInQuotedField, rfl, ?_⟩
    have opened : Reader.feed ⟨.startField, [], fields, rows⟩ '"' =
        some ⟨.inQuotedField, [], fields, rows⟩ := rfl
    unfold quoted
    rw [List.foldlM_cons, opened]
    show (field.flatMap doubled ++ ['"']).foldlM Reader.feed _ = _
    rw [foldlM_append_of (read_doubled []), List.nil_append]
    rfl
  · rename_i plain
    rw [List.any_eq_true, not_exists] at plain
    cases field with
    | nil => exact ⟨.startField, rfl, rfl⟩
    | cons char rest =>
      refine ⟨.inField, rfl, ?_⟩
      have all : ∀ other ∈ char :: rest, special other = false :=
        fun other inside => Bool.eq_false_iff.mpr fun is => plain other ⟨inside, is⟩
      obtain ⟨here, others⟩ := List.forall_mem_cons.mp all
      obtain ⟨comma, quote, feed, return_⟩ := not_special here
      have step : Reader.feed ⟨.startField, [], fields, rows⟩ char =
          some ⟨.inField, [char], fields, rows⟩ := by
        simp [Reader.feed, Reader.next, Reader.begins, Reader.add, comma, quote, feed, return_]
      rw [List.foldlM_cons, step]
      exact read_inField others [char]

/-- A comma ends a field. -/
theorem feed_comma (ready : place.ready = true) :
    Reader.feed ⟨place, field, fields, rows⟩ ',' =
      some ⟨.startField, [], fields ++ [field], rows⟩ := by
  cases place with
  | startField | inField | quoteInQuotedField => rfl
  | startRecord | inQuotedField | eatNewline => cases ready

/-- A line feed ends a row. -/
theorem feed_newline (ready : place.ready = true) :
    Reader.feed ⟨place, field, fields, rows⟩ '\n' =
      some (.idle (rows ++ [fields ++ [field]])) := by
  cases place with
  | startField | inField | quoteInQuotedField => rfl
  | startRecord | inQuotedField | eatNewline => cases ready

/-- The fields of a row are read one after the other. -/
theorem read_fields (some_ : fields ≠ []) (before : List (List Char)) :
    (writeFields fields ++ ['\n']).foldlM Reader.feed ⟨.startField, [], before, rows⟩ =
      some (.idle (rows ++ [before ++ fields])) := by
  induction fields generalizing before with
  | nil => exact absurd rfl some_
  | cons field rest ih =>
    obtain ⟨place, ready, read_⟩ := @read_field before rows field
    cases rest with
    | nil =>
      unfold writeFields
      rw [foldlM_append_of read_, List.foldlM_cons, feed_newline ready]
      rfl
    | cons second others =>
      have later := ih (List.cons_ne_nil _ _) (before ++ [field])
      unfold writeFields
      rw [List.append_assoc, foldlM_append_of read_, List.cons_append, List.foldlM_cons,
        feed_comma ready]
      show (writeFields (second :: others) ++ ['\n']).foldlM Reader.feed _ = _
      rw [later, List.append_assoc]
      rfl

/-- A row that is not empty does not begin with the end of a line. -/
theorem begins_row (some_ : fields ≠ []) (full : fields ≠ [[]]) : ∃ char rest,
    writeFields fields = char :: rest ∧ char ≠ '\n' ∧ char ≠ '\r' := by
  have begins_field {field : List Char} (filled : field ≠ []) : ∃ char rest,
      writeField field = char :: rest ∧ char ≠ '\n' ∧ char ≠ '\r' := by
    unfold writeField
    split
    · exact ⟨'"', _, rfl, by decide, by decide⟩
    · rename_i plain
      rw [List.any_eq_true, not_exists] at plain
      obtain ⟨char, rest, rfl⟩ := List.exists_cons_of_ne_nil filled
      have here : special char = false :=
        Bool.eq_false_iff.mpr fun is => plain char ⟨List.mem_cons_self, is⟩
      obtain ⟨-, -, feed, return_⟩ := not_special here
      exact ⟨char, rest, rfl, feed, return_⟩
  cases fields with
  | nil => exact absurd rfl some_
  | cons field rest =>
    by_cases empty : field = []
    · subst empty
      cases rest with
      | nil => exact absurd rfl full
      | cons second others => exact ⟨',', _, rfl, by decide, by decide⟩
    · obtain ⟨char, written, begun, ends⟩ := begins_field empty
      cases rest with
      | nil => exact ⟨char, written, begun, ends⟩
      | cons second others =>
        refine ⟨char, written ++ ',' :: writeFields (second :: others), ?_, ends⟩
        show writeField field ++ ',' :: writeFields (second :: others) = _
        rw [begun]
        rfl

/-- A row is read as it was. -/
theorem read_row (fields : List (List Char)) (rows : List (List (List Char))) :
    (writeRow fields).foldlM Reader.feed (.idle rows) = some (.idle (rows ++ [fields])) := by
  unfold writeRow
  by_cases empty : fields = []
  · subst empty
    rfl
  · by_cases blank : fields = [[]]
    · subst blank
      rfl
    · rw [if_neg blank]
      obtain ⟨char, rest, begun, feed, return_⟩ := begins_row empty blank
      have same : Reader.feed (.idle rows) char =
          Reader.feed ⟨.startField, [], [], rows⟩ char := by
        simp [Reader.feed, Reader.next, Reader.begins, Reader.save, Reader.add, Reader.idle, feed,
          return_]
      have read_ := @read_fields fields rows empty []
      rw [begun, List.cons_append, List.foldlM_cons] at read_ ⊢
      rw [same]
      exact read_

/-- Rows that are written are read as they were, whatever their fields hold. -/
theorem read_written (rows : List (List (List Char))) :
    read (rows.flatMap writeRow) = some rows := by
  have from_ : ∀ before : List (List (List Char)),
      (rows.flatMap writeRow).foldlM Reader.feed (.idle before) =
        some (.idle (before ++ rows)) := by
    induction rows with
    | nil =>
      intro before
      rw [List.append_nil]
      rfl
    | cons row rest ih =>
      intro before
      rw [List.flatMap_cons, foldlM_append_of (read_row row before), ih, List.append_assoc]
      rfl
  unfold read
  rw [from_ []]
  rfl

end ProxSync.Lib.Csv
