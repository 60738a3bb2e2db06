import Mathlib.Data.List.Basic
/-!
# Command lines

A command is a list of words. The reader here looks for options anywhere among them, also behind
other words; it takes no word that begins with a dash for anything but an option its tool knows, and
refuses a value that begins with one. It reads a list that is written from parts as those parts,
where no word or value begins with a dash.
-/
namespace ProxSync.Lib.CommandLine

/-- What one or two words of a command are to its tool. -/
inductive Part
  | word (text : String)
  | flag (name : String)
  | option (name value : String)
  deriving DecidableEq, Repr

/-- The options of a tool, without and with a value. -/
structure Tool where
  flags : List String
  valued : List String

/-- Whether a tool may take a word for an option. -/
def dashed (text : String) : Bool := text.toList.head? == some '-'

/-- The words of a part. -/
def Part.written : Part → List String
  | .word text => [text]
  | .flag name => [name]
  | .option name value => [name, value]

/-- The words of a command. -/
def written (parts : List Part) : List String := parts.flatMap Part.written

/-- The parts of a command, whose options may stand anywhere. -/
def read (tool : Tool) : List String → Option (List Part)
  | [] => some []
  | text :: rest =>
    if !dashed text then (read tool rest).map (.word text :: ·)
    else if tool.flags.contains text then (read tool rest).map (.flag text :: ·)
    else if tool.valued.contains text then
      match rest with
      | [] => none
      | value :: others =>
        if dashed value then none else (read tool others).map (.option text value :: ·)
    else none

/-- A part that is read as what it is. -/
def Part.Sound (tool : Tool) : Part → Prop
  | .word text => dashed text = false
  | .flag name => dashed name = true ∧ name ∈ tool.flags
  | .option name value => dashed name = true ∧ name ∉ tool.flags ∧ name ∈ tool.valued ∧
      dashed value = false

/-- The option a part sets. -/
def Part.name : Part → Option String
  | .word _ => none
  | .flag name | .option name _ => some name

/-- The names of the options among the parts. -/
def names (parts : List Part) : List String := parts.filterMap Part.name

variable {tool : Tool} {parts : List Part}

/-- A word in front is read as a word. -/
theorem read_word {text : String} (plain : dashed text = false) (rest : List String) :
    read tool (text :: rest) = (read tool rest).map (.word text :: ·) := by
  cases rest <;> simp [read, plain]

/-- A flag in front is read as a flag. -/
theorem read_flag {name : String} (dash : dashed name = true) (known : name ∈ tool.flags)
    (rest : List String) : read tool (name :: rest) = (read tool rest).map (.flag name :: ·) := by
  cases rest <;> simp [read, dash, known]

/-- A sound part in front is read first. -/
theorem read_part {part : Part} (sound : part.Sound tool) (rest : List String) :
    read tool (part.written ++ rest) = (read tool rest).map (part :: ·) := by
  cases part with
  | word text =>
    have plain : dashed text = false := sound
    exact read_word plain rest
  | flag name =>
    obtain ⟨dash, known⟩ := sound
    exact read_flag dash known rest
  | option name value =>
    obtain ⟨dash, other, known, plain⟩ := sound
    simp [Part.written, read, dash, other, known, plain]

/-- A command that is written from sound parts is read as those parts. -/
theorem read_written (sound : ∀ part ∈ parts, part.Sound tool) :
    read tool (written parts) = some parts := by
  induction parts with
  | nil => rfl
  | cons part rest ih =>
    have here := sound part List.mem_cons_self
    have later := ih fun other inside => sound other (List.mem_cons_of_mem _ inside)
    have split : written (part :: rest) = part.written ++ written rest := rfl
    rw [split, read_part here, later]
    rfl

/-! ## Options that may be left out -/

/-- An option that has a value or is left out. -/
def given (name : String) (value : Option String) : List Part :=
  value.elim [] fun value => [.option name value]

variable {name : String} {value : Option String}

/-- The part of an option that has a value. -/
theorem mem_given {part : Part} :
    part ∈ given name value ↔ ∃ text ∈ value, part = .option name text := by
  cases value <;> simp [given]

/-- An option that may be left out is read as what it is. -/
theorem sound_given (dash : dashed name = true) (other : name ∉ tool.flags)
    (known : name ∈ tool.valued) (plain : ∀ text ∈ value, dashed text = false) :
    ∀ part ∈ given name value, part.Sound tool := by
  cases value with
  | none => exact fun _ inside => absurd inside List.not_mem_nil
  | some text =>
    intro part inside
    obtain rfl := List.mem_singleton.mp inside
    exact ⟨dash, other, known, plain text rfl⟩

/-- Parts are written one after the other. -/
theorem written_append (first second : List Part) :
    written (first ++ second) = written first ++ written second := List.flatMap_append

/-- An option that may be left out has its own name at most. -/
theorem names_given (name : String) (value : Option String) :
    (names (given name value)).Sublist [name] := by
  cases value with
  | none => exact List.nil_sublist _
  | some text => exact List.Sublist.refl _

/-- The names of parts come one after the other. -/
theorem names_append (first second : List Part) :
    names (first ++ second) = names first ++ names second := List.filterMap_append

end ProxSync.Lib.CommandLine
