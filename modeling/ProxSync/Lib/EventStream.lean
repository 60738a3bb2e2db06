import Mathlib.Data.List.Basic
/-!
# Event streams

A stream of text carries events as fields on lines, and a blank line ends an event. A reader
collects the lines of data of an event and its name, drops comments, and hands the event on where
the blank line comes. What it hands on of a part of a stream is the beginning of what it hands on of
the stream. A stream that is written in blocks, each a comment or a name with one line of data, is
read as those blocks, and a block that is cut off is not handed on.
-/
namespace ProxSync.Lib.EventStream

/-! ## Reading -/

/-- An event as a reader hands it on. -/
structure Message where
  name : List Char
  data : List Char
  deriving DecidableEq, Repr

/-- An event that is given by literals. -/
def Message.of (name data : String) : Message := ⟨name.toList, data.toList⟩

/-- What is held of the event that is read. -/
structure Buffer where
  name : List Char
  data : List Char
  deriving DecidableEq, Repr

/-- A reader inside a line. A line feed right after a return does not end another line. -/
structure Reader where
  afterReturn : Bool
  line : List Char
  buffer : Buffer
  deriving DecidableEq, Repr

/-- A reader between two events. -/
def Reader.idle : Reader := ⟨false, [], ⟨[], []⟩⟩

/-- The name and the value of a field; one blank behind the colon is not part of the value. -/
def field (line : List Char) : List Char × List Char :=
  let value := (line.dropWhile (· != ':')).drop 1
  (line.takeWhile (· != ':'), if value.head? = some ' ' then value.drop 1 else value)

/-- Take a field into the event that is read. -/
def Buffer.take (buffer : Buffer) (field : List Char × List Char) : Buffer :=
  if field.1 = "event".toList then { buffer with name := field.2 }
  else if field.1 = "data".toList then { buffer with data := buffer.data ++ field.2 ++ ['\n'] }
  else buffer

/-- The event that a blank line ends, unless it has no data. -/
def Buffer.dispatch (buffer : Buffer) : List Message :=
  if buffer.data = [] then []
  else [⟨if buffer.name = [] then "message".toList else buffer.name, buffer.data.dropLast⟩]

/-- End a line: it is blank, a comment, or a field. -/
def Reader.endLine (reader : Reader) (afterReturn : Bool) : Reader × List Message :=
  if reader.line = [] then (⟨afterReturn, [], ⟨[], []⟩⟩, reader.buffer.dispatch)
  else if reader.line.head? = some ':' then (⟨afterReturn, [], reader.buffer⟩, [])
  else (⟨afterReturn, [], reader.buffer.take (field reader.line)⟩, [])

/-- Read a character. -/
def Reader.next (reader : Reader) (char : Char) : Reader × List Message :=
  if char = '\r' then reader.endLine true
  else if char = '\n' then
    if reader.afterReturn then ({ reader with afterReturn := false }, []) else reader.endLine false
  else (⟨false, reader.line ++ [char], reader.buffer⟩, [])

/-- The reader behind a text. -/
def Reader.after (reader : Reader) (text : List Char) : Reader :=
  text.foldl (fun reader char => (reader.next char).1) reader

/-- The events that a reader hands on in a text. -/
def Reader.read (reader : Reader) : List Char → List Message
  | [] => []
  | char :: rest => (reader.next char).2 ++ (reader.next char).1.read rest

/-- The events of a stream. -/
def messages (text : List Char) : List Message := Reader.idle.read text

variable {reader : Reader} {buffer : Buffer} {line text part : List Char}

/-- A text is read part by part. -/
theorem Reader.read_append (reader : Reader) (first second : List Char) :
    reader.read (first ++ second) = reader.read first ++ (reader.after first).read second := by
  induction first generalizing reader with
  | nil => rfl
  | cons char rest ih =>
    have later := ih (reader.next char).1
    rw [List.cons_append, Reader.read, later, Reader.read, List.append_assoc]
    rfl

/-- What is handed on of a part of a stream begins what is handed on of the stream. -/
theorem messages_prefix (begins : part <+: text) : messages part <+: messages text := by
  obtain ⟨rest, rfl⟩ := begins
  exact ⟨_, (Reader.idle.read_append part rest).symm⟩

/-! ## Writing in blocks -/

/-- What a stream is written in. -/
inductive Block
  | event (message : Message)
  | comment (text : List Char)
  deriving DecidableEq, Repr

/-- Whether a text stays on its line. -/
def Plain (text : List Char) : Prop := ∀ char ∈ text, char ≠ '\r' ∧ char ≠ '\n'

/-- The lines of an event before the blank one. -/
def Message.lines (message : Message) : List Char :=
  ("event: ".toList ++ message.name) ++ '\n' :: (("data: ".toList ++ message.data) ++ ['\n'])

namespace Block

/-- A block as it is written; a blank line ends it. -/
def written : Block → List Char
  | .event message => message.lines ++ ['\n']
  | .comment text => (':' :: text) ++ ['\n', '\n']

/-- The events of a block. -/
def message : Block → List Message
  | .event message => [message]
  | .comment _ => []

/-- Whether the parts of a block stay on their lines. -/
def Sound : Block → Prop
  | .event message => Plain message.name ∧ Plain message.data ∧ message.name ≠ []
  | .comment text => Plain text

end Block

/-- Characters that stay on the line are put behind it. -/
theorem Reader.after_plain (plain : Plain text) :
    Reader.after ⟨false, line, buffer⟩ text = ⟨false, line ++ text, buffer⟩ := by
  induction text generalizing line with
  | nil => rw [List.append_nil]; rfl
  | cons char rest ih =>
    have here := plain char List.mem_cons_self
    have there : Plain rest := fun other inside => plain other (List.mem_cons_of_mem _ inside)
    have stepped :
        (Reader.next ⟨false, line, buffer⟩ char).1 = ⟨false, line ++ [char], buffer⟩ := by
      rw [Reader.next, if_neg here.1, if_neg here.2]
    rw [Reader.after, List.foldl_cons, stepped]
    exact (ih there).trans (by rw [List.append_assoc, List.singleton_append])

/-- A line that goes on gives no event. -/
theorem Reader.read_plain (plain : Plain text) :
    Reader.read ⟨false, line, buffer⟩ text = [] := by
  induction text generalizing line with
  | nil => rfl
  | cons char rest ih =>
    have here := plain char List.mem_cons_self
    have there : Plain rest := fun other inside => plain other (List.mem_cons_of_mem _ inside)
    have stepped : Reader.next ⟨false, line, buffer⟩ char =
        (⟨false, line ++ [char], buffer⟩, []) := by
      rw [Reader.next, if_neg here.1, if_neg here.2]
    rw [Reader.read, stepped]
    exact ih there

/-- A line that is ended by a line feed. -/
theorem Reader.read_line (plain : Plain line) (rest : List Char) :
    Reader.read ⟨false, [], buffer⟩ (line ++ '\n' :: rest) =
      (Reader.endLine ⟨false, line, buffer⟩ false).2 ++
        (Reader.endLine ⟨false, line, buffer⟩ false).1.read rest := by
  rw [Reader.read_append, Reader.read_plain plain, Reader.after_plain plain, List.nil_append,
    List.nil_append]
  rfl

/-- A line of an event's name is split at its colon. -/
theorem field_event (name : List Char) :
    field ("event: ".toList ++ name) = ("event".toList, name) := rfl

/-- A line of an event's data is split at its colon. -/
theorem field_data (data : List Char) :
    field ("data: ".toList ++ data) = ("data".toList, data) := rfl

/-- A line of an event's name sets the name. -/
theorem endLine_event (name : List Char) :
    Reader.endLine ⟨false, "event: ".toList ++ name, ⟨[], []⟩⟩ false =
      (⟨false, [], ⟨name, []⟩⟩, []) := by
  have first : ("event: ".toList ++ name).head? = some 'e' := rfl
  rw [Reader.endLine, if_neg (by simp), if_neg (by rw [first]; decide), field_event]
  simp only [Buffer.take, if_true]

/-- A line of an event's data sets the data. -/
theorem endLine_data (name data : List Char) :
    Reader.endLine ⟨false, "data: ".toList ++ data, ⟨name, []⟩⟩ false =
      (⟨false, [], ⟨name, data ++ ['\n']⟩⟩, []) := by
  have first : ("data: ".toList ++ data).head? = some 'd' := rfl
  have other : ("data".toList = "event".toList) = False := by simp
  rw [Reader.endLine, if_neg (by simp), if_neg (by rw [first]; decide), field_data]
  simp only [Buffer.take, other, if_false, if_true, List.nil_append]

/-- A comment sets nothing. -/
theorem endLine_comment (text : List Char) :
    Reader.endLine ⟨false, ':' :: text, ⟨[], []⟩⟩ false = (Reader.idle, []) := by
  rw [Reader.endLine, if_neg (List.cons_ne_nil _ _), if_pos (List.head?_cons)]
  rfl

/-- Two plain texts are plain together. -/
theorem Plain.append {first second : List Char} (one : Plain first) (two : Plain second) :
    Plain (first ++ second) := by
  intro char inside
  rcases List.mem_append.mp inside with left | right
  · exact one char left
  · exact two char right

/-- The line of a plain name is plain. -/
theorem plain_event (plain : Plain text) : Plain ("event: ".toList ++ text) := by
  have label : Plain "event: ".toList := by simp [Plain]
  exact label.append plain

/-- The line of plain data is plain. -/
theorem plain_data (plain : Plain text) : Plain ("data: ".toList ++ text) := by
  have label : Plain "data: ".toList := by simp [Plain]
  exact label.append plain

/-- A blank line ends the event. -/
theorem Reader.read_blank (rest : List Char) :
    Reader.read ⟨false, [], buffer⟩ ('\n' :: rest) = buffer.dispatch ++ Reader.idle.read rest := by
  have other : ('\n' = '\r') = False := by simp
  simp only [Reader.read, Reader.next, other, if_false, if_true, Reader.endLine, Bool.false_eq_true,
    Reader.idle]

/-- The lines of an event hand nothing on, and are held. -/
theorem Message.read_lines (message : Message) (sound : (Block.event message).Sound)
    (rest : List Char) :
    Reader.idle.read (message.lines ++ rest) =
      Reader.read ⟨false, [], ⟨message.name, message.data ++ ['\n']⟩⟩ rest := by
  obtain ⟨name, data, -⟩ := sound
  have ends (line : List Char) : (line ++ ['\n']) ++ rest = line ++ '\n' :: rest := by
    rw [List.append_assoc, List.singleton_append]
  unfold Message.lines
  rw [List.append_assoc, List.cons_append, ends, Reader.idle, Reader.read_line (plain_event name),
    endLine_event, List.nil_append, Reader.read_line (plain_data data), endLine_data,
    List.nil_append]

/-- The line of a comment hands nothing on, and is not held. -/
theorem read_comment (sound : Plain text) (rest : List Char) :
    Reader.idle.read ((':' :: text) ++ '\n' :: rest) = Reader.idle.read rest := by
  have plain : Plain (':' :: text) := by
    intro char inside
    rcases List.mem_cons.mp inside with rfl | later
    · decide
    · exact sound char later
  rw [Reader.idle, Reader.read_line plain, endLine_comment, List.nil_append]
  rfl

/-- A block is read as its event, and the reader is between two events behind it. -/
theorem Block.read (block : Block) (sound : block.Sound) (rest : List Char) :
    Reader.idle.read (block.written ++ rest) = block.message ++ Reader.idle.read rest := by
  cases block with
  | event message =>
    have named : message.name ≠ [] := sound.2.2
    rw [Block.written, List.append_assoc, List.singleton_append, message.read_lines sound,
      Reader.read_blank]
    simp [Buffer.dispatch, named, Block.message]
  | comment text =>
    have ends : ['\n', '\n'] ++ rest = '\n' :: ('\n' :: rest) := rfl
    rw [Block.written, List.append_assoc, ends, read_comment sound, Reader.idle, Reader.read_blank]
    rfl

/-- A block that is cut off is not handed on. -/
theorem Block.read_cut (block : Block) (sound : block.Sound) (begins : part <+: block.written)
    (short : part.length < block.written.length) : Reader.idle.read part = [] := by
  cases block with
  | event message =>
    rw [Block.written] at begins short
    have inside : part <+: message.lines := by
      apply List.prefix_of_prefix_length_le begins (List.prefix_append _ _)
      rw [List.length_append, List.length_singleton] at short
      omega
    have held := message.read_lines sound []
    rw [List.append_nil] at held
    have nothing := messages_prefix inside
    rw [messages, messages, held] at nothing
    exact List.prefix_nil.mp nothing
  | comment text =>
    have whole := Block.read (.comment text) sound []
    rw [List.append_nil, Block.message, List.nil_append] at whole
    have nothing := messages_prefix begins
    rw [messages, messages, whole] at nothing
    exact List.prefix_nil.mp nothing

/-- A stream that is written in blocks is read as the events of the blocks. -/
theorem messages_blocks {blocks : List Block} (sound : ∀ block ∈ blocks, block.Sound) :
    messages (blocks.flatMap Block.written) = blocks.flatMap Block.message := by
  induction blocks with
  | nil => rfl
  | cons block rest ih =>
    have later := ih fun other inside => sound other (List.mem_cons_of_mem _ inside)
    rw [List.flatMap_cons, List.flatMap_cons, messages,
      block.read (sound block List.mem_cons_self)]
    exact congrArg (block.message ++ ·) later

/-- Of a stream that is cut off, the events of the blocks before the cut are handed on. -/
theorem messages_cut {blocks : List Block} (sound : ∀ block ∈ blocks, block.Sound)
    (begins : part <+: blocks.flatMap Block.written) :
    ∃ whole, whole <+: blocks ∧ whole.flatMap Block.written <+: part ∧
      (whole = blocks ∨ ∃ next, whole ++ [next] <+: blocks ∧
        part.length < ((whole ++ [next]).flatMap Block.written).length) ∧
      messages part = whole.flatMap Block.message := by
  induction blocks generalizing part with
  | nil =>
    have empty : part = [] := List.prefix_nil.mp begins
    exact ⟨[], List.nil_prefix, List.nil_prefix, .inl rfl, by rw [empty]; rfl⟩
  | cons block rest ih =>
    have here := sound block List.mem_cons_self
    rw [List.flatMap_cons] at begins
    by_cases short : part.length < block.written.length
    · have inside : part <+: block.written :=
        List.prefix_of_prefix_length_le begins (List.prefix_append _ _)
          (Nat.le_of_lt short)
      refine ⟨[], List.nil_prefix, List.nil_prefix, .inr ⟨block, ?_, ?_⟩, ?_⟩
      · exact ⟨rest, rfl⟩
      · simpa using short
      · exact block.read_cut here inside short
    · have outside : block.written <+: part :=
        List.prefix_of_prefix_length_le (List.prefix_append _ _) begins
          (Nat.le_of_not_lt short)
      obtain ⟨behind, rfl⟩ := outside
      have begins' : behind <+: rest.flatMap Block.written :=
        (List.prefix_append_right_inj block.written).mp begins
      obtain ⟨whole, first, written, last, read⟩ :=
        ih (fun other inside => sound other (List.mem_cons_of_mem _ inside)) begins'
      refine ⟨block :: whole, ?_, ?_, ?_, ?_⟩
      · exact (List.prefix_cons_inj block).mpr first
      · rw [List.flatMap_cons]
        exact (List.prefix_append_right_inj block.written).mpr written
      · rcases last with rfl | ⟨next, begun, cut⟩
        · exact .inl rfl
        · refine .inr ⟨next, (List.prefix_cons_inj block).mpr begun, ?_⟩
          rw [List.cons_append, List.flatMap_cons, List.length_append, List.length_append]
          omega
      · rw [messages, block.read here, List.flatMap_cons]
        exact congrArg (block.message ++ ·) read

end ProxSync.Lib.EventStream
