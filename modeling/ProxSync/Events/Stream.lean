import ProxSync.Events.Bus
/-!
# What a browser reads of the live events

The stream of a subscriber is written in blocks, each of which holds its event on one line. A
browser that reads it gets the opening and then every event that was sent, in order, and of a stream
that breaks off it gets the events whose blocks arrived whole.
-/
open ProxSync.Lib ProxSync.Lib.Dumps ProxSync.Lib.EventStream

namespace ProxSync.Events

open Subscription

variable {size : ℕ} {event : Event} {subscription after : Subscription} {action : Action}

/-- What a browser reads of the frame of an event. -/
def Carries (event : Event) (message : Message) : Prop :=
  message.name = event.type.text.toList ∧ dumps (.dict event.toPayload) = .ok message.data

/-- What a browser reads of the opening. -/
def openingMessage : Message := .of "stream.open" "\x7b\x7d"

/-- What a stream has written are blocks: the opening, and the frames of the events it has sent. -/
structure Wrote (row : Subscription) (blocks : List Block) (messages : List Message) : Prop where
  output : row.output = blocks.flatMap Block.written
  sound : ∀ block ∈ blocks, block.Sound
  read : blocks.flatMap Block.message = openingMessage :: messages
  carried : List.Forall₂ Carries row.sent messages

/-- The name of an event is plain. -/
theorem plain_text (name : EventName) : Plain name.text.toList := by
  cases name <;> simp [EventName.text, Plain]

/-- The name of an event is not empty. -/
theorem text_ne_nil (name : EventName) : name.text.toList ≠ [] := by
  cases name <;> simp [EventName.text]

/-- Printable text stays on its line. -/
theorem plain_of_shown {text : List Char} (printed : Shown text) : Plain text := by
  intro char inside
  have range := printed char inside
  constructor
  · rintro rfl
    exact absurd range (by decide)
  · rintro rfl
    exact absurd range (by decide)

/-- A stream is opened with a message. -/
theorem opening_written : opening = (Block.event openingMessage).written := rfl

/-- A stream is kept alive with a comment. -/
theorem keepAlive_written : keepAlive = (Block.comment " keep-alive".toList).written := rfl

/-- The frame of an event is a block that carries it. -/
theorem frame_written {text : List Char} (written : frame event = .ok text) :
    ∃ message, Carries event message ∧ (Block.event message).Sound ∧
      text = (Block.event message).written := by
  obtain ⟨data, dumped, framed⟩ := bind_eq_ok.mp written
  have printed := plain_of_shown (shown_dumps _ dumped)
  refine ⟨⟨event.type.text.toList, data⟩, ⟨rfl, dumped⟩, ⟨plain_text _, printed, text_ne_nil _⟩, ?_⟩
  have label : "\ndata: ".toList = '\n' :: "data: ".toList := rfl
  have ends : "\n\n".toList = ['\n'] ++ ['\n'] := rfl
  rw [← Except.ok.inj framed, Block.written, label, ends]
  unfold Message.lines
  simp only [List.append_assoc, List.cons_append]

/-- A stream that was just opened wrote its first message. -/
theorem wrote_opened (since named : ℕ) :
    Wrote (opened since named) [.event openingMessage] [] where
  output := by rw [List.flatMap_singleton, ← opening_written, opened]
  sound := by
    intro block inside
    rw [List.mem_singleton.mp inside]
    refine ⟨?_, ?_, ?_⟩ <;> simp [openingMessage, Message.of, Plain]
  read := rfl
  carried := .nil

/-- A block that is put behind is read behind. -/
theorem Wrote.append {row : Subscription} {blocks : List Block} {messages : List Message}
    (wrote : Wrote row blocks messages) {block : Block} (sound : block.Sound)
    {sent : List Event} (carried : List.Forall₂ Carries sent block.message) (queue : List Event) :
    Wrote { row with
        queue := queue
        output := row.output ++ block.written
        sent := row.sent ++ sent }
      (blocks ++ [block]) (messages ++ block.message) where
  output := by rw [List.flatMap_append, List.flatMap_singleton, wrote.output]
  sound := by
    intro other inside
    rcases List.mem_append.mp inside with before | last
    · exact wrote.sound other before
    · rw [List.mem_singleton.mp last]
      exact sound
  read := by rw [List.flatMap_append, List.flatMap_singleton, wrote.read, List.cons_append]
  carried := List.rel_append wrote.carried carried

/-- Whatever a stream does, it writes blocks. -/
theorem wrote_act (wrote : ∃ blocks messages, Wrote subscription blocks messages)
    (acted : subscription.act action = some after) :
    ∃ blocks messages, Wrote after blocks messages := by
  obtain ⟨blocks, messages, wrote⟩ := wrote
  obtain ⟨-, rfl | rfl | ⟨event, rest, -, rfl⟩⟩ := act_cases acted
  · have comment : Block.Sound (.comment " keep-alive".toList) := by simp [Block.Sound, Plain]
    have behind := wrote.append comment .nil subscription.queue
    rw [List.append_nil, ← keepAlive_written] at behind
    exact ⟨_, _, behind⟩
  · exact ⟨blocks, messages, wrote.output, wrote.sound, wrote.read, wrote.carried⟩
  · rcases write_cases subscription event rest with ⟨text, framed, written⟩ | written
    · obtain ⟨message, carries, sound, rfl⟩ := frame_written framed
      rw [written]
      exact ⟨_, _, wrote.append sound (.cons carries .nil) rest⟩
    · rw [written]
      exact ⟨blocks, messages, wrote.output, wrote.sound, wrote.read, wrote.carried⟩

/-- Every stream has written blocks. -/
theorem wrote_reached {bus : EventBus} (reached : (system size).Reachable System.unguarded bus) :
    ∀ row ∈ bus.subscriptions, ∃ blocks messages, Wrote row blocks messages := by
  apply rows_invariant (fun _ row => ∃ blocks messages, Wrote row blocks messages) reached
  · intro published named
    exact ⟨_, _, wrote_opened _ named⟩
  · rintro published event row ⟨blocks, messages, wrote⟩
    unfold receive
    split
    · exact ⟨blocks, messages, wrote.output, wrote.sound, wrote.read, wrote.carried⟩
    · exact ⟨blocks, messages, wrote⟩
  · intro published action row after wrote acted
    exact wrote_act wrote acted

/-- A browser can parse what an event carries unless it holds a number that is not finite. -/
theorem parsed_iff {message : Message} (carries : Carries event message) :
    JsonText.accepts .anyUnits message.data = true ↔
      storable .anyUnits (.dict event.toPayload) = true := by
  constructor
  · intro accepted
    exact storable_iff.mpr ⟨_, carries.2, accepted⟩
  · intro good
    obtain ⟨chars, dumped, accepted⟩ := storable_iff.mp good
    rw [Except.ok.inj (carries.2.symm.trans dumped)]
    exact accepted

/-- In every run, a browser that has read the stream of a subscriber has been given the opening and
then each event that was sent, under its name and with its data, in order, and can parse the data
unless a number is not finite; and wherever the stream breaks off, the browser has been given those
whose blocks have arrived whole. -/
theorem read_stream {bus : EventBus} (reached : (system size).Reachable System.unguarded bus)
    {row : Subscription} (stored : row ∈ bus.subscriptions) :
    ∃ blocks read, row.output = blocks.flatMap Block.written ∧
      blocks.flatMap Block.message = openingMessage :: read ∧
      List.Forall₂ (fun event message => Carries event message ∧
        (JsonText.accepts .anyUnits message.data = true ↔
          storable .anyUnits (.dict event.toPayload) = true)) row.sent read ∧
      messages row.output = openingMessage :: read ∧
      ∀ part, part <+: row.output →
        ∃ whole, whole <+: blocks ∧ whole.flatMap Block.written <+: part ∧
          (whole = blocks ∨ ∃ next, whole ++ [next] <+: blocks ∧
            part.length < ((whole ++ [next]).flatMap Block.written).length) ∧
          messages part = whole.flatMap Block.message := by
  obtain ⟨blocks, read, wrote⟩ := wrote_reached reached row stored
  refine ⟨blocks, read, wrote.output, wrote.read, ?_, ?_, ?_⟩
  · exact wrote.carried.imp fun _ _ carries => ⟨carries, parsed_iff carries⟩
  · rw [wrote.output, messages_blocks wrote.sound, wrote.read]
  · intro part begins
    exact messages_cut wrote.sound (wrote.output ▸ begins)

/-- A stream that has sent an event. -/
theorem read_stream_sent : ∃ (row : Subscription) (read : List Message), row.sent.length = 1 ∧
    messages row.output = openingMessage :: read := by
  obtain ⟨bus, reached, tested⟩ : ∃ bus, (system 1).Reachable System.unguarded bus ∧
      bus.subscriptions.rows.any (fun row => row.sent.length == 1) = true :=
    System.exists_of_runFrom rfl [.subscribe, .publish noted, .stream 1 .next] _ (by decide)
  obtain ⟨row, stored, tested⟩ := List.any_eq_true.mp tested
  obtain ⟨blocks, read, -, -, -, whole, -⟩ := read_stream reached stored
  exact ⟨row, read, beq_iff_eq.mp tested, whole⟩

end ProxSync.Events
