import ProxSync.Lib.Deque
import ProxSync.Lib.System
import Mathlib.Tactic.Common
/-!
# The log buffer and its writer

A log call appends to a bounded buffer and returns; a writer takes a batch out of the buffer, stores
it, and puts it back at the front where the database fails. Log calls, changes of the buffer and the
outcomes of one flush interleave at the suspension points of the flush.
-/
open ProxSync.Lib

namespace ProxSync.Logs

/-- The severity of a log line. -/
inductive LogLevel
  | debug
  | info
  | warning
  | error
  | critical
  deriving DecidableEq, Repr

/-- The order of the severities. -/
def LogLevel.order : LogLevel → Nat
  | .debug => 10
  | .info => 20
  | .warning => 30
  | .error => 40
  | .critical => 50

/-- The severity a text names; whatever is not known is taken for information. -/
def parseLevel (level : Option String) : LogLevel :=
  match level.map String.toLower with
  | some "debug" => .debug
  | some "warning" | some "warn" => .warning
  | some "error" | some "exception" => .error
  | some "critical" | some "fatal" => .critical
  | _ => .info

/-- How long a stored message may be. -/
def maxMessageLength : Nat := 2000

/-- A log call, with the rows it names. -/
structure LogEvent where
  level : Option String
  message : String
  userId : Option Nat
  backupId : Option Nat
  restoreId : Option Nat
  syncTaskId : Option Nat
  deriving DecidableEq

/-- A log line in the shape it is stored. -/
structure CapturedLog where
  level : LogLevel
  message : String
  userId : Option Nat
  backupId : Option Nat
  restoreId : Option Nat
  syncTaskId : Option Nat
  deriving DecidableEq

/-- The line without the rows it names. -/
def unlinked (entry : CapturedLog) : CapturedLog :=
  { entry with userId := none, backupId := none, restoreId := none, syncTaskId := none }

/-- The buffer with its configuration. -/
structure LogSink where
  entries : Deque CapturedLog
  level : LogLevel
  enabled : Bool
  dropped : Nat

namespace LogSink

/-- The line of a log call, if it is severe enough. -/
def build (sink : LogSink) (event : LogEvent) : Option CapturedLog :=
  let level := parseLevel event.level
  if level.order < sink.level.order then none
  else some ⟨level, (event.message.take maxMessageLength).copy, event.userId, event.backupId,
    event.restoreId, event.syncTaskId⟩

/-- The line a log call adds. A call from the writer's own context adds none, and one whose line
cannot be built is none. -/
def accepts (sink : LogSink) (suppressed : Bool) (event : Option LogEvent) : Option CapturedLog :=
  if !sink.enabled || suppressed then none else event.bind sink.build

/-- Append a line, counting the line a full buffer discards for it. -/
def push (sink : LogSink) (entry : CapturedLog) : LogSink :=
  { sink with
    entries := sink.entries.append entry
    dropped := sink.dropped + if sink.entries.full then 1 else 0 }

/-- Change the configuration; the buffer is copied if its capacity changes. -/
def configure (sink : LogSink) (capacity : Nat) (level : LogLevel) (enabled : Bool) : LogSink :=
  { sink with
    entries := if capacity = sink.entries.maxlen then sink.entries
      else sink.entries.resize capacity
    level := level
    enabled := enabled }

/-- Discard what is buffered and the count, and stop capturing. -/
def reset (sink : LogSink) : LogSink :=
  { sink with entries := .empty sink.entries.maxlen, dropped := 0, enabled := false }

/-- The batch that is taken out, oldest first. -/
def drained (sink : LogSink) (limit : Nat) : List CapturedLog := sink.entries.items.take limit

/-- The buffer after a batch is taken out. -/
def drain (sink : LogSink) (limit : Nat) : LogSink :=
  { sink with entries := sink.entries.popMany limit }

/-- Put a batch back at the front. -/
def restore (sink : LogSink) (batch : List CapturedLog) : LogSink :=
  { sink with entries := sink.entries.extendleft batch.reverse }

/-- How many lines are buffered. -/
def pending (sink : LogSink) : Nat := sink.entries.items.length

end LogSink

/-- A batch that is being stored. -/
inductive Flush
  | inserting (batch : List CapturedLog)
  /-- The batch named a row that is not there, and is stored without the rows it names. -/
  | unlinking (batch : List CapturedLog)

/-- The lines of a flush. -/
def Flush.batch : Flush → List CapturedLog
  | .inserting batch | .unlinking batch => batch

/-- The buffer, the flush in progress, the stored lines, and the lines captured since the buffer was
reset, with how many were stored by then. -/
structure State where
  sink : LogSink
  flush : Option Flush
  rows : List CapturedLog
  /-- The writer's own count of the lines it stored. -/
  written : Nat
  captured : Nat
  storedBefore : Nat

/-- What may happen next. -/
inductive Action
  | configure (capacity : Nat) (level : LogLevel) (enabled : Bool)
  | disable
  | reset
  /-- A log call; nothing is given where its line cannot be built. -/
  | capture (suppressed : Bool) (event : Option LogEvent)
  | flush (limit : Nat)
  | inserted
  | integrityError
  | databaseError

/-- The effect of one action, or nothing where it cannot happen. -/
def step (state : State) : Action → Option State
  | .configure capacity level enabled =>
    some { state with sink := state.sink.configure capacity level enabled }
  | .disable => some { state with sink := { state.sink with enabled := false } }
  | .reset =>
    some { state with
      sink := state.sink.reset, captured := 0, storedBefore := state.rows.length }
  | .capture suppressed event =>
    match state.sink.accepts suppressed event with
    | none => some state
    | some entry =>
      some { state with sink := state.sink.push entry, captured := state.captured + 1 }
  | .flush limit =>
    match state.flush with
    | some _ => none
    | none =>
      let batch := state.sink.drained limit
      some { state with
        sink := state.sink.drain limit
        flush := if batch.isEmpty then none else some (.inserting batch) }
  | .inserted =>
    match state.flush with
    | none => none
    | some (.inserting batch) =>
      some { state with
        flush := none, rows := state.rows ++ batch, written := state.written + batch.length }
    | some (.unlinking batch) =>
      some { state with
        flush := none
        rows := state.rows ++ batch.map unlinked
        written := state.written + batch.length }
  | .integrityError =>
    match state.flush with
    | none => none
    | some (.inserting batch) => some { state with flush := some (.unlinking batch) }
    -- Nothing handles a failure of the second attempt.
    | some (.unlinking _) => some { state with flush := none }
  | .databaseError =>
    match state.flush with
    | none => none
    | some (.inserting batch) =>
      some { state with flush := none, sink := state.sink.restore batch }
    | some (.unlinking _) => some { state with flush := none }

/-- The log buffer of a new process. -/
def system (capacity : Nat) : System State Action where
  init state := state = ⟨⟨.empty capacity, .info, false, 0⟩, none, [], 0, 0, 0⟩
  step := step

/-! ## What the buffer promises -/

/-- The lines of the flush in progress. -/
def State.inFlight (state : State) : Nat := (state.flush.map fun flush => flush.batch.length).getD 0

/-- While no flush is in progress, every line captured since the buffer was reset is stored, pending
or counted as dropped. -/
def Conserved (state : State) : Prop :=
  state.flush = none →
    state.captured + state.storedBefore =
      state.rows.length + state.sink.pending + state.sink.dropped

/-- The lines a step leaves in the buffer if nothing has to be discarded, oldest first. -/
def offered (state : State) : Action → List CapturedLog
  | .capture suppressed event =>
    state.sink.entries.items ++ (state.sink.accepts suppressed event).toList
  | .databaseError =>
    match state.flush with
    | some (.inserting batch) => batch ++ state.sink.entries.items
    | _ => state.sink.entries.items
  | _ => state.sink.entries.items

/-- Only the oldest lines leave the buffer. -/
def DropsOldest (state : State) (action : Action) (after : State) : Prop :=
  after.sink.entries.items <:+ offered state action

/-- Whether there is room for what a step puts into the buffer, and no line is given up. -/
def roomy (state : State) : Action → Bool
  | .configure capacity _ _ => decide (state.sink.pending ≤ capacity)
  | .reset => state.flush.isNone
  | .integrityError =>
    match state.flush with
    | some (.unlinking _) => false
    | _ => true
  | .databaseError =>
    match state.flush with
    | some (.inserting batch) =>
      decide (batch.length + state.sink.pending ≤ state.sink.entries.maxlen)
    | some (.unlinking _) => false
    | none => true
  | _ => true

/-- A batch is put back only beside as many lines as leave room for it, a buffer is not made smaller
than what is pending, the second attempt to store a batch succeeds, and the buffer is not reset
during a flush. -/
def Roomy (state : State) (action : Action) : Prop := roomy state action = true

instance (state : State) (action : Action) : Decidable (Roomy state action) :=
  inferInstanceAs (Decidable (_ = true))

/-! ## Conservation -/

section Sink

variable (sink : LogSink)

/-- A line that is pushed is pending, or the line it pushes out is counted. -/
theorem LogSink.push_balance (entry : CapturedLog) :
    (sink.push entry).pending + (sink.push entry).dropped = sink.pending + sink.dropped + 1 := by
  have pushed := sink.entries.length_append entry
  simp only [pending, push]
  omega

/-- A batch that is taken out is no longer pending. -/
theorem LogSink.drain_balance (limit : Nat) :
    (sink.drained limit).length + (sink.drain limit).pending = sink.pending := by
  have split := congrArg List.length (List.take_append_drop limit sink.entries.items)
  rw [List.length_append] at split
  exact split

/-- A batch that fits is in front when it is put back. -/
theorem LogSink.restore_items {batch : List CapturedLog}
    (room : batch.length + sink.pending ≤ sink.entries.maxlen) :
    (sink.restore batch).entries.items = batch ++ sink.entries.items :=
  Deque.extendleft_reverse room

/-- A buffer with room for what is pending keeps it. -/
theorem LogSink.configure_items {capacity : Nat} (level : LogLevel) (enabled : Bool)
    (room : sink.pending ≤ capacity) :
    (sink.configure capacity level enabled).entries.items = sink.entries.items := by
  unfold configure
  split
  · rfl
  · exact Deque.resize_items room

/-- Changing the configuration discards the oldest lines only. -/
theorem LogSink.configure_suffix (capacity : Nat) (level : LogLevel) (enabled : Bool) :
    (sink.configure capacity level enabled).entries.items <:+ sink.entries.items := by
  unfold configure
  split
  · exact List.suffix_rfl
  · exact Deque.resize_suffix _ _

end Sink

section Steps

variable {state after : State} {action : Action}

/-- Every line captured since the buffer was reset is stored, in flight, pending or counted. -/
def Balanced (state : State) : Prop :=
  state.captured + state.storedBefore =
    state.rows.length + state.inFlight + state.sink.pending + state.sink.dropped

/-- One step with room keeps the balance. -/
theorem step_balanced (balanced : Balanced state) (allowed : Roomy state action)
    (stepped : step state action = some after) : Balanced after := by
  unfold Balanced at balanced ⊢
  cases action with
  | configure capacity level enabled =>
    obtain rfl := Option.some.inj stepped
    have room : state.sink.pending ≤ capacity := of_decide_eq_true allowed
    have same := congrArg List.length (state.sink.configure_items level enabled room)
    change _ = state.rows.length + state.inFlight + _ + state.sink.dropped
    rw [LogSink.pending, same]
    exact balanced
  | disable =>
    obtain rfl := Option.some.inj stepped
    exact balanced
  | reset =>
    obtain rfl := Option.some.inj stepped
    have idle : state.flush = none := Option.isNone_iff_eq_none.mp allowed
    simp [State.inFlight, idle, LogSink.reset, LogSink.pending, Deque.empty]
  | capture suppressed event =>
    simp only [step] at stepped
    split at stepped
    · obtain rfl := Option.some.inj stepped
      exact balanced
    · rename_i entry accepted
      obtain rfl := Option.some.inj stepped
      have pushed := state.sink.push_balance entry
      change state.captured + 1 + state.storedBefore = state.rows.length + state.inFlight +
        (state.sink.push entry).pending + (state.sink.push entry).dropped
      omega
  | flush limit =>
    simp only [step] at stepped
    split at stepped
    · cases stepped
    · rename_i idle
      obtain rfl := Option.some.inj stepped
      have taken := state.sink.drain_balance limit
      simp only [State.inFlight, idle, Option.map_none, Option.getD_none] at balanced
      simp only [State.inFlight]
      by_cases empty : (state.sink.drained limit).isEmpty = true
      · have none := congrArg List.length (List.isEmpty_iff.mp empty)
        rw [List.length_nil] at none
        simp only [empty, if_true, Option.map_none, Option.getD_none]
        change _ = _ + 0 + _ + state.sink.dropped
        omega
      · simp only [empty, Bool.false_eq_true, if_false, Option.map_some, Option.getD_some,
          Flush.batch]
        change _ = _ + _ + _ + state.sink.dropped
        omega
  | inserted =>
    simp only [step] at stepped
    split at stepped
    · cases stepped
    all_goals
      rename_i batch held
      obtain rfl := Option.some.inj stepped
      simp only [State.inFlight, held, Option.map_some, Option.getD_some, Flush.batch] at balanced
      simp only [State.inFlight, Option.map_none, Option.getD_none, List.length_append,
        List.length_map]
      omega
  | integrityError =>
    simp only [step] at stepped
    split at stepped
    · cases stepped
    · rename_i batch held
      obtain rfl := Option.some.inj stepped
      simpa only [State.inFlight, held, Option.map_some, Option.getD_some, Flush.batch]
        using balanced
    · rename_i batch held
      simp [Roomy, roomy, held] at allowed
  | databaseError =>
    simp only [step] at stepped
    split at stepped
    · cases stepped
    · rename_i batch held
      obtain rfl := Option.some.inj stepped
      have room : batch.length + state.sink.pending ≤ state.sink.entries.maxlen := by
        simpa [Roomy, roomy, held] using allowed
      have back := congrArg List.length (state.sink.restore_items room)
      rw [List.length_append] at back
      simp only [State.inFlight, held, Option.map_some, Option.getD_some, Flush.batch] at balanced
      change _ = state.rows.length + 0 + _ + state.sink.dropped
      simp only [LogSink.pending] at balanced ⊢
      omega
    · rename_i batch held
      simp [Roomy, roomy, held] at allowed

/-- Where there is room, a step discards the oldest lines only. -/
theorem step_dropsOldest (allowed : Roomy state action) (stepped : step state action = some after) :
    DropsOldest state action after := by
  cases action with
  | configure capacity level enabled =>
    obtain rfl := Option.some.inj stepped
    exact state.sink.configure_suffix capacity level enabled
  | disable =>
    obtain rfl := Option.some.inj stepped
    exact List.suffix_rfl
  | reset =>
    obtain rfl := Option.some.inj stepped
    exact List.nil_suffix
  | capture suppressed event =>
    simp only [step] at stepped
    simp only [DropsOldest, offered]
    split at stepped
    · rename_i ignored
      obtain rfl := Option.some.inj stepped
      simp only [ignored, Option.toList_none, List.append_nil, List.suffix_rfl]
    · rename_i entry accepted
      obtain rfl := Option.some.inj stepped
      rw [accepted, Option.toList_some]
      exact state.sink.entries.append_suffix entry
  | flush limit =>
    simp only [step] at stepped
    split at stepped
    · cases stepped
    · obtain rfl := Option.some.inj stepped
      exact List.drop_suffix limit _
  | inserted =>
    simp only [step] at stepped
    split at stepped
    · cases stepped
    all_goals
      obtain rfl := Option.some.inj stepped
      exact List.suffix_rfl
  | integrityError =>
    simp only [step] at stepped
    split at stepped
    · cases stepped
    all_goals
      obtain rfl := Option.some.inj stepped
      exact List.suffix_rfl
  | databaseError =>
    simp only [step] at stepped
    split at stepped
    · cases stepped
    · rename_i batch held
      obtain rfl := Option.some.inj stepped
      have room : batch.length + state.sink.pending ≤ state.sink.entries.maxlen := by
        simpa [Roomy, roomy, held] using allowed
      simp only [DropsOldest, offered, held]
      exact (state.sink.restore_items room).symm ▸ List.suffix_rfl
    · rename_i batch held
      simp [Roomy, roomy, held] at allowed

/-- The writer counts the lines that are stored. -/
theorem written_eq_rows {capacity : Nat} {allow : State → Action → Prop}
    (reached : (system capacity).Reachable allow state) : state.written = state.rows.length := by
  apply reached.invariant_alone
  constructor
  · rintro _ rfl
    rfl
  · intro state action after _ counted _ stepped
    cases action with
    | inserted =>
      simp only [system, step] at stepped
      split at stepped
      · cases stepped
      all_goals
        obtain rfl := Option.some.inj stepped
        simp [counted]
    | configure | disable | reset =>
      obtain rfl := Option.some.inj stepped
      exact counted
    | capture | flush | integrityError | databaseError =>
      simp only [system, step] at stepped
      split at stepped
      all_goals
        cases stepped
        try exact counted

/-- While there is room for what is put back or kept and no line is given up, no line is lost
without being counted, and only the oldest are. -/
theorem logs_conserved_of_roomy {capacity : Nat}
    (reached : (system capacity).Reachable Roomy state) :
    Conserved state ∧ ∀ action after, Roomy state action → step state action = some after →
      DropsOldest state action after := by
  have balanced : Balanced state := by
    apply reached.invariant_alone
    constructor
    · rintro _ rfl
      rfl
    · exact fun _ _ _ _ balanced allowed stepped => step_balanced balanced allowed stepped
  constructor
  · intro idle
    have even := balanced
    rw [Balanced, State.inFlight, idle] at even
    simpa using even
  · exact fun _ _ allowed stepped => step_dropsOldest allowed stepped

end Steps

/-- A log call. -/
def line (message : String) : Action :=
  .capture false (some ⟨none, message, none, none, none, none⟩)

/-- Two lines in a full buffer that are taken out to be stored. -/
def flushing : List Action :=
  [.configure 2 .info true, line "first", line "second", .flush 200]

/-- A third line pushes out the first, and the batch of the other two is stored at the second
attempt. -/
theorem logs_conserved_retried :
    ∃ state, (state.captured = 3 ∧ state.rows.length = 2 ∧ state.sink.dropped = 1) ∧
      Conserved state := by
  obtain ⟨state, reached, shown⟩ : ∃ state, (system 2).Reachable Roomy state ∧
      decide (state.captured = 3 ∧ state.rows.length = 2 ∧ state.sink.dropped = 1) = true := by
    refine System.exists_of_runFrom rfl ([.configure 2 .info true, line "first", line "second",
      line "third", .flush 200, .databaseError, .flush 200, .inserted]) _ ?_
    decide
  exact ⟨state, of_decide_eq_true shown, (logs_conserved_of_roomy reached).1⟩

/-- A batch that is put back into a buffer that filled up in the meantime pushes out the newest
lines, and nobody counts them. -/
theorem restored_batch_loses_newest :
    ¬ ∀ capacity state, (system capacity).Reachable System.unguarded state →
      Conserved state ∧ ∀ action after, step state action = some after →
        DropsOldest state action after := by
  intro always
  obtain ⟨state, reached, shown⟩ : ∃ state, (system 2).Reachable System.unguarded state ∧
      (state.flush.isNone && decide (state.captured + state.storedBefore ≠
        state.rows.length + state.sink.pending + state.sink.dropped)) = true := by
    refine System.exists_of_runFrom rfl
      (flushing ++ [line "third", line "fourth", .databaseError]) _ ?_
    decide
  obtain ⟨idle, unequal⟩ := Bool.and_eq_true_iff.mp shown
  have conserved := (always 2 state reached).1 (Option.isNone_iff_eq_none.mp idle)
  exact of_decide_eq_true unequal conserved

end ProxSync.Logs
