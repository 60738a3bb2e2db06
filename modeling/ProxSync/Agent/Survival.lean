import ProxSync.Agent.Journal
import ProxSync.Lib.Format
import ProxSync.Lib.System
import ProxSync.Lib.Utf8
/-!
# Survival of child processes

While a child runs, what it writes is read line by line into the log of its task, and each line is
handed on. What the handler raises is logged. A line that is longer than the reader's limit and a
log that cannot be written raise where nothing expects it, and then the child is terminated as if
the agent were stopping. Where every line is short enough and the log can be written, only the
timer, a cancel request and the shutdown end a child, and its exit code is reported.
-/
open ProxSync.Lib

namespace ProxSync.Agent.Survival

/-- What reading a line or writing the log raises; one of them is what the timer raises too. -/
inductive Fault
  | valueError
  | osError
  | timeoutError
  deriving DecidableEq, Repr

/-- What a run of a child gives. -/
structure ProcessResult where
  exitCode : ℤ
  timedOut : Bool
  cancelled : Bool
  lastLines : List String
  deriving DecidableEq, Repr

/-- Why the runner terminates a child. -/
inductive Cause
  | timeout
  | shutdown
  | fault (raised : Fault)
  deriving DecidableEq, Repr

/-- How the runner leaves. -/
inductive Outcome
  | returned (result : ProcessResult)
  | cancelledError
  | raised (fault : Fault)
  deriving DecidableEq, Repr

/-- Where the runner is. -/
inductive Phase
  | pumping
  | waiting
  | terminating (cause : Cause)
  | done (outcome : Outcome)
  deriving DecidableEq, Repr

/-- The command, the limit of the reader, the number of lines that are kept and the timer. -/
structure Config where
  command : List String
  limit : ℕ
  tailLines : ℕ
  timeoutSeconds : ℕ

/-- A child and its runner. -/
structure RunState where
  /-- What was written and is not read yet. -/
  buffer : List UInt8
  closed : Bool
  /-- The exit code, once there is one. -/
  child : Option ℤ
  log : List String
  tail : List String
  phase : Phase
  expired : Bool
  cancelRequested : Bool
  stopping : Bool
  /-- Whether the child was sent a signal while it ran. -/
  terminated : Bool
  deriving DecidableEq, Repr

/-! ## Reading -/

/-- What reading a line gives. -/
inductive Reading
  | pending
  | overrun
  | finished
  | line (raw rest : List UInt8)
  deriving DecidableEq, Repr

/-- Read a line, which ends at a line feed or with the stream. -/
def readLine (limit : ℕ) (buffer : List UInt8) (closed : Bool) : Reading :=
  let content := buffer.takeWhile (· ≠ 10)
  if limit < content.length then .overrun
  else if content.length < buffer.length then
    .line (buffer.take (content.length + 1)) (buffer.drop (content.length + 1))
  else if closed then (if buffer = [] then .finished else .line buffer [])
  else .pending

/-- A text without the line feeds at its end. -/
def dropNewlines (text : String) : String :=
  .ofList (text.toList.reverse.dropWhile (· == '\n')).reverse

/-- The last lines, with one more. -/
def keepTail (limit : ℕ) (tail : List String) (line : String) : List String :=
  let longer := tail ++ [line]
  if limit < longer.length then longer.tail else longer

/-- What a handed line meets: what feeding the parser gives, whether the journal is written, and the
task and the file system it is written with. -/
structure Handling where
  fed : Except PyError Bool
  persist : Bool
  texts : Texts
  disk : Disk
  now : DateTime
  task : Task

/-- Hand a line on: where the parser took something from it the progress is updated. -/
def onLine (handling : Handling) : Except PyError Unit := do
  let updated ← handling.fed
  if updated && handling.persist then do
    let _ ← TaskRegistry.persist handling.texts handling.disk handling.now handling.task
    .ok ()
  else .ok ()

/-! ## Steps -/

/-- What happens to a child and its runner. -/
inductive RunAction
  | output (chunk : List UInt8)
  | close
  | exit (code : ℤ)
  | pump (written : Except Fault Unit) (handling : Handling)
  | reap (closed : Except Fault Unit)
  | expire
  | cancel
  | stop
  | conclude (written closed : Except Fault Unit)

/-- Whether the runner still looks after its child. -/
def Phase.attending : Phase → Bool
  | .pumping | .waiting => true
  | .terminating _ | .done _ => false

/-- Send the group of a child a signal; a child that is gone does not get it. -/
def signal (state : RunState) : RunState :=
  { state with terminated := state.terminated || state.child.isNone }

/-- Terminate a child. -/
def terminate (state : RunState) (cause : Cause) : RunState :=
  { signal state with phase := .terminating cause }

/-- Why a child is terminated when something is raised; what the timer raises is taken for it. -/
def causeOf : Fault → Cause
  | .timeoutError => .timeout
  | raised => .fault raised

/-- Leave once the log is closed. -/
def leave (state : RunState) (closed : Except Fault Unit) (outcome : Outcome) : RunState :=
  match closed with
  | .ok () => { state with phase := .done outcome }
  | .error raised => { state with phase := .done (.raised raised) }

/-- The result of a child that exited. -/
def resultOf (state : RunState) (code : ℤ) (timedOut : Bool) : ProcessResult where
  exitCode := code
  timedOut := timedOut
  cancelled := state.cancelRequested
  lastLines := state.tail

/-- Pump one line into the log. -/
def pump (config : Config) (state : RunState) (written : Except Fault Unit)
    (handling : Handling) : Option RunState :=
  match readLine config.limit state.buffer state.closed with
  | .pending => none
  | .overrun => some (terminate state (.fault .valueError))
  | .finished => some { state with phase := .waiting }
  | .line raw rest =>
    let line := dropNewlines (decodeReplace raw)
    match written, onLine handling with
    | .error raised, _ => some (terminate { state with buffer := rest } (causeOf raised))
    -- What the handler raises is logged.
    | .ok (), .ok () | .ok (), .error _ =>
      some { state with
        buffer := rest
        log := state.log ++ [line]
        tail := keepTail config.tailLines state.tail line }

/-- Leave after a child was terminated. -/
def conclude (config : Config) (state : RunState) (cause : Cause) (code : ℤ)
    (written closed : Except Fault Unit) : RunState :=
  match cause, written with
  | .timeout, .ok () =>
    let note := s!"[proxsync] terminated after {config.timeoutSeconds}s timeout"
    leave { state with log := state.log ++ ["", note] } closed
      (.returned (resultOf state code true))
  | .timeout, .error raised => leave state closed (.raised raised)
  | .shutdown, _ => leave state closed .cancelledError
  | .fault raised, _ => leave state closed (.raised raised)

/-- A step of a child or its runner. -/
def runStep (config : Config) (state : RunState) : RunAction → Option RunState
  | .output chunk =>
    if state.closed then none else some { state with buffer := state.buffer ++ chunk }
  | .close => if state.closed then none else some { state with closed := true }
  | .exit code => if state.child.isSome then none else some { state with child := some code }
  | .pump written handling =>
    if state.phase = .pumping then pump config state written handling else none
  | .reap closed =>
    match state.phase, state.child with
    | .waiting, some code => some (leave state closed (.returned (resultOf state code false)))
    | _, _ => none
  | .expire =>
    if state.phase.attending then some (terminate { state with expired := true } .timeout)
    else none
  | .cancel =>
    match state.phase, state.child with
    | .done _, _ | _, some _ => none
    | _, none => some { signal state with cancelRequested := true }
  | .stop =>
    if state.phase.attending then some (terminate { state with stopping := true } .shutdown)
    else none
  | .conclude written closed =>
    match state.phase, state.child with
    | .terminating cause, some code => some (conclude config state cause code written closed)
    | _, _ => none

/-- A child that was just started, with its command at the head of the log. -/
def started (config : Config) : RunState :=
  ⟨[], false, none, ["$ " ++ joined " " config.command], [], .pumping, false, false, false, false⟩

/-- The runs of a child. -/
def childRun (config : Config) : System RunState RunAction where
  init := (· = started config)
  step := runStep config

/-! ## Survival -/

/-- Whether nothing came that ends a child. -/
def Untouched (state : RunState) : Prop :=
  state.expired = false ∧ state.cancelRequested = false ∧ state.stopping = false

/-- A child is terminated only for the timer, a cancel request or the shutdown, and otherwise its
exit code is reported. -/
def Survives (state : RunState) : Prop :=
  Untouched state → state.terminated = false ∧ ∀ outcome, state.phase = .done outcome →
    ∃ code, state.child = some code ∧ outcome = .returned ⟨code, false, false, state.tail⟩

/-- The lines that are read are short enough, and the log can be written and closed. -/
def Keeps (config : Config) (state : RunState) : RunAction → Prop
  | .pump written _ =>
    readLine config.limit state.buffer state.closed ≠ .overrun ∧ written = .ok ()
  | .reap closed => closed = .ok ()
  | _ => True

variable {config : Config} {state after : RunState} {action : RunAction}

instance : Decidable (Keeps config state action) :=
  match action with
  | .pump written _ => inferInstanceAs (Decidable (_ ∧ written = .ok ()))
  | .reap closed => inferInstanceAs (Decidable (closed = .ok ()))
  | .output _ | .close | .exit _ | .expire | .cancel | .stop | .conclude _ _ => .isTrue trivial

/-- No part of a stream is without a line feed for longer than a limit. -/
def LinesFit (limit : ℕ) (buffer : List UInt8) : Prop :=
  ∀ part, part <:+: buffer → 10 ∉ part → part.length ≤ limit

/-- What a run keeps: nothing is terminated unless something came that ends a child. -/
structure Kept (state : RunState) : Prop where
  running : Untouched state → state.terminated = false
  attended : Untouched state → ∀ cause, state.phase ≠ .terminating cause
  reported : Untouched state → ∀ outcome, state.phase = .done outcome →
    ∃ code, state.child = some code ∧ outcome = .returned ⟨code, false, false, state.tail⟩

/-- Leaving touches nothing. -/
theorem untouched_leave {closed : Except Fault Unit} {outcome : Outcome} :
    Untouched (leave state closed outcome) ↔ Untouched state := by
  cases closed <;> rfl

/-- Concluding touches nothing. -/
theorem untouched_conclude {cause : Cause} {code : ℤ} {written closed : Except Fault Unit} :
    Untouched (conclude config state cause code written closed) ↔ Untouched state := by
  cases cause <;> cases written <;> exact untouched_leave

/-- A runner that attends to its child keeps what a run keeps if nothing was terminated. -/
theorem kept_of_attending (attends : state.phase.attending = true)
    (running : Untouched state → state.terminated = false) : Kept state where
  running := running
  attended := by
    intro _ cause terminating
    rw [terminating] at attends
    cases attends
  reported := by
    intro _ outcome ended
    rw [ended] at attends
    cases attends

/-- A state in which something came that ends a child promises nothing. -/
theorem kept_of_touched (touched : ¬ Untouched state) : Kept state where
  running untouched := absurd untouched touched
  attended untouched := absurd untouched touched
  reported untouched := absurd untouched touched

/-- Pumping a line that is short enough into a log that can be written goes on. -/
theorem kept_of_pump {written : Except Fault Unit} {handling : Handling} (kept : Kept state)
    (pumping : state.phase = .pumping)
    (short : readLine config.limit state.buffer state.closed ≠ .overrun) (wrote : written = .ok ())
    (pumped : pump config state written handling = some after) : Kept after := by
  unfold pump at pumped
  split at pumped
  · cases pumped
  · rename_i overrun
    exact absurd overrun short
  · obtain rfl := Option.some.inj pumped
    exact kept_of_attending rfl kept.running
  · dsimp only at pumped
    split at pumped
    · cases wrote
    · obtain rfl := Option.some.inj pumped
      exact kept_of_attending (by rw [pumping]; rfl) kept.running
    · obtain rfl := Option.some.inj pumped
      exact kept_of_attending (by rw [pumping]; rfl) kept.running

/-- A step that keeps the condition keeps what a run keeps. -/
theorem kept_of_step (kept : Kept state) (keeps : Keeps config state action)
    (stepped : runStep config state action = some after) : Kept after := by
  cases action with
  | output chunk =>
    rw [runStep, Option.ite_none_left_eq_some] at stepped
    obtain ⟨-, stepped⟩ := stepped
    obtain rfl := Option.some.inj stepped
    exact ⟨kept.running, kept.attended, kept.reported⟩
  | close =>
    rw [runStep, Option.ite_none_left_eq_some] at stepped
    obtain ⟨-, stepped⟩ := stepped
    obtain rfl := Option.some.inj stepped
    exact ⟨kept.running, kept.attended, kept.reported⟩
  | exit code =>
    rw [runStep, Option.ite_none_left_eq_some] at stepped
    obtain ⟨alive, stepped⟩ := stepped
    obtain rfl := Option.some.inj stepped
    refine ⟨kept.running, kept.attended, ?_⟩
    intro untouched outcome ended
    obtain ⟨earlier, exited, -⟩ := kept.reported untouched outcome ended
    exact absurd (by rw [exited]; rfl) alive
  | pump written handling =>
    rw [runStep, Option.ite_none_right_eq_some] at stepped
    obtain ⟨pumping, pumped⟩ := stepped
    exact kept_of_pump kept pumping keeps.1 keeps.2 pumped
  | reap closed =>
    rw [runStep] at stepped
    split at stepped
    · rename_i code waiting exited
      obtain rfl : closed = .ok () := keeps
      obtain rfl := Option.some.inj stepped
      refine ⟨kept.running, ?_, ?_⟩
      · intro _ cause terminating
        cases terminating
      · intro untouched outcome ended
        obtain rfl := Phase.done.inj ended
        refine ⟨code, exited, ?_⟩
        show Outcome.returned ⟨code, false, state.cancelRequested, state.tail⟩ = _
        rw [show state.cancelRequested = false from untouched.2.1]
        rfl
    · cases stepped
  | expire =>
    rw [runStep, Option.ite_none_right_eq_some] at stepped
    obtain rfl := Option.some.inj stepped.2
    apply kept_of_touched
    intro untouched
    cases untouched.1
  | cancel =>
    rw [runStep] at stepped
    split at stepped
    · cases stepped
    · cases stepped
    · obtain rfl := Option.some.inj stepped
      apply kept_of_touched
      intro untouched
      cases untouched.2.1
  | stop =>
    rw [runStep, Option.ite_none_right_eq_some] at stepped
    obtain rfl := Option.some.inj stepped.2
    apply kept_of_touched
    intro untouched
    cases untouched.2.2
  | conclude written closed =>
    rw [runStep] at stepped
    split at stepped
    · rename_i cause code terminating exited
      obtain rfl := Option.some.inj stepped
      apply kept_of_touched
      intro untouched
      exact kept.attended (untouched_conclude.mp untouched) cause terminating
    · cases stepped

/-- Every run whose steps meet the condition keeps it. -/
theorem kept_of_reachable (reached : (childRun config).Reachable (Keeps config) state) :
    Kept state := by
  apply reached.invariant_alone
  constructor
  · rintro _ rfl
    exact kept_of_attending rfl fun _ => rfl
  · intro _ _ _ _ kept keeps stepped
    exact kept_of_step kept keeps stepped

/-! ## Reporting -/

/-- Lines that fit are read, and what is left fits too. -/
theorem readLine_of_fit {limit : ℕ} {buffer : List UInt8} (fit : LinesFit limit buffer)
    (some : buffer ≠ []) : ∃ raw rest, readLine limit buffer true = .line raw rest ∧
      rest.length < buffer.length ∧ LinesFit limit rest := by
  have short : (buffer.takeWhile (· ≠ 10)).length ≤ limit := by
    apply fit _ (List.takeWhile_prefix _).isInfix
    intro inside
    have other := List.mem_takeWhile_imp inside
    simp at other
  have filled := List.length_pos_iff.mpr some
  unfold readLine
  rw [if_neg (Nat.not_lt.mpr short)]
  split
  · refine ⟨_, _, rfl, ?_, ?_⟩
    · rw [List.length_drop]
      omega
    · intro part inside
      exact fit part (inside.trans (List.drop_suffix _ _).isInfix)
  · rw [if_pos rfl]
    refine ⟨_, _, rfl, filled, ?_⟩
    intro part inside _
    rw [List.infix_nil.mp inside]
    exact Nat.zero_le _

/-- Pumping a line that was read goes on behind it, whatever its handler raises. -/
theorem pump_of_line {raw rest : List UInt8} (handling : Handling)
    (read : readLine config.limit state.buffer state.closed = .line raw rest) :
    pump config state (.ok ()) handling = some { state with
      buffer := rest
      log := state.log ++ [dropNewlines (decodeReplace raw)]
      tail := keepTail config.tailLines state.tail (dropNewlines (decodeReplace raw)) } := by
  unfold pump
  rw [read]
  dsimp only
  cases onLine handling <;> rfl

/-- One step that keeps the condition. -/
theorem reachable_step (keeps : Keeps config state action)
    (stepped : runStep config state action = some after) :
    ((childRun config).startingAt state).Reachable (Keeps config) after :=
  .next (.start rfl) keeps stepped

/-- What is left of a closed stream is pumped. -/
theorem exists_pumped (handling : Handling) (size : ℕ) : ∀ {state : RunState},
    state.buffer.length ≤ size → state.phase = .pumping → state.closed = true →
    LinesFit config.limit state.buffer → ∃ after,
      ((childRun config).startingAt state).Reachable (Keeps config) after ∧
        after.phase = .waiting ∧ after.child = state.child ∧
        (Untouched after ↔ Untouched state) := by
  induction size with
  | zero =>
    intro state empty pumping closed _
    have read : readLine config.limit state.buffer state.closed = .finished := by
      rw [List.length_eq_zero_iff.mp (Nat.le_zero.mp empty), closed]
      rfl
    refine ⟨{ state with phase := .waiting }, ?_, rfl, rfl, Iff.rfl⟩
    have short : readLine config.limit state.buffer state.closed ≠ .overrun := by
      rw [read]
      exact Reading.noConfusion
    have keeps : Keeps config state (.pump (.ok ()) handling) := ⟨short, rfl⟩
    apply reachable_step keeps
    rw [runStep, if_pos pumping, pump, read]
  | succ size ih =>
    intro state bounded pumping closed fit
    by_cases empty : state.buffer = []
    · exact ih (by rw [empty]; exact Nat.zero_le _) pumping closed fit
    · have read := readLine_of_fit fit empty
      rw [← closed] at read
      obtain ⟨raw, rest, read, shorter, fits⟩ := read
      have first : runStep config state (.pump (.ok ()) handling) = _ :=
        (if_pos pumping).trans (pump_of_line handling read)
      have short : readLine config.limit state.buffer state.closed ≠ .overrun := by
        rw [read]
        exact Reading.noConfusion
      have keeps : Keeps config state (.pump (.ok ()) handling) := ⟨short, rfl⟩
      have step := reachable_step keeps first
      obtain ⟨after, onward, waiting, child, untouched⟩ :=
        @ih { state with
          buffer := rest
          log := state.log ++ [dropNewlines (decodeReplace raw)]
          tail := keepTail config.tailLines state.tail (dropNewlines (decodeReplace raw)) }
          (Nat.le_of_lt_succ (shorter.trans_le bounded)) pumping closed fits
      exact ⟨after, step.onward onward, waiting, child, untouched⟩

/-- A child is terminated only for the timer, a cancel request or the shutdown, in every run in
which the lines are short enough and the log can be written; and where it exited otherwise and
closed its stream, the run goes on to report its exit code, whatever the handler raises. -/
theorem survives_of_keeps (reached : (childRun config).Reachable (Keeps config) state) :
    Survives state ∧ ∀ (code : ℤ) (_ : Handling), Untouched state → state.child = some code →
      state.closed = true → LinesFit config.limit state.buffer →
      ∃ after, ((childRun config).startingAt state).Reachable (Keeps config) after ∧
        after.phase = .done (.returned ⟨code, false, false, after.tail⟩) := by
  have kept := kept_of_reachable reached
  refine ⟨fun untouched => ⟨kept.running untouched, kept.reported untouched⟩, ?_⟩
  intro code handling untouched exited closed fit
  have reported : ∀ {waiting : RunState},
      ((childRun config).startingAt state).Reachable (Keeps config) waiting →
      waiting.phase = .waiting → waiting.child = some code → Untouched waiting → ∃ after,
        ((childRun config).startingAt state).Reachable (Keeps config) after ∧
          after.phase = .done (.returned ⟨code, false, false, after.tail⟩) := by
    intro waiting onward phase child calm
    have step : runStep config waiting (.reap (.ok ())) =
        some (leave waiting (.ok ()) (.returned (resultOf waiting code false))) := by
      rw [runStep, phase, child]
    have keeps : Keeps config waiting (.reap (.ok ())) := rfl
    refine ⟨_, onward.onward (reachable_step keeps step), ?_⟩
    show Phase.done (.returned ⟨code, false, waiting.cancelRequested, waiting.tail⟩) = _
    rw [calm.2.1]
    rfl
  cases phase : state.phase with
  | pumping =>
    obtain ⟨waiting, onward, arrived, child, calm⟩ :=
      exists_pumped handling _ le_rfl phase closed fit
    exact reported onward arrived (child.trans exited) (calm.mpr untouched)
  | waiting => exact reported (.start rfl) phase exited untouched
  | terminating cause => exact absurd phase (kept.attended untouched cause)
  | done outcome =>
    obtain ⟨earlier, known, rfl⟩ := kept.reported untouched outcome phase
    obtain rfl := Option.some.inj (known.symm.trans exited)
    exact ⟨state, .start rfl, phase⟩

/-- A handler that fails on every write of the journal. -/
def failing : Handling where
  fed := .ok true
  persist := true
  texts := dottedTexts
  disk := ⟨fun _ => .error .osError, .error .osError, fun _ => .error .osError,
    fun _ => .error .osError, fun _ => .error .osError, fun _ => .error .osError,
    fun path name => path == name, .ok⟩
  now := .utc 0
  task := ⟨"1", .restoreVm, .running, Path.parse "/var/log/1.log", .utc 0, some (.utc 0), none,
    .none, .none, .none, .none, .empty, [], []⟩

/-- The reader of a restore. -/
def restoring : Config := ⟨["/usr/sbin/qmrestore"], 65536, 40, 3600⟩

/-- A restore whose lines are handed on while the journal cannot be written. -/
theorem survives_of_keeps_restore : ∃ state, Survives state ∧
    state.phase = .done (.returned ⟨0, false, false, ["progress 100%"]⟩) := by
  obtain ⟨state, reached, phase⟩ : ∃ state, (childRun restoring).Reachable (Keeps restoring) state ∧
      (state.phase == .done (.returned ⟨0, false, false, ["progress 100%"]⟩)) = true := by
    apply System.exists_of_runFrom rfl [.output "progress 100%\n".toUTF8.toList,
      .pump (.ok ()) failing, .exit 0, .close, .pump (.ok ()) failing, .reap (.ok ())]
    decide +kernel
  exact ⟨state, (survives_of_keeps reached).1, by simpa using phase⟩

/-- A log that cannot be written ends the child. -/
theorem not_survives_of_full_disk : ∃ state,
    (childRun restoring).Reachable System.unguarded state ∧ ¬ Survives state := by
  obtain ⟨state, reached, killed⟩ : ∃ state,
      (childRun restoring).Reachable System.unguarded state ∧
        (state.terminated && !state.expired && !state.cancelRequested &&
          !state.stopping) = true := by
    apply System.exists_of_runFrom rfl [.output "progress 1%\n".toUTF8.toList,
      .pump (.error .osError) failing]
    decide +kernel
  simp only [Bool.and_eq_true, Bool.not_eq_true'] at killed
  refine ⟨state, reached, ?_⟩
  intro survives
  have alive := (survives ⟨killed.1.1.2, killed.1.2, killed.2⟩).1
  rw [killed.1.1.1] at alive
  cases alive

end ProxSync.Agent.Survival
