import ProxSync.Lib.Recurrence
import ProxSync.Lib.System
import ProxSync.Schemas
/-!
# Catching up after a restart

A job stores the next instant it fires at, and the schedule in memory is rebuilt from its
expression. What was missed while the process was down is inferred from the stored instant before a
restart refreshes it. The model follows one enabled job through fires, edits, rebuilt schedules,
stops and restarts, each with its commits apart, and remembers the first instant that nothing has
dealt with, which the program does not store.
-/
open ProxSync.Lib

namespace ProxSync.Scheduler

/-- A cron expression with its timezone, as the instants it fires at. -/
abbrev Cron := Recurrence Instant

/-- The row of the job. -/
structure BackupJob where
  cron : Cron
  lastRunAt : Option Instant
  nextRunAt : Option Instant

/-- One restart: what it found, and how many runs it requested for what was missed. -/
structure Restart where
  cron : Cron
  /-- The first instant that was not dealt with before. -/
  pending : Instant
  collectedAt : Instant
  /-- How late the stored instant is, if it has passed. -/
  lateBy : Option Nat
  /-- When the schedule in memory was rebuilt. -/
  resumedAt : Instant
  requested : Nat

/-- How far the process is. -/
inductive Phase
  | down
  /-- Missed schedules are collected. -/
  | collected (restart : Restart)
  /-- The stored instant is refreshed. -/
  | committed (restart : Restart)
  /-- The schedule is rebuilt. -/
  | registered (restart : Restart)
  | up
  /-- The stored instant is refreshed, and the schedule is about to be rebuilt. -/
  | resyncing

/-- What the scheduler is configured with. -/
structure Config where
  misfireGraceSeconds : Nat

/-- The grace period in the unit of instants. -/
def Config.grace (config : Config) : Nat := config.misfireGraceSeconds * 1000000

/-- The clock, the stored row and the process. -/
structure State where
  now : Instant
  job : BackupJob
  phase : Phase
  /-- The next instant of the schedule in memory. -/
  timer : Instant
  /-- The instant a fire in progress was started for. -/
  firing : Option Instant
  /-- The first instant that nothing has dealt with. -/
  pending : Instant
  restarts : List Restart

/-- What may happen next. -/
inductive Action
  | wait (until_ : Instant)
  /-- The schedule in memory is due. -/
  | tick
  /-- A fire commits, or its request is rejected. -/
  | fired (accepted : Bool)
  /-- The job gets another expression, and the schedule is rebuilt. -/
  | edit (cron : Cron)
  /-- The stored instant is refreshed. -/
  | syncJobs
  /-- The schedule in memory is rebuilt. -/
  | addJob
  | start
  /-- What was missed is fired, if it is not too late. -/
  | fireMissed (accepted : Bool)
  /-- The process stops or dies. -/
  | crash

/-- Whether a restart fires what was missed. -/
def Restart.due (config : Config) (restart : Restart) : Bool :=
  restart.lateBy.any (· ≤ config.grace)

/-- Whether a restart has still to fire what was missed. -/
def Phase.owes (config : Config) : Phase → Bool
  | .committed restart | .registered restart => restart.due config
  | _ => false

/-- The restart under way. -/
def Phase.restart : Phase → Option Restart
  | .collected restart | .committed restart | .registered restart => some restart
  | _ => none

/-- Whether the stored instant still stands as the last process left it. -/
def Phase.untouched : Phase → Bool
  | .down | .collected _ => true
  | _ => false

/-- Whether the schedule in memory runs. -/
def Phase.running : Phase → Bool
  | .registered _ | .up | .resyncing => true
  | _ => false

namespace State

/-- Move on to the first instant that is not dealt with. -/
def settle (config : Config) (state : State) : State :=
  if state.phase.owes config then state
  else { state with pending := state.firing.getD state.timer }

/-- Record a run that is requested now, unless it was rejected. -/
def record (state : State) (accepted : Bool) : State :=
  if accepted then
    { state with
      job.lastRunAt := some state.now, job.nextRunAt := some (state.job.cron.next state.now) }
  else state

/-- Start a fire for the latest instant that is due, unless it is too late or another fire of the
job is in progress. -/
def tick (config : Config) (state : State) : State :=
  let prompt := state.job.cron.next (state.now - config.grace) ≤ state.now
  let spawned := decide prompt && state.firing.isNone
  State.settle config { state with
    timer := state.job.cron.next (state.now + 1)
    firing := if spawned then some state.timer else state.firing }

/-- How late the stored instant is, if it has passed. -/
def lateBy (state : State) : Option Nat :=
  state.job.nextRunAt.bind fun stored =>
    if stored < state.now then some (state.now - stored) else none

/-- Rebuild the schedule in memory. -/
def rebuild (config : Config) (state : State) (phase : Phase) : State :=
  State.settle config { state with timer := state.job.cron.next state.now, phase }

/-- Fire what was missed, and go into service. -/
def fireMissed (config : Config) (state : State) (restart : Restart) (accepted : Bool) : State :=
  let due := restart.due config
  let done := { restart with requested := if due then 1 else 0 }
  State.settle config { (if due then state.record accepted else state) with
    phase := .up, restarts := done :: state.restarts }

end State

/-- The effect of one action, or nothing where it cannot happen. -/
def step (config : Config) (state : State) : Action → Option State
  | .wait until_ => if state.now ≤ until_ then some { state with now := until_ } else none
  | .tick =>
    if state.phase.running ∧ state.timer ≤ state.now then some (state.tick config) else none
  | .fired accepted =>
    if state.phase.running ∧ state.firing.isSome then
      some (State.settle config { state.record accepted with firing := none })
    else none
  | .edit cron =>
    match state.phase with
    | .up =>
      let job : BackupJob := { state.job with cron, nextRunAt := some (cron.next state.now) }
      some (State.rebuild config { state with job } .up)
    | _ => none
  | .syncJobs =>
    let refreshed := { state with job.nextRunAt := some (state.job.cron.next state.now) }
    match state.phase with
    | .collected restart =>
      some { refreshed with
        phase := .committed restart
        -- What is too late is forgone here.
        pending := if restart.due config then state.pending else state.job.cron.next state.now }
    | .up => some { refreshed with phase := .resyncing }
    | _ => none
  | .addJob =>
    match state.phase with
    | .committed restart =>
      some (state.rebuild config (.registered { restart with resumedAt := state.now }))
    | .resyncing => some (state.rebuild config .up)
    | _ => none
  | .start =>
    match state.phase with
    | .down =>
      let restart : Restart :=
        ⟨state.job.cron, state.pending, state.now, state.lateBy, state.now, 0⟩
      some { state with phase := .collected restart }
    | _ => none
  | .fireMissed accepted =>
    match state.phase with
    | .registered restart => some (state.fireMissed config restart accepted)
    | _ => none
  | .crash =>
    match state.phase with
    | .down => none
    | _ => some { state with phase := .down, firing := none }

/-- A job that was just created, in a process that serves requests. -/
def system (config : Config) : System State Action where
  init state := ∃ now cron, state =
    ⟨now, ⟨cron, none, some (cron.next now)⟩, .up, cron.next now, none, cron.next now, []⟩
  step := step config

/-- What a restart has to request: one run if the latest instant it missed is at most the grace
period old, and none if that instant is older or nothing was missed. -/
structure Restart.Right (config : Config) (restart : Restart) : Prop where
  one : ∀ instant, restart.cron.IsLatest restart.pending restart.resumedAt instant →
    restart.collectedAt ≤ instant + config.grace → restart.requested = 1
  late : ∀ instant, restart.cron.IsLatest restart.pending restart.resumedAt instant →
    instant + config.grace < restart.collectedAt → restart.requested = 0
  none : (∀ instant, restart.cron.fires instant → restart.pending ≤ instant →
    restart.resumedAt ≤ instant) → restart.requested = 0

/-- Every restart requested what it had to. -/
def CaughtUp (config : Config) (state : State) : Prop :=
  ∀ restart ∈ state.restarts, restart.Right config

/-- Whether an action keeps what the stored instant says about missed instants. -/
def kept (config : Config) (state : State) : Action → Bool
  | .crash => state.job.nextRunAt == some state.pending
  | .start =>
    let promptly := state.job.cron.next (state.now - config.grace) < state.now
    !(state.pending < state.now && promptly) || state.now ≤ state.pending + config.grace
  | .addJob =>
    match state.phase with
    | .committed restart =>
      state.job.cron.next restart.collectedAt == state.job.cron.next state.now
    | _ => true
  | _ => true

/-- The process stops only while the stored instant is the first one that nothing has dealt with; no
instant passes while a restart rebuilds the schedule; and where the latest missed instant is at most
the grace period old when a process starts, the first is as well. -/
def Kept (config : Config) (state : State) (action : Action) : Prop :=
  kept config state action = true

instance (config : Config) (state : State) (action : Action) :
    Decidable (Kept config state action) :=
  inferInstanceAs (Decidable (_ = true))

/-! ## One restart -/

section Restarts

variable {config : Config} {state after : State} {action : Action} {restart : Restart}

/-- A restart that has read the right instant. -/
structure Restart.Begun (config : Config) (restart : Restart) : Prop where
  fires : restart.cron.fires restart.pending
  late : restart.lateBy =
    if restart.pending < restart.collectedAt then
      some (restart.collectedAt - restart.pending)
    else Option.none
  /-- The latest missed instant is not prompt where the first is not. -/
  agree : ∀ instant, restart.cron.fires instant → restart.pending < restart.collectedAt →
    instant < restart.collectedAt → restart.collectedAt ≤ instant + config.grace →
    restart.collectedAt ≤ restart.pending + config.grace

/-- A restart is due exactly when it missed an instant and the first is not too late. -/
theorem Restart.Begun.due_iff (begun : restart.Begun config) : restart.due config = true ↔
    restart.pending < restart.collectedAt ∧
      restart.collectedAt ≤ restart.pending + config.grace := by
  unfold Restart.due
  rw [begun.late]
  split
  · rename_i missed
    rw [Option.any_some, decide_eq_true_eq, Nat.sub_le_iff_le_add, Nat.add_comm]
    exact ⟨fun prompt => ⟨missed, prompt⟩, And.right⟩
  · rename_i early
    exact ⟨fun due => Bool.noConfusion due, fun both => absurd both.1 early⟩

/-- A restart that has read the right instant, and rebuilds the schedule before another one passes,
requests what it has to. -/
theorem Restart.Begun.right (begun : restart.Begun config)
    (ordered : restart.collectedAt ≤ restart.resumedAt)
    (quiet : restart.cron.next restart.collectedAt = restart.cron.next restart.resumedAt) :
    Restart.Right config { restart with requested := if restart.due config then 1 else 0 } := by
  have earlier {instant : Instant} (fires : restart.cron.fires instant)
      (before : instant < restart.resumedAt) : instant < restart.collectedAt := by
    by_contra later
    exact absurd (Recurrence.not_fires_of_next_eq quiet fires (not_lt.mp later)) (not_le.mpr before)
  constructor
  · intro instant latest prompt
    have before := earlier latest.fires latest.before
    have missed := latest.after.trans_lt before
    have first := begun.agree instant latest.fires missed before prompt
    rw [if_pos (begun.due_iff.mpr ⟨missed, first⟩)]
  · intro instant latest old
    apply if_neg
    intro due
    have prompt := (begun.due_iff.mp due).2
    have below : restart.pending + config.grace ≤ instant + config.grace :=
      Nat.add_le_add_right latest.after _
    exact absurd (prompt.trans below) (not_le.mpr old)
  · intro nothing
    apply if_neg
    intro due
    have missed := (begun.due_iff.mp due).1
    exact absurd (nothing restart.pending begun.fires le_rfl)
      (not_le.mpr (missed.trans_le ordered))

/-! ## Every step -/

/-- A restart under way has read the right instant of the stored expression. -/
structure Underway (config : Config) (state : State) (restart : Restart) : Prop where
  begun : restart.Begun config
  cron : restart.cron = state.job.cron
  past : restart.collectedAt ≤ state.now

/-- What every reached state satisfies while the stored instant is kept. -/
structure Sound (config : Config) (state : State) : Prop where
  stored : ∀ instant, state.job.nextRunAt = some instant → state.job.cron.fires instant
  /-- Until a restart refreshes the stored instant, nothing has dealt with it. -/
  untouched : state.phase.untouched = true → state.job.nextRunAt = some state.pending
  underway : ∀ restart, state.phase.restart = some restart → Underway config state restart
  quiet : ∀ restart, state.phase = .registered restart →
    restart.collectedAt ≤ restart.resumedAt ∧
      restart.cron.next restart.collectedAt = restart.cron.next restart.resumedAt
  caughtUp : CaughtUp config state

/-- Moving on is sound once the stored instant is refreshed. -/
theorem Sound.settle (sound : Sound config state) (refreshed : state.phase.untouched = false) :
    Sound config (State.settle config state) := by
  unfold State.settle
  split
  · exact sound
  · constructor
    · exact sound.stored
    · exact fun untouched => Bool.noConfusion (untouched.symm.trans refreshed)
    · intro restart underway
      have before := sound.underway restart underway
      exact ⟨before.begun, before.cron, before.past⟩
    · exact sound.quiet
    · exact sound.caughtUp

/-- A process that is up is sound if its stored instant is one of the expression. -/
theorem sound_of_up (alive : state.phase = .up ∨ state.phase = .resyncing)
    (stored : ∀ instant, state.job.nextRunAt = some instant → state.job.cron.fires instant)
    (caughtUp : CaughtUp config state) : Sound config state := by
  constructor
  · exact stored
  · intro untouched
    rcases alive with alive | alive <;> rw [alive] at untouched <;> cases untouched
  · intro restart underway
    rcases alive with alive | alive <;> rw [alive] at underway <;> cases underway
  · intro restart registered
    rcases alive with alive | alive <;> rw [alive] at registered <;> cases registered
  · exact caughtUp

/-- A process whose schedule runs has refreshed the stored instant. -/
theorem untouched_of_running {phase : Phase} (running : phase.running = true) :
    phase.untouched = false := by
  cases phase with
  | down | collected | committed => cases running
  | registered | up | resyncing => rfl

/-- A running schedule keeps its phase and its expression sound. -/
theorem Sound.live (sound : Sound config state) (running : state.phase.running = true)
    {later : State} (phase : later.phase = state.phase) (cron : later.job.cron = state.job.cron)
    (now : state.now ≤ later.now) (restarts : later.restarts = state.restarts)
    (stored : ∀ instant, later.job.nextRunAt = some instant → state.job.cron.fires instant) :
    Sound config later := by
  constructor
  · rw [cron]
    exact stored
  · rw [phase]
    intro untouched
    exact Bool.noConfusion (untouched.symm.trans (untouched_of_running running))
  · rw [phase]
    intro restart underway
    have before := sound.underway restart underway
    exact ⟨before.begun, before.cron.trans cron.symm, before.past.trans now⟩
  · rw [phase]
    exact sound.quiet
  · rw [CaughtUp, restarts]
    exact sound.caughtUp

/-- A refreshed instant is one of the expression. -/
theorem fires_of_refreshed (cron : Cron) (now instant : Instant)
    (refreshed : some (cron.next now) = some instant) : cron.fires instant := by
  obtain rfl := Option.some.inj refreshed
  exact cron.fires_next now

/-- A recorded run leaves an instant of the expression. -/
theorem record_stored (sound : Sound config state) (accepted : Bool) (instant : Instant)
    (stored : (state.record accepted).job.nextRunAt = some instant) :
    state.job.cron.fires instant := by
  cases accepted with
  | false => exact sound.stored instant stored
  | true => exact fires_of_refreshed _ _ instant stored

/-- A restart collects what was missed while the stored instant stands. -/
theorem Sound.collect (sound : Sound config state) (here : state.phase = .down)
    (agree : state.pending < state.now →
      state.job.cron.next (state.now - config.grace) < state.now →
      state.now ≤ state.pending + config.grace) :
    Sound config { state with
      phase := .collected
        ⟨state.job.cron, state.pending, state.now, state.lateBy, state.now, 0⟩ } := by
  have stands := sound.untouched (by rw [here]; rfl)
  constructor
  · exact sound.stored
  · exact fun _ => stands
  · intro other underway
    obtain rfl := Option.some.inj underway
    refine ⟨⟨sound.stored _ stands, ?_, ?_⟩, rfl, le_rfl⟩
    · unfold State.lateBy
      rw [stands]
      rfl
    · intro instant fires missed before prompt
      apply agree missed
      exact Recurrence.next_lt_iff.mpr ⟨instant, fires, Nat.sub_le_of_le_add prompt, before⟩
  · exact fun _ registered => Phase.noConfusion registered
  · exact sound.caughtUp

/-- A restart rebuilds the schedule before another instant passes. -/
theorem Sound.register (sound : Sound config state) (here : state.phase = .committed restart)
    (quiet : state.job.cron.next restart.collectedAt = state.job.cron.next state.now) :
    Sound config
      (state.rebuild config (.registered { restart with resumedAt := state.now })) := by
  have before := sound.underway restart (by rw [here]; rfl)
  apply Sound.settle
  · constructor
    · exact sound.stored
    · exact fun untouched => Bool.noConfusion untouched
    · intro other underway
      obtain rfl := Option.some.inj underway
      have begun := before.begun
      exact ⟨⟨begun.fires, begun.late, begun.agree⟩, before.cron, before.past⟩
    · intro other registered
      obtain rfl := Phase.registered.inj registered
      exact ⟨before.past, before.cron ▸ quiet⟩
    · exact sound.caughtUp
  · rfl

/-- A restart fires what was missed, and goes into service. -/
theorem Sound.fireMissed (sound : Sound config state) (here : state.phase = .registered restart)
    (accepted : Bool) : Sound config (state.fireMissed config restart accepted) := by
  have before := sound.underway restart (by rw [here]; rfl)
  obtain ⟨ordered, quiet⟩ := sound.quiet restart here
  have right := before.begun.right ordered quiet
  apply Sound.settle
  · apply sound_of_up (.inl rfl)
    · intro instant stored
      by_cases due : restart.due config = true
      · simp only [due, if_true] at stored ⊢
        have cron : (state.record accepted).job.cron = state.job.cron := by
          cases accepted <;> rfl
        rw [cron]
        exact record_stored sound accepted instant stored
      · simp only [due] at stored ⊢
        exact sound.stored instant stored
    · intro other listed
      rcases List.mem_cons.mp listed with rfl | earlier
      · exact right
      · exact sound.caughtUp other earlier
  · rfl

/-- One step that keeps the stored instant is sound. -/
theorem step_sound (sound : Sound config state) (allowed : Kept config state action)
    (stepped : step config state action = some after) : Sound config after := by
  cases action with
  | wait until_ =>
    simp only [step] at stepped
    split at stepped
    · rename_i later
      obtain rfl := Option.some.inj stepped
      constructor
      · exact sound.stored
      · exact sound.untouched
      · intro restart underway
        have before := sound.underway restart underway
        exact ⟨before.begun, before.cron, before.past.trans later⟩
      · exact sound.quiet
      · exact sound.caughtUp
    · cases stepped
  | tick =>
    simp only [step] at stepped
    split at stepped
    · rename_i due
      obtain rfl := Option.some.inj stepped
      apply Sound.settle
      · exact sound.live due.1 rfl rfl le_rfl rfl sound.stored
      · exact untouched_of_running due.1
    · cases stepped
  | fired accepted =>
    simp only [step] at stepped
    split at stepped
    · rename_i firing
      obtain rfl := Option.some.inj stepped
      have recorded := record_stored sound accepted
      apply Sound.settle
      · cases accepted <;> exact sound.live firing.1 rfl rfl le_rfl rfl recorded
      · cases accepted <;> exact untouched_of_running firing.1
    · cases stepped
  | edit cron =>
    simp only [step] at stepped
    split at stepped
    · obtain rfl := Option.some.inj stepped
      apply Sound.settle
      · exact sound_of_up (.inl rfl) (fires_of_refreshed cron state.now) sound.caughtUp
      · rfl
    · cases stepped
  | syncJobs =>
    have refreshed := fires_of_refreshed state.job.cron state.now
    simp only [step] at stepped
    split at stepped
    · rename_i restart here
      obtain rfl := Option.some.inj stepped
      have before := sound.underway restart (by rw [here]; rfl)
      constructor
      · exact refreshed
      · exact fun untouched => Bool.noConfusion untouched
      · intro other underway
        obtain rfl := Option.some.inj underway
        exact ⟨before.begun, before.cron, before.past⟩
      · exact fun _ registered => Phase.noConfusion registered
      · exact sound.caughtUp
    · obtain rfl := Option.some.inj stepped
      exact sound_of_up (.inr rfl) refreshed sound.caughtUp
    · cases stepped
  | addJob =>
    simp only [step] at stepped
    split at stepped
    · rename_i restart here
      obtain rfl := Option.some.inj stepped
      apply sound.register here
      simpa [Kept, kept, here] using allowed
    · obtain rfl := Option.some.inj stepped
      apply Sound.settle
      · exact sound_of_up (.inl rfl) sound.stored sound.caughtUp
      · rfl
    · cases stepped
  | start =>
    simp only [step] at stepped
    split at stepped
    · rename_i here
      obtain rfl := Option.some.inj stepped
      apply sound.collect here
      intro missed prompt
      simpa [Kept, kept, missed, prompt] using allowed
    · cases stepped
  | fireMissed accepted =>
    simp only [step] at stepped
    split at stepped
    · rename_i restart here
      obtain rfl := Option.some.inj stepped
      exact sound.fireMissed here accepted
    · cases stepped
  | crash =>
    have stands : state.job.nextRunAt = some state.pending := by
      simpa [Kept, kept] using allowed
    simp only [step] at stepped
    split at stepped
    · cases stepped
    · obtain rfl := Option.some.inj stepped
      constructor
      · exact sound.stored
      · exact fun _ => stands
      · exact fun _ underway => absurd underway (Option.some_ne_none _).symm
      · exact fun _ registered => Phase.noConfusion registered
      · exact sound.caughtUp

/-- Every reached state is sound while the stored instant is kept. -/
theorem sound_of_reachable (reached : (system config).Reachable (Kept config) state) :
    Sound config state := by
  apply reached.invariant_alone
  constructor
  · rintro _ ⟨now, cron, rfl⟩
    apply sound_of_up (.inl rfl)
    · exact fires_of_refreshed cron now
    · exact fun _ listed => absurd listed List.not_mem_nil
  · exact fun _ _ _ _ sound allowed stepped => step_sound sound allowed stepped

/-- While the stored instant is kept, every restart requests exactly what was missed and is not too
late. -/
theorem caught_up_of_kept (reached : (system config).Reachable (Kept config) state) :
    CaughtUp config state :=
  (sound_of_reachable reached).caughtUp

end Restarts

/-- A minute, in the unit of instants. -/
def minutes (count : Nat) : Nat := count * 60000000

/-- A job that fires on the hour. -/
def hourly : Cron := .every (minutes 60) (by decide)

/-- The default grace period is an hour. -/
def hourOfGrace : Config := ⟨3600⟩

/-- The hourly job, created at half past an hour. -/
def hourlyStart : State :=
  ⟨minutes 30, ⟨hourly, none, some (minutes 60)⟩, .up, minutes 60, none, minutes 60, []⟩

/-- The job may be created then. -/
theorem hourlyStart_init : (system hourOfGrace).init hourlyStart := ⟨minutes 30, hourly, rfl⟩

/-- The process stops, and starts again at an instant. -/
def restartAt (instant : Instant) : List Action :=
  [.crash, .wait instant, .start, .syncJobs, .addJob, .fireMissed true]

/-- A fire in service is not repeated, and one that was missed for half an hour is caught up on. -/
theorem caught_up_after_fire : ∃ state,
    (system hourOfGrace).Reachable (Kept hourOfGrace) state ∧
      state.restarts.map Restart.requested = [1, 0] ∧ CaughtUp hourOfGrace state := by
  obtain ⟨state, reached, shown⟩ : ∃ state,
      (system hourOfGrace).Reachable (Kept hourOfGrace) state ∧
        (state.restarts.map Restart.requested == [1, 0]) = true := by
    refine System.exists_of_runFrom hourlyStart_init
      ([.wait (minutes 61), .tick, .fired true] ++ restartAt (minutes 90) ++
        restartAt (minutes 150)) _ ?_
    decide
  exact ⟨state, reached, beq_iff_eq.mp shown, caught_up_of_kept reached⟩

/-- Two instants are missed, the earlier more than an hour ago and the later half an hour ago, and
no run is requested. -/
theorem second_missed_instant_forgone :
    ¬ ∀ config state, (system config).Reachable System.unguarded state →
      CaughtUp config state := by
  intro always
  let missed : Restart :=
    ⟨hourly, minutes 60, minutes 150, some (minutes 90), minutes 150, 0⟩
  let state : State :=
    ⟨minutes 150, ⟨hourly, none, some (minutes 180)⟩, .up, minutes 180, none, minutes 180, [missed]⟩
  have executed : (system hourOfGrace).runFrom System.unguarded hourlyStart
      (restartAt (minutes 150)) = some state := rfl
  have reached := System.runFrom_reachable (.start hourlyStart_init) executed
  have right := always hourOfGrace state reached missed (List.mem_singleton_self _)
  have latest : hourly.IsLatest missed.pending missed.resumedAt (minutes 120) := by
    constructor
    · exact ⟨2, by decide⟩
    · decide
    · decide
    · rintro _ ⟨count, rfl⟩ _ before
      have before : minutes 60 * count < minutes 150 := before
      show minutes 60 * count ≤ minutes 120
      unfold minutes at before ⊢
      omega
  have requested := right.one (minutes 120) latest (by decide)
  cases requested

end ProxSync.Scheduler
