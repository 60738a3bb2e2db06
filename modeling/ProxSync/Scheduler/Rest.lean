import ProxSync.Scheduler.Resync
/-!
# The schedule at rest

While no resync is lost, the scheduler holds what the last resync has read, and whoever changes a
schedule after that makes another one come. So the scheduler is that of the rows whenever nothing is
under way. A resync that comes due while another one is about to end is lost, though, and then the
schedule that was replaced stays.
-/
open ProxSync.Lib

namespace ProxSync.Scheduler.Resync

open Registration Schedules

variable {TimeZone Trigger : Type} {config : Setup TimeZone Trigger}
  {library : Library TimeZone Trigger} {grace : ℕ} {rows after loaded refreshed : Rows}
  {jobs : Jobs Trigger} {state next : State Trigger} {action : Action}

/-! ## Resyncs that are not lost -/

/-- Whether a resync is still to read the rows. -/
def Phase.unread : Phase → Bool
  | .starting => true
  | _ => false

/-- Whether a step loses no resync: one comes due while no other is between its reading and its end,
and one fails only while another is to come. -/
def kept (state : State Trigger) : Action → Bool
  | .begin => state.resync.all Phase.unread
  | .fail => state.due || 0 < state.committed
  | _ => true

/-- No resync is lost. -/
def Kept (state : State Trigger) (action : Action) : Prop := kept state action = true

instance (state : State Trigger) (action : Action) : Decidable (Kept state action) :=
  inferInstanceAs (Decidable (_ = true))

/-- Nothing that concerns the schedule in memory is under way. -/
structure AtRest (state : State Trigger) : Prop where
  announced : state.committed = 0
  begun : state.due = false
  finished : state.resync = none

/-! ## The schedule in memory -/

/-- How the scheduler and a resync stand to the rows while no resync is to come. -/
def Current (config : Setup TimeZone Trigger) (state : State Trigger) : Prop :=
  match state.resync with
  | none => Registration.Matches config.library config.misfireGraceSeconds state.rows state.jobs
  | some .starting => True
  | some (.read loaded _) | some (.stored loaded) => SameSchedules loaded state.rows

/-- The scheduler is or will be that of the rows, unless a resync is to come. -/
def Coherent (config : Setup TimeZone Trigger) (state : State Trigger) : Prop :=
  state.committed = 0 → state.due = false → Current config state

/-- A write that keeps the schedules keeps the scheduler coherent. -/
theorem Coherent.rewrite (coherent : Coherent config state) (same : SameSchedules after state.rows)
    {requests : List Request} :
    Coherent config { state with rows := after, requests } := by
  intro announced begun
  have current := coherent announced begun
  unfold Current at current ⊢
  dsimp only at announced begun ⊢
  cases running : state.resync with
  | none =>
    rw [running] at current
    exact matches_of_same (Eq.symm same) current
  | some phase =>
    rw [running] at current
    cases phase with
    | starting => trivial
    | read loaded refreshed => exact current.trans (Eq.symm same)
    | stored loaded => exact current.trans (Eq.symm same)

/-- A commit makes a resync come, or keeps the schedules. -/
theorem Coherent.commit {index : ℕ} (sound : Sound config state) (coherent : Coherent config state)
    (stepped : step config state (.commit index) = some next) : Coherent config next := by
  simp only [step] at stepped
  split at stepped
  · cases stepped
  · rename_i request found
    have fits := sound.requests request (List.mem_of_getElem? found)
    split at stepped
    · obtain rfl := Option.some.inj stepped
      exact coherent
    · rename_i rows wrote
      obtain rfl := Option.some.inj stepped
      cases request with
      | create draft | setEnabled loaded written =>
        intro announced
        exact absurd announced (Nat.succ_ne_zero _)
      | fire loaded written => exact coherent.rewrite (sameSchedules_flush fits wrote)

/-- A resync whose rows are no longer there has a successor to come. -/
theorem Coherent.store (sound : Sound config state) (coherent : Coherent config state)
    (stepped : step config state .store = some next) : Coherent config next := by
  simp only [step] at stepped
  split at stepped
  · rename_i loaded refreshed running
    obtain ⟨-, same⟩ := sound.resync _ running
    have current (announced : state.committed = 0) (begun : state.due = false) :
        SameSchedules loaded state.rows := by
      have current := coherent announced begun
      unfold Current at current
      rw [running] at current
      exact current
    split at stepped
    · rename_i refused
      obtain rfl := Option.some.inj stepped
      intro announced begun
      have written := flushAll_isSome same (Eq.symm (current announced begun))
      rw [refused] at written
      cases written
    · rename_i rows wrote
      obtain rfl := Option.some.inj stepped
      intro announced begun
      exact (current announced begun).trans (Eq.symm (sameSchedules_flushAll same wrote))
  · cases stepped

/-- A registration keeps the jobs and the rows coherent. -/
theorem Coherent.register (sound : Sound config state) (coherent : Coherent config state)
    (stepped : step config state .register = some next) : Coherent config next := by
  simp only [step] at stepped
  split at stepped
  · rename_i loaded running
    obtain ⟨placed, registered_, matching, -⟩ := registered_of_stored sound running
    rw [registered_] at stepped
    obtain rfl := Option.some.inj stepped
    intro announced begun
    have current := coherent announced begun
    unfold Current at current
    rw [running] at current
    exact matches_of_same current matching
  · cases stepped

/-- The refresh of the inventory does not disturb the schedule. -/
theorem matches_assign_inventory {job : Job Trigger}
    (matching : Registration.Matches library grace rows jobs) :
    Registration.Matches library grace rows (jobs.assign inventoryJobId job) := by
  intro key prefixed
  have differ : key ≠ inventoryJobId := by
    rintro rfl
    rw [inventory_not_prefixed] at prefixed
    cases prefixed
  rw [OrderedDict.lookup_assign_ne differ]
  exact matching key prefixed

/-- The schedule of a new installation matches. -/
theorem matches_initial :
    Registration.Matches library grace (initial config).rows (initial config).jobs := by
  apply matches_assign_inventory
  intro key prefixed job
  constructor
  · intro found
    cases found
  · rintro ⟨row, stored, -⟩
    cases stored

/-- The schedule matches after a restart. -/
theorem Coherent.restart {now : ℕ → Instant} {synced : Rows × Jobs Trigger}
    (sound : Sound config state)
    (answered : syncJobs config.library config.misfireGraceSeconds now state.rows ∅ = .ok synced) :
    Registration.Matches config.library config.misfireGraceSeconds synced.1
      (synced.2.assign inventoryJobId config.inventory) := by
  have keyed : Keyed (∅ : Jobs Trigger) := by
    intro key job found
    cases found
  obtain ⟨other, again, same⟩ := @exists_synced _ _ config.library config.misfireGraceSeconds _ _
    sound.fine keyed now
  rw [answered] at again
  obtain rfl := Except.ok.inj again
  apply matches_assign_inventory
  exact matches_of_same (Eq.symm same) (synced_matches sound.fine keyed answered).1

/-- A step that loses no resync keeps the scheduler coherent. -/
theorem step_coherent (sound : Sound config state) (coherent : Coherent config state)
    (allowed : Kept state action) (stepped : step config state action = some next) :
    Coherent config next := by
  cases action with
  | create _ _ | setEnabled _ _ _ =>
    simp only [step] at stepped
    split at stepped
    · exact Option.some.inj stepped ▸ coherent
    · obtain rfl := Option.some.inj stepped
      exact coherent
  | fire jobId now =>
    simp only [step] at stepped
    split at stepped
    · obtain rfl := Option.some.inj stepped
      exact coherent
    · exact Option.some.inj stepped ▸ coherent
  | update _ _ _ | delete _ =>
    simp only [step] at stepped
    split_ifs at stepped
    split at stepped
    · exact Option.some.inj stepped ▸ coherent
    · obtain rfl := Option.some.inj stepped
      exact coherent
  | commit index => exact coherent.commit sound stepped
  | abort _ | abortGuarded =>
    obtain rfl := Option.some.inj stepped
    exact coherent
  | commitGuarded =>
    simp only [step] at stepped
    split at stepped
    · cases stepped
    · split at stepped
      · obtain rfl := Option.some.inj stepped
        exact coherent
      · obtain rfl := Option.some.inj stepped
        intro announced
        exact absurd announced (Nat.succ_ne_zero _)
  | announce =>
    simp only [step] at stepped
    split at stepped
    · cases stepped
    · obtain rfl := Option.some.inj stepped
      intro _ begun
      cases begun
  | begin =>
    simp only [step] at stepped
    split_ifs at stepped
    split at stepped
    · obtain rfl := Option.some.inj stepped
      intro _ _
      trivial
    · rename_i phase running
      obtain rfl := Option.some.inj stepped
      intro _ _
      have unread : Phase.unread phase = true := by
        have allowed : state.resync.all Phase.unread = true := allowed
        rw [running] at allowed
        exact allowed
      unfold Current
      cases phase with
      | starting =>
        dsimp only
        rw [running]
        trivial
      | read _ _ | stored _ => cases unread
  | read now =>
    simp only [step] at stepped
    split at stepped
    · have valid : ∀ row ∈ listEnabled state.rows, Valid config.library row :=
        fun row listed => (sound.fine row (mem_listEnabled.mp listed).1).1
      obtain ⟨refreshed, answered, -⟩ := exists_refreshed now valid state.rows
      rw [answered] at stepped
      obtain rfl := Option.some.inj stepped
      intro _ _
      exact Eq.refl (state.rows.rows.map schedule)
    · cases stepped
  | store => exact coherent.store sound stepped
  | register => exact coherent.register sound stepped
  | fail =>
    simp only [step] at stepped
    split_ifs at stepped
    obtain rfl := Option.some.inj stepped
    intro announced begun
    have allowed : (state.due || decide (0 < state.committed)) = true := allowed
    have none_ : state.committed = 0 := announced
    have idle : state.due = false := begun
    rw [none_, idle] at allowed
    cases allowed
  | restart now =>
    simp only [step] at stepped
    split at stepped
    · rename_i raised refused
      exact absurd refused (sound.restarts now raised)
    · rename_i rows jobs answered
      obtain rfl := Option.some.inj stepped
      intro _ _
      exact Coherent.restart sound answered

/-- Whenever nothing is under way, the schedule in memory is that of the rows, if no resync was
lost: each enabled row is registered as it is stored, and no other one. -/
theorem matches_at_rest (reached : (system config).Reachable Kept state) (rest : AtRest state) :
    Registration.Matches config.library config.misfireGraceSeconds state.rows state.jobs := by
  have sound : ∀ state, (system config).Reachable Kept state → Sound config state := by
    intro state reached
    exact sound_of_reachable (reached.mono fun _ _ _ => trivial)
  have coherent : Coherent config state := by
    apply reached.invariant sound
    constructor
    · rintro state rfl _ _
      exact matches_initial
    · intro state action next sound coherent allowed stepped
      exact step_coherent sound coherent allowed stepped
  have current := coherent rest.announced rest.begun
  unfold Current at current
  rw [rest.finished] at current
  exact current

/-! ## Two runs -/

/-- A schedule that is replaced after a resync has read it and before the resync ends. -/
def overtaking : List Action :=
  creating ++ [.setEnabled 1 true 1, .commit 0, .announce, .begin, .read fun _ => 1,
    .update 1 ⟨"weekly", true, "0 2 * * 0", "UTC"⟩ 2, .commitGuarded, .announce, .begin, .store,
    .register]

/-- Whether nothing is under way. -/
def resting (state : State (List String)) : Bool :=
  state.committed == 0 && !state.due && state.resync.isNone

/-- The test of rest is sound. -/
theorem atRest_of_resting {state : State (List String)} (resting_ : resting state = true) :
    AtRest state := by
  unfold resting at resting_
  rw [Bool.and_eq_true, Bool.and_eq_true, beq_iff_eq, Bool.not_eq_true', Option.isNone_iff_eq_none]
    at resting_
  exact ⟨resting_.1.1, resting_.1.2, resting_.2⟩

/-- A job that was created is registered when the scheduler rests. -/
theorem matches_at_rest_created : ∃ state, AtRest state ∧
    (state.jobs.lookup "backup-job-1").isSome = true ∧
      Registration.Matches usual.library usual.misfireGraceSeconds state.rows state.jobs := by
  obtain ⟨state, reached, passed⟩ : ∃ state, (system usual).Reachable Kept state ∧
      (resting state && (state.jobs.lookup "backup-job-1").isSome) = true :=
    System.exists_of_runFrom (Eq.refl (initial usual)) creating _ (by decide +kernel)
  obtain ⟨rest, listed⟩ := Bool.and_eq_true_iff.mp passed
  exact ⟨state, atRest_of_resting rest, listed, matches_at_rest reached (atRest_of_resting rest)⟩

/-- A resync that comes due while another one is about to end is lost, and the schedule in memory
stays the one that was replaced. -/
theorem replaced_schedule_stays : ∃ state, (system usual).Reachable System.unguarded state ∧
    AtRest state ∧
      ¬ Registration.Matches usual.library usual.misfireGraceSeconds state.rows state.jobs := by
  obtain ⟨state, reached, passed⟩ : ∃ state, (system usual).Reachable System.unguarded state ∧
      (resting state && (((state.jobs.lookup "backup-job-1").map Job.trigger ==
        some ["0", "1", "*", "*", "sun"]) && state.rows.rows.all fun row =>
          row.cronExpression == "0 2 * * 0" && row.timezone == "UTC")) = true :=
    System.exists_of_runFrom (Eq.refl (initial usual)) overtaking _ (by decide +kernel)
  obtain ⟨rest, passed⟩ := Bool.and_eq_true_iff.mp passed
  obtain ⟨stale, edited⟩ := Bool.and_eq_true_iff.mp passed
  obtain ⟨job, found, trigger_⟩ := Option.map_eq_some_iff.mp (beq_iff_eq.mp stale)
  refine ⟨state, reached, atRest_of_resting rest, ?_⟩
  intro matching
  obtain ⟨row, stored, -, -, trigger, built, rfl⟩ :=
    (matching "backup-job-1" (by decide +kernel) job).mp found
  obtain ⟨expression, timezone⟩ := Bool.and_eq_true_iff.mp (List.all_eq_true.mp edited row stored)
  have other : buildTrigger oneZone "0 2 * * 0" "UTC" = .ok ["0", "2", "*", "*", "sun"] := by
    decide +kernel
  rw [beq_iff_eq.mp expression, beq_iff_eq.mp timezone] at built
  have same : trigger = ["0", "2", "*", "*", "sun"] := Except.ok.inj (built.symm.trans other)
  rw [show trigger = ["0", "1", "*", "*", "sun"] from trigger_] at same
  revert same
  decide

end ProxSync.Scheduler.Resync
