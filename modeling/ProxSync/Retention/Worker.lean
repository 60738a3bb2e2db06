import ProxSync.Retention.Service
/-!
# Retries of the retention worker

The worker drains its queue of triggers in one pass per guest. For every trigger it keeps an
error text, a number of attempts and a delayed retry; a trigger is first mapped to the newest
backup of its guest, and what was kept for the trigger moves there. A queue that holds both a
trigger and the backup it maps to runs one pass and then visits that backup again, and that
second visit forgets what the pass left behind.
-/
namespace ProxSync.Retention

/-- A backup id, or the full sweep. -/
abbrev TriggerKey := Option Nat

/-- What the worker keeps for one trigger when it allows a number of retries. -/
structure RetrySlot (budget : Nat) where
  error : Option String
  attempts : Option Nat
  /-- A delayed retry is outstanding. -/
  timer : Bool
  /-- No more attempts are counted than are allowed. -/
  within : ∀ count ∈ attempts, count ≤ budget

/-- The maps of the worker, read together at each trigger. -/
def RetryBook (budget : Nat) := TriggerKey → RetrySlot budget

/-- A trigger nothing is kept for. -/
def RetrySlot.empty {budget : Nat} : RetrySlot budget := ⟨none, none, false, by simp⟩

namespace RetryBook

variable {budget : Nat}

/-- Nothing is kept for any trigger. -/
def empty : RetryBook budget := fun _ => .empty

/-- Replace what is kept for one trigger. -/
def put (book : RetryBook budget) (key : TriggerKey) (slot : RetrySlot budget) :
    RetryBook budget :=
  fun other => if other = key then slot else book other

/-- The replaced trigger reads what was put. -/
@[simp] theorem put_self (book : RetryBook budget) (key : TriggerKey) (slot : RetrySlot budget) :
    book.put key slot key = slot := if_pos rfl

/-- Other triggers read what they did before. -/
theorem put_other {book : RetryBook budget} {key other : TriggerKey} {slot : RetrySlot budget}
    (apart : other ≠ key) : book.put key slot other = book other := if_neg apart

/-- Record an error. -/
def setError (book : RetryBook budget) (key : TriggerKey) (message : String) : RetryBook budget :=
  book.put key { book key with error := some message }

/-- Forget a trigger: its attempts, its error and its delayed retry. -/
def clearRetry (book : RetryBook budget) (key : TriggerKey) : RetryBook budget :=
  book.put key .empty

/-- Drop the delayed retry of a trigger. -/
def cancelRetryTaskOnly (book : RetryBook budget) (key : TriggerKey) : RetryBook budget :=
  book.put key { book key with timer := false }

/-- How the worker names a trigger. -/
def subject : TriggerKey → String
  | none => "full sweep"
  | some backupId => s!"backup #{backupId}"

/-- Count one more attempt. -/
def attemptAgain (slot : RetrySlot budget) (spare : slot.attempts.getD 0 < budget) :
    RetrySlot budget where
  error := slot.error
  attempts := some (slot.attempts.getD 0 + 1)
  timer := true
  within := by
    simp only [Option.mem_def, Option.some.injEq]
    omega

/-- Schedule a retry, unless one is outstanding or the attempts are used up. -/
def scheduleRetry (book : RetryBook budget) (key : TriggerKey) : RetryBook budget :=
  if (book key).timer then book
  else if spare : (book key).attempts.getD 0 < budget then
    book.put key (attemptAgain (book key) spare)
  else book.setError key s!"Retention retries exhausted for {subject key}"

/-- The attempts of two triggers taken together. -/
def mergedAttempts (raw canonical : RetrySlot budget) : Option Nat :=
  match raw.attempts with
  | none => canonical.attempts
  | some count => some (max count (canonical.attempts.getD 0))

/-- Taken together they stay within what is allowed. -/
theorem mergedAttempts_within (raw canonical : RetrySlot budget) :
    ∀ count ∈ mergedAttempts raw canonical, count ≤ budget := by
  unfold mergedAttempts
  cases rawAttempts : raw.attempts with
  | none => exact canonical.within
  | some count =>
    have rawWithin := raw.within count rawAttempts
    simp only [Option.mem_def, Option.some.injEq, forall_eq']
    cases own : canonical.attempts with
    | none => simpa using rawWithin
    | some other => exact max_le rawWithin (canonical.within other own)

/-- Move what is kept for a trigger to the backup it maps to. -/
def migrateRetryState (book : RetryBook budget) (raw canonical : TriggerKey) : RetryBook budget :=
  if raw = canonical then book
  else
    let merged : RetrySlot budget := ⟨(book raw).error.or (book canonical).error,
      mergedAttempts (book raw) (book canonical), (book canonical).timer,
      mergedAttempts_within (book raw) (book canonical)⟩
    (book.put canonical merged).put raw .empty

/-- Settle a pass that returned: retry it when a deletion failed, forget it otherwise. -/
def finishAttempt (book : RetryBook budget) (key : TriggerKey) (response : RetentionResponse) :
    RetryBook budget :=
  if response.summary.failed = 0 then book.clearRetry key
  else
    let detail := (response.items.findSome? fun item => item.error.filter (· ≠ "")).getD
      "one or more retention deletes failed"
    (book.setError key s!"Retention pass failed: {detail}").scheduleRetry key

end RetryBook

/-- How a pass over one guest ends. -/
inductive PassOutcome
  | raised (message : String)
  | returned (response : RetentionResponse)

/-- A pass that has to be repeated: it raised, or a deletion failed. -/
def PassOutcome.failed : PassOutcome → Bool
  | .raised _ => true
  | .returned response => response.summary.failed != 0

/-- What the queue loop has done so far. -/
structure QueueRun (budget : Nat) where
  /-- Backups a pass was run for. -/
  processed : List Nat
  book : RetryBook budget

section Queue

variable {budget : Nat} (canonical : Nat → Except String (Option Nat)) (pass : Nat → PassOutcome)

/-- Run the pass of a backup and settle it. -/
def runPass (raw backupId : Nat) (book : RetryBook budget) : RetryBook budget :=
  let prepared :=
    (book.migrateRetryState (some raw) (some backupId)).cancelRetryTaskOnly (some backupId)
  match pass backupId with
  | .raised message =>
    (prepared.setError (some backupId)
      s!"Retention pass for backup #{backupId} failed: {message}").scheduleRetry (some backupId)
  | .returned response => prepared.finishAttempt (some backupId) response

/-- Handle one queued trigger. -/
def runTrigger (run : QueueRun budget) (raw : Nat) : QueueRun budget :=
  match canonical raw with
  | .error message =>
    { run with book := (run.book.setError (some raw)
        s!"Retention trigger canonicalization failed: {message}").scheduleRetry (some raw) }
  | .ok none => { run with book := run.book.clearRetry (some raw) }
  | .ok (some backupId) =>
    if backupId ∈ run.processed then { run with book := run.book.clearRetry (some raw) }
    else ⟨backupId :: run.processed, runPass pass raw backupId run.book⟩

/-- Handle the queued triggers in order. During the call the worker is not asked to stop, no retry
timer runs out and no trigger is notified. -/
def runQueued (queue : List Nat) (book : RetryBook budget) : QueueRun budget :=
  queue.foldl (runTrigger canonical pass) ⟨[], book⟩

end Queue

/-- The queued triggers in the order they are handled. -/
def drainPending (pending : List Nat) : List Nat := pending.dedup.insertionSort (· ≤ ·)

/-- A failed pass is followed up: its error is recorded, and a retry is outstanding or the
attempts are used up. -/
def FollowedUp {budget : Nat} (slot : RetrySlot budget) : Prop :=
  slot.error.isSome = true ∧ (slot.timer = true ∨ slot.attempts.getD 0 = budget)

section FollowUp

variable {budget : Nat} {canonical : Nat → Except String (Option Nat)} {pass : Nat → PassOutcome}

namespace RetryBook

variable {book : RetryBook budget} {key other : TriggerKey}

/-- Scheduling a retry touches one trigger. -/
theorem scheduleRetry_other (apart : other ≠ key) : book.scheduleRetry key other = book other := by
  unfold scheduleRetry setError
  split
  · rfl
  · split <;> exact put_other apart

/-- After an error is recorded and a retry scheduled, the failure is followed up. -/
theorem scheduleRetry_followedUp (message : String) :
    FollowedUp ((book.setError key message).scheduleRetry key key) := by
  unfold scheduleRetry
  by_cases waiting : (book.setError key message key).timer = true
  · rw [if_pos waiting]
    exact ⟨by simp [setError], .inl waiting⟩
  · rw [if_neg waiting]
    by_cases spare : (book.setError key message key).attempts.getD 0 < budget
    · rw [dif_pos spare, put_self]
      exact ⟨by simp [setError, attemptAgain], .inl rfl⟩
    · rw [dif_neg spare]
      have bounded : (book key).attempts.getD 0 ≤ budget := by
        cases counted : (book key).attempts with
        | none => exact Nat.zero_le _
        | some count => exact (book key).within count counted
      refine ⟨by simp [setError], .inr ?_⟩
      simp only [setError, put_self] at spare ⊢
      omega

/-- Moving what is kept for a trigger touches that trigger and the backup it maps to. -/
theorem migrateRetryState_other {raw target : TriggerKey} (notRaw : other ≠ raw)
    (notTarget : other ≠ target) : book.migrateRetryState raw target other = book other := by
  unfold migrateRetryState
  split
  · rfl
  · exact (put_other notRaw).trans (put_other notTarget)

/-- A trigger that was moved elsewhere keeps no error. -/
theorem migrateRetryState_raw {raw target : TriggerKey} (apart : raw ≠ target) :
    (book.migrateRetryState raw target raw).error = none := by
  simp [migrateRetryState, apart, RetrySlot.empty]

/-- Settling a pass touches one trigger. -/
theorem finishAttempt_other {response : RetentionResponse} (apart : other ≠ key) :
    book.finishAttempt key response other = book other := by
  unfold finishAttempt
  split
  · exact put_other apart
  · exact (scheduleRetry_other apart).trans (put_other apart)

end RetryBook

open RetryBook

variable {book : RetryBook budget} {run : QueueRun budget} {raw backupId target : Nat}

/-- The pass of a backup touches its trigger and the backup only. -/
theorem runPass_other {other : TriggerKey} (notRaw : other ≠ some raw)
    (notTarget : other ≠ some backupId) : runPass pass raw backupId book other = book other := by
  have prepared : ((book.migrateRetryState (some raw) (some backupId)).cancelRetryTaskOnly
      (some backupId)) other = book other :=
    (put_other notTarget).trans (migrateRetryState_other notRaw notTarget)
  unfold runPass
  cases pass backupId with
  | raised message =>
    exact (scheduleRetry_other notTarget).trans ((put_other notTarget).trans prepared)
  | returned response => exact (finishAttempt_other notTarget).trans prepared

/-- The trigger of another backup's pass keeps no error. -/
theorem runPass_raw (apart : raw ≠ backupId) :
    (runPass pass raw backupId book (some raw)).error = none := by
  have keys : (some raw : TriggerKey) ≠ some backupId := by simpa using apart
  have prepared : ((book.migrateRetryState (some raw) (some backupId)).cancelRetryTaskOnly
      (some backupId) (some raw)).error = none := by
    rw [cancelRetryTaskOnly, put_other keys]
    exact migrateRetryState_raw keys
  unfold runPass
  cases pass backupId with
  | raised message =>
    dsimp only
    rw [scheduleRetry_other keys, setError, put_other keys]
    exact prepared
  | returned response =>
    dsimp only
    rw [finishAttempt_other keys]
    exact prepared

/-- A failed pass is followed up when it ends. -/
theorem runPass_followedUp (unsuccessful : (pass backupId).failed = true) :
    FollowedUp (runPass pass raw backupId book (some backupId)) := by
  unfold runPass
  cases outcome : pass backupId with
  | raised message => exact scheduleRetry_followedUp _
  | returned response =>
    have some_failed : response.summary.failed ≠ 0 := by
      simpa [PassOutcome.failed, outcome] using unsuccessful
    dsimp only
    rw [finishAttempt, if_neg some_failed]
    exact scheduleRetry_followedUp _

/-- A trigger adds to the processed backups the one its pass was run for. -/
theorem mem_runTrigger_processed : target ∈ (runTrigger canonical pass run raw).processed ↔
    target ∈ run.processed ∨ canonical raw = .ok (some target) := by
  unfold runTrigger
  cases lookup : canonical raw with
  | error message => simp
  | ok found =>
    cases found with
    | none => simp
    | some backupId =>
      dsimp only
      by_cases done : backupId ∈ run.processed
      · rw [if_pos done]
        constructor
        · exact .inl
        · rintro (present | same)
          · exact present
          · simp only [Except.ok.injEq, Option.some.injEq] at same
            exact same ▸ done
      · rw [if_neg done]
        simp only [List.mem_cons, Except.ok.injEq, Option.some.injEq]
        tauto

/-- A trigger leaves a processed backup alone, unless it is that backup. -/
theorem runTrigger_other (done : target ∈ run.processed) (apart : target ≠ raw) :
    (runTrigger canonical pass run raw).book (some target) = run.book (some target) := by
  have keys : (some target : TriggerKey) ≠ some raw := by simpa using apart
  unfold runTrigger
  cases canonical raw with
  | error message => exact (scheduleRetry_other keys).trans (put_other keys)
  | ok found =>
    cases found with
    | none => exact put_other keys
    | some backupId =>
      dsimp only
      by_cases again : backupId ∈ run.processed
      · rw [if_pos again]
        exact put_other keys
      · rw [if_neg again]
        refine runPass_other keys fun same => again ?_
        simp only [Option.some.injEq] at same
        exact same ▸ done

/-- A processed backup that is queued itself is forgotten when its lookup does not raise. -/
theorem runTrigger_self_forgets (done : target ∈ run.processed)
    (found : ∀ message, canonical target ≠ .error message) :
    ((runTrigger canonical pass run target).book (some target)).error = none := by
  unfold runTrigger
  cases lookup : canonical target with
  | error message => exact absurd lookup (found message)
  | ok result =>
    cases result with
    | none => simp [clearRetry, RetrySlot.empty]
    | some backupId =>
      dsimp only
      by_cases again : backupId ∈ run.processed
      · simp [again, clearRetry, RetrySlot.empty]
      · rw [if_neg again]
        exact runPass_raw fun same => again (same ▸ done)

/-- A processed backup whose own lookup raises is followed up. -/
theorem runTrigger_self_raises {message : String} (raised : canonical target = .error message) :
    FollowedUp ((runTrigger canonical pass run target).book (some target)) := by
  simp only [runTrigger, raised]
  exact scheduleRetry_followedUp _

/-- A followed-up backup stays so while it is not queued, or its lookup raises. -/
theorem foldl_keeps_followedUp (queue : List Nat) (run : QueueRun budget)
    (done : target ∈ run.processed) (followed : FollowedUp (run.book (some target)))
    (spared : target ∉ queue ∨ ∃ message, canonical target = .error message) :
    FollowedUp ((queue.foldl (runTrigger canonical pass) run).book (some target)) := by
  induction queue generalizing run with
  | nil => exact followed
  | cons raw rest ih =>
    refine ih _ (mem_runTrigger_processed.mpr (.inl done)) ?_
      (spared.imp_left fun absent => fun later => absent (List.mem_cons_of_mem _ later))
    by_cases same : target = raw
    · subst same
      rcases spared with absent | ⟨message, raised⟩
      · exact absurd List.mem_cons_self absent
      · exact runTrigger_self_raises raised
    · rw [runTrigger_other done same]
      exact followed

/-- A forgotten backup stays forgotten while it is not queued. -/
theorem foldl_keeps_forgotten (queue : List Nat) (run : QueueRun budget)
    (done : target ∈ run.processed) (forgotten : (run.book (some target)).error = none)
    (absent : target ∉ queue) :
    ((queue.foldl (runTrigger canonical pass) run).book (some target)).error = none := by
  induction queue generalizing run with
  | nil => exact forgotten
  | cons raw rest ih =>
    rw [List.mem_cons, not_or] at absent
    refine ih _ (mem_runTrigger_processed.mpr (.inl done)) ?_ absent.2
    rw [runTrigger_other done absent.1]
    exact forgotten

/-- A processed backup that is still queued is forgotten when its lookup does not raise. -/
theorem foldl_forgets (queue : List Nat) (run : QueueRun budget) (done : target ∈ run.processed)
    (distinct : queue.Nodup) (queued : target ∈ queue)
    (found : ∀ message, canonical target ≠ .error message) :
    ((queue.foldl (runTrigger canonical pass) run).book (some target)).error = none := by
  induction queue generalizing run with
  | nil => simp at queued
  | cons raw rest ih =>
    have done' : target ∈ (runTrigger canonical pass run raw).processed :=
      mem_runTrigger_processed.mpr (.inl done)
    obtain ⟨absent, distinct'⟩ := List.nodup_cons.mp distinct
    by_cases same : target = raw
    · subst same
      exact foldl_keeps_forgotten rest _ done' (runTrigger_self_forgets done found) absent
    · exact ih _ done' distinct' ((List.mem_cons.mp queued).resolve_left same)

/-- The trigger that runs the pass of a new backup leaves a failure followed up. -/
theorem runTrigger_followedUp (fresh : target ∉ run.processed)
    (maps : canonical raw = .ok (some target)) (unsuccessful : (pass target).failed = true) :
    FollowedUp ((runTrigger canonical pass run raw).book (some target)) := by
  simp only [runTrigger, maps, if_neg fresh]
  exact runPass_followedUp unsuccessful

/-- The backups a queue runs a pass for are those its triggers map to. -/
theorem mem_foldl_processed (queue : List Nat) (run : QueueRun budget) :
    target ∈ (queue.foldl (runTrigger canonical pass) run).processed ↔
      target ∈ run.processed ∨ ∃ raw ∈ queue, canonical raw = .ok (some target) := by
  induction queue generalizing run with
  | nil => simp
  | cons raw rest ih =>
    rw [List.foldl_cons, ih, mem_runTrigger_processed]
    simp only [List.mem_cons, exists_eq_or_imp]
    tauto

/-- No trigger before a backup in the queue runs its pass, unless the backup's lookup raises. -/
def RunsItsOwnPass (canonical : Nat → Except String (Option Nat)) (queue : List Nat)
    (backupId : Nat) : Prop :=
  ∀ raw ∈ queue, backupId ∈ queue → raw < backupId → canonical raw = .ok (some backupId) →
    ∃ message, canonical backupId = .error message

/-- In an ascending queue a failed pass ends followed up exactly when no earlier trigger ran it
before the backup itself came up. -/
theorem foldl_followedUp_iff (queue : List Nat) (run : QueueRun budget)
    (ascending : queue.Pairwise (· < ·)) (fresh : target ∉ run.processed)
    (processed : ∃ raw ∈ queue, canonical raw = .ok (some target))
    (unsuccessful : (pass target).failed = true) :
    FollowedUp ((queue.foldl (runTrigger canonical pass) run).book (some target)) ↔
      RunsItsOwnPass canonical queue target := by
  induction queue generalizing run with
  | nil => simp at processed
  | cons first rest ih =>
    obtain ⟨below, ascending'⟩ := List.pairwise_cons.mp ascending
    have distinct : rest.Nodup := ascending'.imp fun less => less.ne
    rw [List.foldl_cons]
    by_cases maps : canonical first = .ok (some target)
    · have done : target ∈ (runTrigger canonical pass run first).processed :=
        mem_runTrigger_processed.mpr (.inr maps)
      have followed := runTrigger_followedUp fresh maps unsuccessful
      by_cases queued : target ∈ rest
      · constructor
        · intro kept
          by_contra masked
          have found : ∀ message, canonical target ≠ .error message := by
            intro message raised
            exact masked fun _ _ _ _ _ => ⟨message, raised⟩
          have recorded := kept.1
          rw [foldl_forgets rest _ done distinct queued found] at recorded
          simp at recorded
        · intro own
          exact foldl_keeps_followedUp rest _ done followed
            (.inr (own first List.mem_cons_self (List.mem_cons_of_mem _ queued)
              (below target queued) maps))
      · refine iff_of_true (foldl_keeps_followedUp rest _ done followed (.inl queued)) ?_
        intro raw member present less _
        have same : target = first := (List.mem_cons.mp present).resolve_right queued
        rcases List.mem_cons.mp member with rfl | later
        · exact absurd same less.ne'
        · exact absurd (below raw later) (by omega)
    · have fresh' : target ∉ (runTrigger canonical pass run first).processed := by
        rw [mem_runTrigger_processed]
        exact not_or.mpr ⟨fresh, maps⟩
      have processed' : ∃ raw ∈ rest, canonical raw = .ok (some target) := by
        obtain ⟨raw, member, found⟩ := processed
        rcases List.mem_cons.mp member with rfl | later
        · exact absurd found maps
        · exact ⟨raw, later, found⟩
      rw [ih _ ascending' fresh' processed']
      constructor
      · intro own raw member present less found
        rcases List.mem_cons.mp member with rfl | later
        · exact absurd found maps
        · have after : target ∈ rest := by
            rcases List.mem_cons.mp present with rfl | queued
            · exact absurd (below raw later) (by omega)
            · exact queued
          exact own raw later after less found
      · intro own raw later queued less found
        exact own raw (List.mem_cons_of_mem _ later) (List.mem_cons_of_mem _ queued) less found

/-- Draining keeps the queued triggers. -/
theorem mem_drainPending {pending : List Nat} {raw : Nat} :
    raw ∈ drainPending pending ↔ raw ∈ pending := by
  simp [drainPending, List.mem_insertionSort]

/-- Drained triggers ascend. -/
theorem drainPending_ascending (pending : List Nat) : (drainPending pending).Pairwise (· < ·) := by
  have sorted : (drainPending pending).Pairwise (· ≤ ·) := List.pairwise_insertionSort _ _
  have distinct : (drainPending pending).Nodup :=
    (List.perm_insertionSort _ _).nodup_iff.mpr pending.nodup_dedup
  exact (sorted.and distinct).imp fun both => lt_of_le_of_ne both.1 both.2

/-- Every failed pass of a drained queue is followed up exactly when no failed pass was run by a
smaller queued trigger while its backup is queued too and can be looked up. -/
theorem runQueued_followedUp_iff (canonical : Nat → Except String (Option Nat))
    (pass : Nat → PassOutcome) (pending : List Nat) (book : RetryBook budget) :
    (∀ backupId ∈ (runQueued canonical pass (drainPending pending) book).processed,
      (pass backupId).failed = true →
      FollowedUp ((runQueued canonical pass (drainPending pending) book).book (some backupId))) ↔
    ∀ raw ∈ pending, ∀ backupId ∈ pending, raw < backupId →
      canonical raw = .ok (some backupId) → (pass backupId).failed = true →
      ∃ message, canonical backupId = .error message := by
  have processed : ∀ backupId,
      backupId ∈ (runQueued canonical pass (drainPending pending) book).processed ↔
        ∃ raw ∈ pending, canonical raw = .ok (some backupId) := by
    intro backupId
    simp [runQueued, mem_foldl_processed, mem_drainPending]
  have each : ∀ backupId, (∃ raw ∈ pending, canonical raw = .ok (some backupId)) →
      (pass backupId).failed = true →
      (FollowedUp ((runQueued canonical pass (drainPending pending) book).book (some backupId)) ↔
        RunsItsOwnPass canonical (drainPending pending) backupId) := by
    rintro backupId ⟨raw, member, found⟩ unsuccessful
    exact foldl_followedUp_iff _ _ (drainPending_ascending pending) (by simp)
      ⟨raw, mem_drainPending.mpr member, found⟩ unsuccessful
  constructor
  · intro followed raw member backupId queued less found unsuccessful
    have run := (processed backupId).mpr ⟨raw, member, found⟩
    exact (each backupId ⟨raw, member, found⟩ unsuccessful).mp
      (followed backupId run unsuccessful) raw (mem_drainPending.mpr member)
      (mem_drainPending.mpr queued) less found
  · intro unmasked backupId run unsuccessful
    refine (each backupId ((processed backupId).mp run) unsuccessful).mpr ?_
    intro raw member queued less found
    exact unmasked raw (mem_drainPending.mp member) backupId (mem_drainPending.mp queued) less
      found unsuccessful

end FollowUp

/-- Two queued triggers of one guest, the newer of which both map to, and a failed pass: the
failure ends with neither an error nor a retry. -/
theorem runQueued_forgets_failure :
    ¬ ∀ (canonical : Nat → Except String (Option Nat)) (pass : Nat → PassOutcome)
      (pending : List Nat) (book : RetryBook 3),
      ∀ backupId ∈ (runQueued canonical pass (drainPending pending) book).processed,
        (pass backupId).failed = true →
        FollowedUp
          ((runQueued canonical pass (drainPending pending) book).book (some backupId)) := by
  intro always
  have followed := always (fun _ => .ok (some 9)) (fun _ => .raised "database is locked") [9, 5]
    .empty 9 (by decide) rfl
  exact absurd followed.1 (by decide)

end ProxSync.Retention
