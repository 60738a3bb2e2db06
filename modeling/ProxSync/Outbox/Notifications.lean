import ProxSync.Lib.System
import ProxSync.Lib.Text
import ProxSync.Schemas
/-!
# The notification outbox

A message is stored as a pending row, or as a suppressed one where it repeats a recent message, and
a worker delivers pending rows: it charges an attempt in one transaction, calls the transport with
no transaction open, and writes the verdict in another. Operators put rows back on the queue.
Crashes, restarts and requests interleave with the worker at every step; a message is stored in one
step.
-/
open ProxSync.Lib

namespace ProxSync.Outbox

/-- What a message is about. -/
inductive NotificationEvent
  | backupStarted
  | backupSuccess
  | backupFailed
  | restoreStarted
  | restoreFinished
  | restoreFailed
  | uploadFailed
  | retentionDeleted
  | storageThreshold
  | test
  deriving DecidableEq, Repr

/-- Lifecycle of a message. -/
inductive NotificationStatus
  | pending
  | sent
  | failed
  | suppressed
  deriving DecidableEq, Repr

/-- One message of the outbox. -/
structure Notification where
  id : Nat
  eventType : NotificationEvent
  status : NotificationStatus
  text : String
  /-- The message this one repeats. -/
  suppressedBy : Option Nat
  dedupeKey : Option String
  attempts : Nat
  maxAttempts : Nat
  nextAttemptAt : Option Instant
  sentAt : Option Instant
  errorMessage : Option String
  createdAt : Instant
  deriving DecidableEq, Repr

/-- The channel settings, with the messages that are wanted. -/
structure TelegramSettings where
  enabled : Bool
  botToken : Option String
  chatId : String
  notifyBackupStarted : Bool
  notifyBackupSuccess : Bool
  notifyBackupFailed : Bool
  notifyRestoreStarted : Bool
  notifyRestoreFinished : Bool
  notifyRestoreFailed : Bool
  notifyUploadFailed : Bool
  notifyRetentionDeleted : Bool
  notifyStorageThreshold : Bool
  deriving DecidableEq, Repr

/-- What the outbox is configured with; delays are in seconds. -/
structure Config where
  maxAttempts : Nat
  retryBaseSeconds : Nat
  retryMaxSeconds : Nat
  /-- A message is tried at least once. -/
  positive : 0 < maxAttempts

/-- A message the worker charged an attempt for. -/
structure Claim where
  notificationId : Nat
  text : String
  attempt : Nat
  maxAttempts : Nat
  deriving DecidableEq, Repr

/-- What the transport makes of a call. -/
inductive Reply
  | message
  | error (detail : String) (retryable : Bool) (retryAfter : Option Nat)
  deriving DecidableEq, Repr

/-- What is recorded of an attempt. -/
inductive Verdict
  | sent
  | failure (message : String) (retry : Bool) (retryAfter : Option Nat)
  deriving DecidableEq, Repr

/-- Where the worker is suspended. -/
inductive Phase
  | down
  | idle
  | claiming (read : Notification)
  | delivering (claim : Claim)
  | calling (claim : Claim)
  | recording (claim : Claim) (verdict : Verdict)
  /-- The delivery raised, and the loop records that. -/
  | closing (claim : Claim) (message : String)
  | ended
  deriving DecidableEq

/-- What happened to messages. -/
inductive Event
  | enqueued (id : Nat) (unique : Bool) (window : Nat)
  | claimed (id : Nat)
  /-- The transport was called. -/
  | called (id : Nat)
  /-- A verdict was written. -/
  | recorded (id : Nat)
  | resent (id : Nat)
  deriving DecidableEq, Repr

/-- The message an event is about. -/
def Event.id : Event → Nat
  | .enqueued id _ _ | .claimed id | .called id | .recorded id | .resent id => id

/-- The outbox, its worker and the requests in flight, with what they read. -/
structure State where
  telegram : TelegramSettings
  rows : Table Notification.id
  phase : Phase
  resends : Nat → Option Notification
  /-- When the last message was stored. -/
  clock : Instant
  /-- Everything that happened, latest first. -/
  journal : List Event

/-- What may happen next; a request is known by a number. -/
inductive Action
  | configure (telegram : TelegramSettings)
  /-- A message is composed at one time and stored at another. -/
  | enqueue (event : NotificationEvent) (dedupeKey : Option String) (unique : Bool) (window : Nat)
      (text : String) (now createdAt : Instant)
  | resendRead (request id : Nat)
  | resendCommit (request : Nat)
  | resendDrop (request : Nat)
  | boot
  | crash
  | claimRead (now : Instant)
  | claimCommit (now : Instant) (jitter : Nat)
  | prepare
  | answer (reply : Reply)
  | record (now : Instant) (jitter : Nat)
  | raise (detail : String)

/-! ## Storing a message -/

/-- Whether a message of a kind is wanted. -/
def wanted (telegram : TelegramSettings) (event : NotificationEvent) : Bool :=
  telegram.enabled &&
    match event with
    | .backupStarted => telegram.notifyBackupStarted
    | .backupSuccess => telegram.notifyBackupSuccess
    | .backupFailed => telegram.notifyBackupFailed
    | .restoreStarted => telegram.notifyRestoreStarted
    | .restoreFinished => telegram.notifyRestoreFinished
    | .restoreFailed => telegram.notifyRestoreFailed
    | .uploadFailed => telegram.notifyUploadFailed
    | .retentionDeleted => telegram.notifyRetentionDeleted
    | .storageThreshold => telegram.notifyStorageThreshold
    | .test => true

/-- The key a message is compared by, if it has one; an empty text is none. -/
def givenKey : Option String → Option String
  | some key => if key = "" then none else some key
  | none => none

/-- The order of storing. -/
def Notification.order (row : Notification) : Lex (Nat × Nat) := toLex (row.createdAt, row.id)

/-- Messages that describe one occurrence, stored since a time, with one of some statuses. -/
def matching (event : NotificationEvent) (key : String) (since : Instant)
    (statuses : List NotificationStatus) (row : Notification) : Bool :=
  row.eventType == event && row.dedupeKey == some key && decide (since ≤ row.createdAt) &&
    decide (row.status ∈ statuses)

/-- The most recent of some messages. -/
def latest (rows : Table Notification.id) (test : Notification → Bool) : Option Notification :=
  (rows.rows.filter test).argmax Notification.order

/-- Every status a message can have. -/
def anyStatus : List NotificationStatus := [.pending, .sent, .failed, .suppressed]

/-- The message of the same occurrence that a unique message repeats. -/
def alreadyRecorded (rows : Table Notification.id) (event : NotificationEvent)
    (dedupeKey : Option String) (unique : Bool) : Option Notification :=
  if unique then
    (givenKey dedupeKey).bind fun key => latest rows (matching event key 0 anyStatus)
  else none

/-- The message that a recurring message repeats: one of the window that is queued or was sent. -/
def suppressedBy (rows : Table Notification.id) (event : NotificationEvent)
    (dedupeKey : Option String) (unique : Bool) (window : Nat) (now : Instant) :
    Option Notification :=
  if unique then none
  else
    (givenKey dedupeKey).bind fun key =>
      latest rows (matching event key (now - window) [.pending, .sent])

/-- A message as it is stored. -/
def created (config : Config) (event : NotificationEvent) (dedupeKey : Option String)
    (text : String) (repeated : Option Notification) (createdAt : Instant) (id : Nat) :
    Notification where
  id := id
  eventType := event
  status := if repeated.isSome then .suppressed else .pending
  text := text
  suppressedBy := repeated.map Notification.id
  dedupeKey := dedupeKey
  attempts := 0
  maxAttempts := config.maxAttempts
  nextAttemptAt := none
  sentAt := none
  errorMessage := none
  createdAt := createdAt

/-- A new row has the id it is stored under. -/
theorem created_id (config : Config) (event : NotificationEvent) (dedupeKey : Option String)
    (text : String) (repeated : Option Notification) (createdAt : Instant) (id : Nat) :
    (created config event dedupeKey text repeated createdAt id).id = id := rfl

/-! ## Delivering a message -/

/-- A pending message whose backoff has elapsed. -/
def isReady (now : Instant) (row : Notification) : Bool :=
  row.status == .pending && row.nextAttemptAt.all fun due => decide (due ≤ now)

/-- The oldest message that is ready. -/
def nextReady (rows : Table Notification.id) (now : Instant) : Option Notification :=
  (rows.rows.filter (isReady now)).argmin Notification.order

/-- One second. -/
def second : Nat := 1000000

/-- The delay after an attempt: between the base and a ceiling that doubles with every attempt. -/
def retryDelay (config : Config) (attempt jitter : Nat) : Nat :=
  let base := config.retryBaseSeconds * second
  let ceiling := min (config.retryMaxSeconds * second) (base * 2 ^ (attempt - 1))
  if base < ceiling then base + jitter % (ceiling - base + 1) else base

/-- Charge an attempt to a message and schedule the next one. -/
def charged (config : Config) (read : Notification) (now : Instant) (jitter : Nat)
    (row : Notification) : Notification :=
  { row with
    attempts := read.attempts + 1
    nextAttemptAt := some (now + retryDelay config (read.attempts + 1) jitter) }

/-- A charged row keeps its id. -/
theorem charged_id (config : Config) (read : Notification) (now : Instant) (jitter : Nat)
    (row : Notification) : (charged config read now jitter row).id = row.id := rfl

/-- What the worker keeps of a message it claimed. -/
def claimOf (read : Notification) : Claim :=
  ⟨read.id, read.text, read.attempts + 1, read.maxAttempts⟩

/-- Why nothing can be sent with some settings. -/
def misconfiguration (telegram : TelegramSettings) : List String :=
  (if telegram.enabled then [] else ["notifications are disabled"]) ++
    (if blank (telegram.botToken.getD "") then ["no bot token is saved"] else []) ++
    (if blank telegram.chatId then ["no chat id is saved"] else [])

/-- Why a message cannot be sent, if it cannot. -/
def unsendable (telegram : TelegramSettings) (claim : Claim) : Option String :=
  let reasons := misconfiguration telegram
  if reasons ≠ [] then
    some ("Telegram is not fully configured: " ++ String.intercalate ", " reasons ++
      ". Fix it in Settings → Telegram, then resend.")
  else if blank claim.text then some "The message had no text to send"
  else none

/-- What is recorded of an answer. -/
def Reply.verdict : Reply → Verdict
  | .message => .sent
  | .error detail retryable retryAfter => .failure detail retryable retryAfter

/-- Whether a failed attempt was the last one. -/
def exhausted (claim : Claim) (retry : Bool) : Bool :=
  !retry || decide (claim.maxAttempts ≤ claim.attempt)

/-- The message after its verdict. -/
def settled (config : Config) (claim : Claim) (verdict : Verdict) (now : Instant) (jitter : Nat)
    (row : Notification) : Notification :=
  match verdict with
  | .sent =>
    { row with status := .sent, sentAt := some now, nextAttemptAt := none, errorMessage := none }
  | .failure message retry retryAfter =>
    let delay := (retryAfter.map (· * second)).getD (retryDelay config claim.attempt jitter)
    if exhausted claim retry then
      { row with
        status := .failed
        nextAttemptAt := none
        errorMessage := some (message.take 2000).copy }
    else
      { row with
        status := .pending
        nextAttemptAt := some (now + delay)
        errorMessage := some (message.take 2000).copy }

/-- A settled row keeps its id. -/
theorem settled_id (config : Config) (claim : Claim) (verdict : Verdict) (now : Instant)
    (jitter : Nat) (row : Notification) :
    (settled config claim verdict now jitter row).id = row.id := by
  unfold settled
  cases verdict with
  | sent => rfl
  | failure message retry retryAfter =>
    simp only
    split <;> rfl

/-- A column of an `UPDATE`: it is written only where the value differs from the one read. -/
def netWrite {α : Type} [DecidableEq α] (read written current : α) : α :=
  if written = read then current else written

/-- Put a message back on the queue that was read as not pending. -/
def requeued (read row : Notification) : Notification :=
  { row with
    status := .pending
    attempts := netWrite read.attempts 0 row.attempts
    nextAttemptAt := netWrite read.nextAttemptAt none row.nextAttemptAt
    errorMessage := netWrite read.errorMessage none row.errorMessage
    sentAt := netWrite read.sentAt none row.sentAt }

/-- A row that is queued again keeps its id. -/
theorem requeued_id (read row : Notification) : (requeued read row).id = row.id := rfl

/-! ## Steps -/

namespace State

/-- Suspend the worker somewhere else. -/
def goto (state : State) (phase : Phase) : State := { state with phase := phase }

/-- Note that something happened. -/
def note (state : State) (event : Event) : State :=
  { state with journal := event :: state.journal }

/-- Rewrite a stored message. -/
def rewrite (state : State) (id : Nat) (update : Notification → Notification)
    (keeps : ∀ row, (update row).id = row.id) : State :=
  { state with rows := state.rows.modify id update keeps }

/-- Take up a request, or let go of it. -/
def track (state : State) (request : Nat) (read : Option Notification) : State :=
  { state with resends := Function.update state.resends request read }

/-- Store a message, unless it is not wanted or its occurrence is recorded. -/
def enqueue (state : State) (config : Config) (event : NotificationEvent)
    (dedupeKey : Option String) (unique : Bool) (window : Nat) (text : String)
    (now createdAt : Instant) : State :=
  if wanted state.telegram event then
    match alreadyRecorded state.rows event dedupeKey unique with
    | some _ => state
    | none =>
      let repeated := suppressedBy state.rows event dedupeKey unique window now
      { state with
        rows := state.rows.append (created config event dedupeKey text repeated createdAt)
          (created_id _ _ _ _ _ _)
        clock := createdAt
        journal := .enqueued state.rows.nextKey unique window :: state.journal }
  else state

/-- Write the verdict of an attempt. -/
def settle (state : State) (config : Config) (claim : Claim) (verdict : Verdict) (now : Instant)
    (jitter : Nat) : State :=
  ((state.rewrite claim.notificationId (settled config claim verdict now jitter)
    (settled_id _ _ _ _ _)).goto .idle).note (.recorded claim.notificationId)

end State

/-- The effect of one action, or nothing where it cannot happen. -/
def step (config : Config) (state : State) : Action → Option State
  | .configure telegram => some { state with telegram := telegram }
  | .enqueue event dedupeKey unique window text now createdAt =>
    if state.clock ≤ now ∧ now ≤ createdAt then
      some (state.enqueue config event dedupeKey unique window text now createdAt)
    else none
  | .resendRead request id =>
    match state.resends request, state.rows.get id with
    | none, some row =>
      if row.status = .pending then none else some (state.track request (some row))
    | _, _ => none
  | .resendCommit request =>
    match state.resends request with
    | some read =>
      some (((state.rewrite read.id (requeued read) (requeued_id read)).track request none).note
        (.resent read.id))
    | none => none
  | .resendDrop request => some (state.track request none)
  | .boot =>
    match state.phase with
    | .down => some (state.goto .idle)
    | _ => none
  | .crash => some { state with phase := .down, resends := fun _ => none }
  | .claimRead now =>
    match state.phase with
    | .idle => (nextReady state.rows now).map fun row => state.goto (.claiming row)
    | _ => none
  | .claimCommit now jitter =>
    match state.phase with
    | .claiming read =>
      some (((state.rewrite read.id (charged config read now jitter) (charged_id _ _ _ _)).goto
        (.delivering (claimOf read))).note (.claimed read.id))
    | _ => none
  | .prepare =>
    match state.phase with
    | .delivering claim =>
      match unsendable state.telegram claim with
      | some message => some (state.goto (.recording claim (.failure message false none)))
      | none => some ((state.goto (.calling claim)).note (.called claim.notificationId))
    | _ => none
  | .answer reply =>
    match state.phase with
    | .calling claim => some (state.goto (.recording claim reply.verdict))
    | _ => none
  | .record now jitter =>
    match state.phase with
    | .recording claim verdict => some (state.settle config claim verdict now jitter)
    | .closing claim message =>
      some (state.settle config claim (.failure message true none) now jitter)
    | _ => none
  | .raise detail =>
    match state.phase with
    | .claiming _ => some (state.goto .idle)
    | .delivering claim | .calling claim | .recording claim _ =>
      some (state.goto (.closing claim ("The outbox worker failed: " ++ detail)))
    | .closing _ _ => some (state.goto .ended)
    | _ => none

/-- The outbox of a new installation. -/
def system (config : Config) : System State Action where
  init state :=
    ∃ telegram, state = ⟨telegram, .empty, .down, fun _ => none, 0, []⟩
  step := step config

/-- The worker reads only pending messages. -/
theorem nextReady_pending {rows : Table Notification.id} {now : Instant} {row : Notification}
    (found : nextReady rows now = some row) : row ∈ rows ∧ row.status = .pending := by
  have listed := List.mem_filter.mp (List.argmin_mem found)
  exact ⟨listed.1, beq_iff_eq.mp (Bool.and_eq_true_iff.mp listed.2).1⟩

/-- The message the worker holds a claim on. -/
def Phase.claim : Phase → Option Claim
  | .delivering claim | .calling claim | .recording claim _ | .closing claim _ => some claim
  | _ => none

/-! ## Short schedules -/

/-- A channel that is set up and wants every message. -/
def everyMessage : TelegramSettings :=
  ⟨true, some "token", "42", true, true, true, true, true, true, true, true, true⟩

/-- The outbox of a new installation whose channel is set up. -/
def freshOutbox : State := ⟨everyMessage, .empty, .down, fun _ => none, 0, []⟩

/-- The outbox of a new installation is an initial state. -/
theorem freshOutbox_init (config : Config) : (system config).init freshOutbox := ⟨everyMessage, rfl⟩

/-- One attempt for each message. -/
def oneAttempt : Config := ⟨1, 30, 3600, Nat.one_pos⟩

/-- A message is stored and claimed, and the transport is called for it. -/
def calledOnce : List Action :=
  [.enqueue .backupFailed (some "run:1") true 300 "backup failed" 0 0, .boot, .claimRead 0,
    .claimCommit 0 0, .prepare]

end ProxSync.Outbox
