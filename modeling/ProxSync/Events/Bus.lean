import ProxSync.Lib.EventStream
import ProxSync.Lib.Printable
import ProxSync.Lib.System
import ProxSync.Lib.Table
import ProxSync.Logs.Context
/-!
# Live events

An event is put into the queue of each subscriber. A full queue loses its oldest event for it, so
what is published never waits. The stream of a subscriber opens with a frame of its own, writes a
frame for each event that is taken out of the queue, and a comment where none has come for a while.
It ends when the browser leaves, or when an event cannot be written.
-/
open ProxSync.Lib ProxSync.Lib.Dumps ProxSync.Lib.EventStream

namespace ProxSync.Events

/-- The names that events are published under. -/
inductive EventName
  | runState
  | backupState
  | backupProgress
  | jobState
  | inventoryUpdated
  | storageUpdate
  | restoreState
  | restoreProgress
  | notificationState
  deriving DecidableEq, Repr

/-- A name as it is written. -/
def EventName.text : EventName → String
  | .runState => "run.state"
  | .backupState => "backup.state"
  | .backupProgress => "backup.progress"
  | .jobState => "job.state"
  | .inventoryUpdated => "inventory.updated"
  | .storageUpdate => "storage.update"
  | .restoreState => "restore.state"
  | .restoreProgress => "restore.progress"
  | .notificationState => "notification.state"

/-- An event; a value that JSON does not have is already the text that represents it. -/
structure Event where
  type : EventName
  data : List (PyText × PyJson)
  ts : PyText
  correlationId : Option PyText

/-- What is written of an event: the data may replace its time, and its origin replaces both. -/
def Event.toPayload (event : Event) : List (PyText × PyJson) :=
  let payload := event.data.foldl (fun entries entry => Logs.put entries entry.1 entry.2)
    [(PyText.of "ts", .str event.ts)]
  let correlation := event.correlationId.getD []
  if correlation = [] then payload
  else Logs.put payload (PyText.of "correlation_id") (.str correlation)

/-- The frame of an event. -/
def frame (event : Event) : Except PyError (List Char) := do
  let data ← dumps (.dict event.toPayload)
  .ok ("event: ".toList ++ event.type.text.toList ++ "\ndata: ".toList ++ data ++ "\n\n".toList)

/-- The frame a stream opens with. -/
def opening : List Char := "event: stream.open\ndata: \x7b\x7d\n\n".toList

/-- The comment of a stream on which nothing happens. -/
def keepAlive : List Char := ": keep-alive\n\n".toList

/-- A subscriber: its queue, whether it is among those that events are put to, and what its stream
has written. The rest records what happened: how many events had been published before, which ones
it was offered, which of them were written or could not be, and how many its queue lost. -/
structure Subscription where
  id : ℕ
  queue : List Event
  subscribed : Bool
  output : List Char
  since : ℕ
  offered : List Event
  sent : List Event
  failed : List Event
  lost : ℕ

namespace Subscription

/-- The subscriber that begins. -/
def opened (since id : ℕ) : Subscription := ⟨id, [], true, opening, since, [], [], [], 0⟩

/-- Whether a queue has no room; a queue whose greatest size is zero always has. -/
def full (size : ℕ) (subscription : Subscription) : Bool :=
  0 < size && size ≤ subscription.queue.length

/-- Put an event into a queue, which loses its oldest one if it is full. -/
def offer (size : ℕ) (event : Event) (subscription : Subscription) : Subscription :=
  { subscription with
    queue := (if subscription.full size then subscription.queue.tail else subscription.queue) ++
      [event]
    offered := subscription.offered ++ [event]
    lost := subscription.lost + if subscription.full size then 1 else 0 }

/-- Put an event to a subscriber, unless it has left. -/
def receive (size : ℕ) (event : Event) (subscription : Subscription) : Subscription :=
  if subscription.subscribed then subscription.offer size event else subscription

/-- What the stream of a subscriber does next. -/
inductive Action
  /-- No event has come in time. -/
  | wait
  /-- Take the next event and write it. -/
  | next
  /-- The browser has left. -/
  | leave
  deriving DecidableEq, Repr

/-- Write an event that was taken; the stream ends if it cannot be written. -/
def write (subscription : Subscription) (event : Event) (rest : List Event) : Subscription :=
  match frame event with
  | .ok text =>
    { subscription with
      queue := rest
      output := subscription.output ++ text
      sent := subscription.sent ++ [event] }
  | .error _ =>
    { subscription with
      queue := rest
      subscribed := false
      failed := subscription.failed ++ [event] }

/-- The subscriber after its stream did something. -/
def act (subscription : Subscription) (action : Action) : Option Subscription :=
  if subscription.subscribed then
    match action with
    | .wait => some { subscription with output := subscription.output ++ keepAlive }
    | .next =>
      match subscription.queue with
      | [] => none
      | event :: rest => some (subscription.write event rest)
    | .leave => some { subscription with subscribed := false }
  else none

/-- The subscriber after what its stream did, if it can. -/
def did (action : Action) (subscription : Subscription) : Subscription :=
  (subscription.act action).getD subscription

end Subscription

open Subscription

/-- The subscribers, and how many events their queues have lost. What has been published is
recorded. -/
structure EventBus where
  queueSize : ℕ
  subscriptions : Table Subscription.id
  dropped : ℕ
  published : List Event

/-- What happens. -/
inductive Label
  | publish (event : Event)
  | subscribe
  | stream (named : ℕ) (action : Action)

variable {size : ℕ} {event : Event} {subscription after : Subscription} {action : Action}

/-- A subscription that receives keeps its id. -/
theorem receive_id (subscription : Subscription) :
    (subscription.receive size event).id = subscription.id := by
  unfold receive
  split <;> rfl

/-- A subscription that writes keeps its id. -/
theorem write_id (subscription : Subscription) (rest : List Event) :
    (subscription.write event rest).id = subscription.id := by
  unfold write
  split <;> rfl

/-- A subscription that acts keeps its id. -/
theorem act_id (acted : subscription.act action = some after) : after.id = subscription.id := by
  unfold act at acted
  split at acted
  · cases action with
    | wait => rw [← Option.some.inj acted]
    | leave => rw [← Option.some.inj acted]
    | next =>
      cases waiting : subscription.queue with
      | nil => simp [waiting] at acted
      | cons event rest =>
        simp only [waiting, Option.some.injEq] at acted
        rw [← acted, write_id]
  · cases acted

/-- What a subscription did leaves its id. -/
theorem did_id (action : Action) (subscription : Subscription) :
    (subscription.did action).id = subscription.id := by
  unfold did
  cases acted : subscription.act action with
  | none => rfl
  | some after => exact act_id acted

namespace EventBus

/-- Put an event to every subscriber. -/
def publish (bus : EventBus) (event : Event) : EventBus :=
  { bus with
    subscriptions := bus.subscriptions.map (Subscription.receive bus.queueSize event) receive_id
    dropped := bus.dropped +
      bus.subscriptions.count fun row => row.subscribed && row.full bus.queueSize
    published := bus.published ++ [event] }

/-- Add a subscriber. -/
def subscribe (bus : EventBus) : EventBus :=
  { bus with
    subscriptions :=
      bus.subscriptions.append (opened bus.published.length) fun _ => rfl }

/-- The stream of a subscriber does something. -/
def stream (bus : EventBus) (named : ℕ) (action : Action) : Option EventBus :=
  (bus.subscriptions.get named).bind fun row =>
    (row.act action).map fun _ =>
      { bus with subscriptions := bus.subscriptions.modify named (did action) (did_id action) }

/-- The effect of one label, or nothing where it cannot happen. -/
def step (bus : EventBus) : Label → Option EventBus
  | .publish event => some (bus.publish event)
  | .subscribe => some bus.subscribe
  | .stream named action => bus.stream named action

end EventBus

/-- The runs of a bus whose queues hold so many events. -/
def system (size : ℕ) : System EventBus Label where
  init bus := bus = ⟨size, .empty, 0, []⟩
  step := EventBus.step

/-! ## What a queue keeps -/

/-- What holds of the queue of a subscriber. -/
structure Subscription.Kept (size : ℕ) (row : Subscription) : Prop where
  /-- What was taken and what waits was offered, in that order and each time once. -/
  order : (row.sent ++ row.failed ++ row.queue).Sublist row.offered
  /-- What waits is the newest of it. -/
  newest : row.queue <:+ row.offered
  count : row.sent.length + row.failed.length + row.queue.length + row.lost = row.offered.length
  room : 0 < size → row.queue.length ≤ size
  unbounded : size = 0 → row.lost = 0
  working : row.subscribed = true → row.failed = []

/-- A subscription that was just opened keeps what one keeps. -/
theorem kept_opened (size since named : ℕ) : (opened since named).Kept size where
  order := List.Sublist.refl _
  newest := List.suffix_rfl
  count := rfl
  room _ := Nat.zero_le _
  unbounded _ := rfl
  working _ := rfl

/-- A full queue drops its oldest event for a new one. -/
theorem offer_full (full : subscription.full size = true) : subscription.offer size event =
    { subscription with
      queue := subscription.queue.tail ++ [event]
      offered := subscription.offered ++ [event]
      lost := subscription.lost + 1 } := by
  rw [offer, full, if_pos rfl, if_pos rfl]

/-- A queue with room takes a new event. -/
theorem offer_room (room : subscription.full size = false) : subscription.offer size event =
    { subscription with
      queue := subscription.queue ++ [event]
      offered := subscription.offered ++ [event] } := by
  rw [offer, room, if_neg Bool.false_ne_true, if_neg Bool.false_ne_true, Nat.add_zero]

/-- An offer keeps what a queue keeps: if it is full, its oldest event is lost and no other. -/
theorem Subscription.Kept.offer (kept : subscription.Kept size) :
    (subscription.offer size event).Kept size := by
  have count := kept.count
  by_cases full : subscription.full size = true
  · have crowded := full
    simp only [Subscription.full, Bool.and_eq_true, decide_eq_true_eq] at crowded
    have room := kept.room crowded.1
    have shorter : subscription.queue.tail <:+ subscription.queue := List.tail_suffix _
    rw [offer_full full]
    constructor
    · rw [← List.append_assoc]
      exact ((shorter.sublist.append_left _).trans kept.order).append_right _
    · exact List.suffix_append_self_iff.mpr (shorter.trans kept.newest)
    · simp only [List.length_append, List.length_tail, List.length_singleton]
      omega
    · intro _
      simp only [List.length_append, List.length_tail, List.length_singleton]
      omega
    · intro zero
      omega
    · exact kept.working
  · have empty := full
    rw [Bool.not_eq_true] at full
    simp only [Subscription.full, Bool.and_eq_true, decide_eq_true_eq] at empty
    rw [offer_room full]
    constructor
    · rw [← List.append_assoc]
      exact kept.order.append_right _
    · exact List.suffix_append_self_iff.mpr kept.newest
    · simp only [List.length_append, List.length_singleton]
      omega
    · intro some
      simp only [List.length_append, List.length_singleton]
      omega
    · exact kept.unbounded
    · exact kept.working

/-- A subscriber that is still there and takes the next event writes it or ends. -/
theorem write_cases (subscription : Subscription) (event : Event) (rest : List Event) :
    (∃ text, frame event = .ok text ∧ subscription.write event rest =
      { subscription with
        queue := rest
        output := subscription.output ++ text
        sent := subscription.sent ++ [event] }) ∨
    (subscription.write event rest =
      { subscription with
        queue := rest
        subscribed := false
        failed := subscription.failed ++ [event] }) := by
  unfold write
  cases written : frame event with
  | ok text => exact .inl ⟨text, rfl, rfl⟩
  | error _ => exact .inr rfl

/-- What a stream can do. -/
theorem act_cases (acted : subscription.act action = some after) :
    subscription.subscribed = true ∧
    (after = { subscription with output := subscription.output ++ keepAlive } ∨
      after = { subscription with subscribed := false } ∨
      ∃ event rest, subscription.queue = event :: rest ∧
        after = subscription.write event rest) := by
  unfold act at acted
  by_cases here : subscription.subscribed = true
  · rw [if_pos here] at acted
    refine ⟨here, ?_⟩
    cases action with
    | wait => exact .inl (Option.some.inj acted).symm
    | leave => exact .inr (.inl (Option.some.inj acted).symm)
    | next =>
      cases waiting : subscription.queue with
      | nil => simp [waiting] at acted
      | cons event rest =>
        simp only [waiting, Option.some.injEq] at acted
        exact .inr (.inr ⟨event, rest, rfl, acted.symm⟩)
  · rw [if_neg here] at acted
    cases acted

/-- A step of a subscription keeps what one keeps. -/
theorem Subscription.Kept.act (kept : subscription.Kept size)
    (acted : subscription.act action = some after) : after.Kept size := by
  obtain ⟨here, rfl | rfl | ⟨event, rest, waiting, rfl⟩⟩ := act_cases acted
  · exact ⟨kept.order, kept.newest, kept.count, kept.room, kept.unbounded, kept.working⟩
  · exact ⟨kept.order, kept.newest, kept.count, kept.room, kept.unbounded, fun no => by cases no⟩
  have working := kept.working here
  have order := kept.order
  have count := kept.count
  have behind : rest <:+ subscription.offered :=
    (waiting ▸ List.suffix_cons event rest).trans kept.newest
  have room (some : 0 < size) : rest.length ≤ size := by
    have bound := kept.room some
    rw [waiting, List.length_cons] at bound
    omega
  rw [waiting, working] at order count
  simp only [List.append_nil, List.length_nil, List.length_cons] at order count
  rcases write_cases subscription event rest with ⟨text, -, written⟩ | written
  · rw [written]
    constructor
    · simpa [working] using order
    · exact behind
    · simp only [working, List.length_append, List.length_singleton, List.length_nil]
      omega
    · exact room
    · exact kept.unbounded
    · exact fun _ => working
  · rw [written]
    constructor
    · simpa [working] using order
    · exact behind
    · simp only [working, List.nil_append, List.length_singleton]
      omega
    · exact room
    · exact kept.unbounded
    · intro no
      cases no

/-! ## Runs -/

/-- What a subscription did is what its step leaves. -/
theorem did_eq (acted : subscription.act action = some after) :
    subscription.did action = after := by
  rw [did, acted, Option.getD_some]

/-- What the stream of a subscriber does changes its row and nothing else. -/
theorem stream_cases {bus next : EventBus} {named : ℕ}
    (stepped : bus.stream named action = some next) :
    ∃ row after, bus.subscriptions.get named = some row ∧ row.act action = some after ∧
      next = { bus with
        subscriptions := bus.subscriptions.modify named (did action) (did_id action) } := by
  unfold EventBus.stream at stepped
  obtain ⟨row, found, stepped⟩ := Option.bind_eq_some_iff.mp stepped
  obtain ⟨after, acted, rfl⟩ := Option.map_eq_some_iff.mp stepped
  exact ⟨row, after, found, acted, rfl⟩

/-- A step of the bus leaves the size of its queues. -/
theorem queueSize_step {bus next : EventBus} {label : Label}
    (stepped : bus.step label = some next) : next.queueSize = bus.queueSize := by
  cases label with
  | publish event => rw [← Option.some.inj stepped]; rfl
  | subscribe => rw [← Option.some.inj stepped]; rfl
  | stream named action =>
    obtain ⟨row, after, -, -, rfl⟩ := stream_cases stepped
    rfl

/-- Every reached bus has the queues it was built with. -/
theorem queueSize_reached {bus : EventBus}
    (reached : (system size).Reachable System.unguarded bus) : bus.queueSize = size := by
  apply reached.invariant_alone
  constructor
  · rintro _ rfl
    rfl
  · intro state label next _ same _ stepped
    exact (queueSize_step stepped).trans same

/-- What holds of a subscriber that begins, and is kept by every publication and by what its stream
does, holds of every subscriber. -/
theorem rows_invariant (holds : List Event → Subscription → Prop) {bus : EventBus}
    (reached : (system size).Reachable System.unguarded bus)
    (opens : ∀ published named, holds published (opened published.length named))
    (receives : ∀ published event row, holds published row →
      holds (published ++ [event]) (row.receive size event))
    (acts : ∀ published action row after, holds published row → row.act action = some after →
      holds published after) :
    ∀ row ∈ bus.subscriptions, holds bus.published row := by
  have sizes (state : EventBus) (reached : (system size).Reachable System.unguarded state) :
      state.queueSize = size := queueSize_reached reached
  apply reached.invariant sizes
  constructor
  · rintro _ rfl row stored
    exact absurd stored (Table.not_mem_empty row)
  · intro state label next sized held _ stepped row stored
    cases label with
    | publish event =>
      rw [← Option.some.inj stepped] at stored ⊢
      obtain ⟨old, before, rfl⟩ := (Table.mem_map receive_id).mp stored
      rw [sized]
      exact receives _ event old (held old before)
    | subscribe =>
      rw [← Option.some.inj stepped] at stored ⊢
      rcases (Table.mem_append fun _ => rfl).mp stored with before | rfl
      · exact held row before
      · exact opens _ _
    | stream named action =>
      obtain ⟨acting, after, found, acted, rfl⟩ := stream_cases stepped
      rcases (Table.mem_modify (did_id action)).mp stored with
        ⟨old, before, same, rfl⟩ | ⟨before, -⟩
      · have member := (Table.get_eq_some.mp found)
        have equal := Table.eq_of_key before member.1 (same.trans member.2.symm)
        rw [equal, did_eq acted]
        exact acts _ _ _ _ (held acting member.1) acted
      · exact held row before

/-- Every queue keeps what a queue keeps. -/
theorem kept_reached {bus : EventBus} (reached : (system size).Reachable System.unguarded bus) :
    ∀ row ∈ bus.subscriptions, row.Kept size := by
  apply rows_invariant (fun _ row => row.Kept size) reached
  · intro published named
    exact kept_opened size _ named
  · intro published event row kept
    unfold receive
    split
    · exact kept.offer
    · exact kept
  · intro published action row after kept acted
    exact kept.act acted

/-- How much of what is published a subscriber has been offered. -/
structure Heard (published : List Event) (row : Subscription) : Prop where
  since : row.since ≤ published.length
  begins : row.offered <+: published.drop row.since
  current : row.subscribed = true → row.offered = published.drop row.since

/-- A subscription that receives what is published has heard of it. -/
theorem Heard.receive {published : List Event} (heard : Heard published subscription) :
    Heard (published ++ [event]) (subscription.receive size event) := by
  have behind := @List.drop_append_of_le_length _ _ [event] _ heard.since
  unfold Subscription.receive
  by_cases here : subscription.subscribed = true
  · have all :
        subscription.offered ++ [event] = (published ++ [event]).drop subscription.since := by
      rw [behind, heard.current here]
    rw [if_pos here]
    constructor
    · rw [List.length_append]
      exact heard.since.trans (Nat.le_add_right _ _)
    · exact all ▸ List.prefix_rfl
    · exact fun _ => all
  · rw [if_neg here]
    constructor
    · rw [List.length_append]
      exact heard.since.trans (Nat.le_add_right _ _)
    · rw [behind]
      exact heard.begins.trans (List.prefix_append _ _)
    · exact fun yes => absurd yes here

/-- A step of a subscription leaves what it has heard. -/
theorem Heard.act {published : List Event} (heard : Heard published subscription)
    (acted : subscription.act action = some after) : Heard published after := by
  obtain ⟨here, rfl | rfl | ⟨event, rest, -, rfl⟩⟩ := act_cases acted
  · exact ⟨heard.since, heard.begins, heard.current⟩
  · exact ⟨heard.since, heard.begins, fun _ => heard.current here⟩
  · rcases write_cases subscription event rest with ⟨text, -, written⟩ | written
    · rw [written]
      exact ⟨heard.since, heard.begins, heard.current⟩
    · rw [written]
      exact ⟨heard.since, heard.begins, fun _ => heard.current here⟩

/-- In every run a subscription has heard what was published since it was opened. -/
theorem heard_reached {bus : EventBus} (reached : (system size).Reachable System.unguarded bus) :
    ∀ row ∈ bus.subscriptions, Heard bus.published row := by
  apply rows_invariant Heard reached
  · intro published named
    exact ⟨Nat.le_refl _, List.nil_prefix, fun _ => List.drop_length.symm⟩
  · intro published event row heard
    exact heard.receive
  · intro published action row after heard acted
    exact heard.act acted

/-- An event that finds a full queue is counted as a loss. -/
theorem lost_receive (row : Subscription) : (row.receive size event).lost =
    row.lost + if (row.subscribed && row.full size) = true then 1 else 0 := by
  unfold receive
  by_cases here : row.subscribed = true
  · rw [if_pos here, here, Bool.true_and]
    rfl
  · rw [if_neg here, Bool.not_eq_true] at *
    rw [here, Bool.false_and, if_neg Bool.false_ne_true, Nat.add_zero]

/-- What a subscription does loses nothing. -/
theorem lost_did (row : Subscription) : (row.did action).lost = row.lost := by
  unfold did
  cases acted : row.act action with
  | none => rfl
  | some after =>
    obtain ⟨-, rfl | rfl | ⟨event, rest, -, rfl⟩⟩ := act_cases acted
    · rfl
    · rfl
    · rcases write_cases row event rest with ⟨text, -, written⟩ | written <;>
        rw [written, Option.getD_some]

/-- A publication loses one event for every full queue. -/
theorem sum_lost_receive (rows : List Subscription) :
    ((rows.map (receive size event)).map lost).sum =
      (rows.map lost).sum + rows.countP fun row => row.subscribed && row.full size := by
  induction rows with
  | nil => rfl
  | cons row rest ih =>
    have here := @lost_receive size event row
    rw [List.map_cons, List.map_cons, List.sum_cons, ih, here, List.map_cons, List.sum_cons,
      List.countP_cons]
    omega

/-- The count of dropped events is what the queues have lost. -/
theorem dropped_reached {bus : EventBus} (reached : (system size).Reachable System.unguarded bus) :
    bus.dropped = (bus.subscriptions.rows.map lost).sum := by
  apply reached.invariant_alone
  constructor
  · rintro _ rfl
    rfl
  · intro state label next _ counted _ stepped
    cases label with
    | publish event =>
      rw [← Option.some.inj stepped]
      have sum := @sum_lost_receive state.queueSize event state.subscriptions.rows
      simp only [EventBus.publish, Table.map, Table.count, counted]
      exact sum.symm
    | subscribe =>
      rw [← Option.some.inj stepped]
      simp only [EventBus.subscribe, Table.append, Table.insert, List.map_append, List.sum_append]
      exact counted
    | stream named action =>
      obtain ⟨acting, after, -, -, rfl⟩ := stream_cases stepped
      have same : ∀ row : Subscription,
          (if row.id = named then row.did action else row).lost = row.lost := by
        intro row
        split
        · exact lost_did row
        · rfl
      simp only [Table.modify, List.map_map, Function.comp_def, same]
      exact counted

/-- In every run, what a subscriber was sent and what waits for it was published after it came, in
that order and each event once; what waits is the newest of it; the rest of it was lost and is
counted, and nothing is lost unless as many events as a queue holds were waiting. -/
theorem delivered {bus : EventBus} (reached : (system size).Reachable System.unguarded bus)
    {row : Subscription} (stored : row ∈ bus.subscriptions) :
    row.offered <+: bus.published.drop row.since ∧
    (row.sent ++ row.failed ++ row.queue).Sublist row.offered ∧
    row.queue <:+ row.offered ∧
    row.sent.length + row.failed.length + row.queue.length + row.lost = row.offered.length ∧
    (0 < size → row.queue.length ≤ size) ∧
    (row.lost = 0 → row.sent ++ row.failed ++ row.queue = row.offered) ∧
    (row.subscribed = true → row.failed = [] ∧ row.offered = bus.published.drop row.since) ∧
    bus.dropped = (bus.subscriptions.rows.map lost).sum := by
  have kept := kept_reached reached row stored
  have heard := heard_reached reached row stored
  have whole (none : row.lost = 0) : row.sent ++ row.failed ++ row.queue = row.offered := by
    apply kept.order.eq_of_length
    have count := kept.count
    rw [List.length_append, List.length_append]
    omega
  exact ⟨heard.begins, kept.order, kept.newest, kept.count, kept.room, whole,
    fun here => ⟨kept.working here, heard.current here⟩, dropped_reached reached⟩

/-! ## One queue at a time -/

/-- A label that is for a subscriber: a publication, or something its own stream does. -/
def Label.concerns (named : ℕ) : Label → Bool
  | .publish _ => true
  | .subscribe => false
  | .stream other _ => other = named

/-- A subscriber on its own. -/
def Subscription.follow (size : ℕ) (row : Subscription) : Label → Option Subscription
  | .publish event => some (row.receive size event)
  | .subscribe => some row
  | .stream _ action => row.act action

/-- A step of the bus is a step of a subscriber's own, or does not concern it. -/
theorem follow_step {bus next : EventBus} {label : Label} {named : ℕ} {row : Subscription}
    (stored : bus.subscriptions.get named = some row) (stepped : bus.step label = some next) :
    if label.concerns named then
      ∃ later, row.follow bus.queueSize label = some later ∧
        next.subscriptions.get named = some later
    else next.subscriptions.get named = some row := by
  cases label with
  | publish event =>
    rw [← Option.some.inj stepped]
    refine ⟨_, rfl, ?_⟩
    exact (Table.get_map receive_id).trans (by rw [stored]; rfl)
  | subscribe =>
    rw [← Option.some.inj stepped]
    have member := Table.get_eq_some.mp stored
    exact Table.get_eq_some.mpr ⟨(Table.mem_append fun _ => rfl).mpr (.inl member.1), member.2⟩
  | stream other action =>
    obtain ⟨acting, after, found, acted, rfl⟩ := stream_cases stepped
    by_cases same : other = named
    · subst same
      have equal : acting = row := Option.some.inj (found.symm.trans stored)
      subst equal
      simp only [Label.concerns, decide_true, if_true]
      refine ⟨after, acted, ?_⟩
      rw [Table.get_modify, if_pos rfl, stored, Option.map_some, did_eq acted]
    · simp only [Label.concerns, same, decide_false, Bool.false_eq_true, if_false]
      rw [Table.get_modify, if_neg (Ne.symm same)]
      exact stored

/-- In every run a subscriber does what it would do on its own: from the publications and from what
its own stream does follow its queue, its stream and what it loses. Whether other subscribers come,
read, fall behind or leave makes no difference to it. -/
theorem follow_run {bus next : EventBus} {labels : List Label} {named : ℕ} {row : Subscription}
    (stored : bus.subscriptions.get named = some row)
    (executed : (system size).runFrom System.unguarded bus labels = some next) :
    next.subscriptions.get named =
      (labels.filter (Label.concerns named)).foldlM (Subscription.follow bus.queueSize) row := by
  induction labels generalizing bus row with
  | nil =>
    simp only [System.runFrom, Option.some.injEq] at executed
    rw [← executed]
    exact stored
  | cons label rest ih =>
    simp only [System.runFrom, System.unguarded] at executed
    cases stepped : bus.step label with
    | none =>
      have stuck : (system size).step bus label = none := stepped
      simp [stuck] at executed
    | some middle =>
      have taken : (system size).step bus label = some middle := stepped
      simp only [taken] at executed
      have own := follow_step stored stepped
      have sized := queueSize_step stepped
      by_cases concerned : label.concerns named = true
      · rw [if_pos concerned] at own
        obtain ⟨later, followed, found⟩ := own
        rw [ih found executed, List.filter_cons_of_pos concerned, List.foldlM_cons, followed, sized]
        rfl
      · rw [if_neg concerned] at own
        rw [ih own executed, List.filter_cons_of_neg concerned, sized]

/-- An event without data. -/
def noted : Event := ⟨.jobState, [], [], none⟩

/-- A queue that has lost an event. -/
theorem delivered_lost : ∃ (bus : EventBus) (row : Subscription), row.lost = 1 ∧
    row.queue.length = 1 ∧ row.offered <+: bus.published.drop row.since := by
  obtain ⟨bus, reached, tested⟩ : ∃ bus, (system 1).Reachable System.unguarded bus ∧
      bus.subscriptions.rows.any (fun row => row.lost == 1 && row.queue.length == 1) = true :=
    System.exists_of_runFrom rfl [.subscribe, .publish noted, .publish noted] _ (by decide)
  obtain ⟨row, stored, tested⟩ := List.any_eq_true.mp tested
  simp only [Bool.and_eq_true, beq_iff_eq] at tested
  exact ⟨bus, row, tested.1, tested.2, (delivered reached stored).1⟩

/-- What happens beside a subscriber that does not read. -/
def beside : List Label := [.subscribe, .publish noted, .stream 2 .leave, .publish noted]

/-- A subscription follows its own labels of a run beside another one. -/
theorem follow_run_beside : ∃ next, (system 1).runFrom System.unguarded
      ⟨1, .singleton (opened 0 1), 0, []⟩ beside = some next ∧
    next.subscriptions.get 1 =
      (beside.filter (Label.concerns 1)).foldlM (Subscription.follow 1) (opened 0 1) := by
  obtain ⟨next, executed⟩ : ∃ next, (system 1).runFrom System.unguarded
      ⟨1, .singleton (opened 0 1), 0, []⟩ beside = some next := ⟨_, rfl⟩
  exact ⟨next, executed, follow_run rfl executed⟩

end ProxSync.Events
