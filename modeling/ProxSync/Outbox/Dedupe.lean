import ProxSync.Outbox.Notifications
/-!
# One message for one occurrence

A message with a unique key is stored only if no message of its occurrence was ever stored, and one
with a recurring key is stored as suppressed if one of its window is queued or was sent. Deliveries
move messages on in between. A message that failed or was suppressed counts again only when an
operator puts it back on the queue, and an empty key is no key.
-/
open ProxSync.Lib

namespace ProxSync.Outbox

/-- A message that is queued or was sent. -/
def Notification.live (row : Notification) : Prop := row.status = .pending ∨ row.status = .sent

/-- Two messages describe one occurrence under a key. -/
structure SameOccurrence (first second : Notification) (key : String) : Prop where
  event : first.eventType = second.eventType
  first : first.dedupeKey = some key
  second : second.dedupeKey = some key

/-- What the outbox promises of the messages of one occurrence, for the keys that count. -/
structure Deduplicated (counts : String → Prop) (state : State) : Prop where
  /-- One message at most was stored as unique. -/
  unique : ∀ first ∈ state.rows, ∀ second ∈ state.rows, ∀ key, counts key →
    SameOccurrence first second key → ∀ window, .enqueued first.id true window ∈ state.journal →
      ∀ later, .enqueued second.id true later ∈ state.journal → first = second
  /-- Two messages that are neither suppressed nor failed were stored more than the window of the
  second apart, unless an operator put one of them back on the queue. -/
  recurring : ∀ first ∈ state.rows, ∀ second ∈ state.rows, ∀ key, counts key →
    SameOccurrence first second key → first.id < second.id → first.live → second.live →
      .resent first.id ∉ state.journal → .resent second.id ∉ state.journal →
        ∀ unique window, .enqueued second.id unique window ∈ state.journal →
          first.createdAt + window < second.createdAt

section Steps

variable {config : Config} {state after : State} {action : Action}

/-- A message of which something is rewritten stays what it is about. -/
structure Keeps (before after : Notification) : Prop where
  id : after.id = before.id
  event : after.eventType = before.eventType
  key : after.dedupeKey = before.dedupeKey
  created : after.createdAt = before.createdAt

/-- A row that stays keeps what it has to. -/
theorem Keeps.refl (row : Notification) : Keeps row row := ⟨rfl, rfl, rfl, rfl⟩

/-- Messages of one occurrence were messages of one occurrence. -/
theorem SameOccurrence.back {first second firstAfter secondAfter : Notification} {key : String}
    (same : SameOccurrence firstAfter secondAfter key) (left : Keeps first firstAfter)
    (right : Keeps second secondAfter) : SameOccurrence first second key :=
  ⟨left.event.symm.trans (same.event.trans right.event), left.key.symm.trans same.first,
    right.key.symm.trans same.second⟩

/-- A verdict rewrites no more than it has to. -/
theorem settled_keeps (claim : Claim) (verdict : Verdict) (now : Instant) (jitter : Nat)
    (row : Notification) : Keeps row (settled config claim verdict now jitter row) := by
  cases verdict with
  | sent => exact ⟨rfl, rfl, rfl, rfl⟩
  | failure message retry retryAfter =>
    unfold settled
    simp only
    split <;> exact ⟨rfl, rfl, rfl, rfl⟩

/-- What every reached state satisfies. -/
structure Ordered (state : State) : Prop where
  /-- A message that is stored as unique is the first one of its occurrence. -/
  unique : ∀ first ∈ state.rows, ∀ second ∈ state.rows, ∀ key, key ≠ "" →
    SameOccurrence first second key → first.id < second.id →
      ∀ window, .enqueued second.id true window ∉ state.journal
  recurring : ∀ first ∈ state.rows, ∀ second ∈ state.rows, ∀ key, key ≠ "" →
    SameOccurrence first second key → first.id < second.id → first.live → second.live →
      .resent first.id ∉ state.journal → .resent second.id ∉ state.journal →
        ∀ unique window, .enqueued second.id unique window ∈ state.journal →
          first.createdAt + window < second.createdAt
  known : ∀ id unique window, .enqueued id unique window ∈ state.journal →
    ∃ row ∈ state.rows, row.id = id
  /-- What the worker reads or holds is pending. -/
  held : ∀ claim, state.phase.claim = some claim →
    ∃ row ∈ state.rows, row.id = claim.notificationId ∧ row.status = .pending
  reading : ∀ read, state.phase = .claiming read →
    ∃ row ∈ state.rows, row.id = read.id ∧ row.status = .pending

/-- Noting what stores no message leaves what was stored. -/
theorem enqueued_of_cons {journal : List Event} {event : Event} {id : Nat} {unique : Bool}
    {window : Nat} (stored : ∀ other unique window, event ≠ .enqueued other unique window)
    (listed : .enqueued id unique window ∈ event :: journal) :
    .enqueued id unique window ∈ journal := by
  rcases List.mem_cons.mp listed with rfl | before
  · exact absurd rfl (stored id unique window)
  · exact before

/-- Rewriting a message keeps the order if a message that counts again is one that counted before or
one that was put back on the queue. -/
theorem Ordered.rewrite (ordered : Ordered state) {id : Nat}
    {update : Notification → Notification} (keeps : ∀ row, (update row).id = row.id)
    (same : ∀ row, Keeps row (update row)) {event : Event} {later : Phase}
    {resends : Nat → Option Notification}
    (stored : ∀ other unique window, event ≠ .enqueued other unique window)
    (live : ∀ row ∈ state.rows, row.id = id → (update row).live → row.live ∨ event = .resent id)
    (held : ∀ claim, later.claim = some claim →
      ∃ row ∈ state.rows.modify id update keeps, row.id = claim.notificationId ∧
        row.status = .pending)
    (reading : ∀ read, later = .claiming read →
      ∃ row ∈ state.rows.modify id update keeps, row.id = read.id ∧ row.status = .pending) :
    Ordered { state with
      rows := state.rows.modify id update keeps, phase := later, resends := resends
      journal := event :: state.journal } := by
  have back : ∀ row ∈ state.rows.modify id update keeps, ∃ old ∈ state.rows, Keeps old row ∧
      (row.live → .resent row.id ∉ event :: state.journal → old.live) := by
    intro row listed
    rcases (Table.mem_modify keeps).mp listed with ⟨old, before, named, rfl⟩ | ⟨before, _⟩
    · refine ⟨old, before, same old, fun alive unsent => ?_⟩
      rcases live old before named alive with alive | sent
      · exact alive
      · rw [keeps, named, ← sent] at unsent
        exact absurd List.mem_cons_self unsent
    · exact ⟨row, before, .refl row, fun alive _ => alive⟩
  constructor
  · intro first isFirst second isSecond key counts occurrence less window listed
    obtain ⟨firstOld, hasFirst, left, _⟩ := back first isFirst
    obtain ⟨secondOld, hasSecond, right, _⟩ := back second isSecond
    rw [left.id, right.id] at less
    rw [right.id] at listed
    exact ordered.unique firstOld hasFirst secondOld hasSecond key counts
      (occurrence.back left right) less window (enqueued_of_cons stored listed)
  · intro first isFirst second isSecond key counts occurrence less alive aliveToo unsent unsentToo
      unique window listed
    obtain ⟨firstOld, hasFirst, left, lived⟩ := back first isFirst
    obtain ⟨secondOld, hasSecond, right, livedToo⟩ := back second isSecond
    have wasAlive := lived alive unsent
    have wasAliveToo := livedToo aliveToo unsentToo
    rw [left.id, right.id] at less
    rw [right.id] at listed unsentToo
    rw [left.id] at unsent
    rw [left.created, right.created]
    exact ordered.recurring firstOld hasFirst secondOld hasSecond key counts
      (occurrence.back left right) less wasAlive wasAliveToo
      (List.not_mem_of_not_mem_cons unsent) (List.not_mem_of_not_mem_cons unsentToo) unique window
      (enqueued_of_cons stored listed)
  · intro other unique window listed
    have earlier := enqueued_of_cons stored listed
    obtain ⟨row, before, named⟩ := ordered.known other unique window earlier
    exact Table.exists_mem_modify keeps before named fun _ => (keeps row).trans named
  · exact held
  · exact reading

/-- Where only the worker moves on, the order is kept. -/
theorem Ordered.goto (ordered : Ordered state) {later : Phase}
    (held : ∀ claim, later.claim = some claim → state.phase.claim = some claim)
    (reading : ∀ read, later = .claiming read → read ∈ state.rows ∧ read.status = .pending) :
    Ordered (state.goto later) where
  unique := ordered.unique
  recurring := ordered.recurring
  known := ordered.known
  held claim holds := ordered.held claim (held claim holds)
  reading read here := ⟨read, (reading read here).1, rfl, (reading read here).2⟩

/-- Where the worker holds no message, the order is kept. -/
theorem Ordered.free (ordered : Ordered state) {later : Phase} (free : later.claim = none)
    (reading : ∀ read, later = .claiming read → read ∈ state.rows ∧ read.status = .pending) :
    Ordered (state.goto later) :=
  ordered.goto (fun _ holds => absurd (free.symm.trans holds) (Option.some_ne_none _).symm) reading

/-- Noting what stores no message and puts none back keeps the order. -/
theorem Ordered.note (ordered : Ordered state) {event : Event}
    (stored : ∀ other unique window, event ≠ .enqueued other unique window) :
    Ordered (state.note event) := by
  constructor
  · intro first isFirst second isSecond key counts occurrence less window listed
    exact ordered.unique first isFirst second isSecond key counts occurrence less window
      (enqueued_of_cons stored listed)
  · intro first isFirst second isSecond key counts occurrence less alive aliveToo unsent unsentToo
      unique window listed
    exact ordered.recurring first isFirst second isSecond key counts occurrence less alive aliveToo
      (List.not_mem_of_not_mem_cons unsent) (List.not_mem_of_not_mem_cons unsentToo) unique window
      (enqueued_of_cons stored listed)
  · intro other unique window listed
    exact ordered.known other unique window (enqueued_of_cons stored listed)
  · exact ordered.held
  · exact ordered.reading

/-- The latest of some messages is missing only if none of them passes the test. -/
theorem latest_eq_none {rows : Table Notification.id} {test : Notification → Bool}
    (none : latest rows test = none) {row : Notification} (stored : row ∈ rows) :
    test row = false := by
  have empty := List.argmax_eq_none.mp none
  have absent := List.filter_eq_nil_iff.mp empty row stored
  simpa using absent

/-- A key that is not empty is a key. -/
theorem givenKey_some {key : String} (counts : key ≠ "") : givenKey (some key) = some key :=
  if_neg counts

/-- Storing a message keeps the order if it is the first of its occurrence or not unique, and far
enough from the messages that count if it counts itself. -/
theorem Ordered.append (ordered : Ordered state) {build : Nat → Notification}
    (named : ∀ id, (build id).id = id) {unique : Bool} {window : Nat} (clock : Instant)
    (first : unique = true → ∀ row ∈ state.rows, ∀ key, key ≠ "" →
      ¬ SameOccurrence row (build state.rows.nextKey) key)
    (apart : ∀ row ∈ state.rows, ∀ key, key ≠ "" →
      SameOccurrence row (build state.rows.nextKey) key → row.live →
        (build state.rows.nextKey).live →
          row.createdAt + window < (build state.rows.nextKey).createdAt) :
    Ordered { state with
      rows := state.rows.append build named, clock := clock
      journal := .enqueued state.rows.nextKey unique window :: state.journal } := by
  have below : ∀ row ∈ state.rows, row.id < state.rows.nextKey :=
    fun row stored => Table.lt_nextKey stored
  have older : ∀ row ∈ state.rows, ∀ unique' window',
      .enqueued row.id unique' window' ∈
        .enqueued state.rows.nextKey unique window :: state.journal →
      .enqueued row.id unique' window' ∈ state.journal := by
    intro row stored unique' window' listed
    rcases List.mem_cons.mp listed with head | before
    · exact absurd (Event.enqueued.inj head).1 (below row stored).ne
    · exact before
  have newest : ∀ unique' window', .enqueued state.rows.nextKey unique' window' ∈
      .enqueued state.rows.nextKey unique window :: state.journal →
      unique' = unique ∧ window' = window := by
    intro unique' window' listed
    rcases List.mem_cons.mp listed with head | before
    · exact (Event.enqueued.inj head).2
    · obtain ⟨row, stored, same⟩ := ordered.known _ _ _ before
      exact absurd same (below row stored).ne
  have isOld : ∀ row ∈ state.rows.append build named,
      ∀ second ∈ state.rows.append build named, row.id < second.id → row ∈ state.rows := by
    intro row stored second isSecond less
    rcases (Table.mem_append named).mp stored with old | rfl
    · exact old
    · rcases (Table.mem_append named).mp isSecond with old | rfl
      · have above := below second old
        rw [named] at less
        omega
      · exact absurd less (lt_irrefl _)
  have kept : ∀ row ∈ state.rows, row ∈ state.rows.append build named :=
    fun row stored => (Table.mem_append named).mpr (.inl stored)
  constructor
  · intro row stored second isSecond key counts occurrence less window' listed
    have old := isOld row stored second isSecond less
    rcases (Table.mem_append named).mp isSecond with oldToo | rfl
    · exact ordered.unique row old second oldToo key counts occurrence less window'
        (older second oldToo _ _ listed)
    · rw [named] at listed
      exact first (newest _ _ listed).1.symm row old key counts occurrence
  · intro row stored second isSecond key counts occurrence less alive aliveToo unsent unsentToo
      unique' window' listed
    have old := isOld row stored second isSecond less
    rcases (Table.mem_append named).mp isSecond with oldToo | rfl
    · exact ordered.recurring row old second oldToo key counts occurrence less alive aliveToo
        (List.not_mem_of_not_mem_cons unsent)
        (List.not_mem_of_not_mem_cons unsentToo) unique' window'
        (older second oldToo _ _ listed)
    · rw [named] at listed
      rw [(newest _ _ listed).2]
      exact apart row old key counts occurrence alive aliveToo
  · intro other unique' window' listed
    rcases List.mem_cons.mp listed with head | before
    · exact ⟨_, (Table.mem_append named).mpr (.inr rfl),
        (named _).trans (Event.enqueued.inj head).1.symm⟩
    · obtain ⟨row, stored, same⟩ := ordered.known other unique' window' before
      exact ⟨row, kept row stored, same⟩
  · intro claim holds
    obtain ⟨row, stored, fine⟩ := ordered.held claim holds
    exact ⟨row, kept row stored, fine⟩
  · intro read here
    obtain ⟨row, stored, fine⟩ := ordered.reading read here
    exact ⟨row, kept row stored, fine⟩

/-- A unique message is stored only if no message of its occurrence is. -/
theorem alreadyRecorded_eq_none {rows : Table Notification.id} {event : NotificationEvent}
    {key : String} (counts : key ≠ "")
    (unrecorded : alreadyRecorded rows event (some key) true = none) {row : Notification}
    (stored : row ∈ rows) (sameEvent : row.eventType = event) : row.dedupeKey ≠ some key := by
  intro sameKey
  simp only [alreadyRecorded, if_true, givenKey_some counts, Option.bind_some] at unrecorded
  have unmatched := latest_eq_none unrecorded stored
  have anything : row.status ∈ anyStatus := by
    cases row.status <;> decide
  simp [matching, sameEvent, sameKey, anything] at unmatched

/-- A recurring message is stored as pending only if the messages of its occurrence that count are
older than the window. -/
theorem suppressedBy_eq_none {rows : Table Notification.id} {event : NotificationEvent}
    {key : String} (counts : key ≠ "") {window : Nat} {now : Instant}
    (unrepeated : suppressedBy rows event (some key) false window now = none) {row : Notification}
    (stored : row ∈ rows) (sameEvent : row.eventType = event) (sameKey : row.dedupeKey = some key)
    (alive : row.live) : row.createdAt + window < now := by
  simp only [suppressedBy, Bool.false_eq_true, if_false, givenKey_some counts,
    Option.bind_some] at unrepeated
  have unmatched := latest_eq_none unrepeated stored
  have counted : row.status ∈ [NotificationStatus.pending, .sent] := by
    simpa [Notification.live] using alive
  have outside : ¬ now - window ≤ row.createdAt := by
    simpa [matching, sameEvent, sameKey, counted] using unmatched
  exact Nat.lt_sub_iff_add_lt.mp (Nat.not_le.mp outside)

/-- Composing and storing a message keeps the order. -/
theorem Ordered.enqueue (ordered : Ordered state) (event : NotificationEvent)
    (dedupeKey : Option String) (unique : Bool) (window : Nat) (text : String)
    {now createdAt : Instant} (composed : now ≤ createdAt) :
    Ordered (state.enqueue config event dedupeKey unique window text now createdAt) := by
  unfold State.enqueue
  split
  · split
    · exact ordered
    · rename_i unrecorded
      apply ordered.append (created_id _ _ _ _ _ _)
      · rintro rfl row stored key counts occurrence
        obtain rfl : dedupeKey = some key := occurrence.second
        exact alreadyRecorded_eq_none counts unrecorded stored occurrence.event occurrence.first
      · intro row stored key counts occurrence alive aliveToo
        obtain rfl : dedupeKey = some key := occurrence.second
        cases unique with
        | true =>
          exact absurd occurrence.first
            (alreadyRecorded_eq_none counts unrecorded stored occurrence.event)
        | false =>
          have unrepeated :
              suppressedBy state.rows event (some key) false window now = none := by
            by_contra repeated
            have found := Option.isSome_iff_ne_none.mpr repeated
            simp [Notification.live, created, found] at aliveToo
          have older := suppressedBy_eq_none counts unrepeated stored occurrence.event
            occurrence.first alive
          exact older.trans_le composed
  · exact ordered

/-- Writing the verdict of the attempt the worker holds keeps the order. -/
theorem Ordered.settle (ordered : Ordered state) {claim : Claim} (verdict : Verdict) (now : Instant)
    (jitter : Nat) (holds : state.phase.claim = some claim) :
    Ordered (state.settle config claim verdict now jitter) := by
  obtain ⟨held, stored, named, pending⟩ := ordered.held claim holds
  apply ordered.rewrite (settled_id _ _ _ _ _) (settled_keeps claim verdict now jitter)
  · exact fun _ _ _ => Event.noConfusion
  · intro row before same _
    have one : row = held := Table.eq_of_key before stored (same.trans named.symm)
    exact .inl (.inl (one ▸ pending))
  · exact fun _ holds => absurd holds (Option.some_ne_none _).symm
  · exact fun _ claiming => Phase.noConfusion claiming

/-- One step keeps the order. -/
theorem step_ordered (ordered : Ordered state) (stepped : step config state action = some after) :
    Ordered after := by
  cases action with
  | configure telegram =>
    obtain rfl := Option.some.inj stepped
    exact ⟨ordered.unique, ordered.recurring, ordered.known, ordered.held, ordered.reading⟩
  | enqueue event dedupeKey unique window text now createdAt =>
    simp only [step] at stepped
    split at stepped
    · rename_i times
      obtain rfl := Option.some.inj stepped
      exact ordered.enqueue event dedupeKey unique window text times.2
    · cases stepped
  | resendRead request id =>
    simp only [step] at stepped
    split at stepped
    · split at stepped
      · cases stepped
      · obtain rfl := Option.some.inj stepped
        exact ⟨ordered.unique, ordered.recurring, ordered.known, ordered.held, ordered.reading⟩
    · cases stepped
  | resendCommit request =>
    simp only [step] at stepped
    split at stepped
    · rename_i read asked
      obtain rfl := Option.some.inj stepped
      have keeps := requeued_id read
      apply ordered.rewrite keeps (fun _ => ⟨rfl, rfl, rfl, rfl⟩)
      · exact fun _ _ _ => Event.noConfusion
      · exact fun _ _ _ _ => .inr rfl
      · intro claim holds
        obtain ⟨row, stored, named, pending⟩ := ordered.held claim holds
        exact Table.exists_mem_modify keeps stored ⟨named, pending⟩ fun _ => ⟨named, rfl⟩
      · intro row here
        obtain ⟨row, stored, named, pending⟩ := ordered.reading row here
        exact Table.exists_mem_modify keeps stored ⟨named, pending⟩ fun _ => ⟨named, rfl⟩
    · cases stepped
  | resendDrop request =>
    obtain rfl := Option.some.inj stepped
    exact ⟨ordered.unique, ordered.recurring, ordered.known, ordered.held, ordered.reading⟩
  | boot =>
    simp only [step] at stepped
    split at stepped
    · obtain rfl := Option.some.inj stepped
      exact ordered.free rfl fun _ claiming => Phase.noConfusion claiming
    · cases stepped
  | crash =>
    obtain rfl := Option.some.inj stepped
    exact ⟨ordered.unique, ordered.recurring, ordered.known,
      fun _ holds => absurd holds (Option.some_ne_none _).symm,
      fun _ claiming => Phase.noConfusion claiming⟩
  | claimRead now =>
    simp only [step] at stepped
    split at stepped
    · obtain ⟨row, found, rfl⟩ := Option.map_eq_some_iff.mp stepped
      apply ordered.free rfl
      intro read claiming
      obtain rfl := Phase.claiming.inj claiming
      exact nextReady_pending found
    · cases stepped
  | claimCommit now jitter =>
    simp only [step] at stepped
    split at stepped
    · rename_i read here
      obtain rfl := Option.some.inj stepped
      have keeps := charged_id config read now jitter
      apply ordered.rewrite keeps (fun _ => ⟨rfl, rfl, rfl, rfl⟩)
      · exact fun _ _ _ => Event.noConfusion
      · exact fun _ _ _ alive => .inl alive
      · intro claim holds
        obtain rfl := Option.some.inj holds
        obtain ⟨row, stored, named, pending⟩ := ordered.reading read here
        exact Table.exists_mem_modify keeps stored ⟨named, pending⟩ fun _ => ⟨named, pending⟩
      · exact fun _ claiming => Phase.noConfusion claiming
    · cases stepped
  | prepare =>
    simp only [step] at stepped
    split at stepped
    · rename_i claim here
      have same : ∀ other, some claim = some other → state.phase.claim = some other := by
        rw [here]
        exact fun _ => id
      split at stepped
      · obtain rfl := Option.some.inj stepped
        exact ordered.goto same fun _ claiming => Phase.noConfusion claiming
      · obtain rfl := Option.some.inj stepped
        have going : Ordered (state.goto (.calling claim)) :=
          ordered.goto same fun _ claiming => Phase.noConfusion claiming
        exact going.note fun _ _ _ => Event.noConfusion
    · cases stepped
  | answer reply =>
    simp only [step] at stepped
    split at stepped
    · rename_i claim here
      obtain rfl := Option.some.inj stepped
      exact ordered.goto (by rw [here]; exact fun _ => id)
        fun _ claiming => Phase.noConfusion claiming
    · cases stepped
  | record now jitter =>
    simp only [step] at stepped
    split at stepped
    iterate 2
      · rename_i here
        obtain rfl := Option.some.inj stepped
        exact ordered.settle _ now jitter (by rw [here]; rfl)
    · cases stepped
  | raise detail =>
    simp only [step] at stepped
    split at stepped
    · obtain rfl := Option.some.inj stepped
      exact ordered.free rfl fun _ claiming => Phase.noConfusion claiming
    iterate 3
      · rename_i here
        obtain rfl := Option.some.inj stepped
        exact ordered.goto (by rw [here]; exact fun _ => id)
          fun _ claiming => Phase.noConfusion claiming
    · obtain rfl := Option.some.inj stepped
      exact ordered.free rfl fun _ claiming => Phase.noConfusion claiming
    · cases stepped

/-- However messages are stored, delivered and put back, for every event and every key that is not
empty one message at most is stored as unique, and messages that count are further apart than the
window. -/
theorem deduplicated_of_nonempty (reached : (system config).Reachable System.unguarded state) :
    Deduplicated (· ≠ "") state := by
  have ordered : Ordered state := by
    apply reached.invariant_alone
    constructor
    · rintro _ ⟨telegram, rfl⟩
      have none : ∀ row, row ∉ (Table.empty : Table Notification.id) := Table.not_mem_empty
      exact {
        unique := fun first isFirst => absurd isFirst (none first)
        recurring := fun first isFirst => absurd isFirst (none first)
        known := fun _ _ _ listed => absurd listed List.not_mem_nil
        held := fun _ holds => absurd holds (Option.some_ne_none _).symm
        reading := fun _ claiming => Phase.noConfusion claiming }
    · exact fun _ _ _ _ ordered _ stepped => step_ordered ordered stepped
  constructor
  · intro first isFirst second isSecond key counts occurrence window listed later listedToo
    have swapped : SameOccurrence second first key :=
      ⟨occurrence.event.symm, occurrence.second, occurrence.first⟩
    rcases lt_trichotomy first.id second.id with less | same | more
    · exact absurd listedToo
        (ordered.unique first isFirst second isSecond key counts occurrence less later)
    · exact Table.eq_of_key isFirst isSecond same
    · exact absurd listed
        (ordered.unique second isSecond first isFirst key counts swapped more window)
  · exact ordered.recurring

end Steps

/-- A storage warning that recurs after it was sent. -/
def recurringWarning : List Action :=
  [.enqueue .storageThreshold (some "hdd:90") false 300 "90 % used" 0 0,
    .enqueue .storageThreshold (some "hdd:90") false 300 "90 % used" 300 300,
    .boot, .claimRead 300, .claimCommit 300 0, .prepare, .answer .message, .record 300 0,
    .enqueue .storageThreshold (some "hdd:90") false 300 "90 % used" 301 301]

/-- A warning is repeated within its window, delivered, and repeated after it. -/
theorem deduplicated_recurring :
    ∃ state, state.rows.rows.map Notification.status = [.sent, .suppressed, .pending] ∧
      Deduplicated (· ≠ "") state := by
  obtain ⟨state, reached, shown⟩ : ∃ state,
      (system oneAttempt).Reachable System.unguarded state ∧
        decide (state.rows.rows.map Notification.status = [.sent, .suppressed, .pending]) =
          true := by
    refine System.exists_of_runFrom (freshOutbox_init _) recurringWarning _ ?_
    decide
  exact ⟨state, of_decide_eq_true shown, deduplicated_of_nonempty reached⟩

/-- An empty key is no key: two messages are stored as unique under it. -/
theorem empty_key_stored_twice :
    ¬ ∀ config state, (system config).Reachable System.unguarded state →
      Deduplicated (fun _ => True) state := by
  intro always
  obtain ⟨state, reached, shown⟩ : ∃ state,
      (system oneAttempt).Reachable System.unguarded state ∧
        decide (state.rows.rows.map Notification.id = [1, 2] ∧
          (∀ row ∈ state.rows.rows, row.dedupeKey = some "" ∧ row.eventType = .test) ∧
          Event.enqueued 1 true 300 ∈ state.journal ∧
          Event.enqueued 2 true 300 ∈ state.journal) = true := by
    refine System.exists_of_runFrom (freshOutbox_init _)
      [.enqueue .test (some "") true 300 "one" 0 0,
        .enqueue .test (some "") true 300 "two" 1 1] _ ?_
    decide
  obtain ⟨ids, alike, one, two⟩ := of_decide_eq_true shown
  have listed : ∀ id ∈ [1, 2], ∃ row ∈ state.rows, row.id = id := by
    intro id isId
    rw [← ids] at isId
    exact List.mem_map.mp isId
  obtain ⟨first, isFirst, named⟩ := listed 1 (by decide)
  obtain ⟨second, isSecond, namedToo⟩ := listed 2 (by decide)
  have occurrence : SameOccurrence first second "" :=
    ⟨(alike first isFirst).2.trans (alike second isSecond).2.symm, (alike first isFirst).1,
      (alike second isSecond).1⟩
  have same := (always oneAttempt state reached).unique first isFirst second isSecond "" trivial
    occurrence 300 (named.symm ▸ one) 300 (namedToo.symm ▸ two)
  have equal := congrArg Notification.id same
  omega

end ProxSync.Outbox
