import ProxSync.Outbox.Notifications
/-!
# The attempts of a message

An attempt is charged before the transport is called, so a process that dies in between has used an
attempt up and leaves the message pending. Nothing compares the attempts with their budget when a
message is claimed: the budget is kept by the verdict of the last attempt, and only if that verdict
is written.
-/
open ProxSync.Lib

namespace ProxSync.Outbox

/-- How often the transport was called for a message since it was put back on the queue. -/
def callsSince (id : Nat) : List Event → Nat
  | [] => 0
  | .called other :: rest => callsSince id rest + if other = id then 1 else 0
  | .resent other :: rest => if other = id then 0 else callsSince id rest
  | _ :: rest => callsSince id rest

/-- Whether a message was claimed and no verdict was written since. -/
def undecided (id : Nat) : List Event → Bool
  | [] => false
  | .claimed other :: rest => if other = id then true else undecided id rest
  | .recorded other :: rest => if other = id then false else undecided id rest
  | _ :: rest => undecided id rest

/-- What the outbox promises of a message. -/
structure WithinBudget (state : State) : Prop where
  attempts : ∀ row ∈ state.rows, row.attempts ≤ row.maxAttempts
  calls : ∀ row ∈ state.rows, callsSince row.id state.journal ≤ row.maxAttempts
  /-- A pending message is ready from some time on. -/
  claimable : ∀ row ∈ state.rows, row.status = .pending →
    ∃ due, ∀ now, due ≤ now → isReady now row = true
  /-- A message stays pending from its claim to its verdict. -/
  unlost : ∀ row ∈ state.rows, undecided row.id state.journal = true → row.status = .pending

/-- Whether a claim leaves attempts. -/
def attemptsLeft (claim : Claim) : Bool := decide (claim.attempt < claim.maxAttempts)

/-- Whether no verdict of a last attempt is lost by a step, and a message that is put back on the
queue is as it was read. -/
def unbroken (state : State) : Action → Bool
  | .crash => state.phase.claim.all attemptsLeft
  | .raise _ =>
    match state.phase with
    | .closing claim _ => attemptsLeft claim
    | _ => true
  | .resendCommit request =>
    (state.resends request).all fun read => state.rows.get read.id == some read
  | _ => true

/-- The process does not die and the loop does not fail between the charge of a last attempt and its
verdict, and no two requests put one message back on the queue at once. -/
def Unbroken (state : State) (action : Action) : Prop := unbroken state action = true

instance (state : State) (action : Action) : Decidable (Unbroken state action) :=
  inferInstanceAs (Decidable (_ = true))

/-! ## One message -/

section Row

variable {phase later : Phase} {journal : List Event} {event : Event} {row : Notification}
variable {id : Nat}

/-- What happens to another message does not count. -/
theorem callsSince_of_ne (other : event.id ≠ id) :
    callsSince id (event :: journal) = callsSince id journal := by
  cases event with
  | called other' | resent other' =>
    have apart : other' ≠ id := other
    simp only [callsSince, if_neg apart, Nat.add_zero]
  | enqueued | claimed | recorded => rfl

/-- What happens to another message decides nothing. -/
theorem undecided_of_ne (other : event.id ≠ id) :
    undecided id (event :: journal) = undecided id journal := by
  cases event with
  | claimed other' | recorded other' =>
    have apart : other' ≠ id := other
    simp only [undecided, if_neg apart]
  | enqueued | called | resent => rfl

/-- Nothing was done for a message that nothing happened to. -/
theorem untouched (unmentioned : ∀ event ∈ journal, event.id ≠ id) :
    callsSince id journal = 0 ∧ undecided id journal = false := by
  induction journal with
  | nil => exact ⟨rfl, rfl⟩
  | cons event rest ih =>
    have other := unmentioned event List.mem_cons_self
    rw [callsSince_of_ne other, undecided_of_ne other]
    exact ih fun event listed => unmentioned event (List.mem_cons_of_mem _ listed)

/-- The charge for which the transport was not called yet. -/
def Phase.uncalled (phase : Phase) (id : Nat) : Nat :=
  match phase with
  | .delivering claim => if claim.notificationId = id then 1 else 0
  | _ => 0

/-- The worker holds a claim on a message. -/
def Phase.holds (phase : Phase) (id : Nat) : Prop :=
  ∃ claim, phase.claim = some claim ∧ claim.notificationId = id

/-- What is kept of one message. -/
structure RowFine (phase : Phase) (journal : List Event) (row : Notification) : Prop where
  positive : 0 < row.maxAttempts
  within : row.attempts ≤ row.maxAttempts
  /-- A pending message has attempts left, or the worker holds its last one. -/
  left : row.status = .pending → row.attempts < row.maxAttempts ∨ phase.holds row.id
  calls : callsSince row.id journal + phase.uncalled row.id ≤ row.attempts
  undecided : Outbox.undecided row.id journal = true → row.status = .pending

/-- The worker goes on with the claim it holds. -/
theorem RowFine.goesOn (fine : RowFine phase journal row) (same : later.claim = phase.claim)
    (called : later.uncalled row.id ≤ phase.uncalled row.id) : RowFine later journal row := by
  refine ⟨fine.positive, fine.within, fun pending => ?_, ?_, fine.undecided⟩
  · rcases fine.left pending with left | ⟨claim, held, named⟩
    · exact .inl left
    · exact .inr ⟨claim, same.trans held, named⟩
  · have calls := fine.calls
    omega

/-- Something happens to another message. -/
theorem RowFine.beside (fine : RowFine phase journal row) (other : event.id ≠ row.id) :
    RowFine phase (event :: journal) row := by
  refine ⟨fine.positive, fine.within, fine.left, ?_, ?_⟩
  · rw [callsSince_of_ne other]
    exact fine.calls
  · rw [undecided_of_ne other]
    exact fine.undecided

/-- The worker takes up or lets go of another message. -/
theorem RowFine.elsewhere (fine : RowFine phase journal row) (free : ¬ phase.holds row.id)
    (called : later.uncalled row.id = 0) : RowFine later journal row := by
  refine ⟨fine.positive, fine.within, fun pending => ?_, ?_, fine.undecided⟩
  · exact .inl ((fine.left pending).resolve_right free)
  · have calls := fine.calls
    omega

end Row

/-! ## The outbox -/

section Steps

variable {config : Config} {state after : State} {action : Action}

/-- What every reached state satisfies while no verdict of a last attempt is lost. -/
structure Sound (state : State) : Prop where
  rows : ∀ row ∈ state.rows, RowFine state.phase state.journal row
  held : ∀ claim, state.phase.claim = some claim → ∃ row ∈ state.rows,
    row.id = claim.notificationId ∧ row.status = .pending ∧ row.attempts = claim.attempt ∧
      row.maxAttempts = claim.maxAttempts
  reading : ∀ read, state.phase = .claiming read → read ∈ state.rows ∧ read.status = .pending
  known : ∀ event ∈ state.journal, ∃ row ∈ state.rows, row.id = event.id
  asked : ∀ request read, state.resends request = some read → read.status ≠ .pending

/-- A claim that no longer leaves attempts behind can be given up without harm. -/
theorem Sound.row_after_drop (sound : Sound state) {later : Phase}
    (left : ∀ claim, state.phase.claim = some claim → claim.attempt < claim.maxAttempts)
    (called : ∀ id, later.uncalled id = 0) {row : Notification} (stored : row ∈ state.rows) :
    RowFine later state.journal row := by
  have fine := sound.rows row stored
  refine ⟨fine.positive, fine.within, fun pending => .inl ?_, ?_, fine.undecided⟩
  · rcases fine.left pending with enough | ⟨claim, held, named⟩
    · exact enough
    · obtain ⟨current, there, same, _, attempts, budget⟩ := sound.held claim held
      have one : current = row := Table.eq_of_key there stored (same.trans named)
      have more := left claim held
      subst one
      omega
  · have calls := fine.calls
    have none := called row.id
    omega

/-- The worker lets go of its claim while the claim leaves attempts. -/
theorem Sound.drop (sound : Sound state) {later : Phase} {resends : Nat → Option Notification}
    (left : ∀ claim, state.phase.claim = some claim → claim.attempt < claim.maxAttempts)
    (free : later.claim = none) (called : ∀ id, later.uncalled id = 0)
    (reads : ∀ read, later ≠ .claiming read)
    (asked : ∀ request read, resends request = some read → read.status ≠ .pending) :
    Sound { state with phase := later, resends := resends } where
  rows _ stored := sound.row_after_drop left called stored
  held claim holds := absurd (free.symm.trans holds) (Option.some_ne_none claim).symm
  reading read here := absurd here (reads read)
  known := sound.known
  asked := asked

/-- The worker goes on with the claim it holds. -/
theorem Sound.goesOn (sound : Sound state) {later : Phase} (same : later.claim = state.phase.claim)
    (called : ∀ id, later.uncalled id ≤ state.phase.uncalled id)
    (reads : ∀ read, later ≠ .claiming read) : Sound (state.goto later) where
  rows row stored := (sound.rows row stored).goesOn same (called row.id)
  held claim holds := sound.held claim (same.symm.trans holds)
  reading read here := absurd here (reads read)
  known := sound.known
  asked := sound.asked

/-- Nothing is charged for a message that is not stored. -/
theorem Sound.uncalled_fresh (sound : Sound state) {id : Nat}
    (fresh : ∀ row ∈ state.rows, row.id ≠ id) : state.phase.uncalled id = 0 := by
  unfold Phase.uncalled
  split
  · rename_i claim here
    obtain ⟨row, stored, named, _⟩ := sound.held claim (by rw [here]; rfl)
    exact if_neg (named ▸ fresh row stored)
  · rfl

/-- A message that is stored has every attempt left. -/
theorem Sound.created (sound : Sound state) (event : NotificationEvent)
    (dedupeKey : Option String) (text : String) (repeated : Option Notification)
    (createdAt : Instant) (unique : Bool) (window : Nat) :
    RowFine state.phase (.enqueued state.rows.nextKey unique window :: state.journal)
      (created config event dedupeKey text repeated createdAt state.rows.nextKey) := by
  have fresh : ∀ row ∈ state.rows, row.id ≠ state.rows.nextKey :=
    fun row stored => (Table.lt_nextKey stored).ne
  have unmentioned : ∀ event ∈ state.journal, event.id ≠ state.rows.nextKey := by
    intro event listed
    obtain ⟨row, stored, named⟩ := sound.known event listed
    exact named ▸ fresh row stored
  obtain ⟨calls, decided⟩ := untouched unmentioned
  refine ⟨config.positive, Nat.zero_le _, fun _ => .inl config.positive, ?_, ?_⟩
  · change callsSince state.rows.nextKey state.journal + state.phase.uncalled state.rows.nextKey ≤ 0
    rw [calls, sound.uncalled_fresh fresh]
  · intro open_
    change undecided state.rows.nextKey state.journal = true at open_
    rw [decided] at open_
    cases open_

/-- Storing a message keeps the outbox sound. -/
theorem Sound.enqueue (sound : Sound state) (event : NotificationEvent) (dedupeKey : Option String)
    (unique : Bool) (window : Nat) (text : String) (now createdAt : Instant) :
    Sound (state.enqueue config event dedupeKey unique window text now createdAt) := by
  unfold State.enqueue
  split
  · split
    · exact sound
    · generalize suppressedBy state.rows event dedupeKey unique window now = repeated
      have named := created_id config event dedupeKey text repeated createdAt
      constructor
      · intro row stored
        rcases (Table.mem_append named).mp stored with old | rfl
        · exact (sound.rows row old).beside (Table.lt_nextKey old).ne'
        · exact sound.created event dedupeKey text repeated createdAt unique window
      · intro claim holds
        obtain ⟨row, stored, fine⟩ := sound.held claim holds
        exact ⟨row, (Table.mem_append named).mpr (.inl stored), fine⟩
      · intro read here
        obtain ⟨stored, pending⟩ := sound.reading read here
        exact ⟨(Table.mem_append named).mpr (.inl stored), pending⟩
      · intro other listed
        rcases List.mem_cons.mp listed with rfl | earlier
        · exact ⟨_, (Table.mem_append named).mpr (.inr rfl), named _⟩
        · obtain ⟨row, stored, same⟩ := sound.known other earlier
          exact ⟨row, (Table.mem_append named).mpr (.inl stored), same⟩
      · exact sound.asked
  · exact sound

/-- What happened to stored messages happened to stored messages still. -/
theorem known_cons {id : Nat} {update : Notification → Notification}
    (keeps : ∀ row, (update row).id = row.id)
    (known : ∀ event ∈ state.journal, ∃ row ∈ state.rows, row.id = event.id) {event : Event}
    (stored : ∃ row ∈ state.rows, row.id = event.id) :
    ∀ other ∈ event :: state.journal,
      ∃ row ∈ state.rows.modify id update keeps, row.id = other.id := by
  intro other listed
  have there : ∃ row ∈ state.rows, row.id = other.id := by
    rcases List.mem_cons.mp listed with rfl | earlier
    · exact stored
    · exact known other earlier
  obtain ⟨row, before, named⟩ := there
  exact Table.exists_mem_modify keeps before named fun _ => (keeps row).trans named

/-- A message that is put back on the queue as it was read has every attempt left. -/
theorem Sound.resend (sound : Sound state) {request : Nat} {read : Notification}
    (asked : state.resends request = some read) (stored : read ∈ state.rows) :
    Sound (((state.rewrite read.id (requeued read) (requeued_id read)).track request none).note
      (.resent read.id)) := by
  have waiting := sound.asked request read asked
  have unheld : ¬ state.phase.holds read.id := by
    rintro ⟨claim, held, named⟩
    obtain ⟨row, there, same, pending, _⟩ := sound.held claim held
    have one : row = read := Table.eq_of_key there stored (same.trans named)
    exact waiting (one ▸ pending)
  have keeps := requeued_id read
  constructor
  · intro row listed
    rcases (Table.mem_modify_of_mem keeps stored).mp listed with rfl | ⟨before, other⟩
    · have fine := sound.rows read stored
      have none : (requeued read read).attempts = 0 := by
        simp only [requeued, netWrite]
        split <;> simp_all
      refine ⟨fine.positive, ?_, fun _ => .inl ?_, ?_, fun _ => rfl⟩
      · rw [none]
        exact Nat.zero_le _
      · rw [none]
        exact fine.positive
      · rw [none]
        have free : state.phase.uncalled read.id = 0 := by
          unfold Phase.uncalled
          split
          · rename_i claim here
            exact if_neg fun named => unheld ⟨claim, by rw [here]; rfl, named⟩
          · rfl
        change callsSince read.id (.resent read.id :: state.journal) +
          state.phase.uncalled read.id ≤ 0
        rw [free, callsSince, if_pos rfl]
    · exact (sound.rows row before).beside (Ne.symm other)
  · intro claim holds
    obtain ⟨row, there, named, fine⟩ := sound.held claim holds
    have other : row.id ≠ read.id := fun same => unheld ⟨claim, holds, named ▸ same⟩
    exact ⟨row, (Table.mem_modify keeps).mpr (.inr ⟨there, other⟩), named, fine⟩
  · intro row here
    obtain ⟨there, pending⟩ := sound.reading row here
    have other : row.id ≠ read.id := by
      intro same
      exact waiting (Table.eq_of_key there stored same ▸ pending)
    exact ⟨(Table.mem_modify keeps).mpr (.inr ⟨there, other⟩), pending⟩
  · exact known_cons keeps sound.known ⟨read, stored, rfl⟩
  · intro other row listed
    by_cases same : other = request
    · subst same
      simp [State.note, State.track] at listed
    · have earlier : state.resends other = some row := by
        simpa [State.note, State.track, State.rewrite, same] using listed
      exact sound.asked other row earlier

/-- Charging an attempt to a message that has some left. -/
theorem Sound.claim (sound : Sound state) {read : Notification} (now : Instant) (jitter : Nat)
    (here : state.phase = .claiming read) :
    Sound (((state.rewrite read.id (charged config read now jitter) (charged_id _ _ _ _)).goto
      (.delivering (claimOf read))).note (.claimed read.id)) := by
  obtain ⟨stored, pending⟩ := sound.reading read here
  have keeps := charged_id config read now jitter
  have unheld : ∀ id, ¬ state.phase.holds id := by
    rintro id ⟨claim, held, _⟩
    rw [here] at held
    cases held
  have fine := sound.rows read stored
  constructor
  · intro row listed
    rcases (Table.mem_modify_of_mem keeps stored).mp listed with rfl | ⟨before, other⟩
    · have left := (fine.left pending).resolve_right (unheld _)
      refine ⟨fine.positive, left, fun _ => .inr ⟨claimOf read, rfl, rfl⟩, ?_, fun _ => pending⟩
      have calls := fine.calls
      rw [here] at calls
      change callsSince read.id state.journal + (if read.id = read.id then 1 else 0) ≤
        read.attempts + 1
      rw [if_pos rfl]
      exact Nat.add_le_add_right calls 1
    · have uncalled : (Phase.delivering (claimOf read)).uncalled row.id = 0 :=
        if_neg (Ne.symm other)
      exact ((sound.rows row before).elsewhere (unheld _) uncalled).beside (Ne.symm other)
  · intro claim holds
    obtain rfl := Option.some.inj holds
    exact ⟨_, (Table.mem_modify_of_mem keeps stored).mpr (.inl rfl), rfl, pending, rfl, rfl⟩
  · intro _ claiming
    cases claiming
  · exact known_cons keeps sound.known ⟨read, stored, rfl⟩
  · exact sound.asked

/-- Calling the transport for the message the worker holds. -/
theorem Sound.call (sound : Sound state) {claim : Claim} (here : state.phase = .delivering claim) :
    Sound ((state.goto (.calling claim)).note (.called claim.notificationId)) := by
  have same : (Phase.calling claim).claim = state.phase.claim := by rw [here]; rfl
  constructor
  · intro row stored
    have fine := sound.rows row stored
    by_cases own : claim.notificationId = row.id
    · have calls := fine.calls
      rw [here] at calls
      simp only [Phase.uncalled, if_pos own] at calls
      refine ⟨fine.positive, fine.within, fun _ => .inr ⟨claim, rfl, own⟩, ?_, fine.undecided⟩
      change callsSince row.id (.called claim.notificationId :: state.journal) + 0 ≤ row.attempts
      rw [callsSince, if_pos own]
      exact calls
    · exact (fine.goesOn same (Nat.zero_le _)).beside own
  · exact fun other holds => sound.held other (same.symm.trans holds)
  · intro _ claiming
    cases claiming
  · intro event listed
    rcases List.mem_cons.mp listed with rfl | earlier
    · obtain ⟨row, stored, named, _⟩ := sound.held claim (by rw [here]; rfl)
      exact ⟨row, stored, named⟩
    · exact sound.known event earlier
  · exact sound.asked

/-- A verdict that leaves a message pending leaves it attempts. -/
theorem settled_left {claim : Claim} {verdict : Verdict} {now : Instant} {jitter : Nat}
    {row : Notification}
    (pending : (settled config claim verdict now jitter row).status = .pending) :
    claim.attempt < claim.maxAttempts := by
  cases verdict with
  | sent => cases pending
  | failure message retry retryAfter =>
    unfold settled at pending
    simp only at pending
    split at pending
    · cases pending
    · rename_i unexhausted
      simp [exhausted] at unexhausted
      exact unexhausted.2

/-- A verdict changes neither the attempts of a message nor their budget. -/
theorem settled_attempts (claim : Claim) (verdict : Verdict) (now : Instant) (jitter : Nat)
    (row : Notification) : (settled config claim verdict now jitter row).attempts = row.attempts ∧
      (settled config claim verdict now jitter row).maxAttempts = row.maxAttempts := by
  cases verdict with
  | sent => exact ⟨rfl, rfl⟩
  | failure message retry retryAfter =>
    unfold settled
    simp only
    split <;> exact ⟨rfl, rfl⟩

/-- Writing the verdict of the attempt the worker holds. -/
theorem Sound.settle (sound : Sound state) {claim : Claim} {verdict : Verdict} (now : Instant)
    (jitter : Nat) (holds : state.phase.claim = some claim) :
    Sound (state.settle config claim verdict now jitter) := by
  obtain ⟨held, stored, named, pending, attempts, budget⟩ := sound.held claim holds
  have keeps := settled_id config claim verdict now jitter
  have one : ∀ id, state.phase.holds id → id = held.id := by
    rintro id ⟨other, also, same⟩
    rw [holds] at also
    cases also
    exact same.symm.trans named.symm
  unfold State.settle
  rw [← named]
  constructor
  · intro row listed
    rcases (Table.mem_modify_of_mem keeps stored).mp listed with rfl | ⟨before, other⟩
    · have fine := sound.rows held stored
      have same := @settled_attempts config claim verdict now jitter held
      constructor
      · rw [same.2]
        exact fine.positive
      · rw [same.1, same.2]
        exact fine.within
      · intro waiting
        have left := settled_left waiting
        rw [same.1, same.2]
        omega
      · rw [same.1, keeps]
        change callsSince held.id state.journal + 0 ≤ held.attempts
        have calls := fine.calls
        omega
      · intro open_
        rw [keeps] at open_
        change undecided held.id (.recorded held.id :: state.journal) = true at open_
        rw [undecided, if_pos rfl] at open_
        cases open_
    · have fine := sound.rows row before
      exact (fine.elsewhere (fun own => other (one row.id own)) rfl).beside (Ne.symm other)
  · intro other also
    cases also
  · intro _ claiming
    cases claiming
  · exact known_cons keeps sound.known ⟨held, stored, rfl⟩
  · exact sound.asked

/-- Letting go of a request. -/
theorem Sound.untrack (sound : Sound state) (request : Nat) : Sound (state.track request none) := by
  refine ⟨sound.rows, sound.held, sound.reading, sound.known, ?_⟩
  intro other read listed
  by_cases same : other = request
  · subst same
    simp [State.track] at listed
  · exact sound.asked other read (by simpa [State.track, same] using listed)

/-- The worker lets go of the message it was about to claim, or takes up another one. -/
theorem Sound.free (sound : Sound state) {later : Phase} (here : state.phase.claim = none)
    (free : later.claim = none)
    (reads : ∀ read, later = .claiming read → read ∈ state.rows ∧ read.status = .pending) :
    Sound (state.goto later) := by
  have uncalled : ∀ id, later.uncalled id = 0 := by
    intro id
    cases later <;> first | rfl | cases free
  constructor
  · intro row stored
    apply sound.row_after_drop _ uncalled stored
    intro claim holds
    rw [here] at holds
    cases holds
  · intro claim holds
    exact absurd (free.symm.trans holds) (Option.some_ne_none claim).symm
  · exact reads
  · exact sound.known
  · exact sound.asked

/-- One step that loses no verdict of a last attempt keeps the outbox sound. -/
theorem step_sound (sound : Sound state) (allowed : Unbroken state action)
    (stepped : step config state action = some after) : Sound after := by
  cases action with
  | configure telegram =>
    obtain rfl := Option.some.inj stepped
    exact ⟨sound.rows, sound.held, sound.reading, sound.known, sound.asked⟩
  | enqueue event dedupeKey unique window text now createdAt =>
    simp only [step] at stepped
    split at stepped
    · obtain rfl := Option.some.inj stepped
      exact sound.enqueue event dedupeKey unique window text now createdAt
    · cases stepped
  | resendRead request id =>
    simp only [step] at stepped
    split at stepped
    · rename_i row idle found
      split at stepped
      · cases stepped
      · rename_i waiting
        obtain rfl := Option.some.inj stepped
        refine ⟨sound.rows, sound.held, sound.reading, sound.known, ?_⟩
        intro other read listed
        by_cases same : other = request
        · subst same
          obtain rfl : row = read := by simpa [State.track] using listed
          exact waiting
        · exact sound.asked other read (by simpa [State.track, same] using listed)
    · cases stepped
  | resendCommit request =>
    simp only [step] at stepped
    split at stepped
    · rename_i read asked
      obtain rfl := Option.some.inj stepped
      have found : state.rows.get read.id = some read := by
        simpa [Unbroken, unbroken, asked] using allowed
      exact sound.resend asked (Table.get_eq_some.mp found).1
    · cases stepped
  | resendDrop request =>
    obtain rfl := Option.some.inj stepped
    exact sound.untrack request
  | boot =>
    simp only [step] at stepped
    split at stepped
    · rename_i here
      obtain rfl := Option.some.inj stepped
      exact sound.free (by rw [here]; rfl) rfl fun _ claiming => Phase.noConfusion claiming
    · cases stepped
  | crash =>
    obtain rfl := Option.some.inj stepped
    have left : ∀ claim, state.phase.claim = some claim → claim.attempt < claim.maxAttempts := by
      intro claim holds
      have enough : attemptsLeft claim = true := by
        simpa [Unbroken, unbroken, holds] using allowed
      exact of_decide_eq_true enough
    apply sound.drop left rfl (fun _ => rfl) (fun _ claiming => Phase.noConfusion claiming)
    exact fun _ _ listed => absurd listed (Option.some_ne_none _).symm
  | claimRead now =>
    simp only [step] at stepped
    split at stepped
    · rename_i here
      obtain ⟨row, found, rfl⟩ := Option.map_eq_some_iff.mp stepped
      apply sound.free (by rw [here]; rfl) rfl
      intro read claiming
      obtain rfl := Phase.claiming.inj claiming
      exact nextReady_pending found
    · cases stepped
  | claimCommit now jitter =>
    simp only [step] at stepped
    split at stepped
    · rename_i read here
      obtain rfl := Option.some.inj stepped
      exact sound.claim now jitter here
    · cases stepped
  | prepare =>
    simp only [step] at stepped
    split at stepped
    · rename_i claim here
      split at stepped
      · obtain rfl := Option.some.inj stepped
        exact sound.goesOn (by rw [here]; rfl) (fun _ => Nat.zero_le _)
          fun _ claiming => Phase.noConfusion claiming
      · obtain rfl := Option.some.inj stepped
        exact sound.call here
    · cases stepped
  | answer reply =>
    simp only [step] at stepped
    split at stepped
    · rename_i claim here
      obtain rfl := Option.some.inj stepped
      exact sound.goesOn (by rw [here]; rfl) (fun _ => Nat.zero_le _)
        fun _ claiming => Phase.noConfusion claiming
    · cases stepped
  | record now jitter =>
    simp only [step] at stepped
    split at stepped
    · rename_i claim verdict here
      obtain rfl := Option.some.inj stepped
      exact sound.settle now jitter (by rw [here]; rfl)
    · rename_i claim message here
      obtain rfl := Option.some.inj stepped
      exact sound.settle now jitter (by rw [here]; rfl)
    · cases stepped
  | raise detail =>
    simp only [step] at stepped
    split at stepped
    · rename_i read here
      obtain rfl := Option.some.inj stepped
      exact sound.free (by rw [here]; rfl) rfl fun _ claiming => Phase.noConfusion claiming
    iterate 3
      · rename_i here
        obtain rfl := Option.some.inj stepped
        exact sound.goesOn (by rw [here]; rfl) (fun _ => Nat.zero_le _)
          fun _ claiming => Phase.noConfusion claiming
    · rename_i claim message here
      obtain rfl := Option.some.inj stepped
      have enough : claim.attempt < claim.maxAttempts := by
        simpa [Unbroken, unbroken, here, attemptsLeft] using allowed
      apply sound.drop _ rfl (fun _ => rfl) (fun _ claiming => Phase.noConfusion claiming)
        sound.asked
      intro other holds
      rw [here] at holds
      cases holds
      exact enough
    · cases stepped

/-- A pending message is ready from the time of its next attempt on. -/
theorem pending_claimable {row : Notification} (pending : row.status = .pending) :
    ∃ due, ∀ now, due ≤ now → isReady now row = true := by
  cases planned : row.nextAttemptAt with
  | none => exact ⟨0, fun now _ => by simp [isReady, pending, planned]⟩
  | some due => exact ⟨due, fun now later => by simp [isReady, pending, planned, later]⟩

/-- Wherever the process dies and whatever the transport answers, while the verdict of every last
attempt is written and no two requests put one message back at once, no message is tried more often
than its budget allows, and none is lost between its claim and its verdict. -/
theorem within_budget_of_unbroken (reached : (system config).Reachable Unbroken state) :
    WithinBudget state := by
  have sound : Sound state := by
    apply reached.invariant_alone
    constructor
    · rintro _ ⟨telegram, rfl⟩
      have none : ∀ row, row ∉ (Table.empty : Table Notification.id) := Table.not_mem_empty
      constructor
      · exact fun row stored => absurd stored (none row)
      · exact fun claim holds => by cases holds
      · exact fun read here => by cases here
      · exact fun event listed => absurd listed List.not_mem_nil
      · exact fun request read listed => absurd listed (Option.some_ne_none _).symm
    · exact fun _ _ _ _ sound allowed stepped => step_sound sound allowed stepped
  constructor
  · exact fun row stored => (sound.rows row stored).within
  · intro row stored
    have fine := sound.rows row stored
    have calls := fine.calls
    have within := fine.within
    omega
  · exact fun row _ pending => pending_claimable pending
  · exact fun row stored => (sound.rows row stored).undecided

end Steps

/-- Two attempts for each message. -/
def twoAttempts : Config := ⟨2, 30, 3600, Nat.two_pos⟩

/-- The worker dies during a delivery that leaves an attempt, and delivers after the restart. -/
def redelivered : List Action :=
  calledOnce ++ [.crash, .boot, .claimRead 40000000, .claimCommit 40000000 0, .prepare,
    .answer .message, .record 41000000 0]

/-- A message whose first delivery is cut short is sent with its second attempt. -/
theorem within_budget_redelivered :
    ∃ state, (∃ row ∈ state.rows, row.status = .sent ∧ row.attempts = 2) ∧ WithinBudget state := by
  obtain ⟨state, reached, shown⟩ : ∃ state, (system twoAttempts).Reachable Unbroken state ∧
      (state.rows.rows.any fun row => row.status == .sent && row.attempts == 2) = true := by
    refine System.exists_of_runFrom (freshOutbox_init _) redelivered _ ?_
    decide
  obtain ⟨row, stored, fine⟩ := List.any_eq_true.mp shown
  exact ⟨state, ⟨row, stored, by simpa using fine⟩, within_budget_of_unbroken reached⟩

/-- A process that dies during the only attempt of a message charges and makes a second one after
the restart. -/
theorem lost_verdict_exceeds_budget :
    ¬ ∀ config state, (system config).Reachable System.unguarded state → WithinBudget state := by
  intro always
  obtain ⟨state, reached, shown⟩ : ∃ state,
      (system oneAttempt).Reachable System.unguarded state ∧
        (state.rows.rows.any fun row => decide (row.maxAttempts < row.attempts)) = true := by
    refine System.exists_of_runFrom (freshOutbox_init _) (calledOnce ++
      [.crash, .boot, .claimRead 40000000, .claimCommit 40000000 0, .prepare]) _ ?_
    decide
  obtain ⟨row, stored, more⟩ := List.any_eq_true.mp shown
  have within := (always oneAttempt state reached).attempts row stored
  have exceeds := of_decide_eq_true more
  omega

end ProxSync.Outbox
