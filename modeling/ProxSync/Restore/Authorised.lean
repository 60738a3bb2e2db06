import ProxSync.Restore.Turns
/-!
# What the start of a restore rests on

Every event at the desk is judged by what happened before it: a confirmation by the token that was
minted for its row, a start by the confirmation of its row. A row that is confirmed or running has
been confirmed once, one that waits has not been confirmed, and one that was cancelled or has
expired is over and was never started. The worker starts only what it has claimed and not asked for
before, so each of these is kept at every step, whenever the process dies.
-/
open ProxSync.Lib ProxSync.History ProxSync.Retention

namespace ProxSync.Restore

namespace DeskEvent

/-- The restore an event is about. -/
def restoreId : DeskEvent → Nat
  | .minted id _ _ _ | .confirmed id _ _ _ | .cancelled id | .expired id | .started id => id

/-- Whether an event confirms a restore. -/
def confirms (restoreId : Nat) : DeskEvent → Bool
  | .confirmed id _ _ _ => id == restoreId
  | _ => false

/-- Whether an event is a confirmation that presented a token. -/
def presents (token : String) : DeskEvent → Bool
  | .confirmed _ presented _ _ => presented == token
  | _ => false

end DeskEvent

/-- No confirmation of a restore and no start of it without what has to come before. -/
def Fine (hashToken : String → String) (earlier : List DeskEvent) : DeskEvent → Prop
  | .confirmed id token targetVmid now => ∃ minted expiresAt,
      .minted id minted targetVmid expiresAt ∈ earlier ∧ hashToken token = hashToken minted ∧
        now < expiresAt
  | .started id => earlier.countP (DeskEvent.confirms id) = 1
  | _ => True

/-- Every event is fine after what happened before it. -/
def Valid (hashToken : String → String) : List DeskEvent → Prop
  | [] => True
  | event :: earlier => Fine hashToken earlier event ∧ Valid hashToken earlier

/-- No token is drawn twice, and no other token presented for a restore has the digest of the one
minted for it. -/
structure TokensApart (hashToken : String → String) (journal : List DeskEvent) : Prop where
  drawn : ∀ first second token targetVmid otherVmid expiresAt otherExpiry,
    .minted first token targetVmid expiresAt ∈ journal →
    .minted second token otherVmid otherExpiry ∈ journal → first = second
  resistant : ∀ id presented presentedVmid now token targetVmid expiresAt,
    .confirmed id presented presentedVmid now ∈ journal →
    .minted id token targetVmid expiresAt ∈ journal →
    hashToken presented = hashToken token → presented = token

/-- What a start request rests on. -/
structure StartsAuthorised (journal : List DeskEvent) : Prop where
  /-- The agent is asked at most once. -/
  once : ∀ id, journal.count (.started id) ≤ 1
  /-- It is asked after the one confirmation, which presented the minted token in time and named
  the target. -/
  confirmed : ∀ id later earlier, journal = later ++ .started id :: earlier →
    journal.countP (DeskEvent.confirms id) = 1 ∧
      ∃ token targetVmid now expiresAt between before,
        earlier = between ++ .confirmed id token targetVmid now :: before ∧
          .minted id token targetVmid expiresAt ∈ before ∧ now < expiresAt
  /-- A token confirms at most once. -/
  spent : ∀ token, journal.countP (DeskEvent.presents token) ≤ 1
  /-- What was cancelled or has expired is never started. -/
  closed : ∀ id, (.cancelled id ∈ journal ∨ .expired id ∈ journal) → .started id ∉ journal

/-! ## The rows and the journal -/

/-- The ticket of a restore is the one its token was minted with. -/
def Ticketed (config : DeskConfig) (desk : Desk) (restoreId : Nat) : Prop :=
  ∃ token targetVmid expiresAt, desk.tickets restoreId =
      some ⟨targetVmid, some (config.hashToken token), some expiresAt⟩ ∧
    .minted restoreId token targetVmid expiresAt ∈ desk.journal

/-- What the rows and the journal say about each other. -/
structure Ledger (config : DeskConfig) (desk : Desk) : Prop where
  known : ∀ event ∈ desk.journal, ∃ row ∈ desk.worker.db.restores, row.id = event.restoreId
  linked : ∀ id, .started id ∈ desk.journal ↔ asked desk.worker.journal id = true
  once : ∀ id, desk.journal.count (.started id) ≤ 1
  single : ∀ id, desk.journal.countP (DeskEvent.confirms id) ≤ 1
  waiting : ∀ row ∈ desk.worker.db.restores, row.status = .pendingConfirmation →
    desk.journal.countP (DeskEvent.confirms row.id) = 0 ∧ Ticketed config desk row.id
  inFlight : ∀ row ∈ desk.worker.db.restores, isInFlight row.status = true →
    desk.journal.countP (DeskEvent.confirms row.id) = 1
  closed : ∀ id, (.cancelled id ∈ desk.journal ∨ .expired id ∈ desk.journal) →
    .started id ∉ desk.journal ∧
      ∃ row ∈ desk.worker.db.restores, row.id = id ∧ row.status.isTerminal = true
  valid : Valid config.hashToken desk.journal

/-! ## The worker stays sound at the desk -/

section Desk

variable {config : DeskConfig} {desk after : Desk}

/-- What holds of the worker does not depend on the other tables. -/
theorem Sound.congr {state : State} (sound : Sound state) {db : Database}
    (same : db.restores = state.db.restores) : Sound (state.commit db state.phase) where
  known restoreId sent := same ▸ sound.known restoreId sent
  waiting record stored := sound.waiting record (same ▸ stored)
  resume entry listed := same ▸ sound.resume entry listed
  facts := same ▸ sound.facts
  honest := fun record stored => sound.honest record (same ▸ stored)

/-- Closing the windows of restores that were not handed to the worker keeps it sound. -/
theorem Sound.expireAll {state : State} (sound : Sound state) (ids : List Nat) (message : String)
    (now : Instant) (waits : ∀ id ∈ ids, ∃ record ∈ state.db.restores, record.id = id ∧
      unstarted record.status = true) :
    Sound (state.commit (closeAll ids .expired message now state.db) state.phase) := by
  induction ids generalizing state with
  | nil => exact sound.congr rfl
  | cons id rest ih =>
    obtain ⟨record, stored, named, unhandled⟩ := waits id List.mem_cons_self
    have found : state.db.restores.get id = some record := Table.get_eq_some.mpr ⟨stored, named⟩
    have later := sound.rewriteWaiting found unhandled (closeRestore_id .expired message now)
      fun _ => rfl
    refine ih later fun other listed => ?_
    obtain ⟨row, there, same, free⟩ := waits other (List.mem_cons_of_mem _ listed)
    exact Table.exists_mem_modify (closeRestore_id _ _ _) there ⟨same, free⟩ fun _ => ⟨same, rfl⟩

/-- A restore whose window has closed waits. -/
theorem mem_expiredPending {now : Instant} {id : Nat} (listed : id ∈ expiredPending desk now) :
    ∃ record ∈ desk.worker.db.restores, record.id = id ∧ record.status = .pendingConfirmation := by
  obtain ⟨record, chosen, rfl⟩ := List.mem_map.mp listed
  obtain ⟨stored, closed⟩ := List.mem_filter.mp chosen
  simp only [Bool.and_eq_true, beq_iff_eq] at closed
  exact ⟨record, stored, rfl, closed.1⟩

/-- A confirmation names a restore that waits. -/
theorem confirmable_waits {restoreId : Nat} {token : String} {targetVmid : Nat} {now : Instant}
    (valid : confirmable config desk restoreId token targetVmid now = true) :
    ∃ record ∈ desk.worker.db.restores, record.id = restoreId ∧
      record.status = .pendingConfirmation := by
  unfold confirmable at valid
  rw [Bool.and_eq_true] at valid
  obtain ⟨record, found, pending⟩ := (Option.any_eq_true _ _).mp valid.1
  obtain ⟨stored, named⟩ := Table.get_eq_some.mp found
  exact ⟨record, stored, named, eq_of_beq pending⟩

/-- A restore that waits or is confirmed was not handed to the worker. -/
theorem unstarted_of_waits {status : RestoreStatus}
    (waits : status = .pendingConfirmation ∨ status = .confirmed) : unstarted status = true := by
  rcases waits with rfl | rfl <;> rfl

/-- One step of the desk keeps the worker sound. -/
theorem moves_workerSound (sound : Sound desk.worker) (vouched : Vouched config desk desk.holder)
    (moved : DeskMoves config desk after) : Sound after.worker := by
  cases moved with
  | work own stepped guarded => exact moves_sound sound (step_moves stepped)
  | environment same => exact sound.congr same
  | expire free =>
    refine sound.expireAll _ _ _ fun id listed => ?_
    obtain ⟨record, stored, named, pending⟩ := mem_expiredPending listed
    exact ⟨record, stored, named, unstarted_of_waits (.inl pending)⟩
  | create | confirm | cancel | relay | checkCreate | checkConfirm | retain | deleteLocal |
    release => exact sound
  | deleted => exact sound.congr rfl
  | @mint backupId targetVmid source token now held =>
    have above : ∀ other ∈ desk.worker.db.restores, other.id < desk.worker.db.restores.nextKey :=
      fun _ => Table.lt_nextKey
    have requests : Moves desk.worker
        (desk.mint config backupId targetVmid source token now).worker :=
      .request above
    exact moves_sound sound requests
  | @authorise restoreId token targetVmid now source held =>
    rw [held] at vouched
    obtain ⟨record, stored, named, pending⟩ := confirmable_waits vouched.1
    have found := Table.get_eq_some.mpr ⟨stored, named⟩
    exact sound.rewriteWaiting found (unstarted_of_waits (.inl pending)) (authorise_id _)
      fun _ => rfl
  | @strike restoreId now held =>
    rw [held] at vouched
    obtain ⟨record, stored, named, waits⟩ := vouched
    have found := Table.get_eq_some.mpr ⟨stored, named⟩
    exact sound.rewriteWaiting found (unstarted_of_waits waits) (closeRestore_id _ _ _) fun _ => rfl
  | pass held own moved => exact sound.congr (pass_restores own moved)

/-- At the desk the worker is sound in every reachable state. -/
theorem workerSound_of_reachable
    (reached : (deskSystem config).Reachable System.unguarded desk) : Sound desk.worker := by
  refine reached.invariant (fun _ => vouched_of_reachable) (show System.Preserved _ _
    (fun desk => Vouched config desk desk.holder) (fun desk => Sound desk.worker) from ⟨?_, ?_⟩)
  · rintro _ rfl
    have initial : (system config.worker).Reachable System.unguarded
        ⟨.empty, .down, [], false, []⟩ := .start rfl
    exact sound_of_reachable initial
  · exact fun _ _ _ vouched sound _ stepped =>
      moves_workerSound sound vouched (deskStep_moves stepped)

end Desk

/-! ## Every step keeps the ledger -/

section Entries

variable {hashToken : String → String} {journal more : List DeskEvent} {id : Nat}

/-- What is valid ends with what is fine after the rest. -/
theorem Valid.fine {later earlier : List DeskEvent} {event : DeskEvent}
    (valid : Valid hashToken (later ++ event :: earlier)) : Fine hashToken earlier event := by
  induction later with
  | nil => exact valid.1
  | cons _ _ ih => exact ih valid.2

/-- A list of closed windows or cancellations starts and confirms nothing. -/
structure Closes (ids : List Nat) (events : List DeskEvent) : Prop where
  entries : ∀ event ∈ events, ∃ id ∈ ids, event = .cancelled id ∨ event = .expired id

/-- Closing events of every listed restore. -/
theorem closes_map (ids : List Nat) {event : Nat → DeskEvent}
    (closing : ∀ id, event id = .cancelled id ∨ event id = .expired id) :
    Closes ids (ids.map event) := by
  refine ⟨fun entry listed => ?_⟩
  obtain ⟨id, member, rfl⟩ := List.mem_map.mp listed
  exact ⟨id, member, closing id⟩

/-- Closing events start nothing. -/
theorem Closes.not_started {ids : List Nat} (closes : Closes ids more) :
    DeskEvent.started id ∉ more := by
  intro listed
  obtain ⟨_, _, same | same⟩ := closes.entries _ listed <;> cases same

/-- Closing events confirm nothing. -/
theorem Closes.confirms {ids : List Nat} (closes : Closes ids more) :
    more.countP (DeskEvent.confirms id) = 0 := by
  refine List.countP_eq_zero.mpr fun event listed => ?_
  obtain ⟨_, _, rfl | rfl⟩ := closes.entries event listed <;> simp [DeskEvent.confirms]

/-- Closing events are fine whatever happened before. -/
theorem Closes.valid {ids : List Nat} (closes : Closes ids more)
    (valid : Valid hashToken journal) : Valid hashToken (more ++ journal) := by
  induction more with
  | nil => exact valid
  | cons event rest ih =>
    refine ⟨?_, ih ⟨fun entry listed => closes.entries entry (List.mem_cons_of_mem _ listed)⟩⟩
    obtain ⟨_, _, rfl | rfl⟩ := closes.entries event List.mem_cons_self <;> exact trivial

end Entries

section Steps

variable {config : DeskConfig} {desk after : Desk}

/-- The ledger does not depend on the holder or the other tables. -/
theorem Ledger.congr (ledger : Ledger config desk)
    (restores : after.worker.db.restores = desk.worker.db.restores)
    (tickets : after.tickets = desk.tickets) (journal : after.journal = desk.journal)
    (known : after.worker.journal = desk.worker.journal) : Ledger config after where
  known := by rw [journal, restores]; exact ledger.known
  linked := by rw [journal, known]; exact ledger.linked
  once := by rw [journal]; exact ledger.once
  single := by rw [journal]; exact ledger.single
  waiting := by
    unfold Ticketed
    rw [journal, restores, tickets]
    exact ledger.waiting
  inFlight := by rw [journal, restores]; exact ledger.inFlight
  closed := by rw [journal, restores]; exact ledger.closed
  valid := by rw [journal]; exact ledger.valid

/-- A terminal restore neither waits nor flies. -/
theorem not_terminal {status : RestoreStatus}
    (open_ : status = .pendingConfirmation ∨ isInFlight status = true) :
    status.isTerminal = false := by
  rcases open_ with rfl | flies
  · rfl
  · cases status <;> first | rfl | cases flies

/-- Restores that were not started are closed, and their tokens forgotten. -/
theorem Ledger.close (ledger : Ledger config desk) {ids : List Nat} {status : RestoreStatus}
    (message : String) (now : Instant) {events : List DeskEvent} (closes : Closes ids events)
    (terminal : status.isTerminal = true)
    (free : ∀ id ∈ ids, .started id ∉ desk.journal ∧
      ∃ row ∈ desk.worker.db.restores, row.id = id) :
    Ledger config (((desk.write (closeAll ids status message now desk.worker.db)).redact ids).note
      events) := by
  have stays : ∀ row ∈ (closeAll ids status message now desk.worker.db).restores,
      row.status.isTerminal = false → row ∈ desk.worker.db.restores ∧ row.id ∉ ids := by
    intro row stored live
    rcases mem_closeAll stored with old | ⟨_, same⟩
    · exact old
    · rw [same, terminal] at live
      cases live
  have confirms : ∀ id, (events ++ desk.journal).countP (DeskEvent.confirms id) =
      desk.journal.countP (DeskEvent.confirms id) := by
    intro id
    rw [List.countP_append, closes.confirms, Nat.zero_add]
  have started : ∀ id, .started id ∈ events ++ desk.journal ↔ .started id ∈ desk.journal :=
    fun id => by simp [closes.not_started]
  refine ⟨?_, fun id => (started id).trans (ledger.linked id), ?_, ?_, ?_, ?_, ?_,
    closes.valid ledger.valid⟩
  · intro event listed
    have there : ∃ row ∈ desk.worker.db.restores, row.id = event.restoreId := by
      rcases List.mem_append.mp listed with new | old
      · obtain ⟨id, member, rfl | rfl⟩ := closes.entries event new <;> exact (free id member).2
      · exact ledger.known event old
    obtain ⟨old, was, named⟩ := there
    obtain ⟨row, stored, same, _⟩ := exists_closeAll ids message now terminal was
    exact ⟨row, stored, same.trans named⟩
  · intro id
    have none : events.count (.started id) = 0 := List.count_eq_zero.mpr closes.not_started
    show (events ++ desk.journal).count (.started id) ≤ 1
    rw [List.count_append, none, Nat.zero_add]
    exact ledger.once id
  · exact fun id => (confirms id).symm ▸ ledger.single id
  · intro row stored pending
    obtain ⟨was, apart⟩ := stays row stored (not_terminal (.inl pending))
    obtain ⟨unconfirmed, token, targetVmid, expiresAt, ticket, minted⟩ :=
      ledger.waiting row was pending
    refine ⟨(confirms row.id).trans unconfirmed, token, targetVmid, expiresAt, ?_,
      List.mem_append_right _ minted⟩
    show (if row.id ∈ ids then _ else _) = _
    rw [if_neg apart]
    exact ticket
  · intro row stored flies
    exact (confirms row.id).trans
      (ledger.inFlight row (stays row stored (not_terminal (.inr flies))).1 flies)
  · intro id closing
    have before : .started id ∉ desk.journal ∧ ∃ row ∈ desk.worker.db.restores, row.id = id ∧
        (row.status.isTerminal = true ∨ row.id ∈ ids) := by
      have cases_ : id ∈ ids ∨ .cancelled id ∈ desk.journal ∨ .expired id ∈ desk.journal := by
        rcases closing with listed | listed <;> rcases List.mem_append.mp listed with new | old
        · obtain ⟨_, member, same | same⟩ := closes.entries _ new <;> cases same
          exact .inl member
        · exact .inr (.inl old)
        · obtain ⟨_, member, same | same⟩ := closes.entries _ new <;> cases same
          exact .inl member
        · exact .inr (.inr old)
      rcases cases_ with member | earlier
      · obtain ⟨unstarted, row, stored, named⟩ := free id member
        exact ⟨unstarted, row, stored, named, .inr (named ▸ member)⟩
      · obtain ⟨unstarted, row, stored, named, ended⟩ := ledger.closed id earlier
        exact ⟨unstarted, row, stored, named, .inl ended⟩
    obtain ⟨unstarted, old, was, named, ends⟩ := before
    obtain ⟨row, stored, same, ended⟩ := exists_closeAll ids message now terminal was
    exact ⟨fun listed => unstarted ((started id).mp listed), row, stored, same.trans named,
      ended ends⟩

/-- A restore that is requested has a ticket and no history. -/
theorem Ledger.mint (ledger : Ledger config desk) (backupId targetVmid : Nat)
    (source : RestoreSource) (token : String) (now : Instant) :
    Ledger config (desk.mint config backupId targetVmid source token now).release := by
  have rows : ∀ row, row ∈ (desk.mint config backupId targetVmid source token
      now).release.worker.db.restores ↔ row ∈ desk.worker.db.restores ∨
        row = requested desk.worker.db.restores.nextKey backupId source :=
    fun row => Table.mem_append _
  have fresh : ∀ event ∈ desk.journal, event.restoreId ≠ desk.worker.db.restores.nextKey := by
    intro event listed same
    obtain ⟨row, stored, named⟩ := ledger.known event listed
    have below := Table.lt_nextKey stored
    omega
  have confirms : ∀ id, (desk.mint config backupId targetVmid source token
      now).release.journal.countP (DeskEvent.confirms id) =
        desk.journal.countP (DeskEvent.confirms id) := fun id => by
    simp [Desk.mint, Desk.release, DeskEvent.confirms]
  refine ⟨?_, ?_, ?_, fun id => (confirms id).symm ▸ ledger.single id, ?_, ?_, ?_,
    ⟨trivial, ledger.valid⟩⟩
  · intro event listed
    rcases List.mem_cons.mp listed with rfl | old
    · exact ⟨_, (rows _).mpr (.inr rfl), rfl⟩
    · obtain ⟨row, stored, named⟩ := ledger.known event old
      exact ⟨row, (rows row).mpr (.inl stored), named⟩
  · intro id
    refine Iff.trans ?_ (ledger.linked id)
    simp [Desk.mint, Desk.release]
  · intro id
    have same : (desk.mint config backupId targetVmid source token now).release.journal.count
        (.started id) = desk.journal.count (.started id) := by
      simp [Desk.mint, Desk.release]
    exact same ▸ ledger.once id
  · intro row stored pending
    rcases (rows row).mp stored with old | rfl
    · obtain ⟨unconfirmed, minted, target, expiresAt, ticket, listed⟩ :=
        ledger.waiting row old pending
      have apart : row.id ≠ desk.worker.db.restores.nextKey := (Table.lt_nextKey old).ne
      refine ⟨(confirms _).trans unconfirmed, minted, target, expiresAt, ?_,
        List.mem_cons_of_mem _ listed⟩
      exact (Function.update_of_ne apart _ _).trans ticket
    · refine ⟨(confirms _).trans (List.countP_eq_zero.mpr fun event listed => ?_), token,
        targetVmid, now + config.confirmationTtlSeconds * 1000000, Function.update_self _ _ _,
        List.mem_cons_self⟩
      have other := fresh event listed
      cases event <;> simp_all [DeskEvent.confirms, DeskEvent.restoreId, requested]
  · intro row stored flies
    rcases (rows row).mp stored with old | rfl
    · exact (confirms _).trans (ledger.inFlight row old flies)
    · cases flies
  · intro id closing
    have earlier : .cancelled id ∈ desk.journal ∨ .expired id ∈ desk.journal := by
      simpa [Desk.mint, Desk.release] using closing
    obtain ⟨unstarted, row, stored, named, ended⟩ := ledger.closed id earlier
    refine ⟨?_, row, (rows row).mpr (.inl stored), named, ended⟩
    simpa [Desk.mint, Desk.release] using unstarted

/-- What a confirmation that names its ticket has shown. -/
theorem confirmable_ticket {restoreId : Nat} {token minted : String} {targetVmid target : Nat}
    {now expiresAt : Instant}
    (valid : confirmable config desk restoreId token targetVmid now = true)
    (ticket : desk.tickets restoreId =
      some ⟨target, some (config.hashToken minted), some expiresAt⟩) :
    target = targetVmid ∧ config.hashToken token = config.hashToken minted ∧ now < expiresAt := by
  simp only [confirmable, ticket, tokenMatches, Option.any_some, Bool.and_eq_true,
    Bool.not_eq_true', decide_eq_false_iff_not, Nat.not_le, beq_iff_eq] at valid
  exact ⟨valid.2.2.symm, valid.2.1.2.2, valid.2.1.1⟩

/-- A restore that is authorised is confirmed once, with its token and its target, in time. -/
theorem Ledger.authorise (ledger : Ledger config desk) {restoreId : Nat} {token : String}
    {targetVmid : Nat} {now : Instant} (source : RestoreSource)
    (valid : confirmable config desk restoreId token targetVmid now = true) :
    Ledger config (desk.authorise restoreId token targetVmid now source).release := by
  obtain ⟨named, stored, same, pending⟩ := confirmable_waits valid
  obtain ⟨unconfirmed, minted, target, expiresAt, ticket, listed⟩ :=
    ledger.waiting named stored pending
  rw [same] at unconfirmed ticket listed
  obtain ⟨rfl, digest, inTime⟩ := confirmable_ticket valid ticket
  have rows : ∀ row, row ∈ (desk.authorise restoreId token target now
      source).release.worker.db.restores ↔ (∃ old ∈ desk.worker.db.restores, old.id = restoreId ∧
        row = Restore.authorise source old) ∨ (row ∈ desk.worker.db.restores ∧
          row.id ≠ restoreId) := fun row => Table.mem_modify (authorise_id _)
  have confirms : ∀ id, (desk.authorise restoreId token target now
      source).release.journal.countP (DeskEvent.confirms id) =
        desk.journal.countP (DeskEvent.confirms id) + if restoreId = id then 1 else 0 := by
    intro id
    show (.confirmed restoreId token target now :: desk.journal).countP _ = _
    rw [List.countP_cons]
    simp [DeskEvent.confirms]
  have apart : ∀ {row}, row ∈ (desk.authorise restoreId token target now
      source).release.worker.db.restores → row.id ≠ restoreId →
        row ∈ desk.worker.db.restores := by
    intro row there other
    rcases (rows row).mp there with ⟨old, _, is, rfl⟩ | ⟨was, _⟩
    · exact absurd is other
    · exact was
  refine ⟨?_, ?_, ?_, ?_, ?_, ?_, ?_, ⟨⟨minted, expiresAt, listed, digest, inTime⟩, ledger.valid⟩⟩
  · intro event entry
    have there : ∃ row ∈ desk.worker.db.restores, row.id = event.restoreId := by
      rcases List.mem_cons.mp entry with rfl | old
      · exact ⟨named, stored, same⟩
      · exact ledger.known event old
    obtain ⟨row, was, is⟩ := there
    exact Table.exists_mem_modify (authorise_id _) was is fun _ => is
  · intro id
    refine Iff.trans ?_ (ledger.linked id)
    simp [Desk.authorise, Desk.release, Desk.note, Desk.redact, Desk.write]
  · intro id
    show (.confirmed restoreId token target now :: desk.journal).count (.started id) ≤ 1
    rw [List.count_cons_of_ne (by simp)]
    exact ledger.once id
  · intro id
    rw [confirms]
    by_cases own : restoreId = id
    · rw [← own, unconfirmed, if_pos rfl]
    · rw [if_neg own]
      exact ledger.single id
  · intro row there waits
    have other : row.id ≠ restoreId := by
      intro is
      rcases (rows row).mp there with ⟨old, _, _, rfl⟩ | ⟨_, differs⟩
      · cases waits
      · exact differs is
    obtain ⟨never, drawn, vmid, deadline, held, entry⟩ :=
      ledger.waiting row (apart there other) waits
    refine ⟨?_, drawn, vmid, deadline, ?_, List.mem_cons_of_mem _ entry⟩
    · rw [confirms, if_neg fun is => other is.symm, never]
    · show (if row.id ∈ [restoreId] then _ else _) = _
      rw [if_neg (by simpa using other)]
      exact held
  · intro row there flies
    rw [confirms]
    by_cases own : row.id = restoreId
    · rw [own, unconfirmed, if_pos rfl]
    · rw [if_neg fun is => own is.symm]
      exact ledger.inFlight row (apart there own) flies
  · intro id closing
    have earlier : .cancelled id ∈ desk.journal ∨ .expired id ∈ desk.journal := by
      simpa [Desk.authorise, Desk.release, Desk.note, Desk.redact, Desk.write] using closing
    obtain ⟨unstarted, row, was, is, ended⟩ := ledger.closed id earlier
    have other : row.id ≠ restoreId := by
      intro own
      rw [Table.eq_of_key was stored (own.trans same.symm), pending] at ended
      cases ended
    refine ⟨?_, row, (rows row).mpr (.inr ⟨was, other⟩), is, ended⟩
    simpa [Desk.authorise, Desk.release, Desk.note, Desk.redact, Desk.write] using unstarted

/-- The worker starts only a restore that is running and that it has not asked for. -/
theorem start_claimed (sound : Sound desk.worker) {action : Action} {id : Nat}
    (starts : startOf desk.worker action = some id) :
    asked desk.worker.journal id = false ∧
      ∃ record ∈ desk.worker.db.restores, record.id = id ∧ record.status = .running := by
  have facts := sound.facts
  cases action <;> first | cases starts | skip
  simp only [startOf] at starts
  split at starts
  · rename_i plan here
    obtain rfl := Option.some.inj starts
    rw [here] at facts
    exact ⟨facts.2, facts.1.running⟩
  · cases starts

/-- A step of the worker starts what was confirmed once, and only once. -/
theorem Ledger.work (ledger : Ledger config desk) (sound : Sound desk.worker) {action : Action}
    {guarded : Bool} {state : State} {holder : Option Holder}
    (effect : WorkEffect guarded (startOf desk.worker action) desk.worker state) :
    Ledger config {
      worker := state, tickets := desk.tickets, holder := holder
      journal := ((startOf desk.worker action).map DeskEvent.started).toList ++ desk.journal } := by
  have confirms : ∀ id, (((startOf desk.worker action).map DeskEvent.started).toList ++
      desk.journal).countP (DeskEvent.confirms id) =
        desk.journal.countP (DeskEvent.confirms id) := by
    intro id
    cases startOf desk.worker action <;> simp [DeskEvent.confirms]
  have started : ∀ id, .started id ∈ ((startOf desk.worker action).map DeskEvent.started).toList ++
      desk.journal ↔ startOf desk.worker action = some id ∨ .started id ∈ desk.journal := by
    intro id
    cases startOf desk.worker action <;> simp [eq_comm]
  have unasked : ∀ id, startOf desk.worker action = some id → .started id ∉ desk.journal := by
    intro id starts listed
    rw [ledger.linked, (start_claimed sound starts).1] at listed
    cases listed
  refine ⟨?_, ?_, ?_, fun id => (confirms id).symm ▸ ledger.single id, ?_, ?_, ?_, ?_⟩
  · intro event listed
    have there : ∃ row ∈ desk.worker.db.restores, row.id = event.restoreId := by
      rcases List.mem_append.mp listed with new | old
      · obtain ⟨_, starts, rfl⟩ := Option.map_eq_some_iff.mp (Option.mem_toList.mp new)
        obtain ⟨_, row, stored, named, _⟩ := start_claimed sound starts
        exact ⟨row, stored, named⟩
      · exact ledger.known event old
    obtain ⟨old, was, named⟩ := there
    obtain ⟨row, stored, moves⟩ := effect.rows.forth old was
    exact ⟨row, stored, moves.id.trans named⟩
  · intro id
    rw [started, ledger.linked, effect.sent, Bool.or_eq_true, beq_iff_eq]
  · intro id
    show (_ ++ desk.journal).count (.started id) ≤ 1
    have before := ledger.once id
    rw [List.count_append]
    by_cases own : startOf desk.worker action = some id
    · have none : desk.journal.count (.started id) = 0 :=
        List.count_eq_zero.mpr (unasked id own)
      rw [own, none]
      simp
    · have other : (((startOf desk.worker action).map DeskEvent.started).toList).count
          (.started id) = 0 := by
        rw [List.count_eq_zero]
        intro listed
        obtain ⟨_, starts, same⟩ := Option.map_eq_some_iff.mp (Option.mem_toList.mp listed)
        cases same
        exact own starts
      omega
  · intro row stored pending
    obtain ⟨old, was, moves⟩ := effect.rows.back row stored
    have waited : old.status = .pendingConfirmation := by
      rcases moves.status with same | ⟨_, ended | ⟨_, running⟩⟩
      · exact same.symm.trans pending
      · rw [pending] at ended
        cases ended
      · rw [pending] at running
        cases running
    obtain ⟨never, token, targetVmid, expiresAt, ticket, minted⟩ := ledger.waiting old was waited
    rw [← moves.id] at never ticket minted
    exact ⟨(confirms _).trans never, token, targetVmid, expiresAt, ticket,
      List.mem_append_right _ minted⟩
  · intro row stored flies
    obtain ⟨old, was, moves⟩ := effect.rows.back row stored
    have flew := ledger.inFlight old was (moves.inFlight flies)
    rw [← moves.id] at flew
    exact (confirms _).trans flew
  · intro id closing
    have earlier : .cancelled id ∈ desk.journal ∨ .expired id ∈ desk.journal := by
      revert closing
      cases startOf desk.worker action <;> simp
    obtain ⟨unstarted, old, was, named, ended⟩ := ledger.closed id earlier
    obtain ⟨row, stored, moves⟩ := effect.rows.forth old was
    refine ⟨fun listed => ?_, row, stored, moves.id.trans named, ?_⟩
    · rcases (started id).mp listed with starts | before
      · obtain ⟨_, claimed, there, same, running⟩ := start_claimed sound starts
        rw [Table.eq_of_key was there (named.trans same.symm), running] at ended
        cases ended
      · exact unstarted before
    · rcases moves.status with same | ⟨_, closed | ⟨confirmed, _⟩⟩
      · exact same ▸ ended
      · exact closed
      · rw [confirmed] at ended
        cases ended
  · have entries := ledger.valid
    cases starts : startOf desk.worker action with
    | none => exact entries
    | some id =>
      obtain ⟨_, row, stored, named, running⟩ := start_claimed sound starts
      refine ⟨?_, entries⟩
      exact named ▸ ledger.inFlight row stored (by rw [running]; rfl)

/-- One step of the desk keeps the ledger. -/
theorem moves_ledger (ledger : Ledger config desk) (sound : Sound desk.worker)
    (vouched : Vouched config desk desk.holder) (moved : DeskMoves config desk after) :
    Ledger config after := by
  have unstarted : ∀ record ∈ desk.worker.db.restores, unstarted record.status = true →
      .started record.id ∉ desk.journal := by
    intro record stored waits listed
    rw [ledger.linked, sound.waiting record stored waits] at listed
    cases listed
  cases moved with
  | work own stepped guarded => exact ledger.work sound (work_effect own stepped)
  | environment same => exact ledger.congr same rfl rfl rfl
  | expire free =>
    refine ledger.close _ _ (closes_map _ fun _ => .inr rfl) rfl fun id listed => ?_
    obtain ⟨record, stored, rfl, pending⟩ := mem_expiredPending listed
    exact ⟨unstarted record stored (unstarted_of_waits (.inl pending)), record, stored, rfl⟩
  | create | confirm | cancel | relay | checkCreate | checkConfirm | retain | deleteLocal |
    deleted | release => exact ledger.congr rfl rfl rfl rfl
  | mint held => exact ledger.mint _ _ _ _ _
  | authorise held =>
    rw [held] at vouched
    exact ledger.authorise _ vouched.1
  | @strike restoreId now held =>
    rw [held] at vouched
    obtain ⟨record, stored, rfl, waits⟩ := vouched
    have terminal : RestoreStatus.cancelled.isTerminal = true := rfl
    have struck := ledger.close cancelMessage now (closes_map [record.id] fun _ => .inl rfl)
      terminal fun id listed => by
        rw [List.mem_singleton.mp listed]
        exact ⟨unstarted record stored (unstarted_of_waits waits), record, stored, rfl⟩
    exact struck.congr rfl rfl rfl rfl
  | pass held own moved => exact ledger.congr (pass_restores own moved) rfl rfl rfl

/-- In every reachable state the ledger is kept. -/
theorem ledger_of_reachable (reached : (deskSystem config).Reachable System.unguarded desk) :
    Ledger config desk := by
  have known : ∀ desk, (deskSystem config).Reachable System.unguarded desk →
      Sound desk.worker ∧ Vouched config desk desk.holder :=
    fun _ there => ⟨workerSound_of_reachable there, vouched_of_reachable there⟩
  refine reached.invariant known ⟨?_, ?_⟩
  · rintro _ rfl
    have none : ∀ row, row ∉ Database.empty.restores := Table.not_mem_empty
    exact {
      known := fun _ listed => absurd listed List.not_mem_nil
      linked := fun _ => iff_of_false List.not_mem_nil Bool.false_ne_true
      once := fun _ => Nat.zero_le 1
      single := fun _ => Nat.zero_le 1
      waiting := fun row stored => absurd stored (none row)
      inFlight := fun row stored => absurd stored (none row)
      closed := fun _ listed => listed.elim (fun entry => absurd entry List.not_mem_nil)
        fun entry => absurd entry List.not_mem_nil
      valid := trivial }
  · exact fun _ _ _ both ledger _ stepped =>
      moves_ledger ledger both.1 both.2 (deskStep_moves stepped)

/-- A confirmation in a valid journal presented the token that was minted before it. -/
theorem minted_of_confirmed {hashToken : String → String} {later before : List DeskEvent}
    {id : Nat} {token : String} {targetVmid : Nat} {now : Instant}
    (valid : Valid hashToken (later ++ .confirmed id token targetVmid now :: before))
    (apart : TokensApart hashToken (later ++ .confirmed id token targetVmid now :: before)) :
    ∃ expiresAt, .minted id token targetVmid expiresAt ∈ before ∧ now < expiresAt := by
  obtain ⟨minted, expiresAt, listed, digest, inTime⟩ := valid.fine
  have same : token = minted := apart.resistant id token targetVmid now minted targetVmid expiresAt
    (by simp) (by simp [listed]) digest
  exact ⟨expiresAt, same ▸ listed, inTime⟩

/-- However requests, the worker and crashes interleave, the agent is asked to start a restore at
most once, after the one confirmation that presented its token in time and named its target, and
never for a restore that was cancelled or has expired. -/
theorem starts_authorised (reached : (deskSystem config).Reachable System.unguarded desk)
    (apart : TokensApart config.hashToken desk.journal) : StartsAuthorised desk.journal := by
  have ledger := ledger_of_reachable reached
  refine ⟨ledger.once, ?_, ?_, fun id closing => (ledger.closed id closing).1⟩
  · intro id later earlier split
    have valid := ledger.valid
    have single := ledger.single id
    rw [split] at valid apart single ⊢
    have one : earlier.countP (DeskEvent.confirms id) = 1 := valid.fine
    have whole : (later ++ .started id :: earlier).countP (DeskEvent.confirms id) = 1 := by
      rw [List.countP_append, List.countP_cons] at single ⊢
      omega
    refine ⟨whole, ?_⟩
    obtain ⟨event, listed, confirms⟩ := List.countP_pos_iff.mp (one ▸ Nat.one_pos)
    cases event with
    | minted | cancelled | expired | started => cases confirms
    | confirmed other token targetVmid now =>
      obtain rfl : other = id := eq_of_beq confirms
      obtain ⟨between, before, rfl⟩ := List.append_of_mem listed
      have whole_ : later ++ .started other :: (between ++ .confirmed other token targetVmid now ::
          before) = (later ++ .started other :: between) ++ .confirmed other token targetVmid now ::
            before := by simp
      rw [whole_] at valid apart
      obtain ⟨expiresAt, minted, inTime⟩ := minted_of_confirmed valid apart
      exact ⟨token, targetVmid, now, expiresAt, between, before, rfl, minted, inTime⟩
  · intro token
    have minted : ∀ id targetVmid now, .confirmed id token targetVmid now ∈ desk.journal →
        ∃ expiresAt, .minted id token targetVmid expiresAt ∈ desk.journal := by
      intro id targetVmid now listed
      have valid := ledger.valid
      obtain ⟨later, before, split⟩ := List.append_of_mem listed
      rw [split] at valid apart ⊢
      obtain ⟨expiresAt, entry, _⟩ := minted_of_confirmed valid apart
      exact ⟨expiresAt, by simp [entry]⟩
    by_contra many
    obtain ⟨event, listed, presents⟩ := List.countP_pos_iff.mp (by omega :
      0 < desk.journal.countP (DeskEvent.presents token))
    cases event with
    | minted | cancelled | expired | started => cases presents
    | confirmed id presented targetVmid now =>
      obtain rfl : presented = token := eq_of_beq presents
      obtain ⟨expiresAt, entry⟩ := minted id targetVmid now listed
      -- Every other confirmation with the token is one of the same restore.
      have below : desk.journal.countP (DeskEvent.presents presented) ≤
          desk.journal.countP (DeskEvent.confirms id) := by
        refine List.countP_mono_left fun event other also => ?_
        cases event with
        | minted | cancelled | expired | started => cases also
        | confirmed second again otherVmid later =>
          obtain rfl : again = presented := eq_of_beq also
          obtain ⟨_, drawn⟩ := minted second otherVmid later other
          exact beq_iff_eq.mpr (apart.drawn second id _ _ _ _ _ drawn entry)
      have single := ledger.single id
      omega

end Steps

/-- A restore that was confirmed is started, and its start is authorised. -/
theorem starts_authorised_once : ∃ desk : Desk, .started 1 ∈ desk.journal ∧
    StartsAuthorised desk.journal := by
  obtain ⟨desk, reached, shown⟩ : ∃ desk,
      (deskSystem sampleDesk).Reachable System.unguarded desk ∧
      decide (desk.journal = [.started 1,
        .confirmed 1 (confirmationTokenPrefix ++ sampleSecret) 101 200,
        .minted 1 (confirmationTokenPrefix ++ sampleSecret) 101 300000100]) = true := by
    refine System.exists_of_runFrom rfl confirmAndStart _ ?_
    decide
  have journal := of_decide_eq_true shown
  refine ⟨desk, by simp [journal], starts_authorised reached ⟨?_, ?_⟩⟩
  · intro first second _ _ _ _ _ one other
    simp only [journal, List.mem_cons, reduceCtorEq, DeskEvent.minted.injEq, false_or,
      List.not_mem_nil, or_false] at one other
    exact one.1.trans other.1.symm
  · intro _ presented _ _ token _ _ confirmed minted _
    simp only [journal, List.mem_cons, reduceCtorEq, DeskEvent.minted.injEq,
      DeskEvent.confirmed.injEq, false_or, List.not_mem_nil, or_false] at confirmed minted
    exact confirmed.2.1.trans minted.2.1.symm

end ProxSync.Restore
