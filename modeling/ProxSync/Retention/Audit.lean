import ProxSync.Retention.Pass
/-!
# The audit of a retention pass

Every mark a pass sets is stored in the same commit as the decision that says so, so the two agree
whenever the process dies; a dry run records the decisions it would have taken without a mark. A
pass that ends has recorded one decision for each copy it classified, and each decision says what
was done: nothing, a removal, or a request that the agent did not carry out.
-/
open ProxSync.Lib

namespace ProxSync.Retention

/-- When a copy of a row was removed. -/
def markOf (location : RetentionLocation) (record : BackupHistory) : Option Instant :=
  match location with
  | .localCopy => record.localDeletedAt
  | .remoteCopy => record.remoteDeletedAt

/-- A copy of a stored row is marked as removed. -/
def Marked (db : Database) (backupId : Nat) (location : RetentionLocation) : Prop :=
  ∃ record ∈ db.history, record.id = backupId ∧ (markOf location record).isSome = true

instance (db : Database) (backupId : Nat) (location : RetentionLocation) :
    Decidable (Marked db backupId location) :=
  inferInstanceAs (Decidable (∃ record ∈ db.history, record.id = backupId ∧
    (markOf location record).isSome = true))

/-- The decision to delete a copy. -/
def deletion : RetentionLocation → RetentionAction
  | .localCopy => .deletedLocal
  | .remoteCopy => .deletedRemote

/-- The copy a decision is about. -/
def PlannedDecision.key (plan : PlannedDecision) : Nat × RetentionLocation :=
  (plan.backup.id, plan.location)

/-- The copy an audited decision is about. -/
def eventKey (event : RetentionEvent) : Nat × RetentionLocation := (event.backupId, event.location)

/-- The copy an answer is about. -/
def Answer.key (answer : Answer) : Nat × RetentionLocation := (answer.backupId, answer.location)

/-- The decisions that were audited since a pass began. -/
def eventsSince (start db : Database) : List RetentionEvent :=
  db.retentionEvents.drop start.retentionEvents.length

/-- An audited decision that says a copy was removed. -/
def SaysRemoved (event : RetentionEvent) (backupId : Nat) (location : RetentionLocation) : Prop :=
  event.backupId = backupId ∧ event.action = deletion location ∧ event.dryRun = false

/-- What a pass did about a copy. -/
inductive Deed
  | nothing
  | removed
  | refused
  deriving DecidableEq, Repr

/-- Whether an answer means that the copy is gone. -/
def DeleteReply.removes : DeleteReply → Bool
  | .removed _ => true
  | .agentError agentStatus _ => agentStatus == some 404
  | .appError _ | .crashed _ => false

/-- What the agent's answers say was done about a copy. -/
def deedAt (answers : List Answer) (key : Nat × RetentionLocation) : Deed :=
  match answers.find? fun answer => answer.key == key with
  | none => .nothing
  | some answer => if answer.reply.removes then .removed else .refused

/-- What an audited decision says was done. -/
def deedOf (event : RetentionEvent) : Deed :=
  match event.action with
  | .deletedLocal | .deletedRemote => if event.dryRun then .nothing else .removed
  | .failed => .refused
  | .evaluated | .kept | .skipped => .nothing

/-- Nobody else audits a decision, sets or clears a mark or removes a row. -/
structure Quiet (before after : Database) : Prop where
  events : after.retentionEvents = before.retentionEvents
  marks : ∀ backupId location, Marked after backupId location ↔ Marked before backupId location
  stored : ∀ record ∈ before.history, ∃ later ∈ after.history, later.id = record.id

/-- The pass holds the guard: other writers leave its marks and decisions alone. -/
def Guarded (run : PassRun) (action : PassAction) : Prop :=
  ∀ db, action = .interfere db → Quiet run.pass.db db

/-- What is stored agrees with what was audited, and a pass that ended audited everything once. -/
structure Consistent (start : Database) (run : PassRun) : Prop where
  marks : ∀ backupId location,
    (Marked run.pass.db backupId location ∧ ¬ Marked start backupId location) ↔
      ∃ event ∈ eventsSince start run.pass.db, SaysRemoved event backupId location
  once : run.completed = true → ∀ plan ∈ run.planned,
    (eventsSince start run.pass.db).countP (fun event => eventKey event == plan.key) = 1
  about : run.completed = true → ∀ event ∈ eventsSince start run.pass.db,
    ∃ plan ∈ run.planned, plan.key = eventKey event
  agrees : run.completed = true → ∀ event ∈ eventsSince start run.pass.db,
    deedOf event = deedAt run.answers (eventKey event) ∧
      (Sent run.pass.calls event.backupId event.location ↔ deedOf event ≠ .nothing)

/-! ## Classifications -/

/-- A classification deletes, or it keeps or skips. -/
def WellClassified (plan : PlannedDecision) : Prop :=
  (plan.wouldDelete = true → plan.action = deletion plan.location) ∧
    (plan.wouldDelete = false → plan.action = .kept ∨ plan.action = .skipped)

section Classified

variable {location : RetentionLocation} {keep : Nat} {rows : List RetentionBackup}
  {blocker : RetentionBackup → Option String} {row : RetentionBackup} {db : Database}
  {policy : RetentionPolicySnapshot} {guest : GuestKey} {plan : PlannedDecision}

/-- The classification both locations share is well formed. -/
theorem classify_wellClassified : WellClassified (classify location keep rows blocker row) := by
  unfold classify WellClassified
  dsimp only
  split
  · exact ⟨nofun, fun _ => .inr rfl⟩
  · split
    · exact ⟨nofun, fun _ => .inr rfl⟩
    · split
      · exact ⟨nofun, fun _ => .inl rfl⟩
      · split
        · exact ⟨nofun, fun _ => .inr rfl⟩
        · exact ⟨fun _ => rfl, nofun⟩
        · exact ⟨fun _ => rfl, nofun⟩

/-- Every decision of a guest's classification is well formed and about a copy of the guest. -/
theorem guestPlans_wellClassified (member : plan ∈ guestPlans policy db guest) :
    WellClassified plan ∧ plan.backup ∈ copiesForGuest db plan.location guest := by
  have classified : ∀ location keep blocker,
      plan ∈ (copiesForGuest db location guest).map
        (classify location keep (copiesForGuest db location guest) blocker) →
      WellClassified plan ∧ plan.backup ∈ copiesForGuest db plan.location guest := by
    intro location keep blocker listed
    obtain ⟨row, copy, rfl⟩ := List.mem_map.mp listed
    exact ⟨classify_wellClassified, by simpa using copy⟩
  have blocked : ∀ location reason,
      plan ∈ blockedPlans (copiesForGuest db location guest) location reason →
      WellClassified plan ∧ plan.backup ∈ copiesForGuest db plan.location guest := by
    intro location reason listed
    obtain ⟨row, copy, rfl⟩ := List.mem_map.mp listed
    exact ⟨⟨nofun, fun _ => .inr rfl⟩, copy⟩
  unfold guestPlans at member
  dsimp only at member
  split at member
  · rcases List.mem_append.mp member with here | there
    · exact classified _ _ _ here
    · exact classified _ _ _ there
  · rcases List.mem_append.mp member with here | there
    · exact blocked _ _ here
    · exact blocked _ _ there

/-- A classification is well formed in every scope. -/
theorem plans_wellClassified {backupId : Option Nat} {planned : List PlannedDecision}
    (classified : plans policy db backupId = .ok planned) (member : plan ∈ planned) :
    WellClassified plan := by
  unfold plans at classified
  cases scope : guestsInScope db backupId with
  | error message => simp [scope, Except.map] at classified
  | ok guests =>
    simp only [scope, Except.map, Except.ok.injEq] at classified
    rw [← classified, List.mem_flatMap] at member
    obtain ⟨guest, _, inGuest⟩ := member
    exact (guestPlans_wellClassified inGuest).1

/-- A decision planned again is about the same copy. -/
theorem revalidateCandidate_key {input : PassInput} {original : PlannedDecision}
    {current : RetentionPolicySnapshot}
    (judged : revalidateCandidate input db original = .ok (current, plan)) :
    plan.key = original.key := by
  have subject := (revalidateCandidate_subject judged).2
  rw [PlannedDecision.key, PlannedDecision.key, subject.1, subject.2]

/-- What a decision planned again says is well formed, whatever was planned first. -/
theorem revalidateCandidate_wellClassified {input : PassInput} {original : PlannedDecision}
    {current : RetentionPolicySnapshot}
    (judged : revalidateCandidate input db original = .ok (current, plan)) :
    WellClassified plan := by
  unfold revalidateCandidate at judged
  cases classified : plans (Retention.policy input.settings db input.backupId) db
      input.backupId with
  | error message => simp [classified, Except.map] at judged
  | ok listed =>
    simp only [classified, Except.map, Except.ok.injEq] at judged
    split at judged
    · rename_i found selected
      have same : found = plan := (Prod.mk.inj judged).2
      exact same ▸ plans_wellClassified classified (List.mem_of_find?_eq_some selected)
    · rw [← (Prod.mk.inj judged).2]
      exact ⟨nofun, fun _ => .inr rfl⟩

/-- Marking a copy as removed names the action of its location. -/
theorem deletion_injective {first second : RetentionLocation}
    (same : deletion first = deletion second) : first = second := by
  cases first <;> cases second <;> first | rfl | cases same

end Classified

/-! ## One decision for each copy -/

section Keys

variable {db : Database} {policy : RetentionPolicySnapshot} {guest : GuestKey}
  {location : RetentionLocation}

/-- The copies of a guest have different ids. -/
theorem copiesForGuest_nodup :
    ((copiesForGuest db location guest).map BackupHistory.id).Nodup := by
  have distinct : (db.history.rows.filter fun record =>
      record.key == guest && hasCopy location record).Pairwise
        fun first second => first.id ≠ second.id :=
    (db.history.ascending.imp fun below => below.ne).filter _
  have ordered := ((orderNewestFirst_perm (db.history.rows.filter fun record =>
    record.key == guest && hasCopy location record)).pairwise_iff
      fun different => different.symm).mpr distinct
  exact List.pairwise_map.mpr ordered

/-- The decisions about a guest are about its local copies, then about its remote ones. -/
theorem guestPlans_keys : (guestPlans policy db guest).map PlannedDecision.key =
    (localForGuest db guest).map (fun row => (row.id, RetentionLocation.localCopy)) ++
      (remoteForGuest db guest).map (fun row => (row.id, RetentionLocation.remoteCopy)) := by
  have subject : ∀ place keep rows blocker row,
      (classify place keep rows blocker row).key = (row.id, place) := by
    intro place keep rows blocker row
    rw [PlannedDecision.key, classify_subject.1, classify_subject.2]
  unfold guestPlans
  dsimp only
  split
  · simp [localPlans, remotePlans, Function.comp_def, subject]
  · simp [blockedPlans, Function.comp_def, PlannedDecision.key]

/-- No two decisions about a guest are about the same copy. -/
theorem guestPlans_nodup : ((guestPlans policy db guest).map PlannedDecision.key).Nodup := by
  have once : ∀ place, ((copiesForGuest db place guest).map
      (fun row => (row.id, place))).Nodup := by
    intro place
    have ids : ((copiesForGuest db place guest).map BackupHistory.id).Nodup :=
      copiesForGuest_nodup
    have paired : (((copiesForGuest db place guest).map BackupHistory.id).map
        fun id => (id, place)).Nodup := ids.map fun _ _ same => (Prod.mk.inj same).1
    rwa [List.map_map] at paired
  rw [guestPlans_keys]
  refine (once .localCopy).append (once .remoteCopy) ?_
  intro key here there
  obtain ⟨_, _, rfl⟩ := List.mem_map.mp here
  obtain ⟨_, _, same⟩ := List.mem_map.mp there
  cases (Prod.mk.inj same).2

/-- No guest is in scope twice. -/
theorem guestsInScope_nodup {backupId : Option Nat} {guests : List GuestKey}
    (scope : guestsInScope db backupId = .ok guests) : guests.Nodup := by
  unfold guestsInScope at scope
  cases backupId with
  | none =>
    rw [← Except.ok.inj scope]
    exact (List.perm_insertionSort _ _).nodup_iff.mpr (List.nodup_dedup _)
  | some id =>
    dsimp only at scope
    split at scope
    · cases scope
    · rw [← Except.ok.inj scope]
      exact List.nodup_singleton _

/-- A classification decides about each copy in scope once. -/
theorem plans_nodup {backupId : Option Nat} {planned : List PlannedDecision}
    (classified : plans policy db backupId = .ok planned) :
    (planned.map PlannedDecision.key).Nodup := by
  unfold plans at classified
  cases scope : guestsInScope db backupId with
  | error message => simp [scope, Except.map] at classified
  | ok guests =>
    simp only [scope, Except.map, Except.ok.injEq] at classified
    rw [← classified, List.map_flatMap, List.nodup_flatMap]
    refine ⟨fun guest _ => guestPlans_nodup, ?_⟩
    refine (guestsInScope_nodup scope).imp ?_
    -- A row belongs to one guest, so two guests share no copy.
    intro first second different key here there
    obtain ⟨plan, inFirst, rfl⟩ := List.mem_map.mp here
    obtain ⟨other, inSecond, same⟩ := List.mem_map.mp there
    have one := mem_copiesForGuest.mp (guestPlans_wellClassified inFirst).2
    have two := mem_copiesForGuest.mp (guestPlans_wellClassified inSecond).2
    have row : other.backup = plan.backup :=
      Table.eq_of_key two.1 one.1 (Prod.mk.inj same).1
    exact different (one.2.1.symm.trans (row ▸ two.2.1))

end Keys

/-! ## What an audit and a mark change -/

/-- The audit of a decision. -/
def auditEvent (input : PassInput) (plan : PlannedDecision) (item : RetentionDecision)
    (policy : RetentionPolicySnapshot) (projected : Option Int) : RetentionEvent where
  backupId := plan.backup.id
  vmid := plan.backup.vmid
  guestType := plan.backup.guestType
  action := item.action
  reason := truncate 255 item.reason
  policySnapshot := policy
  location := plan.location
  effectiveKeep := policy.keepAt plan.location
  freedBytes := max (projected.getD item.freedBytes) 0
  dryRun := policy.dryRun
  correlationId := (input.correlationId.filter (· ≠ "")).or plan.backup.correlationId

/-- The audit of a first decision that needs no deletion. -/
def staticEvent (input : PassInput) (policy : RetentionPolicySnapshot) (plan : PlannedDecision) :
    RetentionEvent :=
  auditEvent input plan (render plan) policy
    (if plan.wouldDelete then some plan.sizeBytes else none)

/-- A decision that is settled when the pass begins. -/
def isStatic (policy : RetentionPolicySnapshot) (plan : PlannedDecision) : Bool :=
  !(plan.wouldDelete && !policy.dryRun)

section Effects

variable {input : PassInput} {current : RetentionPolicySnapshot} {plan : PlannedDecision}
  {item : RetentionDecision} {projected : Option Int} {state : PassState}

/-- Settling a decision appends its audit. -/
theorem settle_events : (state.settle input plan item current projected).db.retentionEvents =
    state.db.retentionEvents ++ [auditEvent input plan item current projected] := rfl

/-- The first decisions that need no deletion are audited in order. -/
theorem foldl_settleStatic_events (planned : List PlannedDecision) (state : PassState) :
    (planned.foldl (settleStatic input current) state).db.retentionEvents =
      state.db.retentionEvents ++
        (planned.filter (isStatic current)).map (staticEvent input current) := by
  induction planned generalizing state with
  | nil => simp
  | cons plan rest ih =>
    have one : (settleStatic input current state plan).db.retentionEvents =
        state.db.retentionEvents ++
          ([plan].filter (isStatic current)).map (staticEvent input current) := by
      unfold settleStatic
      by_cases deletes : plan.wouldDelete = true
      · by_cases dry : current.dryRun = true
        · simp [deletes, dry, isStatic, settle_events, staticEvent]
        · simp [deletes, dry, isStatic]
      · simp [deletes, isStatic, settle_events, staticEvent]
    rw [List.foldl_cons, ih, one, List.append_assoc, ← List.map_append, ← List.filter_append,
      List.singleton_append]

/-- A decision that was only rendered removed nothing. -/
theorem deedOf_rendered (formed : WellClassified plan)
    (spared : plan.wouldDelete = false ∨ current.dryRun = true) :
    deedOf (auditEvent input plan (render plan) current projected) = .nothing := by
  have action : (auditEvent input plan (render plan) current projected).action = plan.action := rfl
  have dry : (auditEvent input plan (render plan) current projected).dryRun = current.dryRun := rfl
  unfold deedOf
  rw [action, dry]
  rcases spared with kept | dryRun
  · rcases formed.2 kept with keeps | skips
    · simp [keeps]
    · simp [skips]
  · cases deletes : plan.wouldDelete with
    | true =>
      rw [formed.1 deletes]
      cases plan.location <;> simp [deletion, dryRun]
    | false => rcases formed.2 deletes with keeps | skips <;> simp [*]

/-- An audit that says nothing was done does not say that a copy was removed. -/
theorem not_saysRemoved {event : RetentionEvent} (idle : deedOf event ≠ .removed)
    (backupId : Nat) (location : RetentionLocation) : ¬ SaysRemoved event backupId location := by
  rintro ⟨_, action, real⟩
  refine idle ?_
  unfold deedOf
  rw [action, real]
  cases location <;> rfl

/-- Whether a deletion marks the copy follows from the answer. -/
theorem delete_written (db : Database) (plan : PlannedDecision) (reply : DeleteReply)
    (now : Instant) : (delete db plan reply now).1 =
      if reply.removes then markDeleted db plan.location plan.backup.id now else db := by
  cases reply with
  | removed freedBytes => rfl
  | agentError agentStatus detail =>
    by_cases missing : agentStatus = some 404
    · simp [delete, DeleteReply.removes, missing]
    · simp [delete, DeleteReply.removes, missing]
  | appError detail => rfl
  | crashed detail => rfl

/-- The action audited for a deletion follows from the answer. -/
theorem delete_action (db : Database) (plan : PlannedDecision) (reply : DeleteReply)
    (now : Instant) : (delete db plan reply now).2.action =
      if reply.removes then plan.action else .failed := by
  cases reply with
  | removed freedBytes => rfl
  | agentError agentStatus detail =>
    by_cases missing : agentStatus = some 404
    · simp [delete, DeleteReply.removes, missing, render]
    · simp [delete, DeleteReply.removes, missing, failed]
  | appError detail => rfl
  | crashed detail => rfl

/-- A mark is set where the row has it, and nowhere else. -/
theorem markOf_markDeletedRow {location place : RetentionLocation} {now : Instant}
    {record : BackupHistory} : (markOf place (markDeletedRow location now record)).isSome = true ↔
      (markOf place record).isSome = true ∨ place = location := by
  cases location <;> cases place <;>
    simp only [markDeletedRow, markLocalDeletedRow, markRemoteDeletedRow, markOf] <;>
    split <;> simp_all [refreshStatus]

/-- Marking a copy of a stored row marks that copy alone. -/
theorem marked_markDeleted {db : Database} {location place : RetentionLocation}
    {backupId other : Nat} {now : Instant}
    (stored : ∃ record ∈ db.history, record.id = backupId) :
    Marked (markDeleted db location backupId now) other place ↔
      Marked db other place ∨ (other = backupId ∧ place = location) := by
  constructor
  · rintro ⟨record, present, id, marked⟩
    rcases mem_markDeleted.mp present with ⟨old, was, named, rfl⟩ | ⟨was, _⟩
    · rw [markDeletedRow_id] at id
      rcases markOf_markDeletedRow.mp marked with already | here
      · exact .inl ⟨old, was, id, already⟩
      · exact .inr ⟨id.symm.trans named, here⟩
    · exact .inl ⟨record, was, id, marked⟩
  · rintro (⟨record, was, id, marked⟩ | ⟨rfl, rfl⟩)
    · by_cases named : record.id = backupId
      · refine ⟨_, mem_markDeleted.mpr (.inl ⟨record, was, named, rfl⟩), by simpa using id, ?_⟩
        exact markOf_markDeletedRow.mpr (.inl marked)
      · exact ⟨record, mem_markDeleted.mpr (.inr ⟨was, named⟩), id, marked⟩
    · obtain ⟨record, was, named⟩ := stored
      refine ⟨_, mem_markDeleted.mpr (.inl ⟨record, was, named, rfl⟩), by simpa using named, ?_⟩
      exact markOf_markDeletedRow.mpr (.inr rfl)

/-- A copy that exists is not marked as removed. -/
theorem not_marked_of_hasCopy {db : Database} {location : RetentionLocation}
    {record : BackupHistory} (stored : record ∈ db.history)
    (present : hasCopy location record = true) : ¬ Marked db record.id location := by
  rintro ⟨other, there, id, marked⟩
  have same : other = record := Table.eq_of_key there stored id
  subst same
  cases location with
  | localCopy =>
    simp only [hasCopy, localExists, Bool.and_eq_true] at present
    simp [markOf, Option.isNone_iff_eq_none.mp present.1.2] at marked
  | remoteCopy =>
    simp only [hasCopy, remoteExists, Bool.and_eq_true] at present
    simp [markOf, Option.isNone_iff_eq_none.mp present.1.1.2] at marked

end Effects

/-! ## The books of a pass -/

/-- What the marks and the decisions since a pass began say about each other. -/
structure MarksAudited (start db : Database) (since : List RetentionEvent) : Prop where
  prior : db.retentionEvents = start.retentionEvents ++ since
  kept : ∀ backupId location, Marked start backupId location → Marked db backupId location
  marks : ∀ backupId location, (Marked db backupId location ∧ ¬ Marked start backupId location) ↔
    ∃ event ∈ since, SaysRemoved event backupId location

/-- What the decisions, the requests and the answers of a pass say about each other, while the
copies in `left` are undecided and the one in `asked` is at the agent. -/
structure Books (run : PassRun) (since : List RetentionEvent)
    (left : List (Nat × RetentionLocation)) (asked : Option (Nat × RetentionLocation)) :
    Prop where
  distinct : (run.planned.map PlannedDecision.key).Nodup
  settled : (since.map eventKey ++ left).Perm (run.planned.map PlannedDecision.key)
  agrees : ∀ event ∈ since, deedOf event = deedAt run.answers (eventKey event) ∧
    (Sent run.pass.calls event.backupId event.location ↔ deedOf event ≠ .nothing)
  answered : ∀ answer ∈ run.answers, answer.key ∈ since.map eventKey
  sent : ∀ call ∈ run.pass.calls, (call.backup.id, call.location) ∈ since.map eventKey ∨
    asked = some (call.backup.id, call.location)

/-- What is known of a copy whose deletion is at the agent. -/
structure AtAgent (run : PassRun) (current : RetentionPolicySnapshot) (plan : PlannedDecision) :
    Prop where
  action : plan.action = deletion plan.location
  real : current.dryRun = false
  stored : ∃ record ∈ run.pass.db.history, record.id = plan.backup.id
  present : ¬ Marked run.pass.db plan.backup.id plan.location
  sent : Sent run.pass.calls plan.backup.id plan.location

/-- The books at each stage of a pass. -/
def BooksAt (run : PassRun) (since : List RetentionEvent) : Prop :=
  match run.stage with
  | .deciding => since = [] ∧ run.pass.calls = [] ∧ run.answers = []
  | .judging rest => Books run since (rest.map PlannedDecision.key) none
  | .deleting current plan rest =>
    Books run since (plan.key :: rest.map PlannedDecision.key) (some plan.key) ∧
      AtAgent run current plan
  | .aborted => True

/-- The marks, the decisions and the requests of a pass fit together. -/
def Audited (start : Database) (run : PassRun) : Prop :=
  ∃ since, MarksAudited start run.pass.db since ∧ BooksAt run since

section Entries

variable {start db after : Database} {since more : List RetentionEvent} {event : RetentionEvent}
  {run : PassRun} {key : Nat × RetentionLocation} {left : List (Nat × RetentionLocation)}
  {asked : Option (Nat × RetentionLocation)}

/-- Decisions that removed nothing are audited without a mark. -/
theorem MarksAudited.append (audited : MarksAudited start db since)
    (events : after.retentionEvents = db.retentionEvents ++ more)
    (marks : ∀ backupId location, Marked after backupId location ↔ Marked db backupId location)
    (idle : ∀ event ∈ more, deedOf event ≠ .removed) :
    MarksAudited start after (since ++ more) where
  prior := by rw [events, audited.prior, List.append_assoc]
  kept backupId location was := (marks _ _).mpr (audited.kept _ _ was)
  marks := by
    intro backupId location
    rw [marks, audited.marks]
    constructor
    · rintro ⟨event, listed, telling⟩
      exact ⟨event, List.mem_append_left _ listed, telling⟩
    · rintro ⟨event, listed, telling⟩
      rcases List.mem_append.mp listed with earlier | new
      · exact ⟨event, earlier, telling⟩
      · exact absurd telling (not_saysRemoved (idle event new) _ _)

/-- A removal is audited together with its mark. -/
theorem MarksAudited.remove (audited : MarksAudited start db since) {backupId : Nat}
    {location : RetentionLocation} {now : Instant}
    (events : after.retentionEvents = db.retentionEvents ++ [event])
    (history : after.history = (markDeleted db location backupId now).history)
    (stored : ∃ record ∈ db.history, record.id = backupId)
    (present : ¬ Marked db backupId location)
    (about : event.backupId = backupId) (action : event.action = deletion location)
    (real : event.dryRun = false) : MarksAudited start after (since ++ [event]) := by
  have marks : ∀ other place, Marked after other place ↔
      Marked db other place ∨ (other = backupId ∧ place = location) := by
    intro other place
    have marked : Marked after other place ↔
        Marked (markDeleted db location backupId now) other place := by
      unfold Marked
      rw [history]
    rw [marked, marked_markDeleted stored]
  have telling : ∀ other place, SaysRemoved event other place ↔
      other = backupId ∧ place = location := by
    intro other place
    constructor
    · rintro ⟨same, named, _⟩
      exact ⟨same.symm.trans about, deletion_injective (named.symm.trans action)⟩
    · rintro ⟨rfl, rfl⟩
      exact ⟨about, action, real⟩
  refine ⟨by rw [events, audited.prior, List.append_assoc], ?_, ?_⟩
  · exact fun other place was => (marks _ _).mpr (.inl (audited.kept _ _ was))
  · intro other place
    rw [marks]
    constructor
    · rintro ⟨marked | here, fresh⟩
      · obtain ⟨entry, listed, said⟩ := (audited.marks other place).mp ⟨marked, fresh⟩
        exact ⟨entry, List.mem_append_left _ listed, said⟩
      · exact ⟨event, by simp, (telling _ _).mpr here⟩
    · rintro ⟨entry, listed, said⟩
      rcases List.mem_append.mp listed with earlier | new
      · have old := (audited.marks other place).mpr ⟨entry, earlier, said⟩
        exact ⟨.inl old.1, old.2⟩
      · rw [List.mem_singleton.mp new] at said
        obtain ⟨rfl, rfl⟩ := (telling _ _).mp said
        exact ⟨.inr ⟨rfl, rfl⟩, fun was => present (audited.kept _ _ was)⟩

/-- A copy that is left has no decision yet. -/
theorem Books.fresh (books : Books run since (key :: left) asked) :
    key ∉ since.map eventKey := by
  have apart := books.settled.nodup_iff.mpr books.distinct
  exact fun listed => (List.nodup_append.mp apart).2.2 _ listed _ List.mem_cons_self rfl

/-- A copy that is left has no answer yet. -/
theorem Books.unanswered (books : Books run since (key :: left) asked) :
    deedAt run.answers key = .nothing := by
  have none : run.answers.find? (fun answer => answer.key == key) = none := by
    rw [List.find?_eq_none]
    intro answer listed named
    exact books.fresh (eq_of_beq named ▸ books.answered answer listed)
  rw [deedAt, none]

/-- A decision that needs no deletion is entered. -/
theorem Books.spare (books : Books run since (key :: left) none) {later : PassRun}
    (planned : later.planned = run.planned) (answers : later.answers = run.answers)
    (calls : later.pass.calls = run.pass.calls) (about : eventKey event = key)
    (idle : deedOf event = .nothing) : Books later (since ++ [event]) left none where
  distinct := planned ▸ books.distinct
  settled := by
    have whole := books.settled
    rw [← about] at whole
    rw [planned, List.map_append, List.append_assoc]
    exact whole
  agrees := by
    rw [answers, calls]
    intro entry listed
    rcases List.mem_append.mp listed with earlier | new
    · exact books.agrees entry earlier
    · rw [List.mem_singleton.mp new]
      refine ⟨by rw [about, books.unanswered, idle], ?_⟩
      refine iff_of_false ?_ (fun busy => busy idle)
      rintro ⟨call, was, id, place⟩
      rcases books.sent call was with listed | pending
      · refine books.fresh (about ▸ ?_)
        rwa [id, place] at listed
      · cases pending
  answered := by
    rw [answers]
    exact fun answer was => by
      rw [List.map_append]
      exact List.mem_append_left _ (books.answered answer was)
  sent := by
    rw [calls]
    intro call was
    rcases books.sent call was with listed | pending
    · exact .inl (by rw [List.map_append]; exact List.mem_append_left _ listed)
    · cases pending

/-- A request is entered. -/
theorem Books.ask (books : Books run since (key :: left) none) {later : PassRun}
    {call : DeleteCall} (planned : later.planned = run.planned)
    (answers : later.answers = run.answers) (calls : later.pass.calls = call :: run.pass.calls)
    (about : (call.backup.id, call.location) = key) :
    Books later since (key :: left) (some key) where
  distinct := planned ▸ books.distinct
  settled := planned ▸ books.settled
  agrees := by
    rw [answers, calls]
    intro entry listed
    have old := books.agrees entry listed
    refine ⟨old.1, Iff.trans ?_ old.2⟩
    -- The request is about a copy without a decision, so no entered decision is about it.
    constructor
    · rintro ⟨sent, was, id, place⟩
      rcases List.mem_cons.mp was with rfl | earlier
      · have entered : eventKey entry ∈ since.map eventKey := List.mem_map_of_mem listed
        rw [eventKey, ← id, ← place, about] at entered
        exact absurd entered books.fresh
      · exact ⟨sent, earlier, id, place⟩
    · rintro ⟨sent, was, named⟩
      exact ⟨sent, List.mem_cons_of_mem _ was, named⟩
  answered := answers ▸ books.answered
  sent := by
    rw [calls]
    intro sent was
    rcases List.mem_cons.mp was with rfl | earlier
    · exact .inr (congrArg some about.symm)
    · rcases books.sent sent earlier with listed | pending
      · exact .inl listed
      · cases pending

/-- An answer is entered with its decision. -/
theorem Books.answer (books : Books run since (key :: left) (some key)) {later : PassRun}
    {answer : Answer} (planned : later.planned = run.planned)
    (answers : later.answers = answer :: run.answers)
    (calls : later.pass.calls = run.pass.calls) (sent : Sent run.pass.calls key.1 key.2)
    (about : eventKey event = key) (named : answer.key = key)
    (telling : deedOf event = if answer.reply.removes then .removed else .refused) :
    Books later (since ++ [event]) left none where
  distinct := planned ▸ books.distinct
  settled := by
    have whole := books.settled
    rw [← about] at whole
    rw [planned, List.map_append, List.append_assoc]
    exact whole
  agrees := by
    rw [answers, calls]
    intro entry listed
    rcases List.mem_append.mp listed with earlier | new
    · have other : answer.key ≠ eventKey entry := by
        intro same
        exact books.fresh (named ▸ same ▸ List.mem_map_of_mem earlier)
      have unchanged : deedAt (answer :: run.answers) (eventKey entry) =
          deedAt run.answers (eventKey entry) := by
        have skipped : (answer.key == eventKey entry) = false := beq_false_of_ne other
        simp only [deedAt, List.find?_cons, skipped]
      rw [unchanged]
      exact books.agrees entry earlier
    · rw [List.mem_singleton.mp new]
      have found : (answer.key == eventKey event) = true := by rw [about, named, beq_self_eq_true]
      refine ⟨by simp only [deedAt, List.find?_cons, found, telling], ?_⟩
      refine iff_of_true ?_ ?_
      · rw [← about] at sent
        exact sent
      · rw [telling]
        split <;> simp
  answered := by
    rw [answers]
    intro entry was
    rw [List.map_append]
    rcases List.mem_cons.mp was with rfl | earlier
    · exact List.mem_append_right _ (by simp [about, named])
    · exact List.mem_append_left _ (books.answered entry earlier)
  sent := by
    rw [calls]
    intro call was
    rw [List.map_append]
    rcases books.sent call was with listed | pending
    · exact .inl (List.mem_append_left _ listed)
    · exact .inl (List.mem_append_right _ (by simp [about, Option.some.inj pending]))

end Entries

/-! ## Every step keeps the books -/

section Runs

variable {input : PassInput} {start : Database} {run after : PassRun} {action : PassAction}
  {since : List RetentionEvent}

/-- The books do not depend on what is stored. -/
theorem Books.congr {left : List (Nat × RetentionLocation)}
    {asked : Option (Nat × RetentionLocation)} (books : Books run since left asked)
    {later : PassRun} (planned : later.planned = run.planned)
    (answers : later.answers = run.answers) (calls : later.pass.calls = run.pass.calls) :
    Books later since left asked where
  distinct := planned ▸ books.distinct
  settled := planned ▸ books.settled
  agrees := by rw [answers, calls]; exact books.agrees
  answered := answers ▸ books.answered
  sent := calls ▸ books.sent

/-- The first decisions open the books. -/
theorem books_decided {planned : List PlannedDecision} {policy : RetentionPolicySnapshot}
    {db : Database} {backupId : Option Nat} (classified : plans policy db backupId = .ok planned)
    {later : PassRun} (same : later.planned = planned) (answers : later.answers = [])
    (calls : later.pass.calls = []) :
    Books later ((planned.filter (isStatic policy)).map (staticEvent input policy))
      ((candidates policy planned).map PlannedDecision.key) none where
  distinct := same ▸ plans_nodup classified
  settled := by
    have keys : ((planned.filter (isStatic policy)).map (staticEvent input policy)).map eventKey =
        (planned.filter (isStatic policy)).map PlannedDecision.key := by
      rw [List.map_map]
      rfl
    have parts : (planned.filter (isStatic policy) ++ candidates policy planned).Perm planned :=
      List.perm_append_comm.trans (List.filter_append_perm _ planned)
    rw [keys, same, ← List.map_append]
    exact parts.map _
  agrees := by
    rw [answers, calls]
    intro event listed
    obtain ⟨plan, chosen, rfl⟩ := List.mem_map.mp listed
    obtain ⟨member, static⟩ := List.mem_filter.mp chosen
    have spared : plan.wouldDelete = false ∨ policy.dryRun = true := by
      simpa [isStatic, Bool.or_eq_true] using static
    have idle : deedOf (staticEvent input policy plan) = .nothing :=
      deedOf_rendered (plans_wellClassified classified member) spared
    exact ⟨idle, iff_of_false (fun ⟨_, was, _⟩ => List.not_mem_nil was) fun busy => busy idle⟩
  answered := by
    rw [answers]
    exact fun _ was => absurd was List.not_mem_nil
  sent := by
    rw [calls]
    exact fun _ was => absurd was List.not_mem_nil

/-- What is at the agent stays as it is while the guard is held. -/
theorem AtAgent.quiet {current : RetentionPolicySnapshot} {plan : PlannedDecision}
    (atAgent : AtAgent run current plan) {later : PassRun}
    (calls : later.pass.calls = run.pass.calls) (quiet : Quiet run.pass.db later.pass.db) :
    AtAgent later current plan where
  action := atAgent.action
  real := atAgent.real
  stored := by
    obtain ⟨record, was, named⟩ := atAgent.stored
    obtain ⟨later, there, same⟩ := quiet.stored record was
    exact ⟨later, there, same.trans named⟩
  present := fun marked => atAgent.present ((quiet.marks _ _).mp marked)
  sent := calls ▸ atAgent.sent

/-- What other writers do while the guard is held leaves the books alone. -/
theorem booksAt_quiet {db : Database} (books : BooksAt run since) (quiet : Quiet run.pass.db db) :
    BooksAt { run with pass := { run.pass with db := db } } since := by
  unfold BooksAt at books ⊢
  cases stage : run.stage with
  | deciding => simpa only [stage] using books
  | judging rest =>
    simp only [stage] at books ⊢
    exact books.congr rfl rfl rfl
  | deleting current plan rest =>
    simp only [stage] at books ⊢
    exact ⟨books.1.congr rfl rfl rfl, books.2.quiet rfl quiet⟩
  | aborted => simp only

/-- What the agent answered is entered with its mark. -/
theorem answer_audited {current : RetentionPolicySnapshot} {plan : PlannedDecision}
    {rest : List PlannedDecision} (marks : MarksAudited start run.pass.db since)
    (books : Books run since (plan.key :: rest.map PlannedDecision.key) (some plan.key))
    (atAgent : AtAgent run current plan) : Audited start (run.answer input current plan rest) := by
  have action := delete_action run.pass.db plan (input.agent run.pending) (input.clock run.pending)
  have written := delete_written run.pass.db plan (input.agent run.pending)
    (input.clock run.pending)
  let event := auditEvent input plan (delete run.pass.db plan (input.agent run.pending)
    (input.clock run.pending)).2 current none
  have events : (run.answer input current plan rest).pass.db.retentionEvents =
      run.pass.db.retentionEvents ++ [event] := by
    show (delete run.pass.db plan (input.agent run.pending)
      (input.clock run.pending)).1.retentionEvents ++ [event] = _
    rw [written]
    split <;> rfl
  have history : (run.answer input current plan rest).pass.db.history =
      (delete run.pass.db plan (input.agent run.pending) (input.clock run.pending)).1.history := rfl
  have dry : event.dryRun = false := atAgent.real
  refine ⟨since ++ [event], ?_⟩
  cases removes : (input.agent run.pending).removes with
  | true =>
    rw [removes, if_pos rfl] at action written
    have named : event.action = deletion plan.location := action.trans atAgent.action
    have deed : deedOf event = .removed := by
      unfold deedOf
      rw [named, dry]
      cases plan.location <;> rfl
    refine ⟨marks.remove events (history.trans (congrArg Database.history written)) atAgent.stored
      atAgent.present rfl named dry, ?_⟩
    exact books.answer rfl rfl rfl atAgent.sent rfl rfl (by rw [deed, removes, if_pos rfl])
  | false =>
    rw [removes] at action written
    have deed : deedOf event = .refused := by
      unfold deedOf
      rw [show event.action = .failed from action]
    refine ⟨marks.append events ?_ ?_, ?_⟩
    · intro backupId location
      unfold Marked
      rw [history, written]
      rfl
    · intro entry listed
      rw [List.mem_singleton.mp listed, deed]
      exact nofun
    · exact books.answer rfl rfl rfl atAgent.sent rfl rfl (by rw [deed, removes]; rfl)

/-- One step keeps the marks, the decisions and the requests together. -/
theorem moves_audited (audited : Audited start run) (guarded : Guarded run action)
    (moved : PassMoves input run action after) : Audited start after := by
  obtain ⟨since, marks, books⟩ := audited
  cases moved with
  | misplanned here | misjudged here => exact ⟨since, marks, trivial⟩
  | die => exact ⟨since, marks, trivial⟩
  | @interfere db =>
    have quiet := guarded db rfl
    refine ⟨since, ⟨quiet.events.trans marks.prior, ?_, ?_⟩, booksAt_quiet books quiet⟩
    · exact fun _ _ was => (quiet.marks _ _).mpr (marks.kept _ _ was)
    · intro backupId location
      rw [quiet.marks]
      exact marks.marks backupId location
  | @decide planned here classified =>
    simp only [BooksAt, here] at books
    obtain ⟨rfl, calls, answers⟩ := books
    obtain ⟨sent, same⟩ := settleStatic_foldl input
      (policy input.settings run.pass.db input.backupId) planned run.pass
    let current := policy input.settings run.pass.db input.backupId
    have opened : Books { run with
        pass := planned.foldl (settleStatic input current) run.pass
        planned := planned
        stage := .judging (candidates current planned) }
        ((planned.filter (isStatic current)).map (staticEvent input current))
        ((candidates current planned).map PlannedDecision.key) none :=
      books_decided classified rfl answers (sent.trans calls)
    refine ⟨_, marks.append (foldl_settleStatic_events planned run.pass) ?_ ?_, opened⟩
    · intro backupId location
      unfold Marked
      rw [same.history]
    · intro event listed
      have spared := (opened.agrees event listed).1
      have nothing : deedAt run.answers (eventKey event) = .nothing := by
        rw [answers]
        rfl
      rw [spared, nothing]
      exact nofun
  | @spare original plan rest current projected here judged spared amount =>
    simp only [BooksAt, here, List.map_cons] at books
    have about : plan.key = original.key := revalidateCandidate_key judged
    have idle : deedOf (auditEvent input plan (render plan) current projected) = .nothing :=
      deedOf_rendered (revalidateCandidate_wellClassified judged) spared
    refine ⟨_, marks.append settle_events ?_ ?_, books.spare rfl rfl rfl about idle⟩
    · exact fun _ _ => Iff.rfl
    · intro event listed
      rw [List.mem_singleton.mp listed, idle]
      exact nofun
  | @ask original plan rest current here judged deletes real =>
    simp only [BooksAt, here, List.map_cons] at books
    have about : plan.key = original.key := revalidateCandidate_key judged
    have removable := revalidateCandidate_removable judged deletes
    rw [← about] at books
    refine ⟨since, marks, books.ask rfl rfl rfl rfl, ?_⟩
    exact {
      action := (revalidateCandidate_wellClassified judged).1 deletes
      real := real
      stored := ⟨plan.backup, removable.stored, rfl⟩
      present := not_marked_of_hasCopy removable.stored removable.present
      sent := ⟨_, List.mem_cons_self, rfl, rfl⟩ }
  | @answer plan rest current here =>
    simp only [BooksAt, here] at books
    exact answer_audited marks books.1 books.2

/-- The marks, the decisions and the requests fit together in every reachable state. -/
theorem audited_of_reachable (reached : (passSystem input start).Reachable Guarded run) :
    Audited start run := by
  refine reached.invariant_alone ⟨?_, ?_⟩
  · rintro _ rfl
    refine ⟨[], ⟨(List.append_nil _).symm, fun _ _ was => was, ?_⟩, rfl, rfl, rfl⟩
    intro backupId location
    refine iff_of_false (fun both => both.2 both.1) ?_
    exact fun ⟨_, was, _⟩ => List.not_mem_nil was
  · exact fun _ _ _ _ audited guarded stepped =>
      moves_audited audited guarded (passStep_moves stepped)

/-- Whenever the process dies, the pass has marked exactly the copies whose removal it audited; and
when it ends it has audited each copy it classified once, with what was done about it. -/
theorem marked_iff_audited (reached : (passSystem input start).Reachable Guarded run) :
    Consistent start run := by
  obtain ⟨since, marks, books⟩ := audited_of_reachable reached
  have listed : eventsSince start run.pass.db = since := by
    rw [eventsSince, marks.prior, List.drop_left]
  have entered : run.completed = true → Books run since [] none := by
    intro done
    unfold PassRun.completed at done
    split at done
    · rename_i here
      simp only [BooksAt, here, List.map_nil] at books
      exact books
    · cases done
  have keys : run.completed = true →
      (since.map eventKey).Perm (run.planned.map PlannedDecision.key) := by
    intro done
    have settled := (entered done).settled
    rwa [List.append_nil] at settled
  rw [← listed] at marks entered keys
  refine ⟨marks.marks, ?_, ?_, fun done => (entered done).agrees⟩
  · intro done plan member
    have counted : (eventsSince start run.pass.db).countP (fun event => eventKey event == plan.key)
        = ((eventsSince start run.pass.db).map eventKey).count plan.key := by
      rw [List.count, List.countP_map]
      rfl
    rw [counted, (keys done).count_eq]
    exact List.count_eq_one_of_mem (entered done).distinct (List.mem_map_of_mem member)
  · intro done event member
    obtain ⟨plan, classified, same⟩ :=
      List.mem_map.mp ((keys done).subset (List.mem_map_of_mem member))
    exact ⟨plan, classified, same⟩

end Runs

/-- A pass that nobody disturbs is guarded. -/
theorem Undisturbed.guarded {run : PassRun} {action : PassAction} (own : Undisturbed run action) :
    Guarded run action := by
  rintro db rfl
  cases own

/-- The only copy of a guest, on the drive. -/
def driveOnly : Database := { Database.empty with history := .singleton driveOnlyBackup }

/-- A pass that removes the only remote copy is audited and marked. -/
theorem marked_iff_audited_on_drive :
    ∃ run, run.completed = true ∧ Marked run.pass.db 1 .remoteCopy ∧ Consistent driveOnly run := by
  obtain ⟨run, reached, shown⟩ : ∃ run,
      (passSystem (promptPass ⟨1, 0, by decide, by decide⟩) driveOnly).Reachable Undisturbed run ∧
      (run.completed && decide (Marked run.pass.db 1 .remoteCopy)) = true := by
    refine System.exists_of_runFrom rfl [PassAction.decide, .judge, .answer] _ ?_
    decide
  simp only [Bool.and_eq_true, decide_eq_true_eq] at shown
  exact ⟨run, shown.1, shown.2, marked_iff_audited (reached.mono fun _ _ => Undisturbed.guarded)⟩

/-- A pass under given counts that only rehearses what it would delete. -/
def dryPass (keep : KeepCounts) : PassInput :=
  let settings := (promptPass keep).settings
  { promptPass keep with settings := ⟨{ settings.retention with dryRun := true }, settings.gdrive⟩ }

/-- A dry run audits a removal that it does not carry out. -/
theorem dry_run_audits_removal :
    ¬ ∀ (input : PassInput) (start : Database) (run : PassRun),
      (passSystem input start).Reachable Guarded run → ∀ backupId location,
        ((Marked run.pass.db backupId location ∧ ¬ Marked start backupId location) ↔
          ∃ event ∈ eventsSince start run.pass.db,
            event.backupId = backupId ∧ event.action = deletion location) := by
  intro always
  obtain ⟨run, reached, shown⟩ : ∃ run,
      (passSystem (dryPass ⟨1, 0, by decide, by decide⟩) driveOnly).Reachable Undisturbed run ∧
      (!decide (Marked run.pass.db 1 .remoteCopy) &&
        (eventsSince driveOnly run.pass.db).any fun event =>
          event.backupId == 1 && event.action == .deletedRemote) = true := by
    refine System.exists_of_runFrom rfl [PassAction.decide] _ ?_
    decide
  simp only [Bool.and_eq_true, Bool.not_eq_true', decide_eq_false_iff_not, List.any_eq_true,
    beq_iff_eq] at shown
  have marks := always _ _ run (reached.mono fun _ _ => Undisturbed.guarded) 1 .remoteCopy
  exact shown.1 (marks.mpr shown.2).1

end ProxSync.Retention
