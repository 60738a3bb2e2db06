import ProxSync.Retention.Classify
/-!
# What a retention pass may remove

A pass changes rows only by marking the copies it asked the agent to delete, and every such
request is for a copy that was removable on the database it was decided on. So a pinned copy,
an undated copy and a copy among the newest of its guest outlive every pass, whatever the agent
answers and however many deletions fail.
-/
open ProxSync.Lib

namespace ProxSync.Retention

/-- A usable local copy: a successful row with a file on the host. -/
def UsableLocal (record : BackupHistory) : Prop := localExists record = true

/-- A usable remote copy: an uploaded object that is named and was not removed. -/
def UsableRemote (record : BackupHistory) : Prop :=
  record.uploadStatus = .uploaded ∧ record.remotePath.isSome = true ∧ record.remoteDeletedAt = none

instance (record : BackupHistory) : Decidable (UsableLocal record) :=
  inferInstanceAs (Decidable (_ = true))

instance (record : BackupHistory) : Decidable (UsableRemote record) :=
  inferInstanceAs (Decidable (_ ∧ _ ∧ _))

/-- Marking the copy at one location leaves the copy at the other location in place. -/
theorem markDeletedRow_other {marked location : RetentionLocation} (other : location ≠ marked)
    (now : Instant) {record : BackupHistory} (present : hasCopy location record = true) :
    hasCopy location (markDeletedRow marked now record) = true := by
  cases marked <;> cases location <;> first | exact absurd rfl other | skip
  · -- A removed local copy keeps the fields of the remote copy; its status stays readable.
    simp only [markDeletedRow, markLocalDeletedRow]
    split
    · exact present
    · simp only [hasCopy, remoteExists, refreshStatus, Bool.and_eq_true] at present ⊢
      obtain ⟨⟨⟨⟨_, uploaded⟩, kept⟩, path⟩, named⟩ := present
      refine ⟨⟨⟨⟨?_, uploaded⟩, kept⟩, path⟩, named⟩
      simp [kept, path]
  · simp only [markDeletedRow, markRemoteDeletedRow]
    split
    · exact present
    · simp only [hasCopy, localExists, refreshStatus, Bool.and_eq_true] at present ⊢
      obtain ⟨⟨_, kept⟩, named⟩ := present
      simp [kept, named]

/-- Marking a local copy leaves a usable remote copy usable. -/
theorem markLocalDeletedRow_usableRemote (now : Instant) {record : BackupHistory} :
    UsableRemote (markDeletedRow .localCopy now record) ↔ UsableRemote record := by
  simp only [markDeletedRow, markLocalDeletedRow]
  split <;> simp [UsableRemote, refreshStatus]

/-- A mark keeps the run and the guest of a row. -/
@[simp] theorem markDeletedRow_owner (location : RetentionLocation) (now : Instant)
    (record : BackupHistory) :
    (markDeletedRow location now record).runId = record.runId ∧
      (markDeletedRow location now record).key = record.key := by
  cases location <;>
    simp only [markDeletedRow, markLocalDeletedRow, markRemoteDeletedRow, refreshStatus] <;>
    split <;> exact ⟨rfl, rfl⟩

/-- Whether a deletion of the copy of a row at a location was sent. -/
def Sent (calls : List DeleteCall) (backupId : Nat) (location : RetentionLocation) : Prop :=
  ∃ call ∈ calls, call.backup.id = backupId ∧ call.location = location

/-- Two databases that differ at most in their audited decisions. -/
structure SameTables (before after : Database) : Prop where
  jobs : after.jobs = before.jobs
  runs : after.runs = before.runs
  restores : after.restores = before.restores
  history : after.history = before.history

/-- A database has its own tables. -/
theorem SameTables.refl (db : Database) : SameTables db db := ⟨rfl, rfl, rfl, rfl⟩

/-- What a pass may have changed since it began: marks of the copies it sent deletions for. -/
structure Preserves (start : Database) (state : PassState) : Prop where
  jobs : state.db.jobs = start.jobs
  runs : state.db.runs = start.runs
  restores : state.db.restores = start.restores
  /-- Every row keeps its run. -/
  owners : ∀ backupId, (state.db.history.get backupId).map BackupHistory.runId =
    (start.history.get backupId).map BackupHistory.runId
  /-- Every copy that was not sent for deletion is still there. -/
  copies : ∀ record ∈ start.history, ∃ current ∈ state.db.history, current.id = record.id ∧
    current.key = record.key ∧
    (∀ location, ¬ Sent state.calls record.id location → hasCopy location record = true →
      hasCopy location current = true) ∧
    (¬ Sent state.calls record.id .remoteCopy → UsableRemote record → UsableRemote current)

/-- What holds of every deletion a pass has sent. -/
structure Justified (input : PassInput) (start : Database) (state : PassState) : Prop where
  /-- The copy was removable on the database the deletion was decided on. -/
  removable : ∀ call ∈ state.calls,
    Removable (policy input.settings start input.backupId) call.db call.location call.backup
  /-- The copy was removable when the pass began. -/
  candidate : ∀ call ∈ state.calls, ∃ record ∈ start.history, record.id = call.backup.id ∧
    Removable (policy input.settings start input.backupId) start call.location record

/-- Recording decisions and sending more deletions preserves what was preserved. -/
theorem Preserves.congr {start : Database} {state after : PassState}
    (kept : Preserves start state) (same : SameTables state.db after.db)
    (grown : ∀ call ∈ state.calls, call ∈ after.calls) : Preserves start after where
  jobs := same.jobs.trans kept.jobs
  runs := same.runs.trans kept.runs
  restores := same.restores.trans kept.restores
  owners := by rw [same.history]; exact kept.owners
  copies := by
    intro record stored
    obtain ⟨current, present, id, key, copies, remote⟩ := kept.copies record stored
    have fewer : ∀ location, ¬ Sent after.calls record.id location →
        ¬ Sent state.calls record.id location :=
      fun _ unsent ⟨call, sent, about⟩ => unsent ⟨call, grown call sent, about⟩
    rw [same.history]
    exact ⟨current, present, id, key, fun location unsent => copies location (fewer _ unsent),
      fun unsent => remote (fewer _ unsent)⟩

/-- Marking the copy of a sent deletion changes nothing else. -/
theorem Preserves.mark {start : Database} {state after : PassState} (kept : Preserves start state)
    {location : RetentionLocation} {backupId : Nat} {now : Instant}
    (same : SameTables (markDeleted state.db location backupId now) after.db)
    (grown : ∀ call ∈ state.calls, call ∈ after.calls)
    (sent : Sent after.calls backupId location) : Preserves start after where
  jobs := same.jobs.trans kept.jobs
  runs := same.runs.trans kept.runs
  restores := same.restores.trans kept.restores
  owners := by
    intro other
    rw [same.history, ← kept.owners]
    simp only [markDeleted, Table.get_modify]
    split
    · cases state.db.history.get other <;> simp
    · rfl
  copies := by
    intro record stored
    obtain ⟨current, present, id, key, copies, remote⟩ := kept.copies record stored
    have fewer : ∀ place, ¬ Sent after.calls record.id place →
        ¬ Sent state.calls record.id place := by
      intro place unsent sent
      obtain ⟨call, was, about⟩ := sent
      exact unsent ⟨call, grown call was, about⟩
    rw [same.history]
    by_cases target : current.id = backupId
    · refine ⟨markDeletedRow location now current, ?_, by simp [id], by simp [key], ?_, ?_⟩
      · exact mem_markDeleted.mpr (.inl ⟨current, present, target, rfl⟩)
      · intro place unsent copy
        have still := copies place (fewer _ unsent) copy
        refine markDeletedRow_other (fun equal => unsent ?_) now still
        exact equal ▸ id ▸ target ▸ sent
      · intro unsent usable
        have place : location = .localCopy := by
          cases location with
          | localCopy => rfl
          | remoteCopy => exact absurd (id ▸ target ▸ sent) unsent
        subst place
        exact (markLocalDeletedRow_usableRemote now).mpr (remote (fewer _ unsent) usable)
    · refine ⟨current, mem_markDeleted.mpr (.inr ⟨present, target⟩), id, key, ?_, ?_⟩
      · exact fun place unsent => copies place (fewer _ unsent)
      · exact fun unsent => remote (fewer _ unsent)

/-- A deletion either marks the copy it was planned for or changes nothing. -/
theorem delete_db (db : Database) (plan : PlannedDecision) (reply : DeleteReply) (now : Instant) :
    (delete db plan reply now).1 = markDeleted db plan.location plan.backup.id now ∨
      (delete db plan reply now).1 = db := by
  unfold delete
  cases reply with
  | removed freedBytes => exact .inl rfl
  | agentError agentStatus detail =>
    by_cases missing : agentStatus = some 404
    · simp [missing]
    · simp [missing]
  | appError detail => exact .inr rfl
  | crashed detail => exact .inr rfl

/-- A decision that is planned again is about the copy it was first planned for. -/
theorem revalidateCandidate_subject {input : PassInput} {db : Database}
    {original plan : PlannedDecision} {current : RetentionPolicySnapshot}
    (planned : revalidateCandidate input db original = .ok (current, plan)) :
    current = policy input.settings db input.backupId ∧
      plan.backup.id = original.backup.id ∧ plan.location = original.location := by
  unfold revalidateCandidate at planned
  cases classified : plans (policy input.settings db input.backupId) db input.backupId with
  | error message => simp [classified, Except.map] at planned
  | ok candidates =>
    simp only [classified, Except.map, Except.ok.injEq] at planned
    split at planned
    · rename_i found selected
      obtain ⟨rfl, rfl⟩ := Prod.mk.injEq .. ▸ planned
      have named := List.find?_some selected
      simp only [Bool.and_eq_true, beq_iff_eq] at named
      exact ⟨rfl, named⟩
    · obtain ⟨rfl, rfl⟩ := Prod.mk.injEq .. ▸ planned
      exact ⟨rfl, rfl, rfl⟩

/-- A decision planned again deletes only what is removable now. -/
theorem revalidateCandidate_removable {input : PassInput} {db : Database}
    {original plan : PlannedDecision} {current : RetentionPolicySnapshot}
    (planned : revalidateCandidate input db original = .ok (current, plan))
    (deletes : plan.wouldDelete = true) : Removable current db plan.location plan.backup := by
  have subject := (revalidateCandidate_subject planned).1
  unfold revalidateCandidate at planned
  cases classified : plans (policy input.settings db input.backupId) db input.backupId with
  | error message => simp [classified, Except.map] at planned
  | ok candidates =>
    simp only [classified, Except.map, Except.ok.injEq] at planned
    split at planned
    · rename_i found selected
      obtain ⟨rfl, rfl⟩ := Prod.mk.injEq .. ▸ planned
      exact plans_removable classified (List.mem_of_find?_eq_some selected) deletes
    · obtain ⟨rfl, rfl⟩ := Prod.mk.injEq .. ▸ planned
      simp at deletes

/-- What one candidate may do to a pass: nothing but an audit, or one deletion that is justified
by the database it is decided on. -/
theorem applyCandidate_cases (input : PassInput) (state : PassState) (original : PlannedDecision) :
    ((applyCandidate input state original).calls = state.calls ∧
      SameTables state.db (applyCandidate input state original).db) ∨
    ∃ backup now, backup.id = original.backup.id ∧
      Removable (policy input.settings state.db input.backupId) state.db original.location backup ∧
      (applyCandidate input state original).calls =
        ⟨backup, original.location, state.db⟩ :: state.calls ∧
      (SameTables (markDeleted state.db original.location backup.id now)
          (applyCandidate input state original).db ∨
        SameTables state.db (applyCandidate input state original).db) := by
  unfold applyCandidate
  by_cases stopped : state.raised.isSome = true
  · rw [if_pos stopped]
    exact .inl ⟨rfl, .refl _⟩
  · rw [if_neg stopped]
    cases planned : revalidateCandidate input state.db original with
    | error message => exact .inl ⟨rfl, .refl _⟩
    | ok decided =>
      obtain ⟨current, plan⟩ := decided
      dsimp only
      by_cases skipped : (!plan.wouldDelete || current.dryRun) = true
      · rw [if_pos skipped]
        exact .inl ⟨rfl, ⟨rfl, rfl, rfl, rfl⟩⟩
      · rw [if_neg skipped]
        have deletes : plan.wouldDelete = true := by
          simp only [Bool.or_eq_true, not_or, Bool.not_eq_true, Bool.not_eq_false'] at skipped
          exact skipped.1
        obtain ⟨rfl, same, place⟩ := revalidateCandidate_subject planned
        have removable := revalidateCandidate_removable planned deletes
        rw [← place]
        refine .inr ⟨plan.backup, input.clock state.calls.length, same, removable, rfl, ?_⟩
        have outcome := delete_db state.db plan (input.agent state.calls.length)
          (input.clock state.calls.length)
        generalize delete state.db plan (input.agent state.calls.length)
          (input.clock state.calls.length) = result at outcome ⊢
        rcases outcome with marked | unchanged
        · exact .inl (by rw [← marked]; exact ⟨rfl, rfl, rfl, rfl⟩)
        · exact .inr (by rw [← unchanged]; exact ⟨rfl, rfl, rfl, rfl⟩)

/-- The policy of a pass does not change while it runs. -/
theorem Preserves.policy_eq {input : PassInput} {start : Database} {state : PassState}
    (kept : Preserves start state) :
    policy input.settings state.db input.backupId = policy input.settings start input.backupId :=
  policy_congr kept.jobs kept.runs kept.owners

/-- One candidate keeps what a pass preserves, and what it sends is justified. -/
theorem applyCandidate_keeps {input : PassInput} {start : Database} {state : PassState}
    {original : PlannedDecision} (kept : Preserves start state)
    (justified : Justified input start state)
    (initial : Removable (policy input.settings start input.backupId) start original.location
      original.backup) :
    Preserves start (applyCandidate input state original) ∧
      Justified input start (applyCandidate input state original) := by
  rcases applyCandidate_cases input state original with
    ⟨calls, same⟩ | ⟨backup, now, id, removable, calls, outcome⟩
  · refine ⟨kept.congr same (by simp [calls]), ⟨?_, ?_⟩⟩
    · rw [calls]
      exact justified.removable
    · rw [calls]
      exact justified.candidate
  · have grown : ∀ call ∈ state.calls, call ∈ (applyCandidate input state original).calls := by
      rw [calls]
      exact fun call sent => List.mem_cons_of_mem _ sent
    have sent : Sent (applyCandidate input state original).calls backup.id original.location :=
      ⟨_, calls ▸ List.mem_cons_self, rfl, rfl⟩
    refine ⟨?_, ⟨?_, ?_⟩⟩
    · rcases outcome with marked | unchanged
      · exact kept.mark marked grown sent
      · exact kept.congr unchanged grown
    · rw [calls, List.forall_mem_cons]
      exact ⟨kept.policy_eq ▸ removable, justified.removable⟩
    · rw [calls, List.forall_mem_cons]
      exact ⟨⟨original.backup, initial.stored, id.symm, initial⟩, justified.candidate⟩

/-- Settling the initial decisions sends nothing and changes no row. -/
theorem settleStatic_foldl (input : PassInput) (current : RetentionPolicySnapshot)
    (planned : List PlannedDecision) (state : PassState) :
    (planned.foldl (settleStatic input current) state).calls = state.calls ∧
      SameTables state.db (planned.foldl (settleStatic input current) state).db := by
  induction planned generalizing state with
  | nil => exact ⟨rfl, .refl _⟩
  | cons plan rest ih =>
    obtain ⟨calls, same⟩ := ih (settleStatic input current state plan)
    have one : (settleStatic input current state plan).calls = state.calls ∧
        SameTables state.db (settleStatic input current state plan).db := by
      unfold settleStatic
      split
      · split <;> exact ⟨rfl, ⟨rfl, rfl, rfl, rfl⟩⟩
      · exact ⟨rfl, ⟨rfl, rfl, rfl, rfl⟩⟩
    refine ⟨calls.trans one.1, ⟨same.jobs.trans one.2.jobs, same.runs.trans one.2.runs,
      same.restores.trans one.2.restores, same.history.trans one.2.history⟩⟩

/-- Working through candidates keeps what a pass preserves and justifies. -/
theorem applyCandidates_keep {input : PassInput} {start : Database}
    (chosen : List PlannedDecision) (state : PassState) (kept : Preserves start state)
    (justified : Justified input start state)
    (initial : ∀ original ∈ chosen,
      Removable (policy input.settings start input.backupId) start original.location
        original.backup) :
    Preserves start (chosen.foldl (applyCandidate input) state) ∧
      Justified input start (chosen.foldl (applyCandidate input) state) := by
  induction chosen generalizing state with
  | nil => exact ⟨kept, justified⟩
  | cons original rest ih =>
    obtain ⟨kept', justified'⟩ :=
      applyCandidate_keeps kept justified (initial original List.mem_cons_self)
    exact ih _ kept' justified' fun other member => initial other (List.mem_cons_of_mem _ member)

/-- A pass preserves every copy it does not send, and every deletion it sends is justified. -/
theorem applyPass_keeps (input : PassInput) (db : Database) :
    Preserves db (applyPass input db) ∧ Justified input db (applyPass input db) := by
  have fresh : ∀ raised, Preserves db ⟨db, [], [], raised⟩ := fun raised =>
    ⟨rfl, rfl, rfl, fun _ => rfl, fun record stored =>
      ⟨record, stored, rfl, rfl, fun _ _ copy => copy, fun _ usable => usable⟩⟩
  have silent : ∀ raised, Justified input db ⟨db, [], [], raised⟩ := fun _ => ⟨by simp, by simp⟩
  unfold applyPass
  dsimp only
  cases classified : plans (policy input.settings db input.backupId) db input.backupId with
  | error message => exact ⟨fresh _, silent _⟩
  | ok planned =>
    dsimp only
    obtain ⟨calls, same⟩ := settleStatic_foldl input (policy input.settings db input.backupId)
      planned ⟨db, [], [], none⟩
    refine applyCandidates_keep _ _ ((fresh none).congr same (by simp)) ?_ ?_
    · exact ⟨by simp [calls], by simp [calls]⟩
    · intro original chosen
      simp only [candidates, List.mem_filter, Bool.and_eq_true] at chosen
      exact plans_removable classified chosen.1 chosen.2.1

/-- A copy that is pinned, undated or of small rank is never sent for deletion. -/
theorem applyPass_protects {input : PassInput} {db : Database} {record : BackupHistory}
    {location : RetentionLocation} (stored : record ∈ db.history)
    (protectedCopy : record.retentionLocked = true ∨ record.startedAt = none ∨
      copyRank db location record < (policy input.settings db input.backupId).keepAt location) :
    ¬ Sent (applyPass input db).calls record.id location := by
  rintro ⟨call, sent, id, rfl⟩
  obtain ⟨candidate, present, same, removable⟩ := (applyPass_keeps input db).2.candidate call sent
  have equal : candidate = record := Table.eq_of_key present stored (same.trans id)
  subst equal
  rcases protectedCopy with locked | undated | small
  · simp [removable.unlocked] at locked
  · have dated := removable.dated
    simp [undated] at dated
  · exact absurd removable.beyond (Nat.not_le.mpr small)

/-- Applying a policy leaves the database of its pass. -/
theorem apply_db (input : PassInput) (db : Database) :
    (apply input db).1 = (applyPass input db).db := by
  unfold apply
  dsimp only
  cases plans (policy input.settings db input.backupId) db input.backupId with
  | error message => rfl
  | ok planned => cases (applyPass input db).raised <;> rfl

/-- A protected copy is still there after the pass. -/
theorem apply_keeps_protected {input : PassInput} {db : Database} {record : BackupHistory}
    {location : RetentionLocation} (stored : record ∈ db.history)
    (present : hasCopy location record = true)
    (protectedCopy : record.retentionLocked = true ∨ record.startedAt = none ∨
      copyRank db location record < (policy input.settings db input.backupId).keepAt location) :
    ∃ current ∈ (apply input db).1.history, current.id = record.id ∧
      current.key = record.key ∧ hasCopy location current = true := by
  obtain ⟨current, kept, id, key, copies, _⟩ := (applyPass_keeps input db).1.copies record stored
  rw [apply_db]
  exact ⟨current, kept, id, key,
    copies location (applyPass_protects stored protectedCopy) present⟩

/-- One pass deletes only removable copies, deletes nothing it did not ask the agent to delete,
and leaves every pinned copy and the newest copies of every guest in place. A copy is a location of
a row; two rows may name one file. -/
theorem apply_deletes_safely (input : PassInput) (db : Database) :
    (∀ call ∈ (applyPass input db).calls,
      Removable (policy input.settings db input.backupId) call.db call.location call.backup) ∧
    (∀ record ∈ db.history, ∀ location, hasCopy location record = true →
      ¬ Sent (applyPass input db).calls record.id location →
      ∃ current ∈ (apply input db).1.history, current.id = record.id ∧
        hasCopy location current = true) ∧
    (∀ record ∈ db.history, ∀ location, hasCopy location record = true →
      (record.retentionLocked = true ∨ (record.startedAt.isSome = true ∧
        copyRank db location record < (policy input.settings db input.backupId).keepAt location)) →
      ∃ current ∈ (apply input db).1.history, current.id = record.id ∧
        hasCopy location current = true) := by
  obtain ⟨kept, justified⟩ := applyPass_keeps input db
  refine ⟨justified.removable, ?_, ?_⟩
  · intro record stored location present unsent
    obtain ⟨current, there, id, _, copies, _⟩ := kept.copies record stored
    rw [apply_db]
    exact ⟨current, there, id, copies location unsent present⟩
  · intro record stored location present safe
    obtain ⟨current, there, id, _, copy⟩ := apply_keeps_protected stored present
      (safe.imp_right fun newest => .inr newest.2)
    exact ⟨current, there, id, copy⟩

/-- Among the copies of a guest at a location one is protected by every count above zero. -/
theorem exists_protected {db : Database} {location : RetentionLocation} {guest : GuestKey}
    {record : BackupHistory} (stored : record ∈ db.history) (own : record.key = guest)
    (present : hasCopy location record = true) :
    ∃ newest ∈ db.history, newest.key = guest ∧ hasCopy location newest = true ∧
      (newest.retentionLocked = true ∨ newest.startedAt = none ∨
        copyRank db location newest = 0) := by
  by_cases ranked : rankableAt location guest record = true
  · have nonempty : rankable (copiesForGuest db location guest) ≠ [] :=
      List.ne_nil_of_mem (mem_rankable_copies.mpr ⟨stored, ranked⟩)
    obtain ⟨newest, member, first⟩ :=
      exists_rankIn_zero rankable_copies_sorted newestFirst_asymmetric nonempty
    obtain ⟨there, newestRanked⟩ := mem_rankable_copies.mp member
    have key := rankableAt_key newestRanked
    rw [rankIn_rankable_copies newest key] at first
    simp only [rankableAt, Bool.and_eq_true] at newestRanked
    exact ⟨newest, there, key, newestRanked.1.1.2, .inr (.inr first)⟩
  · refine ⟨record, stored, own, present, ?_⟩
    by_contra unprotected
    rw [not_or, not_or] at unprotected
    simp only [rankableAt, own, present, beq_self_eq_true, Bool.true_and, Bool.and_eq_true,
      Bool.not_eq_true', not_and, Bool.not_eq_true] at ranked
    have dated := ranked (by simpa using unprotected.1)
    simp [unprotected.2.1] at dated

/-- A usable remote copy outlives a pass whose deletions of remote copies all spare it. -/
private theorem apply_keeps_remote {input : PassInput} {db : Database} {record : BackupHistory}
    (stored : record ∈ db.history) (usable : UsableRemote record)
    (unsent : ¬ Sent (applyPass input db).calls record.id .remoteCopy) :
    ∃ current ∈ (apply input db).1.history, current.key = record.key ∧ UsableRemote current := by
  obtain ⟨current, kept, _, key, _, remote⟩ := (applyPass_keeps input db).1.copies record stored
  rw [apply_db]
  exact ⟨current, kept, key, remote unsent usable⟩

/-- A pass never leaves a guest without a usable copy, unless the guest has no usable local copy
while the policy keeps no remote copy and remote deletion is enabled. -/
theorem apply_leaves_usable_copy (input : PassInput) (db : Database) (guest : GuestKey)
    (usable : ∃ record ∈ db.history, record.key = guest ∧
      (UsableLocal record ∨ UsableRemote record))
    (covered : (∃ record ∈ db.history, record.key = guest ∧ UsableLocal record) ∨
      1 ≤ (policy input.settings db input.backupId).keep.keepRemote ∨
      input.settings.gdrive.deleteRemoteOnRetention = false ∨
      input.settings.gdrive.enabled = false) :
    ∃ current ∈ (apply input db).1.history, current.key = guest ∧
      (UsableLocal current ∨ UsableRemote current) := by
  by_cases onHost : ∃ record ∈ db.history, record.key = guest ∧ UsableLocal record
  · obtain ⟨record, stored, own, onHere⟩ := onHost
    have present : hasCopy .localCopy record = true := onHere
    obtain ⟨newest, there, key, copy, safe⟩ := exists_protected stored own present
    have positive := (policy input.settings db input.backupId).keep.localBounds.1
    obtain ⟨current, kept, _, key', still⟩ := apply_keeps_protected there copy
      (safe.imp_right fun rest => rest.imp_right fun first => by
        rw [first]
        exact positive)
    exact ⟨current, kept, key'.trans key, .inl still⟩
  · obtain ⟨record, stored, own, uploaded⟩ : ∃ record ∈ db.history, record.key = guest ∧
        UsableRemote record := by
      obtain ⟨record, stored, own, onHere | uploaded⟩ := usable
      · exact absurd ⟨record, stored, own, onHere⟩ onHost
      · exact ⟨record, stored, own, uploaded⟩
    have finish : ∀ record ∈ db.history, record.key = guest → UsableRemote record →
        ¬ Sent (applyPass input db).calls record.id .remoteCopy →
        ∃ current ∈ (apply input db).1.history, current.key = guest ∧
          (UsableLocal current ∨ UsableRemote current) := by
      intro record stored own uploaded unsent
      obtain ⟨current, kept, key, still⟩ := apply_keeps_remote stored uploaded unsent
      exact ⟨current, kept, key.trans own, .inr still⟩
    have sendable : ∀ record ∈ db.history,
        Sent (applyPass input db).calls record.id .remoteCopy →
        Removable (policy input.settings db input.backupId) db .remoteCopy record := by
      rintro record stored ⟨call, sent, id, place⟩
      obtain ⟨candidate, present, same, removable⟩ :=
        (applyPass_keeps input db).2.candidate call sent
      exact Table.eq_of_key present stored (same.trans id) ▸ place ▸ removable
    rcases covered with onHere | keeps | disabled | disabled
    · exact absurd onHere onHost
    · by_cases listed : hasCopy .remoteCopy record = true
      · obtain ⟨newest, there, key, copy, safe⟩ := exists_protected stored own listed
        have remote : UsableRemote newest := by
          simp only [hasCopy, remoteExists, Bool.and_eq_true, beq_iff_eq,
            Option.isNone_iff_eq_none] at copy
          exact ⟨copy.1.1.1.2, copy.1.2, copy.1.1.2⟩
        refine finish newest there key remote (applyPass_protects there ?_)
        refine safe.imp_right fun rest => rest.imp_right fun first => ?_
        rw [first]
        exact keeps
      · exact finish record stored own uploaded fun sent =>
          absurd (sendable record stored sent).present listed
    · refine finish record stored own uploaded fun sent => ?_
      have enabled := ((sendable record stored sent).enabled rfl).1
      simp [policy, disabled] at enabled
    · refine finish record stored own uploaded fun sent => ?_
      have enabled := ((sendable record stored sent).enabled rfl).2.1
      simp [policy, disabled] at enabled

/-- A backup whose local file was removed after its upload. -/
def driveOnlyBackup : BackupHistory :=
  { BackupHistory.create 1 none ⟨101, .vm, "web", "pve"⟩ "backup-hdd" .uploaded 10 with
    filename := some "vzdump-qemu-101.vma.zst", status := .success, finishedAt := some 20
    remotePath := some "gdrive:proxsync/dump", localDeletedAt := some 30 }

/-- A guest-scoped pass under given counts, with Drive and remote deletion enabled and an agent
that removes whatever it is asked to remove. -/
def promptPass (keep : KeepCounts) : PassInput where
  settings := ⟨⟨keep, false, 85, 95, by decide, by decide⟩, ⟨true, "gdrive", "proxsync/dump", true⟩⟩
  backupId := some 1
  agent := fun _ => .removed 0
  clock := fun _ => 40
  correlationId := none

/-- With a remote count of zero a pass removes the only copy of a guest. -/
theorem apply_loses_only_copy :
    ¬ ∀ (input : PassInput) (db : Database) (guest : GuestKey),
      (∃ record ∈ db.history, record.key = guest ∧ (UsableLocal record ∨ UsableRemote record)) →
      ∃ current ∈ (apply input db).1.history, current.key = guest ∧
        (UsableLocal current ∨ UsableRemote current) := by
  intro always
  have lost := always (promptPass ⟨1, 0, by decide, by decide⟩)
    { Database.empty with history := .singleton driveOnlyBackup } (101, .vm) (by decide)
  revert lost
  decide

/-- With a remote count of one the same pass leaves that copy. -/
theorem apply_leaves_only_copy :
    ∃ current ∈ (apply (promptPass ⟨1, 1, by decide, by decide⟩)
        { Database.empty with history := .singleton driveOnlyBackup }).1.history,
      current.key = (101, .vm) ∧ (UsableLocal current ∨ UsableRemote current) :=
  apply_leaves_usable_copy _ _ _ (by decide) (.inr (.inl (by decide)))

end ProxSync.Retention
