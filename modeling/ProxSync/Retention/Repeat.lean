import ProxSync.Retention.Deletions
/-!
# Repeated passes

A larger count deletes no more. A second pass finds nothing left where each row that counts as
deleted records when its file was removed. A row that does not, which nothing writes, would be
successful again once its remote copy is removed, and its local copy would take a place among the
others.
-/
open ProxSync.Lib

namespace ProxSync.Retention

/-- After a pass, another one for the same trigger asks the agent for nothing. -/
def Idempotent (input : PassInput) (db : Database) : Prop :=
  ∀ again : PassInput, Obliging again → again.settings = input.settings →
    again.backupId = input.backupId → (applyPass again (applyPass input db).db).calls = []

/-- Two policies that differ at most in their counts, the second one keeping at least as much. -/
structure KeepsMore (policy generous : RetentionPolicySnapshot) : Prop where
  keepLocal : policy.keep.keepLocal ≤ generous.keep.keepLocal
  keepRemote : policy.keep.keepRemote ≤ generous.keep.keepRemote
  resolved : generous.policyResolved = policy.policyResolved
  dryRun : generous.dryRun = policy.dryRun
  drive : generous.gdriveEnabled = policy.gdriveEnabled
  deletion : generous.deleteRemoteOnRetention = policy.deleteRemoteOnRetention

/-- A pass over the same rows whose policy keeps more deletes no other copy. The policy is that of
the settings or of the run of the trigger, so the runs, the jobs and the settings may differ. -/
def Monotone (input : PassInput) (db : Database) : Prop :=
  ∀ (generous : PassInput) (other : Database), Obliging generous →
    generous.backupId = input.backupId → other.history = db.history →
    other.restores = db.restores →
    KeepsMore (policy input.settings db input.backupId)
      (policy generous.settings other generous.backupId) →
    ∀ id location, Sent (applyPass generous other).calls id location →
      Sent (applyPass input db).calls id location

/-- The pass removes the remote copy of a row that counts as deleted although no removal of its
local copy was recorded. -/
def Revived (input : PassInput) (db : Database) (record : BackupHistory) : Prop :=
  Doomed input db .remoteCopy record ∧ record.status = .deleted ∧ record.localDeletedAt = none

instance (input : PassInput) (db : Database) (record : BackupHistory) :
    Decidable (Revived input db record) :=
  inferInstanceAs (Decidable (_ ∧ _ ∧ _))

/-- A local copy that the pass leaves: one it does not delete, or that of a revived row. -/
def Left (input : PassInput) (db : Database) (record : BackupHistory) : Prop :=
  (hasCopy .localCopy record = true ∧ ¬ Doomed input db .localCopy record) ∨
    Revived input db record

instance (input : PassInput) (db : Database) (record : BackupHistory) :
    Decidable (Left input db record) :=
  inferInstanceAs (Decidable (_ ∨ _))

/-- A local copy of a guest that is left and ranked. -/
def rankableLeft (input : PassInput) (db : Database) (guest : GuestKey) (record : BackupHistory) :
    Bool :=
  record.key == guest && decide (Left input db record) && !record.retentionLocked &&
    record.startedAt.isSome

/-- Number of newer ranked local copies of the same guest that are left. -/
def leftRank (input : PassInput) (db : Database) (record : BackupHistory) : Nat :=
  db.history.count fun other => newestFirst other record && rankableLeft input db record.key other

/-- A local copy that is left although, among those that are, it is one too many and nothing speaks
for it. -/
structure Surplus (input : PassInput) (db : Database) (record : BackupHistory) : Prop where
  covered : Covers db input.backupId record.key
  resolved : (policy input.settings db input.backupId).policyResolved = true
  real : (policy input.settings db input.backupId).dryRun = false
  left : Left input db record
  unlocked : record.retentionLocked = false
  dated : record.startedAt.isSome = true
  beyond : (policy input.settings db input.backupId).keep.keepLocal ≤ leftRank input db record
  idle : ¬ RestoreActive db record.id
  safe : UploadSafe record
  replaced : ∀ other ∈ db.history, rankableLeft input db record.key other = true →
    leftRank input db other < (policy input.settings db input.backupId).keep.keepLocal →
    UploadSafe other

/-- A surplus copy satisfies each of the conditions. -/
theorem surplus_iff {input : PassInput} {db : Database} {record : BackupHistory} :
    Surplus input db record ↔
      Covers db input.backupId record.key ∧
      (policy input.settings db input.backupId).policyResolved = true ∧
      (policy input.settings db input.backupId).dryRun = false ∧
      Left input db record ∧ record.retentionLocked = false ∧ record.startedAt.isSome = true ∧
      (policy input.settings db input.backupId).keep.keepLocal ≤ leftRank input db record ∧
      ¬ RestoreActive db record.id ∧ UploadSafe record ∧
      ∀ other ∈ db.history, rankableLeft input db record.key other = true →
        leftRank input db other < (policy input.settings db input.backupId).keep.keepLocal →
        UploadSafe other :=
  ⟨fun ⟨covered, resolved, real, left, unlocked, dated, beyond, idle, safe, replaced⟩ =>
    ⟨covered, resolved, real, left, unlocked, dated, beyond, idle, safe, replaced⟩,
    fun ⟨covered, resolved, real, left, unlocked, dated, beyond, idle, safe, replaced⟩ =>
      ⟨covered, resolved, real, left, unlocked, dated, beyond, idle, safe, replaced⟩⟩

instance (input : PassInput) (db : Database) (record : BackupHistory) :
    Decidable (Surplus input db record) :=
  decidable_of_iff _ surplus_iff.symm

section Repetition

variable {input again : PassInput} {db : Database} {record : BackupHistory}

/-! ## Larger counts -/

/-- A pass whose policy keeps more deletes no other copy. -/
theorem monotone_of_obliging (obliging : Obliging input) : Monotone input db := by
  intro generous other eager trigger history restores more id location sent
  obtain ⟨record, stored, named, doomed⟩ := ((applyPass_worked eager).1 id location).mp sent
  refine ((applyPass_worked obliging).1 id location).mpr ⟨record, history ▸ stored, named, ?_⟩
  obtain ⟨covered, resolved, real, removable⟩ := doomed
  have ranks : ∀ place row, copyRank other place row = copyRank db place row := by
    intro place row
    unfold copyRank
    rw [history]
  have counts : (policy input.settings db input.backupId).keepAt location ≤
      (policy generous.settings other generous.backupId).keepAt location := by
    cases location with
    | localCopy => exact more.keepLocal
    | remoteCopy => exact more.keepRemote
  refine ⟨?_, more.resolved ▸ resolved, more.dryRun ▸ real, history ▸ stored, removable.present,
    removable.unlocked, removable.dated, ?_, ?_, ?_, ?_⟩
  · unfold Covers guestForBackup at covered ⊢
    rw [history, trigger] at covered
    exact covered
  · exact counts.trans (ranks location record ▸ removable.beyond)
  · have idle := removable.idle
    unfold RestoreActive at idle ⊢
    rw [restores] at idle
    exact idle
  · intro here
    obtain ⟨safe, replaced⟩ := removable.uploaded here
    refine ⟨safe, fun row member ranked small => ?_⟩
    refine replaced row (history ▸ member) ranked ?_
    rw [ranks]
    exact small.trans_le more.keepLocal
  · intro there
    obtain ⟨deletion, drive, target⟩ := removable.enabled there
    exact ⟨more.deletion ▸ deletion, more.drive ▸ drive, target⟩

/-! ## What is left -/

/-- Each row ends with the marks of the copies that were doomed. -/
theorem exists_marks (obliging : Obliging input) :
    ∃ marks : Nat → RetentionLocation → Option Instant,
      (applyPass input db).db.history.rows =
        db.history.rows.map (fun row => wear (marks row.id) row) ∧
      ∀ row ∈ db.history, ∀ place,
        (marks row.id place).isSome = true ↔ Doomed input db place row := by
  obtain ⟨sent, marks, worn, marked⟩ := @applyPass_worked input db obliging
  refine ⟨marks, worn, fun row stored place => ?_⟩
  rw [marked, sent]
  constructor
  · rintro ⟨record, there, named, doomed⟩
    obtain rfl : record = row := Table.eq_of_key there stored named
    exact doomed
  · exact fun doomed => ⟨row, stored, rfl, doomed⟩

section Marks

variable {marks : RetentionLocation → Option Instant}
  (marked : ∀ place, (marks place).isSome = true ↔ Doomed input db place record)

include marked

/-- The local copies after the pass. -/
theorem hasCopy_local_left : hasCopy .localCopy (wear marks record) = true ↔
    Left input db record := by
  have unmarked : marks .localCopy = none ↔ ¬ Doomed input db .localCopy record := by
    rw [← marked, Option.not_isSome_iff_eq_none]
  rw [hasCopy_local_wear fun place set => ((marked place).mp set).removable.present, unmarked,
    marked]
  exact Iff.rfl

/-- The remote copies after the pass. -/
theorem hasCopy_remote_left : hasCopy .remoteCopy (wear marks record) = true ↔
    hasCopy .remoteCopy record = true ∧ ¬ Doomed input db .remoteCopy record := by
  rw [hasCopy_remote_wear fun place set => ((marked place).mp set).removable.present,
    Bool.and_eq_true, Option.isNone_iff_eq_none, ← Option.not_isSome_iff_eq_none, marked]

/-- The ranked local copies after the pass. -/
theorem rankableAt_local_left (guest : GuestKey) :
    rankableAt .localCopy guest (wear marks record) = rankableLeft input db guest record := by
  have same := sameBackup_wear marks record
  have copy : hasCopy .localCopy (wear marks record) = decide (Left input db record) := by
    rw [Bool.eq_iff_iff, decide_eq_true_iff]
    exact hasCopy_local_left marked
  simp only [rankableAt, rankableLeft, same.key, same.retentionLocked, same.startedAt, copy]

/-- A ranked remote copy after the pass was one before. -/
theorem rankableAt_remote_left {guest : GuestKey}
    (ranked : rankableAt .remoteCopy guest (wear marks record) = true) :
    rankableAt .remoteCopy guest record = true := by
  have same := sameBackup_wear marks record
  simp only [rankableAt, same.key, same.retentionLocked, same.startedAt, Bool.and_eq_true,
    hasCopy_remote_left marked] at ranked ⊢
  exact ⟨⟨⟨ranked.1.1.1, ranked.1.1.2.1⟩, ranked.1.2⟩, ranked.2⟩

end Marks

section After

variable {after : Database} {marks : Nat → RetentionLocation → Option Instant}
  (worn : after.history.rows = db.history.rows.map fun row => wear (marks row.id) row)

include worn

/-- The guest of a trigger is known after the pass as before. -/
theorem covers_left (trigger : Option Nat) (guest : GuestKey) :
    Covers after trigger guest ↔ Covers db trigger guest := by
  have guests : ∀ id, guestForBackup after id = guestForBackup db id := by
    intro id
    unfold guestForBackup Table.get
    rw [worn, List.find?_map, Option.map_map]
    have rows : ((fun row : BackupHistory => row.id == id) ∘ fun row => wear (marks row.id) row) =
        fun row => row.id == id := by
      funext row
      simp only [Function.comp_apply, (sameBackup_wear (marks row.id) row).id]
    rw [rows]
    congr 1
    funext row
    exact (sameBackup_wear (marks row.id) row).key
  unfold Covers
  simp only [guests]

variable (marked : ∀ row ∈ db.history, ∀ place,
    (marks row.id place).isSome = true ↔ Doomed input db place row)

include marked

/-- The rank of a local copy among those that are left. -/
theorem copyRank_local_left (row : BackupHistory) :
    copyRank after .localCopy (wear (marks row.id) row) = leftRank input db row := by
  rw [(sameBackup_wear (marks row.id) row).copyRank]
  unfold copyRank leftRank Table.count
  rw [worn, List.countP_map]
  apply List.countP_congr
  intro other stored
  have same := sameBackup_wear (marks other.id) other
  simp only [Function.comp_apply, (same.newestFirst row).1,
    rankableAt_local_left (marked other stored)]

/-- No remote copy has a larger rank than before. -/
theorem copyRank_remote_left_le (row : BackupHistory) :
    copyRank after .remoteCopy (wear (marks row.id) row) ≤ copyRank db .remoteCopy row := by
  rw [(sameBackup_wear (marks row.id) row).copyRank]
  unfold copyRank Table.count
  rw [worn, List.countP_map]
  apply List.countP_mono_left
  intro other stored
  have same := sameBackup_wear (marks other.id) other
  simp only [Function.comp_apply, (same.newestFirst row).1, Bool.and_eq_true]
  exact fun counted => ⟨counted.1, rankableAt_remote_left (marked other stored) counted.2⟩

end After

/-- After a pass, the local copies another pass deletes are the surplus ones, and there are no
remote ones. -/
theorem doomed_again (obliging : Obliging input) (settings : again.settings = input.settings)
    (trigger : again.backupId = input.backupId) :
    (∃ location, ∃ later ∈ (applyPass input db).db.history,
      Doomed again (applyPass input db).db location later) ↔
    ∃ record ∈ db.history, Surplus input db record := by
  obtain ⟨marks, worn, marked⟩ := @exists_marks input db obliging
  have kept := (applyPass_keeps input db).1
  have policies : policy again.settings (applyPass input db).db again.backupId =
      policy input.settings db input.backupId := by
    rw [settings, trigger]
    exact kept.policy_eq
  have restores := kept.restores
  generalize (applyPass input db).db = after at worn policies restores ⊢
  have idle : ∀ id, RestoreActive after id ↔ RestoreActive db id := by
    intro id
    unfold RestoreActive
    rw [restores]
  have members : ∀ later, later ∈ after.history ↔
      ∃ row ∈ db.history, wear (marks row.id) row = later := by
    intro later
    rw [Table.mem_iff, worn, List.mem_map]
    exact Iff.rfl
  have same := fun row => sameBackup_wear (marks row.id) row
  constructor
  · rintro ⟨location, later, there, covered, resolved, real, removable⟩
    obtain ⟨row, stored, rfl⟩ := (members later).mp there
    rw [policies] at resolved real removable
    rw [trigger, (same row).key, covers_left worn] at covered
    have unlocked := (same row).retentionLocked ▸ removable.unlocked
    have dated := (same row).startedAt ▸ removable.dated
    have free : ¬ RestoreActive db row.id := by
      rw [← idle, ← (same row).id]
      exact removable.idle
    have beyond := removable.beyond
    cases location with
    | localCopy =>
      rw [RetentionPolicySnapshot.keepAt, copyRank_local_left worn marked] at beyond
      obtain ⟨safe, replaced⟩ := removable.uploaded rfl
      refine ⟨row, stored, covered, resolved, real, ?_, unlocked, dated, beyond, free,
        (same row).uploadSafe.mp safe, fun other member ranked small => ?_⟩
      · exact (hasCopy_local_left (marked row stored)).mp removable.present
      · refine (same other).uploadSafe.mp (replaced _ ((members _).mpr ⟨other, member, rfl⟩) ?_ ?_)
        · rw [(same row).key, rankableAt_local_left (marked other member)]
          exact ranked
        · rw [copyRank_local_left worn marked]
          exact small
    | remoteCopy =>
      -- The copy was as removable before the pass, and the pass would have removed it.
      obtain ⟨present, spared⟩ := (hasCopy_remote_left (marked row stored)).mp removable.present
      obtain ⟨deletion, drive, target⟩ := removable.enabled rfl
      refine absurd ⟨covered, resolved, real, stored, present, unlocked, dated, ?_, free, nofun,
        fun _ => ⟨deletion, drive, ?_⟩⟩ spared
      · exact beyond.trans (copyRank_remote_left_le worn marked row)
      · unfold remoteTarget at target ⊢
        rw [(same row).remotePath] at target
        exact target
  · rintro ⟨row, stored, surplus⟩
    refine ⟨.localCopy, wear (marks row.id) row, (members _).mpr ⟨row, stored, rfl⟩, ?_, ?_, ?_,
      (members _).mpr ⟨row, stored, rfl⟩, ?_, ?_, ?_, ?_, ?_, fun _ => ⟨?_, ?_⟩, nofun⟩
    · rw [trigger, (same row).key, covers_left worn]
      exact surplus.covered
    · rw [policies]
      exact surplus.resolved
    · rw [policies]
      exact surplus.real
    · exact (hasCopy_local_left (marked row stored)).mpr surplus.left
    · rw [(same row).retentionLocked]
      exact surplus.unlocked
    · rw [(same row).startedAt]
      exact surplus.dated
    · rw [policies, copyRank_local_left worn marked]
      exact surplus.beyond
    · rw [(same row).id, idle]
      exact surplus.idle
    · exact (same row).uploadSafe.mpr surplus.safe
    · intro later there ranked small
      obtain ⟨other, member, rfl⟩ := (members later).mp there
      rw [(same row).key, rankableAt_local_left (marked other member)] at ranked
      rw [policies, copyRank_local_left worn marked] at small
      exact (same other).uploadSafe.mpr (surplus.replaced other member ranked small)

/-- A pass has nothing left to do exactly when it deletes nothing. -/
theorem calls_eq_nil_iff (obliging : Obliging input) : (applyPass input db).calls = [] ↔
    ¬ ∃ location, ∃ record ∈ db.history, Doomed input db location record := by
  have sent := (@applyPass_worked input db obliging).1
  rw [List.eq_nil_iff_forall_not_mem]
  constructor
  · rintro silent ⟨location, record, stored, doomed⟩
    obtain ⟨call, was, -⟩ := (sent record.id location).mpr ⟨record, stored, rfl, doomed⟩
    exact silent call was
  · intro spared call was
    obtain ⟨record, stored, -, doomed⟩ :=
      (sent call.backup.id call.location).mp ⟨call, was, rfl, rfl⟩
    exact spared ⟨call.location, record, stored, doomed⟩

/-- Without a revived row nothing is surplus. -/
theorem not_surplus_of_not_revived (calm : ∀ row ∈ db.history, ¬ Revived input db row)
    (stored : record ∈ db.history) : ¬ Surplus input db record := by
  rintro ⟨covered, resolved, real, left, unlocked, dated, beyond, idle, safe, replaced⟩
  have copy : ∀ row ∈ db.history, Left input db row →
      hasCopy .localCopy row = true ∧ ¬ Doomed input db .localCopy row :=
    fun row member left => left.resolve_right (calm row member)
  obtain ⟨present, spared⟩ := copy record stored left
  have fewer : ∀ row : BackupHistory, leftRank input db row ≤ copyRank db .localCopy row := by
    intro row
    unfold leftRank copyRank Table.count
    apply List.countP_mono_left
    intro other member counted
    simp only [rankableLeft, rankableAt, Bool.and_eq_true, decide_eq_true_eq] at counted ⊢
    obtain ⟨newer, ⟨⟨own, left⟩, pinned⟩, known⟩ := counted
    exact ⟨newer, ⟨⟨own, (copy other member left).1⟩, pinned⟩, known⟩
  refine spared ⟨covered, resolved, real, stored, present, unlocked, dated,
    beyond.trans (fewer record), idle, fun _ => ⟨safe, fun other member ranked small => ?_⟩,
    by simp⟩
  refine replaced other member ?_ ((fewer other).trans_lt small)
  -- A copy among those kept is not doomed, so it is left.
  simp only [rankableLeft, rankableAt, Bool.and_eq_true, decide_eq_true_eq] at ranked ⊢
  obtain ⟨⟨⟨own, there⟩, pinned⟩, known⟩ := ranked
  refine ⟨⟨⟨own, .inl ⟨there, fun doomed => ?_⟩⟩, pinned⟩, known⟩
  exact absurd doomed.removable.beyond (Nat.not_le.mpr small)

/-- With any rows, a second pass deletes nothing and a larger count deletes no more exactly when the
first pass leaves no surplus local copy. -/
theorem repeats_iff_no_surplus (obliging : Obliging input) :
    (Idempotent input db ∧ Monotone input db) ↔
      ∀ record ∈ db.history, ¬ Surplus input db record := by
  rw [and_iff_left (monotone_of_obliging obliging)]
  constructor
  · intro idempotent record stored surplus
    have silent := idempotent input obliging rfl rfl
    rw [calls_eq_nil_iff obliging, doomed_again obliging rfl rfl] at silent
    exact silent ⟨record, stored, surplus⟩
  · intro none again eager settings trigger
    rw [calls_eq_nil_iff eager, doomed_again obliging settings trigger]
    exact fun ⟨record, stored, surplus⟩ => none record stored surplus

/-- A second pass deletes nothing and a larger count deletes no more, where each named row that
counts as deleted records when its file was removed. -/
theorem repeats_of_dated_deletions
    (dated : ∀ row ∈ db.history, row.status = .deleted → row.filename.isSome = true →
      row.localDeletedAt.isSome = true)
    (obliging : Obliging input) : Idempotent input db ∧ Monotone input db := by
  apply (repeats_iff_no_surplus obliging).mpr
  intro record stored
  apply not_surplus_of_not_revived _ stored
  rintro row member ⟨doomed, status, unrecorded⟩
  have remote := doomed.removable.present
  simp only [hasCopy, remoteExists, Bool.and_eq_true] at remote
  have recorded := dated row member status remote.2
  rw [unrecorded] at recorded
  cases recorded

end Repetition

/-- A backup that is on the host and on the drive, and an older row of the guest, of which no
removal of its file is recorded. -/
def withOlderRow (status : BackupStatus) : Database :=
  { Database.empty with
    history := Table.insert
      (.singleton { driveOnlyBackup with status, localDeletedAt := none })
      { driveOnlyBackup with id := 2, startedAt := some 11, localDeletedAt := none }
      fun _ was => List.mem_singleton.mp was ▸ Nat.one_lt_two }

/-- Where the older row counts as deleted although only its upload is recorded, the first pass
removes its remote copy and the second one its local copy. -/
theorem second_pass_deletes :
    ¬ ∀ (input : PassInput) (db : Database), Obliging input →
      Idempotent input db ∧ Monotone input db := by
  intro always
  have again := (always (promptPass ⟨1, 1, by decide, by decide⟩) (withOlderRow .deleted)
    fun _ => rfl).1
  have silent := again (promptPass ⟨1, 1, by decide, by decide⟩) (fun _ => rfl) rfl rfl
  revert silent
  decide

/-- A backup on the drive that counts as deleted since its file was removed, and two newer ones of
the guest that are on the host as well. -/
def withDatedRow : Database :=
  { Database.empty with
    history := Table.insert
      (Table.insert (.singleton { driveOnlyBackup with status := .deleted })
        { driveOnlyBackup with id := 2, startedAt := some 11, localDeletedAt := none }
        fun _ was => List.mem_singleton.mp was ▸ Nat.one_lt_two)
      { driveOnlyBackup with id := 3, startedAt := some 12, localDeletedAt := none }
      (by decide) }

/-- The first pass removes both copies of the second row and the remote one of the deleted row, and
the second pass finds nothing. -/
theorem repeats_with_dated_row :
    (applyPass (promptPass ⟨1, 1, by decide, by decide⟩) withDatedRow).calls.length = 3 ∧
      Idempotent (promptPass ⟨1, 1, by decide, by decide⟩) withDatedRow ∧
      Monotone (promptPass ⟨1, 1, by decide, by decide⟩) withDatedRow :=
  ⟨by decide, repeats_of_dated_deletions (by decide) fun _ => rfl⟩

end ProxSync.Retention
