import ProxSync.Retention.Service
/-!
# What a classification means

Ranks are counted in the database: the rank of a copy is the number of newer unpinned, dated
copies of its guest at its location. `Removable` states, field by field, what has to be known
of a copy before it may be deleted, and every plan that would delete a copy is shown to have
established it on the database it was planned on.
-/
open ProxSync.Lib

namespace ProxSync.Retention

/-- A ranked copy of a guest at a location. -/
def rankableAt (location : RetentionLocation) (guest : GuestKey) (record : BackupHistory) : Bool :=
  record.key == guest && hasCopy location record && !record.retentionLocked &&
    record.startedAt.isSome

/-- Number of newer ranked copies of the same guest at a location. -/
def copyRank (db : Database) (location : RetentionLocation) (record : BackupHistory) : Nat :=
  db.history.count fun other =>
    newestFirst other record && rankableAt location record.key other

/-- A local copy whose loss would not lose the backup: no upload was expected, or the upload is
complete and the object is known. -/
def UploadSafe (record : BackupHistory) : Prop :=
  record.uploadStatus = .notRequired ∨
    (record.uploadStatus = .uploaded ∧ record.remotePath.isSome = true)

/-- A restore that still needs its artifact names a backup. -/
def RestoreActive (db : Database) (backupId : Nat) : Prop :=
  ∃ restore ∈ db.restores, restore.backupId = backupId ∧ restore.status.blocksRetention = true

/-- What must hold of a copy at either location before it is deleted. -/
structure Removable (policy : RetentionPolicySnapshot) (db : Database)
    (location : RetentionLocation) (record : BackupHistory) : Prop where
  stored : record ∈ db.history
  present : hasCopy location record = true
  unlocked : record.retentionLocked = false
  dated : record.startedAt.isSome = true
  /-- Enough newer ranked copies stay. -/
  beyond : policy.keepAt location ≤ copyRank db location record
  idle : ¬ RestoreActive db record.id
  /-- The copy and everything that replaces it are safely uploaded. -/
  uploaded : location = .localCopy → UploadSafe record ∧
    ∀ other ∈ db.history, rankableAt .localCopy record.key other = true →
      copyRank db .localCopy other < policy.keep.keepLocal → UploadSafe other
  /-- Remote deletion is switched on and the object can be named. -/
  enabled : location = .remoteCopy → policy.deleteRemoteOnRetention = true ∧
    policy.gdriveEnabled = true ∧ (remoteTarget record).isSome = true

/-- No upload blocker means that the copy is safely uploaded. -/
theorem localUploadBlocker_eq_none {record : BackupHistory} :
    localUploadBlocker record = none ↔ UploadSafe record := by
  unfold localUploadBlocker UploadSafe
  by_cases exempt : record.uploadStatus = .notRequired
  · simp [exempt]
  · by_cases uploaded : record.uploadStatus = .uploaded
    · cases path : record.remotePath <;> simp [uploaded]
    · simp [exempt, uploaded]

/-- No restore is found exactly when none is active. -/
theorem hasActiveRestore_iff {db : Database} {backupId : Nat} :
    hasActiveRestore db backupId = true ↔ RestoreActive db backupId := by
  simp [hasActiveRestore, RestoreActive, Table.mem_iff]

/-- A ranked copy belongs to the guest. -/
theorem rankableAt_key {location : RetentionLocation} {guest : GuestKey} {record : BackupHistory}
    (ranked : rankableAt location guest record = true) : record.key = guest := by
  simp only [rankableAt, Bool.and_eq_true, beq_iff_eq] at ranked
  exact ranked.1.1.1

section Ranks

variable {db : Database} {location : RetentionLocation} {guest : GuestKey}

/-- The copies of a guest are its stored rows with a copy at the location. -/
theorem mem_copiesForGuest {record : BackupHistory} :
    record ∈ copiesForGuest db location guest ↔
      record ∈ db.history ∧ record.key = guest ∧ hasCopy location record = true := by
  rw [copiesForGuest, (orderNewestFirst_perm _).mem_iff, List.mem_filter, Table.mem_iff]
  simp

/-- The ranked copies of a guest are its rankable rows. -/
theorem mem_rankable_copies {record : BackupHistory} :
    record ∈ rankable (copiesForGuest db location guest) ↔
      record ∈ db.history ∧ rankableAt location guest record = true := by
  simp only [rankable, List.mem_filter, mem_copiesForGuest, rankableAt, Bool.and_eq_true,
    beq_iff_eq]
  tauto

/-- The ranked copies of a guest are strictly ordered. -/
theorem rankable_copies_sorted :
    (rankable (copiesForGuest db location guest)).Pairwise
      fun first second => newestFirst first second = true := by
  have distinct : db.history.rows.Pairwise fun first second => first.id ≠ second.id :=
    db.history.ascending.imp fun below => below.ne
  have sorted := orderNewestFirst_sorted
    (distinct.filter fun record => record.key == guest && hasCopy location record)
  exact sorted.filter _

/-- The position of a ranked copy is its rank in the database. -/
theorem rankIn_rankable_copies (record : BackupHistory) (own : record.key = guest) :
    rankIn newestFirst (rankable (copiesForGuest db location guest)) record =
      copyRank db location record := by
  have reordered : (rankable (copiesForGuest db location guest)).Perm
      (db.history.rows.filter (rankableAt location guest)) := by
    have listed := (orderNewestFirst_perm (db.history.rows.filter fun record =>
      record.key == guest && hasCopy location record)).filter
        fun row => !row.retentionLocked && row.startedAt.isSome
    rw [List.filter_filter] at listed
    refine listed.trans (List.Perm.of_eq (List.filter_congr fun row _ => ?_))
    simp only [rankableAt]
    rw [Bool.and_comm, Bool.and_assoc, Bool.and_assoc, Bool.and_assoc]
  rw [rankIn_perm reordered, rankIn, List.countP_filter, own.symm]
  rfl

/-- A looked-up rank is the rank in the database. -/
theorem rankOf_copies {record : BackupHistory}
    (ranked : record ∈ rankable (copiesForGuest db location guest)) :
    rankOf (copiesForGuest db location guest) record = copyRank db location record := by
  have stored := mem_rankable_copies.mp ranked
  have own : record.key = guest := rankableAt_key stored.2
  rw [← rankIn_rankable_copies record own]
  refine findIdx_eq_rankIn newestFirst_asymmetric rankable_copies_sorted ranked (by simp) ?_
  intro other member same
  exact Table.eq_of_key (mem_rankable_copies.mp member).1 stored.1 (by simpa using same)

/-- The kept prefix of the ranked copies holds the copies of small rank. -/
theorem mem_take_rankable_copies {record : BackupHistory} {keep : Nat} :
    record ∈ (rankable (copiesForGuest db location guest)).take keep ↔
      record ∈ db.history ∧ rankableAt location guest record = true ∧
        copyRank db location record < keep := by
  rw [mem_take_iff_rankIn newestFirst_asymmetric rankable_copies_sorted, mem_rankable_copies]
  constructor
  · rintro ⟨⟨stored, ranked⟩, small⟩
    exact ⟨stored, ranked, rankIn_rankable_copies record (rankableAt_key ranked) ▸ small⟩
  · rintro ⟨stored, ranked, small⟩
    exact ⟨⟨stored, ranked⟩, (rankIn_rankable_copies record (rankableAt_key ranked)).symm ▸ small⟩

end Ranks

section Plans

variable {location : RetentionLocation} {keep : Nat} {rows : List RetentionBackup}
  {blocker : RetentionBackup → Option String} {row : RetentionBackup}

/-- A classification is about the row and the location it was asked for. -/
@[simp] theorem classify_subject :
    (classify location keep rows blocker row).backup = row ∧
      (classify location keep rows blocker row).location = location := by
  unfold classify
  dsimp only
  repeat' split
  all_goals exact ⟨rfl, rfl⟩

/-- A copy is planned for deletion when it is unpinned, dated, beyond the count and not
blocked. -/
theorem classify_wouldDelete
    (planned : (classify location keep rows blocker row).wouldDelete = true) :
    row.retentionLocked = false ∧ row.startedAt.isSome = true ∧ keep ≤ rankOf rows row ∧
      blocker row = none := by
  unfold classify at planned
  by_cases locked : row.retentionLocked = true
  · simp [locked] at planned
  · by_cases undated : row.startedAt.isNone = true
    · simp [locked, undated] at planned
    · by_cases within : rankOf rows row < keep
      · simp [locked, undated, within] at planned
      · simp only [Bool.not_eq_true] at locked
        have dated : row.startedAt.isSome = true := by
          simpa [Option.isSome_iff_ne_none] using undated
        refine ⟨locked, dated, Nat.not_lt.mp within, ?_⟩
        cases blocked : blocker row with
        | none => rfl
        | some reason => simp [locked, undated, within, blocked] at planned

/-- An unblocked local copy is safely uploaded, its replacements are, and it is idle. -/
theorem localBlocker_eq_none {db : Database} (free : localBlocker db keep rows row = none) :
    UploadSafe row ∧ (∀ other ∈ (rankable rows).take keep, UploadSafe other) ∧
      ¬ RestoreActive db row.id := by
  unfold localBlocker at free
  cases own : localUploadBlocker row with
  | some reason => simp [own] at free
  | none =>
    cases block : ((rankable rows).take keep).findSome? localUploadBlocker with
    | some reason => simp [own, block] at free
    | none =>
      rw [List.findSome?_eq_none_iff] at block
      refine ⟨localUploadBlocker_eq_none.mp own, fun other member =>
        localUploadBlocker_eq_none.mp (block other member), fun active => ?_⟩
      have none : ((rankable rows).take keep).findSome? localUploadBlocker = none :=
        List.findSome?_eq_none_iff.mpr block
      simp [own, none, hasActiveRestore_iff.mpr active] at free

/-- An unblocked remote copy may be deleted, can be named and is idle. -/
theorem remoteBlocker_eq_none {db : Database} {policy : RetentionPolicySnapshot}
    (free : remoteBlocker db policy row = none) :
    policy.deleteRemoteOnRetention = true ∧ policy.gdriveEnabled = true ∧
      (remoteTarget row).isSome = true ∧ ¬ RestoreActive db row.id := by
  unfold remoteBlocker at free
  by_cases deletion : policy.deleteRemoteOnRetention = true
  · by_cases drive : policy.gdriveEnabled = true
    · cases target : remoteTarget row with
      | none => simp [deletion, drive, target] at free
      | some pair =>
        refine ⟨deletion, drive, rfl, fun active => ?_⟩
        simp [deletion, drive, target, hasActiveRestore_iff.mpr active] at free
    · simp [deletion, drive] at free
  · simp [deletion] at free

variable {db : Database} {policy : RetentionPolicySnapshot} {guest : GuestKey}
  {plan : PlannedDecision}

/-- A copy of a guest that is classified for deletion satisfies what both locations ask. -/
private theorem classified_ranked
    (listed : row ∈ copiesForGuest db location guest)
    (planned : (classify location keep (copiesForGuest db location guest) blocker row).wouldDelete
      = true) :
    row ∈ db.history ∧ hasCopy location row = true ∧ row.retentionLocked = false ∧
      row.startedAt.isSome = true ∧ keep ≤ copyRank db location row ∧ blocker row = none := by
  obtain ⟨unlocked, dated, beyond, free⟩ := classify_wouldDelete planned
  obtain ⟨stored, own, present⟩ := mem_copiesForGuest.mp listed
  have ranked : row ∈ rankable (copiesForGuest db location guest) := by
    simp [rankable, listed, unlocked, dated]
  exact ⟨stored, present, unlocked, dated, rankOf_copies ranked ▸ beyond, free⟩

/-- Every deletion a guest's plans contain is of a removable copy. -/
theorem guestPlans_removable (member : plan ∈ guestPlans policy db guest)
    (planned : plan.wouldDelete = true) : Removable policy db plan.location plan.backup := by
  unfold guestPlans at member
  by_cases resolved : policy.policyResolved = true
  · rw [if_pos resolved, List.mem_append] at member
    rcases member with localPlan | remotePlan
    · obtain ⟨row, listed, rfl⟩ := List.mem_map.mp localPlan
      obtain ⟨stored, present, unlocked, dated, beyond, free⟩ := classified_ranked listed planned
      obtain ⟨safe, replaced, idle⟩ := localBlocker_eq_none free
      have own : row.key = guest := (mem_copiesForGuest.mp listed).2.1
      simp only [classify_subject]
      refine ⟨stored, present, unlocked, dated, beyond, idle, fun _ => ⟨safe, ?_⟩, by simp⟩
      intro other otherStored ranked small
      exact replaced other (mem_take_rankable_copies.mpr ⟨otherStored, own ▸ ranked, small⟩)
    · obtain ⟨row, listed, rfl⟩ := List.mem_map.mp remotePlan
      obtain ⟨stored, present, unlocked, dated, beyond, free⟩ := classified_ranked listed planned
      obtain ⟨deletion, drive, target, idle⟩ := remoteBlocker_eq_none free
      simp only [classify_subject]
      exact ⟨stored, present, unlocked, dated, beyond, idle, by simp,
        fun _ => ⟨deletion, drive, target⟩⟩
  · rw [if_neg resolved, List.mem_append] at member
    rcases member with blocked | blocked <;>
    · obtain ⟨row, _, rfl⟩ := List.mem_map.mp blocked
      simp at planned

/-- Every deletion a classification plans is of a removable copy. -/
theorem plans_removable {backupId : Option Nat} {planned : List PlannedDecision}
    (classified : plans policy db backupId = .ok planned) (member : plan ∈ planned)
    (deletes : plan.wouldDelete = true) : Removable policy db plan.location plan.backup := by
  unfold plans at classified
  cases scope : guestsInScope db backupId with
  | error message => simp [scope, Except.map] at classified
  | ok guests =>
    simp only [scope, Except.map, Except.ok.injEq] at classified
    rw [← classified, List.mem_flatMap] at member
    obtain ⟨guest, _, inGuest⟩ := member
    exact guestPlans_removable inGuest deletes

end Plans

end ProxSync.Retention
