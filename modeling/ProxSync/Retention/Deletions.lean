import ProxSync.Retention.Provenance
/-!
# The copies a pass deletes

With an agent that carries out every request, a pass deletes exactly the copies that are removable
when it begins. Removing one of them does not lower the rank of another below its count, and the
remote copies of a guest are removed after its local ones, so each candidate is still one when its
turn comes. What is left is given row by row: the local mark first, then the remote one.
-/
open ProxSync.Lib

namespace ProxSync.Retention

/-- A pass looks at a guest: at every guest, or at that of its trigger. -/
def Covers (db : Database) (backupId : Option Nat) (guest : GuestKey) : Prop :=
  (backupId.all fun id => guestForBackup db id == some guest) = true

instance (db : Database) (backupId : Option Nat) (guest : GuestKey) :
    Decidable (Covers db backupId guest) :=
  inferInstanceAs (Decidable (_ = true))

/-- The agent carries out whatever it is asked to do. -/
def Obliging (input : PassInput) : Prop := ∀ request, (input.agent request).removes = true

instance (record : BackupHistory) : Decidable (UploadSafe record) :=
  inferInstanceAs (Decidable (_ ∨ _ ∧ _))

instance (db : Database) (backupId : Nat) : Decidable (RestoreActive db backupId) :=
  inferInstanceAs (Decidable (∃ restore ∈ db.restores,
    restore.backupId = backupId ∧ restore.status.blocksRetention = true))

/-- A removable copy satisfies each of the conditions. -/
theorem removable_iff {policy : RetentionPolicySnapshot} {db : Database}
    {location : RetentionLocation} {record : BackupHistory} :
    Removable policy db location record ↔
      record ∈ db.history ∧ hasCopy location record = true ∧ record.retentionLocked = false ∧
      record.startedAt.isSome = true ∧ policy.keepAt location ≤ copyRank db location record ∧
      ¬ RestoreActive db record.id ∧
      (location = .localCopy → UploadSafe record ∧
        ∀ other ∈ db.history, rankableAt .localCopy record.key other = true →
          copyRank db .localCopy other < policy.keep.keepLocal → UploadSafe other) ∧
      (location = .remoteCopy → policy.deleteRemoteOnRetention = true ∧
        policy.gdriveEnabled = true ∧ (remoteTarget record).isSome = true) :=
  ⟨fun ⟨stored, present, unlocked, dated, beyond, idle, uploaded, enabled⟩ =>
    ⟨stored, present, unlocked, dated, beyond, idle, uploaded, enabled⟩,
    fun ⟨stored, present, unlocked, dated, beyond, idle, uploaded, enabled⟩ =>
      ⟨stored, present, unlocked, dated, beyond, idle, uploaded, enabled⟩⟩

instance (policy : RetentionPolicySnapshot) (db : Database) (location : RetentionLocation)
    (record : BackupHistory) : Decidable (Removable policy db location record) :=
  decidable_of_iff _ removable_iff.symm

/-- A copy that a pass deletes from a database. -/
structure Doomed (input : PassInput) (db : Database) (location : RetentionLocation)
    (record : BackupHistory) : Prop where
  covered : Covers db input.backupId record.key
  resolved : (policy input.settings db input.backupId).policyResolved = true
  real : (policy input.settings db input.backupId).dryRun = false
  removable : Removable (policy input.settings db input.backupId) db location record

/-- A doomed copy satisfies each of the conditions. -/
theorem doomed_iff {input : PassInput} {db : Database} {location : RetentionLocation}
    {record : BackupHistory} : Doomed input db location record ↔
      Covers db input.backupId record.key ∧
      (policy input.settings db input.backupId).policyResolved = true ∧
      (policy input.settings db input.backupId).dryRun = false ∧
      Removable (policy input.settings db input.backupId) db location record :=
  ⟨fun ⟨covered, resolved, real, removable⟩ => ⟨covered, resolved, real, removable⟩,
    fun ⟨covered, resolved, real, removable⟩ => ⟨covered, resolved, real, removable⟩⟩

instance (input : PassInput) (db : Database) (location : RetentionLocation)
    (record : BackupHistory) : Decidable (Doomed input db location record) :=
  decidable_of_iff _ doomed_iff.symm

/-! ## Every removable copy is a candidate -/

section Planned

variable {db : Database} {policy : RetentionPolicySnapshot} {guest : GuestKey}
  {location : RetentionLocation} {record : BackupHistory} {plan : PlannedDecision}
  {backupId : Option Nat} {planned : List PlannedDecision}

/-- An unpinned, dated copy beyond the count that nothing blocks is planned for deletion. -/
theorem classify_deletes {keep : Nat} {rows : List RetentionBackup}
    {blocker : RetentionBackup → Option String} (unlocked : record.retentionLocked = false)
    (dated : record.startedAt.isSome = true) (beyond : keep ≤ rankOf rows record)
    (free : blocker record = none) :
    (classify location keep rows blocker record).wouldDelete = true := by
  have known : record.startedAt.isNone = false := by
    rw [← Option.not_isSome, dated]
    rfl
  unfold classify
  simp only [unlocked, known, free, Bool.false_eq_true, if_false, if_neg (Nat.not_lt.mpr beyond)]
  cases location <;> rfl

/-- A removable copy of a guest is planned for deletion. -/
theorem exists_guestPlan (resolved : policy.policyResolved = true)
    (removable : Removable policy db location record) :
    ∃ plan ∈ guestPlans policy db record.key,
      plan.backup = record ∧ plan.location = location ∧ plan.wouldDelete = true := by
  obtain ⟨stored, present, unlocked, dated, beyond, idle, uploaded, enabled⟩ := removable
  have listed : record ∈ copiesForGuest db location record.key :=
    mem_copiesForGuest.mpr ⟨stored, rfl, present⟩
  have ranked : record ∈ rankable (copiesForGuest db location record.key) := by
    simp [rankable, listed, unlocked, dated]
  have free : hasActiveRestore db record.id = false := by
    rw [Bool.eq_false_iff]
    exact fun active => idle (hasActiveRestore_iff.mp active)
  rw [← rankOf_copies ranked] at beyond
  unfold guestPlans
  dsimp only
  rw [if_pos resolved]
  cases location with
  | localCopy =>
    obtain ⟨safe, replaced⟩ := uploaded rfl
    refine ⟨_, List.mem_append_left _ (List.mem_map_of_mem listed), ?_⟩
    have own : localUploadBlocker record = none := localUploadBlocker_eq_none.mpr safe
    have others : ((rankable (localForGuest db record.key)).take
        policy.keep.keepLocal).findSome? localUploadBlocker = none := by
      rw [List.findSome?_eq_none_iff]
      intro other kept
      obtain ⟨member, rankedOther, small⟩ := mem_take_rankable_copies.mp kept
      exact localUploadBlocker_eq_none.mpr (replaced other member rankedOther small)
    have unblocked : localBlocker db policy.keep.keepLocal (localForGuest db record.key) record =
        none := by
      simp [localBlocker, own, others, free]
    exact ⟨classify_subject.1, classify_subject.2, classify_deletes unlocked dated beyond unblocked⟩
  | remoteCopy =>
    obtain ⟨deletion, drive, target⟩ := enabled rfl
    refine ⟨_, List.mem_append_right _ (List.mem_map_of_mem listed), ?_⟩
    have named : (remoteTarget record).isNone = false := by
      rw [← Option.not_isSome, target]
      rfl
    have unblocked : remoteBlocker db policy record = none := by
      simp [remoteBlocker, deletion, drive, named, free]
    exact ⟨classify_subject.1, classify_subject.2, classify_deletes unlocked dated beyond unblocked⟩

/-- Only a resolved policy plans deletions. -/
theorem guestPlans_resolved (member : plan ∈ guestPlans policy db guest)
    (deletes : plan.wouldDelete = true) : policy.policyResolved = true := by
  by_contra unresolved
  unfold guestPlans at member
  rw [if_neg unresolved, List.mem_append] at member
  rcases member with blocked | blocked <;>
  · obtain ⟨row, _, rfl⟩ := List.mem_map.mp blocked
    cases deletes

/-- The guests in scope with a stored copy are the covered ones. -/
theorem mem_guestsInScope {guests : List GuestKey} (scope : guestsInScope db backupId = .ok guests)
    (stored : record ∈ db.history) (present : hasCopy location record = true) :
    record.key ∈ guests ↔ Covers db backupId record.key := by
  unfold guestsInScope at scope
  cases backupId with
  | none =>
    rw [← Except.ok.inj scope]
    refine iff_of_true ?_ rfl
    have exists_ : existingCopyClause record = true := by
      cases location with
      | localCopy => exact Bool.or_eq_true_iff.mpr (.inl present)
      | remoteCopy => exact Bool.or_eq_true_iff.mpr (.inr present)
    rw [guestKeys, (List.perm_insertionSort _ _).mem_iff, List.mem_dedup]
    exact List.mem_map_of_mem (List.mem_filter.mpr ⟨stored, exists_⟩)
  | some id =>
    dsimp only at scope
    cases about : guestForBackup db id with
    | none =>
      rw [about] at scope
      cases scope
    | some guest =>
      rw [about] at scope
      rw [← Except.ok.inj scope, List.mem_singleton, Covers, Option.all_some, about, beq_iff_eq,
        Option.some.injEq]
      exact eq_comm

/-- A covered guest can be classified. -/
theorem exists_guestsInScope (covered : Covers db backupId guest) :
    ∃ guests, guestsInScope db backupId = .ok guests := by
  cases backupId with
  | none => exact ⟨_, rfl⟩
  | some id =>
    rw [Covers, Option.all_some, beq_iff_eq] at covered
    refine ⟨[guest], ?_⟩
    unfold guestsInScope
    simp only [covered]

/-- A removable copy of a covered guest is planned for deletion. -/
theorem exists_plan (covered : Covers db backupId record.key)
    (resolved : policy.policyResolved = true) (removable : Removable policy db location record) :
    ∃ planned, plans policy db backupId = .ok planned ∧
      ∃ plan ∈ planned, plan.backup = record ∧ plan.location = location ∧
        plan.wouldDelete = true := by
  obtain ⟨guests, scope⟩ := exists_guestsInScope covered
  obtain ⟨plan, member, subject⟩ := exists_guestPlan resolved removable
  have inScope : record.key ∈ guests :=
    (mem_guestsInScope scope removable.stored removable.present).mpr covered
  refine ⟨guests.flatMap (guestPlans policy db), ?_, plan, ?_, subject⟩
  · rw [plans, scope, Except.map]
  · exact List.mem_flatMap.mpr ⟨record.key, inScope, member⟩

/-- A planned deletion is of a covered guest, under a resolved policy. -/
theorem plans_covered (classified : plans policy db backupId = .ok planned)
    (member : plan ∈ planned) (deletes : plan.wouldDelete = true) :
    Covers db backupId plan.backup.key ∧ policy.policyResolved = true := by
  have removable := plans_removable classified member deletes
  unfold plans at classified
  cases scope : guestsInScope db backupId with
  | error message => simp [scope, Except.map] at classified
  | ok guests =>
    simp only [scope, Except.map, Except.ok.injEq] at classified
    rw [← classified, List.mem_flatMap] at member
    obtain ⟨guest, inScope, inGuest⟩ := member
    have own : plan.backup.key = guest :=
      (mem_copiesForGuest.mp (guestPlans_wellClassified inGuest).2).2.1
    rw [← mem_guestsInScope scope removable.stored removable.present, own]
    exact ⟨inScope, guestPlans_resolved inGuest deletes⟩

/-- A decision is found under its row and location. -/
theorem find_plan (classified : plans policy db backupId = .ok planned) (member : plan ∈ planned) :
    (planned.find? fun other =>
      other.backup.id == plan.backup.id && other.location == plan.location) = some plan := by
  cases found : planned.find? fun other =>
      other.backup.id == plan.backup.id && other.location == plan.location with
  | none =>
    have missed := List.find?_eq_none.mp found plan member
    simp at missed
  | some other =>
    have named := List.find?_some found
    simp only [Bool.and_eq_true, beq_iff_eq] at named
    have same : other.key = plan.key := Prod.ext named.1 named.2
    rw [List.inj_on_of_nodup_map (plans_nodup classified) (List.mem_of_find?_eq_some found) member
      same]

/-- The local copies of a guest are classified before its remote ones. -/
theorem plans_ordered (classified : plans policy db backupId = .ok planned) :
    planned.Pairwise fun first later => first.location = .remoteCopy →
      later.location = .localCopy → later.backup.key ≠ first.backup.key := by
  unfold plans at classified
  cases scope : guestsInScope db backupId with
  | error message => simp [scope, Except.map] at classified
  | ok guests =>
    simp only [scope, Except.map, Except.ok.injEq] at classified
    rw [← classified, List.pairwise_flatMap]
    have subject : ∀ {guest plan}, plan ∈ guestPlans policy db guest → plan.backup.key = guest :=
      fun inGuest => (mem_copiesForGuest.mp (guestPlans_wellClassified inGuest).2).2.1
    refine ⟨fun guest _ => ?_, (guestsInScope_nodup scope).imp ?_⟩
    · -- The keys tell the places: local ones, then remote ones.
      have places : ((guestPlans policy db guest).map PlannedDecision.key).Pairwise
          fun first later => first.2 = .remoteCopy → later.2 ≠ .localCopy := by
        rw [guestPlans_keys, List.pairwise_append]
        refine ⟨?_, ?_, ?_⟩
        · exact List.pairwise_map.mpr (List.pairwise_of_forall fun _ _ => nofun)
        · exact List.pairwise_map.mpr (List.pairwise_of_forall fun _ _ _ => nofun)
        · intro first listed
          obtain ⟨row, -, rfl⟩ := List.mem_map.mp listed
          exact fun _ _ => nofun
      exact (List.pairwise_map.mp places).imp fun apart first later => absurd later (apart first)
    · intro first second different here inFirst there inSecond _ _
      rw [subject inFirst, subject inSecond]
      exact different.symm

end Planned

/-! ## Ranks after a removal -/

section Ranks

variable {db : Database} {location place : RetentionLocation} {record gone : BackupHistory}
  {now : Instant} {guest : GuestKey} {keep : Nat}

/-- Two states of the row of one backup: what ranks it and what is known of its upload agree. -/
structure SameBackup (old new : BackupHistory) : Prop where
  id : new.id = old.id
  key : new.key = old.key
  startedAt : new.startedAt = old.startedAt
  retentionLocked : new.retentionLocked = old.retentionLocked
  uploadStatus : new.uploadStatus = old.uploadStatus
  remotePath : new.remotePath = old.remotePath

/-- A row is in the state it is in. -/
theorem SameBackup.refl (row : BackupHistory) : SameBackup row row := ⟨rfl, rfl, rfl, rfl, rfl, rfl⟩

/-- States of a row are compared in sequence. -/
theorem SameBackup.trans {first second third : BackupHistory} (one : SameBackup first second)
    (two : SameBackup second third) : SameBackup first third where
  id := two.id.trans one.id
  key := two.key.trans one.key
  startedAt := two.startedAt.trans one.startedAt
  retentionLocked := two.retentionLocked.trans one.retentionLocked
  uploadStatus := two.uploadStatus.trans one.uploadStatus
  remotePath := two.remotePath.trans one.remotePath

/-- A mark is about the same backup. -/
theorem sameBackup_markDeletedRow (place : RetentionLocation) (now : Instant)
    (row : BackupHistory) : SameBackup row (markDeletedRow place now row) := by
  cases place <;>
    simp only [markDeletedRow, markLocalDeletedRow, markRemoteDeletedRow, refreshStatus] <;>
    split <;> exact ⟨rfl, rfl, rfl, rfl, rfl, rfl⟩

section SameBackup

variable {old new : BackupHistory} (same : SameBackup old new)

include same

/-- Both states come where the other one comes. -/
theorem SameBackup.newestFirst (other : BackupHistory) :
    newestFirst new other = newestFirst old other ∧
      Retention.newestFirst other new = Retention.newestFirst other old := by
  unfold Retention.newestFirst missingTimestamp startedKey
  rw [same.startedAt, same.id]
  exact ⟨rfl, rfl⟩

/-- Both states have one rank. -/
theorem SameBackup.copyRank (db : Database) (location : RetentionLocation) :
    copyRank db location new = copyRank db location old := by
  unfold Retention.copyRank
  simp only [(same.newestFirst _).2, same.key]

/-- Both states are safely uploaded, or neither is. -/
theorem SameBackup.uploadSafe : UploadSafe new ↔ UploadSafe old := by
  unfold UploadSafe
  rw [same.uploadStatus, same.remotePath]

end SameBackup

/-- Newer than newer is newer. -/
theorem newestFirst_trans {first second third : BackupHistory}
    (before : newestFirst first second = true) (after : newestFirst second third = true) :
    newestFirst first third = true := by
  simp only [newestFirst, decide_eq_true_eq] at before after ⊢
  omega

/-- A copy has a larger rank than each newer ranked copy of its guest. -/
theorem copyRank_lt (stored : gone ∈ db.history)
    (ranked : rankableAt location record.key gone = true)
    (newer : newestFirst gone record = true) :
    copyRank db location gone < copyRank db location record := by
  have own : gone.key = record.key := rankableAt_key ranked
  have itself : newestFirst gone gone = false := by
    by_contra reflexive
    rw [Bool.not_eq_false] at reflexive
    have irreflexive := newestFirst_asymmetric _ _ reflexive
    rw [reflexive] at irreflexive
    cases irreflexive
  have grows : ∀ rows : List BackupHistory,
      rows.countP (fun other => newestFirst other gone && rankableAt location gone.key other) ≤
        rows.countP fun other =>
          newestFirst other record && rankableAt location record.key other := by
    intro rows
    apply List.countP_mono_left
    intro other _ counted
    rw [Bool.and_eq_true] at counted ⊢
    exact ⟨newestFirst_trans counted.1 newer, own ▸ counted.2⟩
  obtain ⟨before, after, split, -, -⟩ := Table.exists_split stored
  have ahead := grows before
  have behind := grows after
  have uncounted : (gone :: after).countP (fun other =>
      newestFirst other gone && rankableAt location gone.key other) = after.countP fun other =>
        newestFirst other gone && rankableAt location gone.key other :=
    List.countP_cons_of_neg (by simp [itself])
  have counted : (gone :: after).countP (fun other =>
      newestFirst other record && rankableAt location record.key other) =
        (after.countP fun other =>
          newestFirst other record && rankableAt location record.key other) + 1 :=
    List.countP_cons_of_pos (by rw [newer, ranked, Bool.and_self])
  show db.history.rows.countP
      (fun other => newestFirst other gone && rankableAt location gone.key other) <
    db.history.rows.countP
      (fun other => newestFirst other record && rankableAt location record.key other)
  rw [split, List.countP_append, List.countP_append, uncounted, counted]
  omega

/-- A marked copy is gone. -/
theorem hasCopy_markDeletedRow_self (place : RetentionLocation) (now : Instant)
    (row : BackupHistory) : hasCopy place (markDeletedRow place now row) = false := by
  cases place with
  | localCopy =>
    unfold markDeletedRow markLocalDeletedRow
    dsimp only
    split
    · rename_i marked
      simp [hasCopy, localExists, Option.ne_none_iff_isSome.mpr marked]
    · simp [hasCopy, localExists, refreshStatus]
  | remoteCopy =>
    unfold markDeletedRow markRemoteDeletedRow
    dsimp only
    split
    · rename_i marked
      simp [hasCopy, remoteExists, Option.ne_none_iff_isSome.mpr marked]
    · simp [hasCopy, remoteExists, refreshStatus]

/-- Removing a local copy leaves the remote one as it was. -/
theorem hasCopy_remote_markDeletedRow (present : hasCopy .localCopy gone = true) :
    hasCopy .remoteCopy (markDeletedRow .localCopy now gone) = hasCopy .remoteCopy gone := by
  simp only [hasCopy, localExists, Bool.and_eq_true, beq_iff_eq] at present
  have unmarked : gone.localDeletedAt = none := Option.isNone_iff_eq_none.mp present.1.2
  cases path : gone.remotePath <;> cases mark : gone.remoteDeletedAt <;>
    simp [hasCopy, remoteExists, markDeletedRow, markLocalDeletedRow, refreshStatus, unmarked,
      present.1.1, path, mark]

/-- Removing a remote copy leaves a local one unless the removal of that one was recorded. -/
theorem hasCopy_local_markDeletedRow (present : hasCopy .remoteCopy gone = true) :
    hasCopy .localCopy (markDeletedRow .remoteCopy now gone) = gone.localDeletedAt.isNone := by
  simp only [hasCopy, remoteExists, Bool.and_eq_true] at present
  have unmarked : gone.remoteDeletedAt = none := Option.isNone_iff_eq_none.mp present.1.1.2
  cases mark : gone.localDeletedAt <;>
    simp [hasCopy, localExists, markDeletedRow, markRemoteDeletedRow, refreshStatus, unmarked, mark,
      present.2]

/-- A mark removes the copy it is about from its ranking and keeps the others. A local ranking may
gain from the removal of a remote copy, but only within the guest. -/
theorem rankableAt_markDeletedRow (present : hasCopy place gone = true)
    (order : place = .remoteCopy → location = .localCopy → gone.key ≠ guest) :
    rankableAt location guest (markDeletedRow place now gone) =
      (rankableAt location guest gone && location != place) := by
  have same := sameBackup_markDeletedRow place now gone
  simp only [rankableAt, same.key, same.retentionLocked, same.startedAt]
  by_cases here : location = place
  · subst here
    simp [hasCopy_markDeletedRow_self]
  · have different : (location != place) = true := bne_iff_ne.mpr here
    rw [different, Bool.and_true]
    cases place with
    | localCopy =>
      cases location with
      | localCopy => exact absurd rfl here
      | remoteCopy => rw [hasCopy_remote_markDeletedRow present]
    | remoteCopy =>
      cases location with
      | localCopy =>
        have other : (gone.key == guest) = false := beq_false_of_ne (order rfl rfl)
        simp only [other, Bool.false_and]
      | remoteCopy => exact absurd rfl here

/-- Removing a copy beyond the count keeps every other one beyond the count where it is. -/
theorem le_copyRank_markDeleted (stored : gone ∈ db.history) (present : hasCopy place gone = true)
    (order : place = .remoteCopy → location = .localCopy → gone.key ≠ record.key)
    (beyond : keep ≤ copyRank db location record)
    (spare : location = place → keep ≤ copyRank db location gone) :
    keep ≤ copyRank (markDeleted db place gone.id now) location record := by
  have counted := Table.count_modify (markDeletedRow_id place now) stored fun other =>
    newestFirst other record && rankableAt location record.key other
  have newer := ((sameBackup_markDeletedRow place now gone).newestFirst record).1
  have ranked : rankableAt location record.key (markDeletedRow place now gone) =
      (rankableAt location record.key gone && location != place) :=
    rankableAt_markDeletedRow present order
  rw [newer, ranked] at counted
  show keep ≤ (db.history.modify gone.id (markDeletedRow place now)
    (markDeletedRow_id place now)).count _
  have before : db.history.count (fun other =>
      newestFirst other record && rankableAt location record.key other) =
        copyRank db location record := rfl
  rw [before] at counted
  by_cases same : location = place
  · subst same
    have removed : (rankableAt location record.key gone && location != location) = false := by
      rw [bne_self_eq_false, Bool.and_false]
    rw [removed, Bool.and_false] at counted
    by_cases ahead : (newestFirst gone record && rankableAt location record.key gone) = true
    · rw [if_pos ahead, if_neg Bool.false_ne_true] at counted
      rw [Bool.and_eq_true] at ahead
      have below := copyRank_lt stored ahead.2 ahead.1
      have beyondGone := spare rfl
      omega
    · rw [if_neg ahead, if_neg Bool.false_ne_true] at counted
      omega
  · have different : (location != place) = true := bne_iff_ne.mpr same
    rw [different, Bool.and_true] at counted
    omega

end Ranks

/-! ## One removal -/

section Removal

variable {db after : Database} {policy : RetentionPolicySnapshot}
  {location place : RetentionLocation}
  {record gone : BackupHistory} {now : Instant}

/-- Removability depends on the tables only. -/
theorem Removable.congr (removable : Removable policy db location record)
    (same : SameTables db after) : Removable policy after location record := by
  obtain ⟨stored, present, unlocked, dated, beyond, idle, uploaded, enabled⟩ := removable
  have ranks : ∀ place other, copyRank after place other = copyRank db place other := by
    intro place other
    unfold copyRank
    rw [same.history]
  refine ⟨same.history ▸ stored, present, unlocked, dated, ?_, ?_, ?_, enabled⟩
  · rw [ranks]
    exact beyond
  · unfold RestoreActive
    rw [same.restores]
    exact idle
  · intro here
    obtain ⟨safe, replaced⟩ := uploaded here
    refine ⟨safe, fun other member ranked small => ?_⟩
    rw [same.history] at member
    rw [ranks] at small
    exact replaced other member ranked small

/-- Removing a removable copy keeps every other one removable, unless it was a remote copy of the
same guest and the other one is local. -/
theorem Removable.mark (first : Removable policy db place gone)
    (removable : Removable policy db location record)
    (apart : record.id = gone.id → location ≠ place)
    (order : place = .remoteCopy → location = .localCopy → gone.key ≠ record.key) :
    ∃ later, later.id = record.id ∧ later.key = record.key ∧
      Removable policy (markDeleted db place gone.id now) location later := by
  obtain ⟨stored, present, unlocked, dated, beyond, idle, uploaded, enabled⟩ := removable
  have remaining : ∀ other : BackupHistory, other.key = record.key →
      policy.keepAt location ≤ copyRank db location other →
      policy.keepAt location ≤ copyRank (markDeleted db place gone.id now) location other := by
    intro other own far
    refine le_copyRank_markDeleted first.stored first.present ?_ far ?_
    · rw [own]
      exact order
    · rintro rfl
      exact first.beyond
  obtain ⟨later, member, same, copy⟩ : ∃ later ∈ (markDeleted db place gone.id now).history,
      SameBackup record later ∧ hasCopy location later = true := by
    by_cases target : record.id = gone.id
    · refine ⟨markDeletedRow place now record, ?_, sameBackup_markDeletedRow place now record, ?_⟩
      · exact mem_markDeleted.mpr (.inl ⟨record, stored, target, rfl⟩)
      · exact markDeletedRow_other (apart target) now present
    · exact ⟨record, mem_markDeleted.mpr (.inr ⟨stored, target⟩), .refl record, present⟩
  refine ⟨later, same.id, same.key, member, copy, ?_, ?_, ?_, ?_, ?_, ?_⟩
  · rw [same.retentionLocked, unlocked]
  · rw [same.startedAt, dated]
  · rw [same.copyRank]
    exact remaining record rfl beyond
  · rw [same.id]
    exact idle
  · rintro rfl
    obtain ⟨safe, replaced⟩ := uploaded rfl
    refine ⟨same.uploadSafe.mpr safe, fun other there ranked small => ?_⟩
    rw [same.key] at ranked
    -- A copy that is below the count now was below it before.
    have before : ∀ old : BackupHistory, SameBackup old other →
        copyRank db .localCopy old < policy.keep.keepLocal := by
      intro old alike
      rw [alike.copyRank] at small
      by_contra far
      have own : old.key = record.key := alike.key.symm.trans (rankableAt_key ranked)
      exact absurd (remaining old own (Nat.not_lt.mp far)) (Nat.not_le.mpr small)
    rcases mem_markDeleted.mp there with ⟨old, was, named, rfl⟩ | ⟨was, _⟩
    · obtain rfl : old = gone := Table.eq_of_key was first.stored named
      have alike := sameBackup_markDeletedRow place now old
      rw [rankableAt_markDeletedRow first.present order, Bool.and_eq_true] at ranked
      exact alike.uploadSafe.mpr (replaced old was ranked.1 (before old alike))
    · exact replaced other was ranked (before other (.refl other))
  · intro there
    obtain ⟨deletion, drive, target⟩ := enabled there
    refine ⟨deletion, drive, ?_⟩
    unfold remoteTarget at target ⊢
    rw [same.remotePath]
    exact target

end Removal

/-! ## A row and its marks -/

/-- Apply a mark, if there is one. -/
def wearAt (place : RetentionLocation) (mark : Option Instant) (row : BackupHistory) :
    BackupHistory :=
  match mark with
  | none => row
  | some now => markDeletedRow place now row

/-- A row after the removals of a pass: the local mark first, then the remote one. -/
def wear (marks : RetentionLocation → Option Instant) (row : BackupHistory) : BackupHistory :=
  wearAt .remoteCopy (marks .remoteCopy) (wearAt .localCopy (marks .localCopy) row)

section Wear

variable {marks : RetentionLocation → Option Instant} {row : BackupHistory}

/-- A row and its marked state are about the same backup. -/
theorem sameBackup_wear (marks : RetentionLocation → Option Instant) (row : BackupHistory) :
    SameBackup row (wear marks row) := by
  have one : ∀ place mark state, SameBackup state (wearAt place mark state) := by
    intro place mark state
    cases mark with
    | none => exact .refl state
    | some now => exact sameBackup_markDeletedRow place now state
  exact (one .localCopy _ row).trans (one .remoteCopy _ _)

variable (present : ∀ place, (marks place).isSome = true → hasCopy place row = true)

include present

/-- The remote copy is left unless it was removed. -/
theorem hasCopy_remote_wear : hasCopy .remoteCopy (wear marks row) =
    (hasCopy .remoteCopy row && (marks .remoteCopy).isNone) := by
  have unworn : hasCopy .remoteCopy (wearAt .localCopy (marks .localCopy) row) =
      hasCopy .remoteCopy row := by
    cases here : marks .localCopy with
    | none => rfl
    | some now => exact hasCopy_remote_markDeletedRow (present _ (by rw [here]; rfl))
  unfold wear
  cases there : marks .remoteCopy with
  | none =>
    rw [Option.isNone_none, Bool.and_true]
    exact unworn
  | some now =>
    rw [Option.isNone_some, Bool.and_false]
    exact hasCopy_markDeletedRow_self _ _ _

/-- The local copy is left unless it was removed. A row that counted as deleted has it back after
its remote copy was removed, unless its own removal was recorded. -/
theorem hasCopy_local_wear : hasCopy .localCopy (wear marks row) = true ↔
    (hasCopy .localCopy row = true ∧ marks .localCopy = none) ∨
      ((marks .remoteCopy).isSome = true ∧ row.status = .deleted ∧ row.localDeletedAt = none) := by
  unfold wear
  cases here : marks .localCopy with
  | none =>
    cases there : marks .remoteCopy with
    | none => simp [wearAt]
    | some now =>
      have remote : hasCopy .remoteCopy row = true := present _ (by rw [there]; rfl)
      have kept : hasCopy .localCopy (markDeletedRow .remoteCopy now row) =
          row.localDeletedAt.isNone := hasCopy_local_markDeletedRow remote
      simp only [wearAt, kept, Option.isNone_iff_eq_none, Option.isSome_some, true_and, and_true]
      simp only [hasCopy, remoteExists, Bool.and_eq_true, Bool.or_eq_true, beq_iff_eq] at remote
      obtain ⟨⟨⟨⟨status, -⟩, -⟩, -⟩, named⟩ := remote
      simp only [hasCopy, localExists, Bool.and_eq_true, beq_iff_eq, Option.isNone_iff_eq_none,
        named, and_true]
      tauto
  | some first =>
    have copy : hasCopy .localCopy row = true := present _ (by rw [here]; rfl)
    have removed : hasCopy .localCopy (markDeletedRow .localCopy first row) = false :=
      hasCopy_markDeletedRow_self _ _ _
    simp only [hasCopy, localExists, Bool.and_eq_true, beq_iff_eq] at copy
    simp only [wearAt, reduceCtorEq, and_false, copy.1.1, false_and, or_false, iff_false,
      Bool.not_eq_true]
    cases there : marks .remoteCopy with
    | none => exact removed
    | some now =>
      have remote : hasCopy .remoteCopy row = true := present _ (by rw [there]; rfl)
      have still : hasCopy .remoteCopy (markDeletedRow .localCopy first row) = true :=
        (hasCopy_remote_markDeletedRow (present _ (by rw [here]; rfl))).trans remote
      show hasCopy .localCopy (markDeletedRow .remoteCopy now
        (markDeletedRow .localCopy first row)) = false
      rw [hasCopy_local_markDeletedRow still]
      have marked : (markOf .localCopy (markDeletedRow .localCopy first row)).isSome = true :=
        markOf_markDeletedRow.mpr (.inr rfl)
      rw [← Option.not_isSome]
      show (!(markOf .localCopy (markDeletedRow .localCopy first row)).isSome) = false
      rw [marked]
      rfl

end Wear

/-! ## A whole pass -/

/-- What a pass has done so far is what it asked the agent to do. -/
structure Worked (start : Database) (state : PassState)
    (marks : Nat → RetentionLocation → Option Instant) : Prop where
  calm : state.raised = none
  kept : Preserves start state
  worn : state.db.history.rows = start.history.rows.map fun row => wear (marks row.id) row
  sent : ∀ id location, (marks id location).isSome = true ↔ Sent state.calls id location

/-- A candidate that is still to come. -/
structure Waiting (input : PassInput) (state : PassState) (original : PlannedDecision) :
    Prop where
  unsent : ¬ Sent state.calls original.backup.id original.location
  /-- No remote copy is removed before a local one. -/
  unspoiled : original.location = .localCopy → ¬ Sent state.calls original.backup.id .remoteCopy
  doomed : ∃ record, record.id = original.backup.id ∧ record.key = original.backup.key ∧
    Doomed input state.db original.location record

section Work

variable {input : PassInput} {start : Database} {state after : PassState}
  {original : PlannedDecision} {record : BackupHistory} {location : RetentionLocation}
  {marks : Nat → RetentionLocation → Option Instant} {chosen : List PlannedDecision}

/-- A doomed candidate is sent to the agent and marked. -/
theorem applyCandidate_sends (obliging : Obliging input) (calm : state.raised = none)
    (doomed : Doomed input state.db original.location record)
    (named : record.id = original.backup.id) :
    ∃ now, (applyCandidate input state original).raised = none ∧
      (applyCandidate input state original).calls =
        ⟨record, original.location, state.db⟩ :: state.calls ∧
      SameTables (markDeleted state.db original.location record.id now)
        (applyCandidate input state original).db := by
  obtain ⟨planned, classified, plan, member, rfl, place, deletes⟩ :=
    exists_plan doomed.covered doomed.resolved doomed.removable
  have judged : revalidateCandidate input state.db original =
      .ok (policy input.settings state.db input.backupId, plan) := by
    have found := find_plan classified member
    rw [named, place] at found
    simp only [revalidateCandidate, classified, Except.map, found]
  refine ⟨input.clock state.calls.length, ?_⟩
  have written := delete_written state.db plan (input.agent state.calls.length)
    (input.clock state.calls.length)
  rw [obliging, if_pos rfl, place] at written
  have applied : applyCandidate input state original =
      PassState.settle { state with
        db := (delete state.db plan (input.agent state.calls.length)
          (input.clock state.calls.length)).1
        calls := ⟨plan.backup, original.location, state.db⟩ :: state.calls } input plan
      (delete state.db plan (input.agent state.calls.length) (input.clock state.calls.length)).2
      (policy input.settings state.db input.backupId) none := by
    simp [applyCandidate, calm, judged, deletes, doomed.real, place]
  rw [applied]
  refine ⟨calm, rfl, ?_⟩
  rw [← written]
  exact ⟨rfl, rfl, rfl, rfl⟩

/-- What is sent after one more request. -/
theorem sent_cons {call : DeleteCall} {calls : List DeleteCall} {id : Nat} :
    Sent (call :: calls) id location ↔
      (id = call.backup.id ∧ location = call.location) ∨ Sent calls id location := by
  unfold Sent
  rw [List.exists_mem_cons_iff]
  refine or_congr ⟨?_, ?_⟩ Iff.rfl
  · rintro ⟨rfl, rfl⟩
    exact ⟨rfl, rfl⟩
  · rintro ⟨rfl, rfl⟩
    exact ⟨rfl, rfl⟩

/-- A doomed copy stays doomed where it stays removable. -/
theorem Doomed.transfer {later : BackupHistory} {db next : Database}
    (doomed : Doomed input db location record) (key : later.key = record.key)
    (same : policy input.settings next input.backupId = policy input.settings db input.backupId)
    (guests : ∀ id, guestForBackup next id = guestForBackup db id)
    (removable : Removable (policy input.settings db input.backupId) next location later) :
    Doomed input next location later where
  covered := by
    have covered := doomed.covered
    unfold Covers at covered ⊢
    simp only [guests, key]
    exact covered
  resolved := same ▸ doomed.resolved
  real := same ▸ doomed.real
  removable := same ▸ removable

/-- One candidate: its copy is marked, and every other candidate is still to come. -/
theorem work_candidate (obliging : Obliging input) (worked : Worked start state marks)
    (pending : Waiting input state original) :
    ∃ marks, Worked start (applyCandidate input state original) marks ∧
      (∀ id location, Sent (applyCandidate input state original).calls id location ↔
        (id = original.backup.id ∧ location = original.location) ∨
          Sent state.calls id location) ∧
      ∀ later, Waiting input state later → later.key ≠ original.key →
        (original.location = .remoteCopy → later.location = .localCopy →
          later.backup.key ≠ original.backup.key) →
        Waiting input (applyCandidate input state original) later := by
  obtain ⟨record, named, key, doomed⟩ := pending.doomed
  obtain ⟨now, calm, calls, tables⟩ := applyCandidate_sends obliging worked.calm doomed named
  have sent : ∀ id location, Sent (applyCandidate input state original).calls id location ↔
      (id = original.backup.id ∧ location = original.location) ∨ Sent state.calls id location := by
    intro id location
    rw [calls, sent_cons, named]
  have kept : Preserves start (applyCandidate input state original) := by
    refine worked.kept.mark tables ?_ ((sent _ _).mpr (.inl ⟨named, rfl⟩))
    rw [calls]
    exact fun call was => List.mem_cons_of_mem _ was
  have policies : policy input.settings (applyCandidate input state original).db input.backupId =
      policy input.settings state.db input.backupId :=
    kept.policy_eq.trans worked.kept.policy_eq.symm
  have guests : ∀ id, guestForBackup (applyCandidate input state original).db id =
      guestForBackup state.db id := by
    intro id
    rw [← guestForBackup_markDeleted state.db original.location record.id id now]
    unfold guestForBackup
    rw [tables.history]
  let marked := Function.update marks record.id
    (Function.update (marks record.id) original.location (some now))
  refine ⟨marked, ⟨calm, kept, ?_, ?_⟩, sent, ?_⟩
  · -- The mark is the next one the row was to get.
    have unsent : marks record.id original.location = none := by
      rw [← Option.not_isSome_iff_eq_none, worked.sent, named]
      exact pending.unsent
    have image : ∀ row, wear (Function.update (marks record.id) original.location (some now)) row =
        markDeletedRow original.location now (wear (marks record.id) row) := by
      intro row
      cases place : original.location with
      | localCopy =>
        have unspoiled : marks record.id .remoteCopy = none := by
          rw [← Option.not_isSome_iff_eq_none, worked.sent, named]
          exact pending.unspoiled place
        rw [place] at unsent
        simp [wear, wearAt, unsent, unspoiled]
      | remoteCopy =>
        rw [place] at unsent
        simp [wear, wearAt, unsent]
    rw [tables.history]
    simp only [markDeleted, Table.modify, worked.worn, List.map_map]
    apply List.map_congr_left
    intro row _
    simp only [Function.comp_apply, (sameBackup_wear (marks row.id) row).id]
    by_cases same : row.id = record.id
    · rw [if_pos same]
      simp only [marked, same, Function.update_self]
      exact (image row).symm
    · rw [if_neg same]
      simp only [marked, Function.update_of_ne same]
  · intro id location
    rw [sent, ← worked.sent]
    by_cases same : id = record.id
    · subst same
      by_cases here : location = original.location
      · simp [marked, here, named]
      · simp [marked, here]
    · have other : id ≠ original.backup.id := named ▸ same
      simp [marked, Function.update_of_ne same, other]
  · intro later waits different order
    obtain ⟨row, rowNamed, rowKey, rowDoomed⟩ := waits.doomed
    have apart : row.id = record.id → later.location ≠ original.location := by
      intro same here
      exact different (Prod.ext (rowNamed.symm.trans (same.trans named)) here)
    have turn : original.location = .remoteCopy → later.location = .localCopy →
        record.key ≠ row.key := by
      intro there here same
      exact order there here (rowKey.symm.trans (same.symm.trans key))
    obtain ⟨next, nextNamed, nextKey, removable⟩ :=
      doomed.removable.mark rowDoomed.removable apart turn
    refine ⟨?_, ?_, next, nextNamed.trans rowNamed, nextKey.trans rowKey, ?_⟩
    · rw [sent, not_or]
      exact ⟨fun same => different (Prod.ext same.1 same.2), waits.unsent⟩
    · intro here
      rw [sent, not_or]
      refine ⟨fun same => ?_, waits.unspoiled here⟩
      have row_ : row = record := Table.eq_of_key rowDoomed.removable.stored
        doomed.removable.stored (rowNamed.trans (same.1.trans named.symm))
      exact turn same.2.symm here (congrArg BackupHistory.key row_.symm)
    · exact rowDoomed.transfer nextKey policies guests (removable.congr tables)

/-- Every candidate is sent when its turn comes. -/
theorem work_candidates (obliging : Obliging input) (worked : Worked start state marks)
    (pending : ∀ original ∈ chosen, Waiting input state original)
    (distinct : (chosen.map PlannedDecision.key).Nodup)
    (ordered : chosen.Pairwise fun first later => first.location = .remoteCopy →
      later.location = .localCopy → later.backup.key ≠ first.backup.key) :
    ∃ marks, Worked start (chosen.foldl (applyCandidate input) state) marks ∧
      ∀ id location, Sent (chosen.foldl (applyCandidate input) state).calls id location ↔
        (∃ original ∈ chosen, original.key = (id, location)) ∨ Sent state.calls id location := by
  induction chosen generalizing state marks with
  | nil => exact ⟨marks, worked, fun id location => by simp⟩
  | cons original rest ih =>
    rw [List.map_cons, List.nodup_cons] at distinct
    rw [List.pairwise_cons] at ordered
    obtain ⟨next, nextWorked, nextSent, waits⟩ :=
      work_candidate obliging worked (pending original List.mem_cons_self)
    obtain ⟨last, lastWorked, lastSent⟩ := ih nextWorked (by
      intro later member
      refine waits later (pending later (List.mem_cons_of_mem _ member)) ?_ (ordered.1 later member)
      intro same
      exact distinct.1 (same ▸ List.mem_map_of_mem member)) distinct.2 ordered.2
    refine ⟨last, lastWorked, fun id location => ?_⟩
    rw [List.foldl_cons, lastSent, nextSent, List.exists_mem_cons_iff, PlannedDecision.key,
      Prod.mk.injEq, @eq_comm _ id, @eq_comm _ location, ← or_assoc,
      @or_comm (∃ later ∈ rest, later.key = (id, location))]

/-- A pass that has not asked for anything. -/
theorem worked_start (calls : state.calls = []) (calm : state.raised = none)
    (same : SameTables start state.db) : Worked start state fun _ _ => none where
  calm := calm
  kept := by
    have fresh : Preserves start ⟨start, [], [], none⟩ :=
      ⟨rfl, rfl, rfl, fun _ => rfl, fun record stored =>
        ⟨record, stored, rfl, rfl, fun _ _ copy => copy, fun _ usable => usable⟩⟩
    exact fresh.congr same (fun _ was => absurd was List.not_mem_nil)
  worn := by
    rw [same.history]
    exact (List.map_id _).symm
  sent id location := by
    rw [calls]
    refine iff_of_false Bool.false_ne_true ?_
    exact fun ⟨_, was, _⟩ => List.not_mem_nil was

/-- What a pass did: the doomed copies were sent, and each row has exactly its marks. -/
theorem applyPass_worked (obliging : Obliging input) :
    (∀ id location, Sent (applyPass input start).calls id location ↔
      ∃ record ∈ start.history, record.id = id ∧ Doomed input start location record) ∧
    ∃ marks : Nat → RetentionLocation → Option Instant, (applyPass input start).db.history.rows =
        start.history.rows.map (fun row => wear (marks row.id) row) ∧
      ∀ id location, (marks id location).isSome = true ↔
        Sent (applyPass input start).calls id location := by
  unfold applyPass
  dsimp only
  cases classified : plans (policy input.settings start input.backupId) start input.backupId with
  | error message =>
    have unsent : ∀ id location, ¬ Sent [] id location :=
      fun _ _ ⟨_, was, _⟩ => List.not_mem_nil was
    refine ⟨fun id location => iff_of_false (unsent id location) ?_, fun _ _ => none,
      (List.map_id _).symm, fun id location => iff_of_false Bool.false_ne_true (unsent id location)⟩
    rintro ⟨record, -, -, doomed⟩
    obtain ⟨planned, other, -⟩ := exists_plan doomed.covered doomed.resolved doomed.removable
    rw [classified] at other
    cases other
  | ok planned =>
    dsimp only
    obtain ⟨calls, same⟩ := settleStatic_foldl input (policy input.settings start input.backupId)
      planned ⟨start, [], [], none⟩
    have calm := @foldl_settleStatic_raised input
      (policy input.settings start input.backupId) planned ⟨start, [], [], none⟩
    let opened := planned.foldl (settleStatic input (policy input.settings start input.backupId))
      ⟨start, [], [], none⟩
    have fresh : Worked start opened fun _ _ => none := worked_start calls calm same
    have sublist : (candidates (policy input.settings start input.backupId) planned).Sublist
      planned := List.filter_sublist
    have candidate : ∀ original ∈ candidates (policy input.settings start input.backupId) planned,
        Doomed input start original.location original.backup := by
      intro original listed
      simp only [candidates, List.mem_filter, Bool.and_eq_true, Bool.not_eq_eq_eq_not,
        Bool.not_true] at listed
      obtain ⟨covered, resolved⟩ := plans_covered classified listed.1 listed.2.1
      exact ⟨covered, resolved, listed.2.2, plans_removable classified listed.1 listed.2.1⟩
    obtain ⟨marks, worked, sent⟩ := work_candidates obliging fresh (by
        intro original listed
        have unsent : ∀ location, ¬ Sent opened.calls original.backup.id location := by
          intro location was
          rw [show opened.calls = [] from calls] at was
          exact List.not_mem_nil was.choose_spec.1
        have doomed := candidate original listed
        refine ⟨unsent _, fun _ => unsent _, original.backup, rfl, rfl, ?_⟩
        refine doomed.transfer rfl fresh.kept.policy_eq (fun id => ?_) (doomed.removable.congr same)
        unfold guestForBackup
        rw [same.history])
      ((plans_nodup classified).sublist (sublist.map _))
      ((plans_ordered classified).sublist sublist)
    refine ⟨fun id location => ?_, marks, worked.worn, worked.sent⟩
    rw [sent, or_iff_left (fun was => by
      rw [show opened.calls = [] from calls] at was
      exact List.not_mem_nil was.choose_spec.1)]
    constructor
    · rintro ⟨original, listed, key⟩
      have doomed := candidate original listed
      obtain ⟨rfl, rfl⟩ := Prod.mk.inj key
      exact ⟨original.backup, doomed.removable.stored, rfl, doomed⟩
    · rintro ⟨record, -, rfl, doomed⟩
      obtain ⟨others, again, plan, member, rfl, rfl, deletes⟩ :=
        exists_plan doomed.covered doomed.resolved doomed.removable
      rw [classified] at again
      obtain rfl := Except.ok.inj again
      refine ⟨plan, List.mem_filter.mpr ⟨member, ?_⟩, rfl⟩
      rw [deletes, doomed.real]
      rfl

end Work

end ProxSync.Retention
