import ProxSync.Retention.Audit
/-!
# Where the counts of a pass come from

Counts are taken from the stored options of the triggering run only when both are integers within
the bounds, and a run whose provenance is missing or unreadable leaves the policy unresolved, under
which nothing is deleted. Once a run has frozen its counts, what a pass decides about its guest does
not depend on the counts of the settings, on the jobs or on the rows of other guests.
-/
open ProxSync.Lib

namespace ProxSync.Retention

/-- Counts a policy may use. -/
def CountsInRange (keep : KeepCounts) : Prop :=
  1 ≤ keep.keepLocal ∧ keep.keepLocal ≤ 365 ∧ keep.keepRemote ≤ 365

/-- The source a run has stored, whatever value it is. -/
def storedSource (options : Option JsonDict) : Option JsonValue :=
  options.bind fun raw => raw.get? "retention_source"

/-- The counts a run has frozen: two integers. -/
def FrozenCounts (options : Option JsonDict) (keep : KeepCounts) : Prop :=
  ∃ raw, options = some raw ∧ raw.get? "keep_local" = some (.int keep.keepLocal) ∧
    raw.get? "keep_remote" = some (.int keep.keepRemote)

/-- The counts of the surviving job. -/
def JobCounts (context : RetentionPolicyContext) (keep : KeepCounts) : Prop :=
  context.jobKeepLocal = some (keep.keepLocal : Int) ∧
    context.jobKeepRemote = some (keep.keepRemote : Int)

/-- What entitles a policy to its counts. -/
inductive ResolvedFrom (globalKeep : KeepCounts) (context : Option RetentionPolicyContext) :
    RetentionSource → KeepCounts → Prop
  | noRun (imported : context = none) : ResolvedFrom globalKeep context .global globalKeep
  | global {run : RetentionPolicyContext} (known : context = some run)
      (stored : storedSource run.options = some (.str "global")) :
      ResolvedFrom globalKeep context .global globalKeep
  | job {run : RetentionPolicyContext} {keep : KeepCounts} (known : context = some run)
      (stored : storedSource run.options = some (.str "job"))
      (frozen : FrozenCounts run.options keep) : ResolvedFrom globalKeep context .job keep
  | legacyFrozen {run : RetentionPolicyContext} {keep : KeepCounts} (known : context = some run)
      (silent : storedSource run.options = none) (linked : run.jobId.isSome = true)
      (frozen : FrozenCounts run.options keep) : ResolvedFrom globalKeep context .legacyJob keep
  | legacyJob {run : RetentionPolicyContext} {keep : KeepCounts} (known : context = some run)
      (silent : storedSource run.options = none) (linked : run.jobId.isSome = true)
      (unfrozen : ∀ other, ¬ FrozenCounts run.options other) (surviving : JobCounts run keep) :
      ResolvedFrom globalKeep context .legacyJob keep

/-- A resolution has counts in range that it is entitled to, or it is unresolved for a reason. -/
def Provenance (globalKeep : KeepCounts) (context : Option RetentionPolicyContext)
    (resolution : PolicyResolution) : Prop :=
  (resolution.resolved = true ∧ CountsInRange resolution.keep ∧
    ResolvedFrom globalKeep context resolution.source resolution.keep) ∨
  (resolution.resolved = false ∧ resolution.source = .unresolved ∧
    resolution.blockReason.isSome = true)

section Resolution

variable {globalKeep keep : KeepCounts} {options : Option JsonDict}
  {context : RetentionPolicyContext}

/-- Bounded counts are the given ones. -/
theorem boundedCounts_eq_some {keepLocal keepRemote : Int} :
    boundedCounts keepLocal keepRemote = some keep ↔
      keepLocal = keep.keepLocal ∧ keepRemote = keep.keepRemote := by
  unfold boundedCounts
  constructor
  · intro found
    split at found
    · obtain rfl := Option.some.inj found
      constructor <;> simp only <;> omega
    · cases found
  · rintro ⟨rfl, rfl⟩
    have localBounds := keep.localBounds
    have remoteBound := keep.remoteBound
    rw [dif_pos (by omega)]
    simp

/-- Every policy's counts are in range. -/
theorem countsInRange (keep : KeepCounts) : CountsInRange keep :=
  ⟨keep.localBounds.1, keep.localBounds.2, keep.remoteBound⟩

/-- Frozen counts are read exactly where two integers in range are stored. -/
theorem rawRetentionCounts_eq_some :
    rawRetentionCounts (options.getD .empty) = some keep ↔ FrozenCounts options keep := by
  cases options with
  | none =>
    refine iff_of_false (fun found => ?_) ?_
    · simp [rawRetentionCounts, JsonDict.empty, JsonDict.get?] at found
    · rintro ⟨raw, stored, _⟩
      cases stored
  | some raw =>
    unfold rawRetentionCounts
    constructor
    · intro found
      simp only [Option.getD_some] at found
      split at found
      · rename_i keepLocal keepRemote one two
        obtain ⟨rfl, rfl⟩ := boundedCounts_eq_some.mp found
        exact ⟨raw, rfl, one, two⟩
      · cases found
    · rintro ⟨other, stored, one, two⟩
      obtain rfl := Option.some.inj stored
      simp only [Option.getD_some, one, two]
      exact boundedCounts_eq_some.mpr ⟨rfl, rfl⟩

/-- The counts of the surviving job are read exactly where both are in range. -/
theorem linkedJobCounts_eq_some : linkedJobCounts context = some keep ↔ JobCounts context keep := by
  unfold linkedJobCounts JobCounts
  constructor
  · intro found
    split at found
    · rename_i keepLocal keepRemote one two
      obtain ⟨rfl, rfl⟩ := boundedCounts_eq_some.mp found
      exact ⟨one, two⟩
    · cases found
  · rintro ⟨one, two⟩
    simp only [one, two]
    exact boundedCounts_eq_some.mpr ⟨rfl, rfl⟩

/-- The source is read from the stored options. -/
theorem get_retention_source :
    (options.getD .empty).get? "retention_source" = storedSource options := by
  cases options <;> rfl

/-- Whatever options are stored, a policy is entitled to its counts or unresolved. -/
theorem resolvePolicy_provenance (context : Option RetentionPolicyContext)
    (globalKeep : KeepCounts) :
    Provenance globalKeep context (resolvePolicy context globalKeep) := by
  unfold resolvePolicy
  cases context with
  | none => exact .inl ⟨rfl, countsInRange _, .noRun rfl⟩
  | some run =>
    dsimp only
    rw [JsonDict.contains, get_retention_source]
    by_cases globally : storedSource run.options = some (.str "global")
    · rw [if_pos globally]
      exact .inl ⟨rfl, countsInRange _, .global rfl globally⟩
    · rw [if_neg globally]
      by_cases jobwise : storedSource run.options = some (.str "job")
      · rw [if_pos jobwise]
        cases counts : rawRetentionCounts (run.options.getD .empty) with
        | none => exact .inr ⟨rfl, rfl, rfl⟩
        | some keep =>
          exact .inl ⟨rfl, countsInRange _,
            .job rfl jobwise (rawRetentionCounts_eq_some.mp counts)⟩
      · rw [if_neg jobwise]
        by_cases present : (storedSource run.options).isSome = true
        · rw [if_pos present]
          exact .inr ⟨rfl, rfl, rfl⟩
        · rw [if_neg present]
          have silent : storedSource run.options = none := by simpa using present
          by_cases linked : run.jobId.isSome = true
          · rw [if_pos linked]
            cases frozen : rawRetentionCounts (run.options.getD .empty) with
            | some keep =>
              exact .inl ⟨rfl, countsInRange _,
                .legacyFrozen rfl silent linked (rawRetentionCounts_eq_some.mp frozen)⟩
            | none =>
              rw [Option.none_or]
              cases surviving : linkedJobCounts run with
              | none => exact .inr ⟨rfl, rfl, rfl⟩
              | some keep =>
                refine .inl ⟨rfl, countsInRange _, .legacyJob rfl silent linked ?_
                  (linkedJobCounts_eq_some.mp surviving)⟩
                intro other stored
                rw [rawRetentionCounts_eq_some.mpr stored] at frozen
                cases frozen
          · rw [if_neg linked]
            exact .inr ⟨rfl, rfl, rfl⟩

end Resolution

/-! ## An unresolved policy -/

section Unresolved

variable {input : PassInput} {db : Database} {current : RetentionPolicySnapshot}

/-- An unresolved policy plans no deletion. -/
theorem plans_unresolved {backupId : Option Nat} {planned : List PlannedDecision}
    (unresolved : current.policyResolved = false)
    (classified : plans current db backupId = .ok planned) :
    ∀ plan ∈ planned, plan.wouldDelete = false := by
  unfold plans at classified
  cases scope : guestsInScope db backupId with
  | error message => simp [scope, Except.map] at classified
  | ok guests =>
    simp only [scope, Except.map, Except.ok.injEq] at classified
    intro plan member
    rw [← classified, List.mem_flatMap] at member
    obtain ⟨guest, _, inGuest⟩ := member
    unfold guestPlans at inGuest
    rw [unresolved] at inGuest
    rcases List.mem_append.mp inGuest with listed | listed <;>
    · obtain ⟨row, _, rfl⟩ := List.mem_map.mp listed
      rfl

/-- A pass under an unresolved policy asks for no deletion and marks nothing. -/
theorem applyPass_unresolved
    (unresolved : (policy input.settings db input.backupId).policyResolved = false) :
    (applyPass input db).calls = [] ∧ (apply input db).1.history = db.history := by
  rw [apply_db]
  unfold applyPass
  dsimp only
  cases classified : plans (policy input.settings db input.backupId) db input.backupId with
  | error message => exact ⟨rfl, rfl⟩
  | ok planned =>
    have idle : candidates (policy input.settings db input.backupId) planned = [] := by
      refine List.filter_eq_nil_iff.mpr fun plan member => ?_
      simp [plans_unresolved unresolved classified plan member]
    obtain ⟨calls, same⟩ := settleStatic_foldl input (policy input.settings db input.backupId)
      planned ⟨db, [], [], none⟩
    dsimp only
    rw [idle]
    exact ⟨calls, same.history⟩

end Unresolved

/-! ## Two databases -/

/-- The options of the run a backup came from. -/
def runOptionsForBackup (db : Database) (backupId : Nat) : Option JsonDict :=
  (retentionPolicyContext db backupId).bind RetentionPolicyContext.options

/-- The copy a request names. -/
def DeleteCall.target (call : DeleteCall) : RetentionBackup × RetentionLocation :=
  (call.backup, call.location)

/-- The same pass with other counts in the settings. -/
def PassInput.withKeep (input : PassInput) (keep : KeepCounts) : PassInput :=
  { input with
    settings := ⟨{ input.settings.retention with keep := keep }, input.settings.gdrive⟩ }

/-- Two databases that agree about a guest: its rows, the restores of its backups and the options of
the run that triggers a pass. -/
structure SameForGuest (guest : GuestKey) (trigger : Nat) (first second : Database) : Prop where
  history : second.history.rows.filter (fun record => record.key == guest) =
    first.history.rows.filter fun record => record.key == guest
  restores : ∀ record ∈ first.history, record.key = guest →
    second.restores.rows.filter (fun restore => restore.backupId == record.id) =
      first.restores.rows.filter fun restore => restore.backupId == record.id
  options : runOptionsForBackup second trigger = runOptionsForBackup first trigger

/-- Two policies under which the same is decided. -/
structure DecidesAlike (first second : RetentionPolicySnapshot) : Prop where
  resolved : second.policyResolved = first.policyResolved
  reason : second.policyBlockReason = first.policyBlockReason
  keep : first.policyResolved = true → second.keep = first.keep
  dryRun : second.dryRun = first.dryRun
  gdrive : second.gdriveEnabled = first.gdriveEnabled
  remote : second.deleteRemoteOnRetention = first.deleteRemoteOnRetention

/-- The counts of a run are frozen on its job. -/
def FrozenOnJob (db : Database) (trigger : Nat) : Prop :=
  storedSource (runOptionsForBackup db trigger) = some (.str "job")

instance (db : Database) (trigger : Nat) : Decidable (FrozenOnJob db trigger) :=
  inferInstanceAs (Decidable (_ = _))

section Alike

variable {guest : GuestKey} {trigger : Nat} {first second : Database}
  {current other : RetentionPolicySnapshot}

/-- A frozen policy is decided by the options of its run. -/
theorem resolvePolicy_frozen {context : RetentionPolicyContext} (globalKeep : KeepCounts)
    (frozen : storedSource context.options = some (.str "job")) :
    resolvePolicy (some context) globalKeep =
      match rawRetentionCounts (context.options.getD .empty) with
      | some counts => resolvedPolicy counts .job context
      | none => unresolvedPolicy globalKeep "retention_policy_job_counts_missing" context := by
  have onJob : (context.options.getD .empty).get? "retention_source" = some (.str "job") :=
    get_retention_source.trans frozen
  have notGlobal : ¬ (context.options.getD .empty).get? "retention_source" =
      some (.str "global") := by
    rw [onJob]
    decide
  exact (if_neg notGlobal).trans (if_pos onJob)

/-- The counts of the settings and the job of the run do not change what a frozen policy
decides. -/
theorem policy_decidesAlike {input : PassInput} (keep : KeepCounts)
    (frozen : FrozenOnJob first trigger)
    (options : runOptionsForBackup second trigger = runOptionsForBackup first trigger) :
    DecidesAlike (policy input.settings first (some trigger))
      (policy (input.withKeep keep).settings second (some trigger)) := by
  unfold FrozenOnJob at frozen
  have again := frozen
  rw [← options] at again
  unfold runOptionsForBackup at frozen again options
  cases one : retentionPolicyContext first trigger with
  | none =>
    rw [one] at frozen
    cases frozen
  | some context =>
    cases two : retentionPolicyContext second trigger with
    | none =>
      rw [two] at again
      cases again
    | some context' =>
      rw [one] at frozen options
      rw [two] at again options
      simp only [Option.bind_some] at frozen again options
      simp only [policy, one, two, resolvePolicy_frozen _ frozen, resolvePolicy_frozen _ again,
        options, PassInput.withKeep]
      cases rawRetentionCounts (context.options.getD .empty) with
      | none =>
        exact ⟨rfl, rfl, (fun resolved => absurd resolved Bool.false_ne_true), rfl, rfl, rfl⟩
      | some counts => exact ⟨rfl, rfl, fun _ => rfl, rfl, rfl, rfl⟩

/-- Both databases hold the same copies of the guest. -/
theorem SameForGuest.copies (same : SameForGuest guest trigger first second)
    (location : RetentionLocation) :
    copiesForGuest second location guest = copiesForGuest first location guest := by
  have split : ∀ db : Database, db.history.rows.filter (fun record =>
      record.key == guest && hasCopy location record) =
        (db.history.rows.filter fun record => record.key == guest).filter (hasCopy location) := by
    intro db
    rw [List.filter_filter]
    exact List.filter_congr fun _ _ => Bool.and_comm _ _
  unfold copiesForGuest
  rw [split, split, same.history]

/-- Both databases know the same about restores of the guest's backups. -/
theorem SameForGuest.active (same : SameForGuest guest trigger first second)
    {record : BackupHistory} (stored : record ∈ first.history) (own : record.key = guest) :
    hasActiveRestore second record.id = hasActiveRestore first record.id := by
  have split : ∀ db : Database, hasActiveRestore db record.id =
      (db.restores.rows.filter fun restore => restore.backupId == record.id).any
        fun restore => restore.status.blocksRetention := by
    intro db
    rw [hasActiveRestore, List.any_filter]
  rw [split, split, same.restores record stored own]

/-- Both databases hold the same rows of the guest. -/
theorem SameForGuest.mem (same : SameForGuest guest trigger first second)
    {record : BackupHistory} (own : record.key = guest) :
    record ∈ second.history ↔ record ∈ first.history := by
  have listed : ∀ db : Database, record ∈ db.history ↔
      record ∈ db.history.rows.filter fun row => row.key == guest := by
    intro db
    simp [Table.mem_iff, own]
  rw [listed, listed, same.history]

/-- Both databases classify the guest alike. -/
theorem SameForGuest.guestPlans (same : SameForGuest guest trigger first second)
    (alike : DecidesAlike current other) :
    guestPlans other second guest = guestPlans current first guest := by
  have copies := same.copies
  have active : ∀ location, ∀ row ∈ copiesForGuest first location guest,
      hasActiveRestore second row.id = hasActiveRestore first row.id := by
    intro location row listed
    obtain ⟨stored, own, _⟩ := mem_copiesForGuest.mp listed
    exact same.active stored own
  unfold Retention.guestPlans localForGuest remoteForGuest
  dsimp only
  rw [copies, copies, alike.resolved, alike.reason]
  split
  · rename_i resolved
    rw [alike.keep resolved]
    congr 1
    · refine List.map_congr_left fun row listed => ?_
      unfold classify localBlocker
      rw [active .localCopy row listed]
    · unfold remotePlans
      rw [alike.keep resolved]
      refine List.map_congr_left fun row listed => ?_
      unfold classify remoteBlocker
      rw [active .remoteCopy row listed, alike.remote, alike.gdrive]
  · rfl

/-- The trigger belongs to the guest in both databases. -/
theorem SameForGuest.triggered (same : SameForGuest guest trigger first second)
    (own : guestForBackup first trigger = some guest) :
    guestForBackup second trigger = some guest := by
  obtain ⟨record, found, key⟩ := Option.map_eq_some_iff.mp own
  obtain ⟨stored, named⟩ := Table.get_eq_some.mp found
  have there : second.history.get trigger = some record :=
    Table.get_eq_some.mpr ⟨(same.mem key).mpr stored, named⟩
  rw [guestForBackup, there, Option.map_some, key]

/-- A pass is about the guest of its trigger. -/
theorem plans_trigger (own : guestForBackup first trigger = some guest) :
    plans current first (some trigger) = .ok (Retention.guestPlans current first guest) := by
  simp [plans, guestsInScope, own, Except.map]

/-- What is known of a guest does not depend on the audited decisions. -/
theorem SameForGuest.congr (same : SameForGuest guest trigger first second)
    {firstAfter secondAfter : Database} (one : SameTables first firstAfter)
    (two : SameTables second secondAfter) : SameForGuest guest trigger firstAfter secondAfter where
  history := by rw [one.history, two.history, same.history]
  restores := by
    rw [one.history, one.restores, two.restores]
    exact same.restores
  options := by
    have unchanged : ∀ {db after : Database}, SameTables db after →
        runOptionsForBackup after trigger = runOptionsForBackup db trigger := by
      intro db after tables
      unfold runOptionsForBackup retentionPolicyContext
      rw [tables.history, tables.runs, tables.jobs]
    rw [unchanged one, unchanged two, same.options]

/-- A mark does not change which run a policy is read from. -/
theorem retentionPolicyContext_markDeleted (db : Database) (location : RetentionLocation)
    (backupId other : Nat) (now : Instant) :
    retentionPolicyContext (markDeleted db location backupId now) other =
      retentionPolicyContext db other := by
  unfold retentionPolicyContext
  simp only [markDeleted, Table.get_modify]
  split
  · cases db.history.get other with
    | none => rfl
    | some record => simp
  · rfl

/-- The guest's rows after a mark are the marked rows of the guest. -/
theorem filter_markDeleted (db : Database) (location : RetentionLocation) (backupId : Nat)
    (now : Instant) :
    (markDeleted db location backupId now).history.rows.filter (fun row => row.key == guest) =
      (db.history.rows.filter fun row => row.key == guest).map fun row =>
        if row.id = backupId then markDeletedRow location now row else row := by
  simp only [markDeleted, Table.modify, List.filter_map]
  congr 1
  refine List.filter_congr fun row _ => ?_
  simp only [Function.comp_apply]
  split
  · rw [(markDeletedRow_owner location now row).2]
  · rfl

/-- The same mark leaves both databases alike. -/
theorem SameForGuest.mark (same : SameForGuest guest trigger first second)
    (location : RetentionLocation) (backupId : Nat) (now : Instant) :
    SameForGuest guest trigger (markDeleted first location backupId now)
      (markDeleted second location backupId now) where
  history := by rw [filter_markDeleted, filter_markDeleted, same.history]
  restores := by
    intro record stored own
    rcases mem_markDeleted.mp stored with ⟨old, was, _, rfl⟩ | ⟨was, _⟩
    · rw [markDeletedRow_id]
      exact same.restores old was ((markDeletedRow_owner _ _ _).2.symm.trans own)
    · exact same.restores record was own
  options := by
    unfold runOptionsForBackup
    rw [retentionPolicyContext_markDeleted, retentionPolicyContext_markDeleted]
    exact same.options

/-- A mark keeps the guest of the trigger. -/
theorem guestForBackup_markDeleted (db : Database) (location : RetentionLocation)
    (backupId other : Nat) (now : Instant) :
    guestForBackup (markDeleted db location backupId now) other = guestForBackup db other := by
  unfold guestForBackup
  simp only [markDeleted, Table.get_modify]
  split
  · cases db.history.get other with
    | none => rfl
    | some record => simp
  · rfl

end Alike

/-! ## Two passes -/

/-- Two passes over a guest that have decided and asked for the same. -/
structure PassesAlike (guest : GuestKey) (trigger : Nat) (first second : PassState) : Prop where
  db : SameForGuest guest trigger first.db second.db
  own : guestForBackup first.db trigger = some guest
  frozen : FrozenOnJob first.db trigger
  calls : second.calls.map DeleteCall.target = first.calls.map DeleteCall.target
  completed : second.completed = first.completed
  raised : second.raised = first.raised

section Passes

variable {guest : GuestKey} {trigger : Nat} {first second : PassState} {input : PassInput}
  {keep : KeepCounts} {current other : RetentionPolicySnapshot}

/-- Settling the same decision leaves both passes alike. -/
theorem PassesAlike.settle (alike : PassesAlike guest trigger first second)
    (plan : PlannedDecision) (item : RetentionDecision) (projected : Option Int) :
    PassesAlike guest trigger (first.settle input plan item current projected)
      (second.settle (input.withKeep keep) plan item other projected) where
  db := alike.db.congr ⟨rfl, rfl, rfl, rfl⟩ ⟨rfl, rfl, rfl, rfl⟩
  own := alike.own
  frozen := alike.frozen
  calls := alike.calls
  completed := by
    show item :: second.completed = item :: first.completed
    rw [alike.completed]
  raised := alike.raised

/-- The first decisions leave both passes alike. -/
theorem PassesAlike.static (policies : DecidesAlike current other)
    (planned : List PlannedDecision) (alike : PassesAlike guest trigger first second) :
    PassesAlike guest trigger (planned.foldl (settleStatic input current) first)
      (planned.foldl (settleStatic (input.withKeep keep) other) second) := by
  induction planned generalizing first second with
  | nil => exact alike
  | cons plan rest ih =>
    refine ih ?_
    unfold settleStatic
    rw [policies.dryRun]
    split
    · split
      · exact alike.settle plan _ _
      · exact alike
    · exact alike.settle plan _ _

/-- Both passes judge a candidate alike. -/
theorem PassesAlike.judge (alike : PassesAlike guest trigger first second)
    (triggered : input.backupId = some trigger) (original : PlannedDecision) (keep : KeepCounts) :
    ∃ current other plan, DecidesAlike current other ∧
      revalidateCandidate input first.db original = .ok (current, plan) ∧
      revalidateCandidate (input.withKeep keep) second.db original = .ok (other, plan) := by
  have policies : DecidesAlike (policy input.settings first.db (some trigger))
      (policy (input.withKeep keep).settings second.db (some trigger)) :=
    policy_decidesAlike keep alike.frozen alike.db.options
  have same := alike.db.guestPlans policies
  refine ⟨policy input.settings first.db (some trigger),
    policy (input.withKeep keep).settings second.db (some trigger), ?_⟩
  have again : (input.withKeep keep).backupId = some trigger := triggered
  unfold revalidateCandidate
  rw [triggered, again]
  dsimp only
  rw [plans_trigger alike.own, plans_trigger (alike.db.triggered alike.own), same]
  simp only [Except.map]
  split
  · exact ⟨_, policies, rfl, rfl⟩
  · exact ⟨_, policies, rfl, rfl⟩

/-- The same answer leaves both databases alike. -/
theorem delete_alike {one two : Database} (same : SameForGuest guest trigger one two)
    (plan : PlannedDecision) (reply : DeleteReply) (now : Instant) :
    SameForGuest guest trigger (delete one plan reply now).1 (delete two plan reply now).1 ∧
      (delete two plan reply now).2 = (delete one plan reply now).2 := by
  refine ⟨?_, ?_⟩
  · rw [delete_written, delete_written]
    split
    · exact same.mark _ _ _
    · exact same
  · cases reply with
    | removed | appError | crashed => rfl
    | agentError agentStatus detail =>
      unfold delete
      dsimp only
      split <;> rfl

/-- A deletion keeps the guest of the trigger and the options of its run. -/
theorem delete_keeps (db : Database) (plan : PlannedDecision) (reply : DeleteReply) (now : Instant)
    (trigger : Nat) :
    guestForBackup (delete db plan reply now).1 trigger = guestForBackup db trigger ∧
      runOptionsForBackup (delete db plan reply now).1 trigger =
        runOptionsForBackup db trigger := by
  rw [delete_written]
  split
  · refine ⟨guestForBackup_markDeleted _ _ _ _ _, ?_⟩
    unfold runOptionsForBackup
    rw [retentionPolicyContext_markDeleted]
  · exact ⟨rfl, rfl⟩

/-- One candidate leaves both passes alike. -/
theorem PassesAlike.candidate (alike : PassesAlike guest trigger first second)
    (triggered : input.backupId = some trigger) (original : PlannedDecision) :
    PassesAlike guest trigger (applyCandidate input first original)
      (applyCandidate (input.withKeep keep) second original) := by
  have stopped : second.raised.isSome = first.raised.isSome := by rw [alike.raised]
  unfold applyCandidate
  rw [stopped]
  split
  · exact alike
  · obtain ⟨current, other, plan, policies, one, two⟩ := alike.judge triggered original keep
    rw [one, two]
    dsimp only
    rw [policies.dryRun]
    split
    · exact alike.settle plan _ _
    · have count : second.calls.length = first.calls.length := by
        have mapped := congrArg List.length alike.calls
        rwa [List.length_map, List.length_map] at mapped
      have replies : (input.withKeep keep).agent = input.agent := rfl
      have times : (input.withKeep keep).clock = input.clock := rfl
      rw [count, replies, times]
      obtain ⟨db, item⟩ := delete_alike alike.db plan (input.agent first.calls.length)
        (input.clock first.calls.length)
      obtain ⟨own, options⟩ := delete_keeps first.db plan (input.agent first.calls.length)
        (input.clock first.calls.length) trigger
      rw [item]
      have written : PassesAlike guest trigger
          { first with
            db := (delete first.db plan (input.agent first.calls.length)
              (input.clock first.calls.length)).1
            calls := ⟨plan.backup, plan.location, first.db⟩ :: first.calls }
          { second with
            db := (delete second.db plan (input.agent first.calls.length)
              (input.clock first.calls.length)).1
            calls := ⟨plan.backup, plan.location, second.db⟩ :: second.calls } := {
        db := db
        own := own.trans alike.own
        frozen := by
          unfold FrozenOnJob
          rw [options]
          exact alike.frozen
        calls := by
          rw [List.map_cons, List.map_cons, alike.calls]
          rfl
        completed := alike.completed
        raised := alike.raised }
      exact written.settle plan _ _

/-- All candidates leave both passes alike. -/
theorem PassesAlike.candidates (triggered : input.backupId = some trigger)
    (chosen : List PlannedDecision) (alike : PassesAlike guest trigger first second) :
    PassesAlike guest trigger (chosen.foldl (applyCandidate input) first)
      (chosen.foldl (applyCandidate (input.withKeep keep)) second) := by
  induction chosen generalizing first second with
  | nil => exact alike
  | cons original rest ih => exact ih (alike.candidate triggered original)

/-- Passes over databases that agree about a guest are alike. -/
theorem applyPass_alike {one two : Database} (keep : KeepCounts)
    (triggered : input.backupId = some trigger) (same : SameForGuest guest trigger one two)
    (own : guestForBackup one trigger = some guest) (frozen : FrozenOnJob one trigger) :
    PassesAlike guest trigger (applyPass input one) (applyPass (input.withKeep keep) two) := by
  have again : (input.withKeep keep).backupId = some trigger := triggered
  have policies : DecidesAlike (policy input.settings one (some trigger))
      (policy (input.withKeep keep).settings two (some trigger)) :=
    policy_decidesAlike keep frozen same.options
  have start : PassesAlike guest trigger ⟨one, [], [], none⟩ ⟨two, [], [], none⟩ :=
    ⟨same, own, frozen, rfl, rfl, rfl⟩
  have chosen : ∀ planned, candidates (policy (input.withKeep keep).settings two (some trigger))
      planned = candidates (policy input.settings one (some trigger)) planned := by
    intro planned
    unfold candidates
    rw [policies.dryRun]
  unfold applyPass
  rw [triggered, again]
  dsimp only
  rw [plans_trigger own, plans_trigger (same.triggered own), same.guestPlans policies]
  dsimp only
  rw [chosen]
  exact (start.static policies _).candidates triggered _

/-- Passes over databases that agree about a guest decide the same. -/
theorem apply_alike {one two : Database} (keep : KeepCounts)
    (triggered : input.backupId = some trigger) (same : SameForGuest guest trigger one two)
    (own : guestForBackup one trigger = some guest) (frozen : FrozenOnJob one trigger) :
    (apply (input.withKeep keep) two).2.map RetentionResponse.items =
        (apply input one).2.map RetentionResponse.items ∧
      (applyPass (input.withKeep keep) two).calls.map DeleteCall.target =
        (applyPass input one).calls.map DeleteCall.target := by
  have alike := applyPass_alike keep triggered same own frozen
  have again : (input.withKeep keep).backupId = some trigger := triggered
  have policies : DecidesAlike (policy input.settings one (some trigger))
      (policy (input.withKeep keep).settings two (some trigger)) :=
    policy_decidesAlike keep frozen same.options
  refine ⟨?_, alike.calls⟩
  unfold apply
  dsimp only
  rw [again, triggered, plans_trigger own, plans_trigger (same.triggered own),
    same.guestPlans policies, alike.raised, alike.completed]
  cases (applyPass input one).raised <;> rfl

end Passes

/-- The counts of a pass are in range and come from where the run says, or nothing is deleted; and
what a run froze on its job decides the same whatever the settings count, whatever jobs there are
and whatever rows other guests have. -/
theorem retention_provenance :
    (∀ context globalKeep, Provenance globalKeep context (resolvePolicy context globalKeep)) ∧
    (∀ input db, (policy input.settings db input.backupId).policyResolved = false →
      (applyPass input db).calls = [] ∧ (apply input db).1.history = db.history) ∧
    (∀ input keep first second trigger guest, input.backupId = some trigger →
      guestForBackup first trigger = some guest → FrozenOnJob first trigger →
      SameForGuest guest trigger first second →
        (apply (input.withKeep keep) second).2.map RetentionResponse.items =
          (apply input first).2.map RetentionResponse.items ∧
        (applyPass (input.withKeep keep) second).calls.map DeleteCall.target =
          (applyPass input first).calls.map DeleteCall.target) :=
  ⟨resolvePolicy_provenance, fun _ _ unresolved => applyPass_unresolved unresolved,
    fun _ keep _ _ _ _ triggered own frozen same => apply_alike keep triggered same own frozen⟩

/-- A run that froze its counts on its job. -/
def frozenRun (jobId : Option Nat) : BackupRun where
  id := 1
  jobId := jobId
  trigger := .schedule
  status := .success
  guestTotal := 1
  guestSucceeded := 1
  guestFailed := 0
  targets := ⟨[⟨101, .vm, "files", "pve"⟩], by decide⟩
  options := some ⟨[("retention_source", .str "job"), ("keep_local", .int 1),
    ("keep_remote", .int 0)], by decide⟩
  startedAt := none
  finishedAt := none
  errorMessage := none

/-- The only copy of a guest, made by a run whose job is still there. -/
def frozenOnJob : Database :=
  { Database.empty with
    jobs := .singleton ⟨7, 1, 0⟩, runs := .singleton (frozenRun (some 7))
    history := .singleton { driveOnlyBackup with runId := some 1 } }

/-- The same copy after the job was deleted, with a backup of another guest. -/
def jobDeleted : Database :=
  { Database.empty with
    runs := .singleton (frozenRun none)
    history := Table.insert (.singleton { driveOnlyBackup with runId := some 1 })
      { driveOnlyBackup with id := 2, vmid := 102 } (by decide) }

/-- A pass removes the copy by the frozen counts, whatever the settings count and although the job
is gone. -/
theorem retention_provenance_frozen :
    (applyPass (promptPass ⟨1, 5, by decide, by decide⟩) frozenOnJob).calls.length = 1 ∧
      (apply ((promptPass ⟨1, 5, by decide, by decide⟩).withKeep ⟨3, 9, by decide, by decide⟩)
          jobDeleted).2.map RetentionResponse.items =
        (apply (promptPass ⟨1, 5, by decide, by decide⟩) frozenOnJob).2.map
          RetentionResponse.items :=
  ⟨by decide, (retention_provenance.2.2 (promptPass ⟨1, 5, by decide, by decide⟩)
    ⟨3, 9, by decide, by decide⟩ frozenOnJob jobDeleted 1 (101, .vm) rfl (by decide) (by decide)
    ⟨by decide, by decide, by decide⟩).1⟩

end ProxSync.Retention
