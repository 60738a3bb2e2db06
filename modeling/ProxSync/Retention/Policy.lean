import ProxSync.Retention.Repository
/-!
# Resolution of the retention policy

The counts of a pass come from the frozen options of the run that triggered it, from the job
that run belonged to, or from the settings. Where the provenance of a run cannot be
established the policy is unresolved, and every copy is left alone.
-/
open ProxSync.Lib

namespace ProxSync.Retention

/-- The sections of the settings a pass reads. -/
structure Settings where
  retention : RetentionSettings
  gdrive : GDriveSettings

/-- The counts a pass uses, and why. -/
structure PolicyResolution where
  keep : KeepCounts
  source : RetentionSource
  resolved : Bool
  blockReason : Option String
  runId : Option Nat
  jobId : Option Nat

/-- Counts inside the accepted bounds. -/
def boundedCounts (keepLocal keepRemote : Int) : Option KeepCounts :=
  if bounds : 1 ≤ keepLocal ∧ keepLocal ≤ 365 ∧ 0 ≤ keepRemote ∧ keepRemote ≤ 365 then
    some ⟨keepLocal.toNat, keepRemote.toNat, by omega, by omega⟩
  else none

/-- The frozen counts of a run: both present, both integers, both in bounds. -/
def rawRetentionCounts (options : JsonDict) : Option KeepCounts :=
  match options.get? "keep_local", options.get? "keep_remote" with
  | some (.int keepLocal), some (.int keepRemote) => boundedCounts keepLocal keepRemote
  | _, _ => none

/-- The current counts of the surviving job. -/
def linkedJobCounts (context : RetentionPolicyContext) : Option KeepCounts :=
  match context.jobKeepLocal, context.jobKeepRemote with
  | some keepLocal, some keepRemote => boundedCounts keepLocal keepRemote
  | _, _ => none

/-- A resolution under which nothing may be deleted. -/
def unresolvedPolicy (globalKeep : KeepCounts) (reason : String)
    (context : RetentionPolicyContext) : PolicyResolution where
  keep := globalKeep
  source := .unresolved
  resolved := false
  blockReason := some reason
  runId := some context.runId
  jobId := context.jobId

/-- A resolution with counts of a known source. -/
def resolvedPolicy (keep : KeepCounts) (source : RetentionSource)
    (context : RetentionPolicyContext) : PolicyResolution where
  keep := keep
  source := source
  resolved := true
  blockReason := none
  runId := some context.runId
  jobId := context.jobId

/-- The resolution without a run: the counts of the settings. -/
def globalPolicy (keep : KeepCounts) : PolicyResolution where
  keep := keep
  source := .global
  resolved := true
  blockReason := none
  runId := none
  jobId := none

/-- The counts of the run a backup came from. -/
def resolvePolicy (context : Option RetentionPolicyContext) (globalKeep : KeepCounts) :
    PolicyResolution :=
  match context with
  | none => globalPolicy globalKeep
  | some context =>
    let raw := context.options.getD .empty
    if raw.get? "retention_source" = some (.str "global") then
      resolvedPolicy globalKeep .global context
    else if raw.get? "retention_source" = some (.str "job") then
      match rawRetentionCounts raw with
      | some counts => resolvedPolicy counts .job context
      | none => unresolvedPolicy globalKeep "retention_policy_job_counts_missing" context
    else if raw.contains "retention_source" then
      unresolvedPolicy globalKeep "retention_policy_source_invalid" context
    else if context.jobId.isSome then
      -- Runs of a job that are older than the frozen counts fall back to the surviving job.
      match (rawRetentionCounts raw).or (linkedJobCounts context) with
      | some counts => resolvedPolicy counts .legacyJob context
      | none => unresolvedPolicy globalKeep "retention_policy_legacy_job_counts_missing" context
    else unresolvedPolicy globalKeep "retention_policy_provenance_unknown" context

/-- The policy of a pass: global settings, or the frozen policy of the triggering run. -/
def policy (settings : Settings) (db : Database) (triggerBackupId : Option Nat) :
    RetentionPolicySnapshot :=
  let globalKeep := settings.retention.keep
  let resolution :=
    match triggerBackupId with
    | none => globalPolicy globalKeep
    | some backupId => resolvePolicy (retentionPolicyContext db backupId) globalKeep
  { keep := resolution.keep
    retentionSource := resolution.source
    policyResolved := resolution.resolved
    policyBlockReason := resolution.blockReason
    policyRunId := resolution.runId
    policyJobId := resolution.jobId
    dryRun := settings.retention.dryRun
    storageWarningPercent := settings.retention.storageWarningPercent
    storageCriticalPercent := settings.retention.storageCriticalPercent
    gdriveEnabled := settings.gdrive.enabled
    deleteRemoteOnRetention := settings.gdrive.deleteRemoteOnRetention
    remoteName := settings.gdrive.remoteName
    remoteFolder := settings.gdrive.folder
    triggerBackupId := triggerBackupId }

/-- A policy depends only on the run of the triggering backup, the runs and the jobs. -/
theorem policy_congr {settings : Settings} {db after : Database} {trigger : Option Nat}
    (jobs : after.jobs = db.jobs) (runs : after.runs = db.runs)
    (history : ∀ backupId, (after.history.get backupId).map BackupHistory.runId =
      (db.history.get backupId).map BackupHistory.runId) :
    policy settings after trigger = policy settings db trigger := by
  cases trigger with
  | none => rfl
  | some backupId =>
    have context : retentionPolicyContext after backupId = retentionPolicyContext db backupId := by
      have same := history backupId
      unfold retentionPolicyContext
      cases one : after.history.get backupId <;> cases two : db.history.get backupId <;>
        simp_all
    simp only [policy, context]

end ProxSync.Retention
