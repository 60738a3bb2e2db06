import ProxSync.Agent.Deletion
import ProxSync.Retention.Audit
/-!
# When a copy is marked as removed

A deletion crosses the agent, its response and the client before the pass reads the answer: the
agent's exception becomes a status, and the status 404 is read as a copy that is already gone. Here
the pass runs against a host with files and objects and against a tool that prints any text, while
others change the host and the rows.
-/
open ProxSync.Lib

namespace ProxSync.Retention

/-- The copy that a row names at a location. -/
def namedCopy (config : Agent.DeletionConfig) (location : RetentionLocation)
    (record : RetentionBackup) : Option Agent.Copy :=
  match location with
  | .localCopy => record.filename.map .file
  | .remoteCopy =>
    match remoteTarget record, record.filename with
    | some (remote, path), some filename =>
      some (.object (Agent.objectSpec config remote path filename))
    | _, _ => none

/-- What the agent refuses before it takes up a request. -/
inductive Refusal
  | authenticationFailed
  | clientNotAllowed
  | schemaValidationFailed
  deriving DecidableEq, Repr

/-- The status of a refusal. -/
def Refusal.statusCode : Refusal → Nat
  | .authenticationFailed => 401
  | .clientNotAllowed => 403
  | .schemaValidationFailed => 422

/-- What the client makes of a response that is not a success. -/
def parse (status : Nat) (title detail : String) : DeleteReply :=
  if status = 401 ∨ status = 403 then
    .agentError (some status) ("The Backup Agent rejected the dashboard's credentials. Check " ++
      "that the HMAC secret matches and that both clocks are synchronised.")
  else .agentError (some status) (if detail ≠ "" then detail else title)

/-- What the client makes of what the agent answers to a deletion. -/
def parseResult : Except Agent.Failure Nat → DeleteReply
  | .ok freed => .removed freed
  | .error failure => parse failure.statusCode failure.title failure.detail

/-- Ask the agent for a planned deletion. -/
def requestDeletion (config : Agent.DeletionConfig) (fails : String → Bool)
    (command : Agent.RcloneRun) (host : Agent.Host) (plan : PlannedDecision) :
    Agent.Host × DeleteReply :=
  match plan.backup.filename with
  -- An assertion of the pass fails.
  | none => (host, .crashed "")
  | some filename =>
    match plan.location with
    | .localCopy =>
      let (after, result) := Agent.deleteArtifact config fails host filename
      (after, parseResult result)
    | .remoteCopy =>
      match remoteTarget plan.backup with
      | none => (host, .crashed "")
      | some (remote, path) =>
        let (after, result) := Agent.deleteRemote config command host remote path filename
        (after, parseResult result)

/-- A pass, the host, and the answer that is on its way to the pass. -/
structure Sweep where
  run : PassRun
  host : Agent.Host
  answer : Option DeleteReply

/-- What may happen next. -/
inductive SweepAction
  | pass (action : PassAction)
  /-- The agent carries out the deletion, with tools that behave in some way. -/
  | serve (fails : String → Bool) (command : Agent.RcloneRun)
  | refuse (refusal : Refusal) (detail : String)
  /-- The request or its response is lost. -/
  | lose (detail : String)
  /-- Others add and remove copies. -/
  | elsewhere (host : Agent.Host)

/-- The effect of one action, or nothing where it cannot happen. -/
def sweepStep (config : Agent.DeletionConfig) (input : PassInput) (state : Sweep) :
    SweepAction → Option Sweep
  | .pass .answer =>
    match state.answer with
    | some reply =>
      (passStep { input with agent := fun _ => reply } state.run .answer).map fun run =>
        { state with run, answer := none }
    | none => none
  | .pass action => (passStep input state.run action).map fun run => { state with run }
  | .serve fails command =>
    match state.run.stage, state.answer with
    | .deleting _ plan _, none =>
      let (host, reply) := requestDeletion config fails command state.host plan
      some { state with host, answer := some reply }
    | _, _ => none
  | .refuse refusal detail =>
    match state.run.stage, state.answer with
    | .deleting .., none =>
      some { state with answer := some (parse refusal.statusCode "" detail) }
    | _, _ => none
  | .lose detail =>
    match state.run.stage with
    | .deleting .. => some { state with answer := some (.appError detail) }
    | _ => none
  | .elsewhere host => some { state with host }

/-- One pass over a host. -/
def sweepSystem (config : Agent.DeletionConfig) (input : PassInput) (start : Database) :
    System Sweep SweepAction where
  init state := ∃ host, state = ⟨.fresh start, host, none⟩
  step := sweepStep config input

/-- Whether an action is a step of the pass, its agent or its client, or of nobody but the pass. -/
def SweepAction.isOwn : SweepAction → Bool
  | .pass (.interfere _) => false
  | _ => true

/-- A copy is marked as removed in a step only if it does not exist. -/
def MarksAbsent (config : Agent.DeletionConfig) (before after : Sweep) : Prop :=
  ∀ location, ∀ old ∈ before.run.pass.db.history, ∀ new ∈ after.run.pass.db.history,
    new.id = old.id → markOf location old = none → markOf location new ≠ none →
    ∀ copy, namedCopy config location old = some copy → before.host.holds copy = false

/-- Whether the copy of a plan exists on a host. -/
def planExists (config : Agent.DeletionConfig) (plan : PlannedDecision) (host : Agent.Host) :
    Bool :=
  (namedCopy config plan.location plan.backup).any host.holds

/-- Whether an action leaves no doubt about the copy whose deletion is at the agent. -/
def candid (config : Agent.DeletionConfig) (state : Sweep) (action : SweepAction) : Bool :=
  match state.run.stage, action with
  | .deleting _ plan _, .serve _ (.exited code output) =>
    plan.location = .localCopy || code = 0 || !Agent.saysMissing output ||
      !planExists config plan state.host
  | .deleting _ plan _, .pass (.interfere db) =>
    db.history.rows.all fun row => row.id ≠ plan.backup.id ||
      namedCopy config plan.location row == namedCopy config plan.location plan.backup
  | .deleting _ plan _, .elsewhere host =>
    !state.answer.any DeleteReply.removes || !planExists config plan host ||
      planExists config plan state.host
  | _, _ => true

/-- A failed command prints that something is not found only where the object is missing; and while
a deletion is at the agent its row goes on to name the same copy, which is not put back once the
agent has answered that it is gone. -/
def Candid (config : Agent.DeletionConfig) (state : Sweep) (action : SweepAction) : Prop :=
  candid config state action = true

instance (config : Agent.DeletionConfig) (state : Sweep) (action : SweepAction) :
    Decidable (Candid config state action) :=
  inferInstanceAs (Decidable (_ = true))

/-! ## The answer that is read as a removal -/

section Requests

variable {config : Agent.DeletionConfig} {fails : String → Bool} {command : Agent.RcloneRun}
  {host after : Agent.Host} {plan : PlannedDecision} {reply : DeleteReply}

/-- Only a success, and the exception for a missing copy, are read as a removal. -/
theorem parseResult_removes {result : Except Agent.Failure Nat}
    (removes : (parseResult result).removes = true) :
    (∃ freed, result = .ok freed) ∨ ∃ detail, result = .error (.notFound detail) := by
  cases result with
  | ok freed => exact .inl ⟨freed, rfl⟩
  | error failure =>
    cases failure with
    | notFound detail => exact .inr ⟨detail, rfl⟩
    | validationFailed | executionFailed => cases removes

/-- A refusal is not read as a removal. -/
theorem parse_refusal (refusal : Refusal) (detail : String) :
    (parse refusal.statusCode "" detail).removes = false := by
  cases refusal <;> rfl

/-- A copy whose removal the client reads from the answer is gone, unless the command failed with a
text that is taken to say so. -/
theorem requestDeletion_gone
    (asked : requestDeletion config fails command host plan = (after, reply))
    (removes : reply.removes = true)
    (candid : ∀ code output, command = .exited code output → plan.location = .remoteCopy →
      code ≠ 0 → Agent.saysMissing output = true → planExists config plan host = false) :
    planExists config plan after = false := by
  unfold requestDeletion at asked
  cases named : plan.backup.filename with
  | none =>
    rw [named] at asked
    cases asked
    cases removes
  | some filename =>
    rw [named] at asked
    cases place : plan.location with
    | localCopy =>
      simp only [place] at asked
      have copy : namedCopy config plan.location plan.backup = some (.file filename) := by
        rw [place, namedCopy, named]
        rfl
      cases deleted : Agent.deleteArtifact config fails host filename with
      | mk left result =>
        simp only [deleted] at asked
        obtain ⟨rfl, rfl⟩ := Prod.mk.inj asked
        have gone := Agent.deleteArtifact_gone deleted (parseResult_removes removes)
        rw [planExists, copy]
        exact Option.isSome_eq_false_iff.mpr (Option.isNone_iff_eq_none.mpr gone)
    | remoteCopy =>
      simp only [place] at asked
      cases target : remoteTarget plan.backup with
      | none =>
        rw [target] at asked
        cases asked
        cases removes
      | some pair =>
        obtain ⟨remote, path⟩ := pair
        rw [target] at asked
        have copy : namedCopy config plan.location plan.backup =
            some (.object (Agent.objectSpec config remote path filename)) := by
          rw [place, namedCopy, target, named]
        cases deleted : Agent.deleteRemote config command host remote path filename with
        | mk left result =>
          simp only [deleted] at asked
          obtain ⟨rfl, rfl⟩ := Prod.mk.inj asked
          rcases parseResult_removes removes with ⟨freed, rfl⟩ | ⟨detail, rfl⟩
          · have gone := Agent.deleteRemote_gone deleted
            rw [planExists, copy]
            exact gone
          · obtain ⟨rfl, code, output, rfl, failed, said⟩ := Agent.deleteRemote_missing deleted
            exact candid code output rfl place failed said

end Requests

/-! ## Every step -/

section Sweeps

variable {config : Agent.DeletionConfig} {input : PassInput} {start : Database}
  {state after : Sweep} {action : SweepAction}

/-- A deletion that is at the agent is of the copy its row names, and an answer that it is gone is
true. -/
structure Pending (config : Agent.DeletionConfig) (state : Sweep) (plan : PlannedDecision) :
    Prop where
  named : ∀ row ∈ state.run.pass.db.history, row.id = plan.backup.id →
    namedCopy config plan.location row = namedCopy config plan.location plan.backup
  gone : ∀ reply, state.answer = some reply → reply.removes = true →
    planExists config plan state.host = false

/-- What every reached state satisfies while nothing leaves a doubt about the copy. -/
structure Settled (config : Agent.DeletionConfig) (state : Sweep) : Prop where
  pending : ∀ current plan rest, state.run.stage = .deleting current plan rest →
    Pending config state plan
  /-- An answer is on its way only to a deletion. -/
  asked : ∀ reply, state.answer = some reply →
    (∃ current plan rest, state.run.stage = .deleting current plan rest) ∨
      state.run.stage = .aborted

/-- A pass that is neither deleting nor broken off waits for no answer. -/
theorem Settled.unanswered (settled : Settled config state)
    (judging : ∀ current plan rest, state.run.stage ≠ .deleting current plan rest)
    (alive : state.run.stage ≠ .aborted) : state.answer = none := by
  cases answered : state.answer with
  | none => rfl
  | some reply =>
    rcases settled.asked reply answered with ⟨current, plan, rest, here⟩ | broken
    · exact absurd here (judging current plan rest)
    · exact absurd broken alive

/-- A pass that asks the agent for nothing is settled once no answer is on its way. -/
theorem settled_of_unanswered (judging : ∀ current plan rest,
    state.run.stage ≠ .deleting current plan rest) (silent : state.answer = none) :
    Settled config state where
  pending _ _ _ here := absurd here (judging _ _ _)
  asked _ answered := absurd (silent.symm.trans answered) (Option.some_ne_none _).symm

/-- A pass that is broken off is settled. -/
theorem settled_of_aborted (broken : state.run.stage = .aborted) : Settled config state where
  pending _ _ _ here := PassStage.noConfusion (broken.symm.trans here)
  asked _ _ := .inr broken

/-- A step of the pass that reads no answer waits for none, and a deletion it asks for is of the
copy its row names. -/
theorem Settled.move (settled : Settled config state) {action : PassAction} {run : PassRun}
    (own : action = .decide ∨ action = .judge) (moved : PassMoves input state.run action run) :
    Settled config { state with run } := by
  cases moved with
  | misplanned | misjudged => exact settled_of_aborted rfl
  | decide here =>
    have silent : state.answer = none := by
      apply settled.unanswered <;> rw [here] <;> intros <;> exact PassStage.noConfusion
    exact settled_of_unanswered (fun _ _ _ => PassStage.noConfusion) silent
  | spare here =>
    have silent : state.answer = none := by
      apply settled.unanswered <;> rw [here] <;> intros <;> exact PassStage.noConfusion
    exact settled_of_unanswered (fun _ _ _ => PassStage.noConfusion) silent
  | @ask original plan rest current here judged deletes real =>
    have silent : state.answer = none := by
      apply settled.unanswered <;> rw [here] <;> intros <;> exact PassStage.noConfusion
    have stored := (revalidateCandidate_removable judged deletes).stored
    constructor
    · rintro _ _ _ ⟨rfl, rfl, rfl⟩
      constructor
      · intro row listed same
        rw [Table.eq_of_key listed stored same]
      · intro reply answered
        exact absurd (silent.symm.trans answered) (Option.some_ne_none _).symm
    · exact fun _ _ => .inl ⟨current, plan, rest, rfl⟩
  | answer | interfere | die => rcases own with own | own <;> cases own

/-- A step that leaves the pass as it is, and sends it an answer that is true. -/
theorem Settled.respond (settled : Settled config state) {host : Agent.Host}
    {reply : DeleteReply} {current : RetentionPolicySnapshot} {plan : PlannedDecision}
    {rest : List PlannedDecision} (here : state.run.stage = .deleting current plan rest)
    (gone : reply.removes = true → planExists config plan host = false) :
    Settled config { state with host, answer := some reply } := by
  constructor
  · intro other_ plan_ rest_ there
    obtain ⟨_, rfl, _⟩ := PassStage.deleting.inj (here.symm.trans there)
    constructor
    · exact (settled.pending _ _ _ here).named
    · intro given answered removes
      obtain rfl := Option.some.inj answered
      exact gone removes
  · exact fun _ _ => .inl ⟨current, plan, rest, here⟩

/-- One step that leaves no doubt about the copy keeps the sweep settled. -/
theorem step_settled (settled : Settled config state) (allowed : Candid config state action)
    (stepped : sweepStep config input state action = some after) : Settled config after := by
  cases action with
  | pass action =>
    cases action with
    | decide =>
      obtain ⟨run, moved, rfl⟩ := Option.map_eq_some_iff.mp stepped
      exact settled.move (.inl rfl) (passStep_moves moved)
    | judge =>
      obtain ⟨run, moved, rfl⟩ := Option.map_eq_some_iff.mp stepped
      exact settled.move (.inr rfl) (passStep_moves moved)
    | die =>
      obtain rfl := Option.some.inj stepped
      exact settled_of_aborted rfl
    | interfere db =>
      obtain rfl := Option.some.inj stepped
      constructor
      · intro current plan rest here
        constructor
        · intro row listed same
          have all : db.history.rows.all (fun row => row.id ≠ plan.backup.id ||
              namedCopy config plan.location row == namedCopy config plan.location plan.backup) =
              true := by
            have stage : state.run.stage = .deleting current plan rest := here
            simpa [Candid, candid, stage] using allowed
          simpa [same] using List.all_eq_true.mp all row listed
        · exact (settled.pending current plan rest here).gone
      · exact settled.asked
    | answer =>
      simp only [sweepStep] at stepped
      split at stepped
      · obtain ⟨run, moved, rfl⟩ := Option.map_eq_some_iff.mp stepped
        cases passStep_moves moved with
        | answer here => exact settled_of_unanswered (fun _ _ _ => PassStage.noConfusion) rfl
      · cases stepped
  | serve fails command =>
    simp only [sweepStep] at stepped
    split at stepped
    · rename_i current plan rest here silent
      obtain rfl := Option.some.inj stepped
      apply settled.respond here
      intro removes
      apply requestDeletion_gone rfl removes
      rintro code output rfl place failed said
      simpa [Candid, candid, here, place, failed, said] using allowed
    · cases stepped
  | refuse refusal detail =>
    simp only [sweepStep] at stepped
    split at stepped
    · rename_i current plan rest here silent
      obtain rfl := Option.some.inj stepped
      apply settled.respond here
      rw [parse_refusal]
      exact fun removes => absurd removes Bool.false_ne_true
    · cases stepped
  | lose detail =>
    simp only [sweepStep] at stepped
    split at stepped
    · rename_i current plan rest here
      obtain rfl := Option.some.inj stepped
      exact settled.respond here fun removes => absurd removes Bool.false_ne_true
    · cases stepped
  | elsewhere host =>
    obtain rfl := Option.some.inj stepped
    constructor
    · intro current plan rest here
      have pending := settled.pending current plan rest here
      constructor
      · exact pending.named
      · intro reply answered removes
        have before := pending.gone reply answered removes
        have stage : state.run.stage = .deleting current plan rest := here
        have answer : state.answer = some reply := answered
        simpa [Candid, candid, stage, answer, removes, before] using allowed
    · exact settled.asked

/-- Every state that is reached while nothing leaves a doubt about the copy is settled. -/
theorem settled_of_reachable
    (reached : (sweepSystem config input start).Reachable (Candid config) state) :
    Settled config state := by
  apply reached.invariant_alone
  constructor
  · rintro _ ⟨host, rfl⟩
    exact settled_of_unanswered (fun _ _ _ => PassStage.noConfusion) rfl
  · exact fun _ _ _ _ settled allowed stepped => step_settled settled allowed stepped

/-- A step that changes no row marks nothing. -/
theorem marksAbsent_of_history (same : after.run.pass.db.history = state.run.pass.db.history) :
    MarksAbsent config state after := by
  intro location old stored new listed named unmarked marked
  rw [same] at listed
  rw [Table.eq_of_key listed stored named] at marked
  exact absurd unmarked marked

/-- A deletion marks the copy it was planned for, and only if the answer says that it is gone. -/
theorem marksAbsent_of_delete {plan : PlannedDecision} {reply : DeleteReply} {now : Instant}
    (named : ∀ row ∈ state.run.pass.db.history, row.id = plan.backup.id →
      namedCopy config plan.location row = namedCopy config plan.location plan.backup)
    (written : after.run.pass.db.history =
      (delete state.run.pass.db plan reply now).1.history)
    (gone : reply.removes = true → planExists config plan state.host = false) :
    MarksAbsent config state after := by
  rw [delete_written] at written
  cases removes : reply.removes with
  | false =>
    rw [removes, if_neg Bool.false_ne_true] at written
    exact marksAbsent_of_history written
  | true =>
    rw [removes, if_pos rfl] at written
    intro location old stored new listed same unmarked marked copy names
    rw [written] at listed
    rcases mem_markDeleted.mp listed with ⟨origin, there, own, rfl⟩ | ⟨before, _⟩
    · rw [markDeletedRow_id] at same
      obtain rfl := Table.eq_of_key there stored same
      have place : location = plan.location := by
        have both := markOf_markDeletedRow.mp (Option.isSome_iff_ne_none.mpr marked)
        rw [unmarked] at both
        exact both.resolve_left Bool.false_ne_true
      have absent := gone removes
      rw [planExists, ← named origin there own, ← place, names] at absent
      exact absent
    · rw [Table.eq_of_key before stored same] at marked
      exact absurd unmarked marked

/-- Whatever the agent, the tools and the host do, and whatever a failed command prints, a pass
marks a copy as removed only if it does not exist, as long as a failed command says that something
is not found only where the object is missing, and no other writer renames or restores the copy
whose deletion is at the agent. -/
theorem marks_absent_of_candid
    (reached : (sweepSystem config input start).Reachable (Candid config) state)
    (own : action.isOwn = true) (stepped : sweepStep config input state action = some after) :
    MarksAbsent config state after := by
  have settled := settled_of_reachable reached
  cases action with
  | pass action =>
    cases action with
    | decide =>
      obtain ⟨run, moved, rfl⟩ := Option.map_eq_some_iff.mp stepped
      apply marksAbsent_of_history
      cases passStep_moves moved with
      | misplanned => rfl
      | decide => exact (settleStatic_foldl input _ _ _).2.history
    | judge =>
      obtain ⟨run, moved, rfl⟩ := Option.map_eq_some_iff.mp stepped
      apply marksAbsent_of_history
      cases passStep_moves moved <;> rfl
    | die =>
      obtain rfl := Option.some.inj stepped
      exact marksAbsent_of_history rfl
    | interfere db => cases own
    | answer =>
      simp only [sweepStep] at stepped
      split at stepped
      · rename_i reply answered
        obtain ⟨run, moved, rfl⟩ := Option.map_eq_some_iff.mp stepped
        cases passStep_moves moved with
        | @answer plan rest current here =>
          have pending := settled.pending current plan rest here
          exact marksAbsent_of_delete pending.named rfl (pending.gone reply answered)
      · cases stepped
  | serve fails command =>
    simp only [sweepStep] at stepped
    split at stepped
    · obtain rfl := Option.some.inj stepped
      exact marksAbsent_of_history rfl
    · cases stepped
  | refuse refusal detail =>
    simp only [sweepStep] at stepped
    split at stepped
    · obtain rfl := Option.some.inj stepped
      exact marksAbsent_of_history rfl
    · cases stepped
  | lose detail =>
    simp only [sweepStep] at stepped
    split at stepped
    · obtain rfl := Option.some.inj stepped
      exact marksAbsent_of_history rfl
    · cases stepped
  | elsewhere host =>
    obtain rfl := Option.some.inj stepped
    exact marksAbsent_of_history rfl

end Sweeps

/-- An archive that was uploaded. -/
def driveArchive : String := "vzdump-qemu-101-2026_01_01-00_00_00.vma.zst"

/-- The row of the archive, whose local file is gone. -/
def driveRow : BackupHistory := { driveOnlyBackup with filename := some driveArchive }

/-- The object the row names. -/
def driveObject : Agent.Copy := .object ("gdrive:proxsync/dump/" ++ driveArchive)

/-- An agent that may delete the archive from any remote. -/
def driveAgent : Agent.DeletionConfig where
  syncEnabled := true
  allowedRemotes := []
  commandTimeoutSeconds := 60
  rcloneBin := "/usr/bin/rclone"
  refuseArtifactName name :=
    if name = driveArchive then none
    else some s!"'{name}' is not a vzdump artifact name; refusing to operate on it"

/-- A host without local files, whose remotes hold every object. -/
def driveHost : Agent.Host := ⟨fun _ => none, fun _ => true⟩

/-- A database of the row. -/
def driveDatabase : Database := { Database.empty with history := .singleton driveRow }

/-- A pass under given counts. -/
def driveSweep (keep : KeepCounts) : System Sweep SweepAction :=
  sweepSystem driveAgent (promptPass keep) driveDatabase

/-- The pass may start on the host. -/
theorem driveSweep_start (keep : KeepCounts) :
    (driveSweep keep).init ⟨.fresh driveDatabase, driveHost, none⟩ :=
  ⟨driveHost, rfl⟩

/-- Whether the next step of the pass marks the row. -/
def marksNext (keep : KeepCounts) (state : Sweep) : Bool :=
  (sweepStep driveAgent (promptPass keep) state (.pass .answer)).any fun after =>
    after.run.pass.db.history.rows.any fun row =>
      row.id == driveRow.id && (markOf .remoteCopy row).isSome

/-- The step that marks the row. -/
theorem exists_of_marksNext {keep : KeepCounts} {state : Sweep}
    (marks : marksNext keep state = true) : ∃ after,
      sweepStep driveAgent (promptPass keep) state (.pass .answer) = some after ∧
      ∃ row ∈ after.run.pass.db.history, row.id = driveRow.id ∧
        (markOf .remoteCopy row).isSome = true := by
  obtain ⟨after, stepped, marked⟩ := (Option.any_eq_true _ _).mp marks
  obtain ⟨row, listed, same⟩ := List.any_eq_true.mp marked
  obtain ⟨named, set⟩ := Bool.and_eq_true_iff.mp same
  exact ⟨after, stepped, row, listed, beq_iff_eq.mp named, set⟩

/-- A pass asks for a deletion, and the command ends in some way. -/
def deletionEnds (code : Int) (output : String) : List SweepAction :=
  [.pass .decide, .pass .judge, .serve (fun _ => false) (.exited code output)]

/-- The object is removed, and the row is marked. -/
theorem marks_absent_after_removal :
    ∃ input state after, sweepStep driveAgent input state (.pass .answer) = some after ∧
      Marked after.run.pass.db 1 .remoteCopy ∧ MarksAbsent driveAgent state after := by
  let keep : KeepCounts := ⟨1, 0, by decide, by decide⟩
  obtain ⟨state, reached, shown⟩ : ∃ state,
      (driveSweep keep).Reachable (Candid driveAgent) state ∧ marksNext keep state = true := by
    refine System.exists_of_runFrom (driveSweep_start keep) (deletionEnds 0 "") _ ?_
    decide
  obtain ⟨after, stepped, marked⟩ := exists_of_marksNext shown
  exact ⟨_, state, after, stepped, marked, marks_absent_of_candid reached rfl stepped⟩

/-- What the command prints when its configuration is missing. -/
def unconfigured : String :=
  "NOTICE: Config file \"/root/.config/rclone/rclone.conf\" not found - using defaults\n" ++
    "CRITICAL: Failed to create file system for \"gdrive:proxsync/dump\": " ++
    "didn't find section in config file\n"

/-- A command that finds no configuration removes nothing, and the row of the living object is
marked. -/
theorem missing_config_marks_living_copy :
    ¬ ∀ config input start state action after,
      (sweepSystem config input start).Reachable System.unguarded state → action.isOwn = true →
      sweepStep config input state action = some after → MarksAbsent config state after := by
  intro always
  let keep : KeepCounts := ⟨1, 0, by decide, by decide⟩
  obtain ⟨state, reached, shown⟩ : ∃ state,
      (driveSweep keep).Reachable System.unguarded state ∧
        (marksNext keep state && state.host.holds driveObject &&
          decide (driveRow ∈ state.run.pass.db.history)) = true := by
    refine System.exists_of_runFrom (driveSweep_start keep) (deletionEnds 1 unconfigured) _ ?_
    decide +kernel
  simp only [Bool.and_eq_true, decide_eq_true_eq] at shown
  obtain ⟨⟨marks, living⟩, stored⟩ := shown
  obtain ⟨after, stepped, row, listed, named, set⟩ := exists_of_marksNext marks
  have absent := always _ _ _ state _ after reached rfl stepped .remoteCopy driveRow stored row
    listed named rfl (Option.isSome_iff_ne_none.mp set) driveObject (by decide)
  exact Bool.false_ne_true (absent.symm.trans living)

end ProxSync.Retention
