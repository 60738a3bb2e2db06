import ProxSync.Agent.Validators
/-!
# Deleting artifacts on the host and on remotes

The agent deletes an archive of the dump root with the files beside it, and deletes an object of a
remote by running a command whose exit code and printed text it reads. What stops a deletion is an
exception of the agent, and its class decides the status of the response. The tools are given by
what they do: which files cannot be unlinked, and how the command ends.
-/
open ProxSync.Lib

namespace ProxSync.Agent

/-- The exceptions that stop a deletion. -/
inductive Failure
  | validationFailed (detail : String)
  | notFound (detail : String)
  | executionFailed (detail : String)
  deriving DecidableEq, Repr

/-- The status an exception is answered with. -/
def Failure.statusCode : Failure → Nat
  | .validationFailed _ => 400
  | .notFound _ => 404
  | .executionFailed _ => 500

/-- The title of the problem an exception is answered with. -/
def Failure.title : Failure → String
  | .validationFailed _ => "Validation failed"
  | .notFound _ => "Resource not found"
  | .executionFailed _ => "Command execution failed"

/-- What an exception says. -/
def Failure.detail : Failure → String
  | .validationFailed detail | .notFound detail | .executionFailed detail => detail

/-- The answer to an exception that is not one of the agent's own. -/
def unexpected : Failure := .executionFailed "An unexpected error occurred"

/-- What the agent is configured with for deletions. -/
structure DeletionConfig where
  syncEnabled : Bool
  allowedRemotes : List String
  commandTimeoutSeconds : Nat
  rcloneBin : String
  /-- Why a file name is not that of an artifact, if it is not. -/
  refuseArtifactName : String → Option String

/-- The files of the dump root with their sizes, and the objects of the remotes. -/
structure Host where
  files : String → Option Nat
  objects : String → Bool

/-- A copy that a row can name. -/
inductive Copy
  | file (name : String)
  | object (spec : String)
  deriving DecidableEq, Repr

/-- Whether a copy exists. -/
def Host.holds (host : Host) : Copy → Bool
  | .file name => (host.files name).isSome
  | .object spec => host.objects spec

/-- Unlink a file. -/
def Host.unlink (host : Host) (name : String) : Host :=
  { host with files := Function.update host.files name none }

/-- Remove an object. -/
def Host.removeObject (host : Host) (spec : String) : Host :=
  { host with objects := Function.update host.objects spec false }

/-- How the command that deletes an object ends. -/
inductive RcloneRun
  | exited (code : Int) (output : String)
  /-- The command is killed, possibly after it removed the object. -/
  | timedOut (removed : Bool)
  /-- The command cannot be run. -/
  | crashed
  deriving DecidableEq, Repr

/-! ## Local artifacts -/

/-- The files that may lie beside an artifact. -/
def sidecarNames (filename : String) : List String :=
  let stem : String := .ofList (filename.toList.takeWhile (· != '.'))
  [s!"{stem}.log", s!"{filename}.notes", s!"{filename}.sha256", s!"{filename}.md5",
    s!"{filename}.log"]

/-- Unlink files one after another, adding up what that frees and stopping at the first that cannot
be unlinked. -/
def unlinkAll (fails : String → Bool) (host : Host) (freed : Nat) :
    List String → Host × Except Failure Nat
  | [] => (host, .ok freed)
  | target :: rest =>
    match host.files target with
    | none => unlinkAll fails host freed rest
    | some size =>
      if fails target then (host, .error unexpected)
      else unlinkAll fails (host.unlink target) (freed + size) rest

/-- Delete an artifact of the dump root with the files beside it. -/
def deleteArtifact (config : DeletionConfig) (fails : String → Bool) (host : Host)
    (filename : String) : Host × Except Failure Nat :=
  match (config.refuseArtifactName filename).or (refuseBasename filename) with
  | some detail => (host, .error (.validationFailed detail))
  | none =>
    if (host.files filename).isNone then
      (host, .error (.notFound s!"Backup '{filename}' does not exist on this host"))
    else
      let beside := (sidecarNames filename).filter fun name => (host.files name).isSome
      unlinkAll fails host 0 (filename :: beside)

/-! ## Objects of remotes -/

/-- The remote and the folder of a request, normalised. -/
def validatedRemote (config : DeletionConfig) (remote path : String) :
    Except String (String × String) :=
  match validateRemoteName config.allowedRemotes remote, validateRemotePath path with
  | .error detail, _ => .error detail
  | .ok _, .error detail => .error detail
  | .ok name, .ok folder => .ok (name, folder)

/-- The object a remote, a folder and a file name stand for. -/
def objectSpec (config : DeletionConfig) (remote path filename : String) : String :=
  match validatedRemote config remote path with
  | .ok (name, folder) => buildRemoteSpec name folder filename
  | .error _ => buildRemoteSpec remote path filename

/-- Whether the text of a failed deletion is taken to say that the object is missing. -/
def saysMissing (output : String) : Bool :=
  let lowered := lower output
  occursIn "object not found" lowered || occursIn "not found" lowered

/-- Delete an object of a remote, which the command does exactly when it exits with zero. -/
def deleteRemote (config : DeletionConfig) (run : RcloneRun) (host : Host)
    (remote path filename : String) : Host × Except Failure Nat :=
  if !config.syncEnabled then
    (host, .error (.validationFailed
      "Sync is disabled on this agent (PROXSYNC_AGENT_SYNC_ENABLED=false)"))
  else
    match validatedRemote config remote path with
    | .error detail => (host, .error (.validationFailed detail))
    | .ok (name, folder) =>
      match (refuseBasename filename).or (config.refuseArtifactName filename) with
      | some detail => (host, .error (.validationFailed detail))
      | none =>
        let target := buildRemoteSpec name folder filename
        match run with
        | .crashed => (host, .error unexpected)
        | .timedOut removed =>
          (if removed then host.removeObject target else host, .error (.executionFailed
            s!"'{config.rcloneBin}' timed out after {config.commandTimeoutSeconds}s"))
        | .exited code output =>
          if code = 0 then (host.removeObject target, .ok 0)
          else if saysMissing output then
            (host, .error (.notFound s!"'{filename}' is not present at {name}:{folder}"))
          else
            let shown : String := .ofList ((strip output).toList.take 300)
            (host, .error (.executionFailed s!"rclone deletefile exited {code}: {shown}"))

/-! ## What a deletion leaves -/

section Deletions

variable {config : DeletionConfig} {fails : String → Bool} {host after : Host}

/-- Unlinking a file removes it and leaves every other one. -/
theorem Host.files_unlink (host : Host) (name other : String) :
    (host.unlink name).files other = if other = name then none else host.files other := by
  exact Function.update_apply host.files name none other

/-- A file that is gone stays gone while others are unlinked. -/
theorem unlinkAll_gone {names : List String} {freed : Nat} {result : Except Failure Nat}
    (unlinked : unlinkAll fails host freed names = (after, result)) {name : String}
    (gone : host.files name = none) : after.files name = none := by
  induction names generalizing host freed with
  | nil =>
    cases unlinked
    exact gone
  | cons target rest ih =>
    unfold unlinkAll at unlinked
    split at unlinked
    · exact ih unlinked gone
    · split at unlinked
      · cases unlinked
        exact gone
      · apply ih unlinked
        rw [host.files_unlink, gone, ite_self]

/-- An artifact is deleted only if it is gone, and reported missing only if it was not there. -/
theorem deleteArtifact_gone {filename : String} {result : Except Failure Nat}
    (deleted : deleteArtifact config fails host filename = (after, result))
    (settled : (∃ freed, result = .ok freed) ∨ ∃ detail, result = .error (.notFound detail)) :
    after.files filename = none := by
  unfold deleteArtifact at deleted
  split at deleted
  · cases deleted
    rcases settled with ⟨freed, given⟩ | ⟨detail, given⟩ <;> cases given
  · split at deleted
    · rename_i absent
      cases deleted
      exact Option.isNone_iff_eq_none.mp absent
    · rename_i present
      unfold unlinkAll at deleted
      split at deleted
      · rename_i missing
        exact absurd (Option.isNone_iff_eq_none.mpr missing) present
      · split at deleted
        · cases deleted
          rcases settled with ⟨freed, given⟩ | ⟨detail, given⟩ <;> cases given
        · apply unlinkAll_gone deleted
          rw [host.files_unlink, if_pos rfl]

/-- An object is reported deleted only if it is gone. -/
theorem deleteRemote_gone {run : RcloneRun} {remote path filename : String} {freed : Nat}
    (deleted : deleteRemote config run host remote path filename = (after, .ok freed)) :
    after.objects (objectSpec config remote path filename) = false := by
  unfold deleteRemote at deleted
  split at deleted
  · cases deleted
  · split at deleted
    · cases deleted
    · rename_i name folder validated
      rw [objectSpec, validated]
      split at deleted
      · cases deleted
      · cases run with
        | crashed => cases deleted
        | timedOut removed => cases deleted
        | exited code output =>
          simp only at deleted
          split at deleted
          · cases deleted
            exact Function.update_self ..
          · split at deleted <;> cases deleted

/-- An object is reported missing only by a failed command whose text is taken to say so, and is
left as it was. -/
theorem deleteRemote_missing {run : RcloneRun} {remote path filename detail : String}
    (deleted : deleteRemote config run host remote path filename =
      (after, .error (.notFound detail))) :
    after = host ∧ ∃ code output, run = .exited code output ∧ code ≠ 0 ∧
      saysMissing output = true := by
  unfold deleteRemote at deleted
  split at deleted
  · cases deleted
  · split at deleted
    · cases deleted
    · split at deleted
      · cases deleted
      · cases run with
        | crashed => cases deleted
        | timedOut removed => cases deleted
        | exited code output =>
          simp only at deleted
          split at deleted
          · cases deleted
          · rename_i failed
            split at deleted
            · rename_i said
              cases deleted
              exact ⟨rfl, code, output, rfl, failed, said⟩
            · cases deleted

end Deletions

end ProxSync.Agent
