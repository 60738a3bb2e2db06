import ProxSync.Restore.Turns
/-!
# Deletions at the agent

A copy is removed by the agent, not by the holder of the guard that asks for it. The dashboard waits
for its answer for half a minute and asks once, while the command of the agent may run for a minute,
and an end of the dashboard's process does not reach it. Where the answer is lost the guard is free
again while the agent goes on, and a restore of the backup may be requested before its copy is
removed. Where every deletion has ended before the guard is let go of, no removed copy is needed.
-/
open ProxSync.Lib ProxSync.History ProxSync.Retention

namespace ProxSync.Restore

/-- A deletion that the agent was asked for and that has not ended, and whether the holder of the
guard waits for the answer. -/
structure Deletion where
  backupId : Nat
  location : RetentionLocation
  awaited : Bool
  deriving DecidableEq, Repr

/-- A copy that was removed, and whether a restore of its backup was pending, confirmed or running
then. -/
structure Removal where
  backupId : Nat
  location : RetentionLocation
  needed : Bool
  deriving DecidableEq, Repr

/-- The desk, the deletions that are at the agent and what was removed, both latest first. -/
structure Site where
  desk : Desk
  deletions : List Deletion
  removals : List Removal

/-- What may happen next. -/
inductive SiteAction
  | desk (action : DeskAction)
  /-- The agent removes the copy of a deletion. -/
  | remove (index : Nat)
  /-- A deletion ends without the removal of a copy. -/
  | refuse (index : Nat)

/-- Whether a reply is an answer of the agent, which it gives when the deletion has ended. -/
def answered : DeleteReply → Bool
  | .removed _ | .agentError (some _) _ => true
  | .agentError none _ | .appError _ | .crashed _ => false

/-- Whether an action reads the agent's answer to a deletion. -/
def settles (desk : Desk) : DeskAction → Bool
  | .deleted _ => true
  | .pass .answer =>
    match desk.holder with
    | some (.retaining input run) => answered (input.agent run.pending)
    | _ => false
  | _ => false

/-- Whether an action ends the guard of a deletion. -/
def letsGo : DeskAction → Bool
  | .deleted _ | .release | .work .crash => true
  | _ => false

/-- Whether the guard is held for deletions. -/
def Desk.deletes (desk : Desk) : Bool :=
  match desk.holder with
  | some (.retaining _ _) | some (.deleting _) => true
  | _ => false

namespace Site

/-- The deletions after a step of the desk: one that is waited for now was asked for by the step. -/
def track (site : Site) (after : Desk) : List Deletion :=
  let known := site.deletions.map fun deletion =>
    { deletion with awaited := deletion.awaited && after.awaitedDeletion.isSome }
  match site.desk.awaitedDeletion, after.awaitedDeletion with
  | none, some (backupId, location) => ⟨backupId, location, true⟩ :: known
  | _, _ => known

/-- Note that the copy of a deletion was removed. -/
def removal (site : Site) (deletion : Deletion) : Removal where
  backupId := deletion.backupId
  location := deletion.location
  needed := (activeForBackup site.desk.worker.db deletion.backupId).isSome

end Site

/-- The effect of one action, or nothing where it cannot happen. -/
def siteStep (config : DeskConfig) (site : Site) : SiteAction → Option Site
  | .desk action =>
    if settles site.desk action && site.deletions.any Deletion.awaited then none
    else (deskStep config site.desk action).map fun after =>
      { site with desk := after, deletions := site.track after }
  | .remove index =>
    site.deletions[index]?.map fun deletion => { site with
      deletions := site.deletions.eraseIdx index
      removals := site.removal deletion :: site.removals }
  | .refuse index =>
    site.deletions[index]?.map fun _ => { site with deletions := site.deletions.eraseIdx index }

/-- The desk of a new installation and an agent that was asked for nothing. -/
def siteSystem (config : DeskConfig) : System Site SiteAction where
  init site := (deskSystem config).init site.desk ∧ site.deletions = [] ∧ site.removals = []
  step := siteStep config

/-- Every deletion the agent was asked for has ended before the guard is let go of. -/
def Ended (site : Site) : SiteAction → Prop
  | .desk action => letsGo action = true → site.deletions = []
  | .remove _ | .refuse _ => True

instance (site : Site) (action : SiteAction) : Decidable (Ended site action) :=
  match action with
  | .desk action => inferInstanceAs (Decidable (letsGo action = true → _))
  | .remove _ | .refuse _ => .isTrue trivial

/-- No copy was removed while a restore of its backup was pending, confirmed or running. -/
def RemovalsSpareRestores (site : Site) : Prop :=
  ∀ removal ∈ site.removals, removal.needed = false

/-- What holds while every deletion ends before the guard is let go of. -/
structure Spared (site : Site) : Prop where
  held : site.deletions ≠ [] → site.desk.deletes = true
  idle : ∀ deletion ∈ site.deletions, ¬ RestoreActive site.desk.worker.db deletion.backupId
  removed : RemovalsSpareRestores site

variable {config : DeskConfig} {desk after : Desk} {site later : Site} {action : DeskAction}

/-- A deletion that is waited for is one of a guard that is held for deletions. -/
theorem deletes_of_awaited (awaited : desk.awaitedDeletion.isSome = true) :
    desk.deletes = true := by
  unfold Desk.awaitedDeletion at awaited
  split at awaited
  · rename_i held
    unfold Desk.deletes
    simp only [held]
  · rename_i held
    unfold Desk.deletes
    simp only [held]
  · cases awaited

/-- A guard that is held for deletions is held by a pass or by an operator. -/
theorem holder_of_deletes (deletes : desk.deletes = true) :
    (∃ input run, desk.holder = some (.retaining input run)) ∨
      ∃ backupId, desk.holder = some (.deleting backupId) := by
  unfold Desk.deletes at deletes
  split at deletes
  · rename_i input run held
    exact .inl ⟨input, run, held⟩
  · rename_i backupId held
    exact .inr ⟨backupId, held⟩
  · cases deletes

/-- While the guard is held for deletions and kept, no restore begins to need a backup. -/
theorem rows_of_deletes (deletes : desk.deletes = true) (stays : letsGo action = false)
    (stepped : deskStep config desk action = some after) :
    after.deletes = true ∧ RowsMove false desk.worker.db.restores after.worker.db.restores := by
  have held := holder_of_deletes deletes
  have taken : desk.holder.isSome = true := by
    rcases held with ⟨input, run, held⟩ | ⟨backupId, held⟩ <;> rw [held] <;> rfl
  have refused : desk.admits = false := by
    unfold Desk.admits
    rw [Option.isNone_eq_false_iff.mpr taken]
    rfl
  cases action with
  | work inner =>
    obtain ⟨own, state, moved, free, rfl⟩ := work_eq_some stepped
    have unguarded : takesGuard desk.worker state inner = false := by
      apply Bool.eq_false_iff.mpr
      intro guarded
      rw [free guarded] at taken
      cases taken
    have effect := work_effect own moved
    rw [unguarded] at effect
    have kept : desk.keptHolder inner = desk.holder := by
      cases inner <;> first | rfl | cases stays
    refine ⟨?_, effect.rows⟩
    unfold Desk.deletes at deletes ⊢
    simp only [kept]
    exact deletes
  | environment db =>
    obtain rfl := Option.some.inj stepped
    exact ⟨deletes, .refl⟩
  | pass inner =>
    rcases held with ⟨input, run, held⟩ | ⟨backupId, held⟩
    · simp only [deskStep, held] at stepped
      obtain ⟨own, later, moved, rfl⟩ := pass_eq_some stepped
      have same := pass_restores own moved
      refine ⟨rfl, ?_⟩
      show RowsMove false desk.worker.db.restores later.pass.db.restores
      rw [same]
      exact .refl
    · simp [deskStep, held] at stepped
  | deleted now => cases stays
  | release => cases stays
  | create | confirm | cancel | deleteLocal => simp [deskStep, refused] at stepped
  | expireStale | preflight | mint | authorise | strike | retain =>
    rcases held with ⟨input, run, held⟩ | ⟨backupId, held⟩ <;>
      simp [deskStep, held] at stepped

/-- A deletion was at the agent before a step of the desk, or it is waited for now. -/
theorem mem_track {deletion : Deletion} (tracked : deletion ∈ site.track after) :
    (∃ known ∈ site.deletions, known.backupId = deletion.backupId) ∨
      after.awaitedDeletion = some (deletion.backupId, deletion.location) := by
  have old : deletion ∈ site.deletions.map (fun deletion =>
      { deletion with awaited := deletion.awaited && after.awaitedDeletion.isSome }) →
      ∃ known ∈ site.deletions, known.backupId = deletion.backupId := by
    intro inside
    obtain ⟨known, there, rfl⟩ := List.mem_map.mp inside
    exact ⟨known, there, rfl⟩
  unfold Site.track at tracked
  dsimp only at tracked
  split at tracked
  · rename_i backupId location before now
    rcases List.mem_cons.mp tracked with rfl | inside
    · exact .inr now
    · exact .inl (old inside)
  · exact .inl (old tracked)

/-- A step of the desk that leaves every deletion within the guard spares the restores. -/
theorem spared_of_desk (reached : (deskSystem config).Reachable System.unguarded site.desk)
    (spared : Spared site) (ended : letsGo action = true → site.deletions = [])
    (stepped : deskStep config site.desk action = some after) :
    Spared { site with desk := after, deletions := site.track after } := by
  have awaited := awaited_spares_restores (reached.next trivial stepped)
  by_cases none : site.deletions = []
  · have fresh : ∀ deletion ∈ site.track after,
        after.awaitedDeletion = some (deletion.backupId, deletion.location) := by
      intro deletion tracked
      rcases mem_track tracked with ⟨known, there, _⟩ | now
      · rw [none] at there
        cases there
      · exact now
    constructor
    · intro some_
      obtain ⟨deletion, tracked⟩ := List.exists_mem_of_ne_nil _ some_
      exact deletes_of_awaited (by rw [fresh deletion tracked]; rfl)
    · exact fun deletion tracked => awaited _ _ (fresh deletion tracked)
    · exact spared.removed
  · have stays : letsGo action = false := Bool.eq_false_iff.mpr fun goes => none (ended goes)
    obtain ⟨deletes, rows⟩ := rows_of_deletes (spared.held none) stays stepped
    constructor
    · exact fun _ => deletes
    · intro deletion tracked
      rcases mem_track tracked with ⟨known, there, same⟩ | now
      · exact rows.idle (same ▸ spared.idle known there)
      · exact awaited _ _ now
    · exact spared.removed

/-- An end of a deletion leaves the others as they are. -/
theorem Spared.erase (spared : Spared site) (index : Nat) :
    Spared { site with deletions := site.deletions.eraseIdx index } where
  held left := spared.held fun none => left (by rw [none]; rfl)
  idle deletion inside := spared.idle deletion (List.mem_of_mem_eraseIdx inside)
  removed := spared.removed

/-- A step before which every deletion has ended, if it lets go of the guard, spares the restores.
-/
theorem spared_of_step {label : SiteAction}
    (reached : (deskSystem config).Reachable System.unguarded site.desk) (spared : Spared site)
    (ended : Ended site label) (stepped : siteStep config site label = some later) :
    Spared later := by
  cases label with
  | desk action =>
    simp only [siteStep] at stepped
    split at stepped
    · cases stepped
    · obtain ⟨after, moved, rfl⟩ := Option.map_eq_some_iff.mp stepped
      exact spared_of_desk reached spared ended moved
  | remove index =>
    obtain ⟨deletion, found, rfl⟩ := Option.map_eq_some_iff.mp stepped
    have idle := spared.idle deletion (List.mem_of_getElem? found)
    have others := spared.erase index
    refine ⟨others.held, others.idle, fun removal inside => ?_⟩
    rcases List.mem_cons.mp inside with rfl | earlier
    · show (activeForBackup site.desk.worker.db deletion.backupId).isSome = false
      rw [activeForBackup_eq_none.mpr idle]
      rfl
    · exact spared.removed removal earlier
  | refuse index =>
    obtain ⟨deletion, found, rfl⟩ := Option.map_eq_some_iff.mp stepped
    exact spared.erase index

/-- The desk of a site runs as one without an agent. -/
theorem desk_reachable {allow : Site → SiteAction → Prop}
    (reached : (siteSystem config).Reachable allow site) :
    (deskSystem config).Reachable System.unguarded site.desk := by
  induction reached with
  | start initial => exact .start initial.1
  | @next before after label _ _ stepped ih =>
    cases label with
    | desk action =>
      simp only [siteSystem, siteStep] at stepped
      split at stepped
      · cases stepped
      · obtain ⟨desk, moved, rfl⟩ := Option.map_eq_some_iff.mp stepped
        exact ih.next trivial moved
    | remove index =>
      obtain ⟨deletion, found, rfl⟩ := Option.map_eq_some_iff.mp stepped
      exact ih
    | refuse index =>
      obtain ⟨deletion, found, rfl⟩ := Option.map_eq_some_iff.mp stepped
      exact ih

/-- However requests, passes, deletions by hand, steps of the worker, crashes and the agent
interleave, no copy of a backup is removed while a restore of that backup is pending, confirmed or
running, where every deletion has ended before the guard is let go of. -/
theorem removals_spare_restores (reached : (siteSystem config).Reachable Ended site) :
    RemovalsSpareRestores site := by
  have spared : Spared site := by
    refine reached.invariant (fun _ => desk_reachable) (show System.Preserved _ _
      (fun site => (deskSystem config).Reachable System.unguarded site.desk) Spared from ⟨?_, ?_⟩)
    · rintro start ⟨_, nothing, unremoved⟩
      constructor
      · exact fun some_ => absurd nothing some_
      · intro deletion inside
        rw [nothing] at inside
        cases inside
      · intro removal inside
        rw [unremoved] at inside
        cases inside
    · exact fun _ _ _ reached spared ended stepped => spared_of_step reached spared ended stepped
  exact spared.removed

/-- An installation whose desk was not used yet. -/
def newSite : Site := ⟨⟨⟨.empty, .down, [], false, []⟩, fun _ => none, none, []⟩, [], []⟩

/-- A site that was not used yet is an initial state. -/
theorem newSite_init (config : DeskConfig) : (siteSystem config).init newSite :=
  ⟨rfl, rfl, rfl⟩

/-- A pass that asks the agent to delete the remote copy of a backup, and gets a reply. -/
def dropRemote (record : BackupHistory) (reply : DeleteReply) : List SiteAction :=
  [.desk (.environment { Database.empty with history := .singleton record }),
    .desk (.work .boot), .desk (.work .scan), .desk (.work .adopt),
    .desk (.retain { promptPass ⟨1, 0, by decide, by decide⟩ with agent := fun _ => reply }),
    .desk (.pass .decide), .desk (.pass .judge)]

/-- A restore of the first backup that is requested and waits for its confirmation. -/
def requestRestore (source : RestoreSource) : List SiteAction :=
  [.desk (.create 1 101), .desk (.preflight true source), .desk (.mint sampleSecret 100)]

/-- A remote copy is removed and answered for before a restore from the local one is requested. -/
theorem removals_spare_restores_of_answered : ∃ site : Site,
    site.removals = [⟨1, .remoteCopy, false⟩] ∧
      (activeForBackup site.desk.worker.db 1).isSome = true ∧ RemovalsSpareRestores site := by
  obtain ⟨site, reached, shown⟩ : ∃ site, (siteSystem sampleDesk).Reachable Ended site ∧
      decide (site.removals = [⟨1, .remoteCopy, false⟩] ∧
        (activeForBackup site.desk.worker.db 1).isSome = true) = true := by
    refine System.exists_of_runFrom (newSite_init sampleDesk)
      (dropRemote { driveOnlyBackup with localDeletedAt := none } (.removed 0) ++
        [.remove 0, .desk (.pass .answer), .desk .release] ++ requestRestore .localCopy) _ ?_
    decide
  obtain ⟨removed, active⟩ := of_decide_eq_true shown
  exact ⟨site, removed, active, removals_spare_restores reached⟩

/-- A restore that is requested after the answer to a deletion was lost loses its copy. -/
theorem removal_meets_restore :
    ¬ ∀ site : Site, (siteSystem sampleDesk).Reachable System.unguarded site →
      RemovalsSpareRestores site := by
  intro always
  obtain ⟨site, reached, shown⟩ : ∃ site,
      (siteSystem sampleDesk).Reachable System.unguarded site ∧
      decide (site.removals = [⟨1, .remoteCopy, true⟩]) = true := by
    refine System.exists_of_runFrom (newSite_init sampleDesk)
      (dropRemote driveOnlyBackup (.appError "Could not reach the Backup Agent") ++
        [.desk (.pass .answer), .desk .release] ++ requestRestore .gdrive ++ [.remove 0]) _ ?_
    decide
  have needed := always site reached
  unfold RemovalsSpareRestores at needed
  rw [of_decide_eq_true shown] at needed
  cases needed _ List.mem_cons_self

end ProxSync.Restore
