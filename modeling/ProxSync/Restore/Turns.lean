import ProxSync.Restore.Desk
/-!
# Taking turns on the guard

What the holder of the guard has checked stays true until it commits, since everything that could
make it false takes the guard first and the steps that take no guard leave the status of every
restore as it is. So no two restores are ever in flight together, and the holder of the guard waits
for no deletion of a copy of a backup while a restore of that backup still needs it.
-/
open ProxSync.Lib ProxSync.History ProxSync.Retention

namespace ProxSync.Restore

/-- At most one restore is authorised or running. -/
def AtMostOneInFlight (db : Database) : Prop :=
  ∀ first ∈ db.restores, ∀ second ∈ db.restores,
    isInFlight first.status = true → isInFlight second.status = true → first = second

/-- The holder of the guard waits for no deletion while a restore of that backup waits for
confirmation, is confirmed or runs. -/
def AwaitedSparesRestores (desk : Desk) : Prop :=
  ∀ backupId location, desk.awaitedDeletion = some (backupId, location) →
    ¬ RestoreActive desk.worker.db backupId

/-- What the holder of the guard has established. -/
def Vouched (config : DeskConfig) (desk : Desk) : Option Holder → Prop
  | some (.creating _ _ (some _)) => inFlight desk.worker.db = none
  | some (.confirming restoreId token targetVmid now report) =>
    confirmable config desk restoreId token targetVmid now = true ∧
      (report.isSome = true → inFlight desk.worker.db = none)
  | some (.cancelling restoreId) => ∃ record ∈ desk.worker.db.restores, record.id = restoreId ∧
      (record.status = .pendingConfirmation ∨ record.status = .confirmed)
  | some (.retaining _ run) => ∀ current plan rest, run.stage = .deleting current plan rest →
      ¬ RestoreActive desk.worker.db plan.backup.id
  | some (.deleting backupId) => ¬ RestoreActive desk.worker.db backupId
  | _ => True

section Reads

variable {db after : Database} {guarded : Bool}

/-- No restore is in flight when none is found. -/
theorem inFlight_eq_none :
    inFlight db = none ↔ ∀ record ∈ db.restores, isInFlight record.status = false := by
  unfold inFlight
  rw [List.find?_eq_none]
  simp only [Bool.not_eq_true]
  exact Iff.rfl

/-- No restore needs a backup when none is found. -/
theorem activeForBackup_eq_none {backupId : Nat} :
    activeForBackup db backupId = none ↔ ¬ RestoreActive db backupId := by
  unfold activeForBackup RestoreActive
  rw [List.find?_eq_none]
  constructor
  · rintro unneeded ⟨record, stored, about, active⟩
    exact unneeded record stored (by simp [about, active])
  · intro idle record stored found
    simp only [Bool.and_eq_true, beq_iff_eq] at found
    exact idle ⟨record, stored, found.1, found.2⟩

/-- A restore in flight was in flight before the worker's step. -/
theorem RowMoves.inFlight {old new : RestoreHistory} (moves : RowMoves guarded old new)
    (flies : isInFlight new.status = true) : isInFlight old.status = true := by
  rcases moves.status with same | ⟨_, closed | ⟨confirmed, _⟩⟩
  · exact same ▸ flies
  · cases status : new.status <;> simp_all [isInFlight, RestoreStatus.isTerminal]
  · rw [confirmed]
    rfl

/-- A restore that needs its backup needed it before the worker's step. -/
theorem RowMoves.active {old new : RestoreHistory} (moves : RowMoves guarded old new)
    (active : new.status.blocksRetention = true) : old.status.blocksRetention = true := by
  rcases moves.status with same | ⟨_, closed | ⟨confirmed, _⟩⟩
  · exact same ▸ active
  · cases status : new.status <;>
      simp_all [RestoreStatus.blocksRetention, RestoreStatus.isTerminal]
  · rw [confirmed]
    rfl

/-- The worker puts no other restore in flight. -/
theorem RowsMove.alone (moves : RowsMove guarded db.restores after.restores)
    (alone : inFlight db = none) : inFlight after = none := by
  rw [inFlight_eq_none] at alone ⊢
  intro row stored
  obtain ⟨old, was, moved⟩ := moves.back row stored
  by_contra flies
  rw [Bool.not_eq_false] at flies
  have flew : isInFlight old.status = true := moved.inFlight flies
  rw [alone old was] at flew
  cases flew

/-- The worker makes no restore need a backup. -/
theorem RowsMove.idle (moves : RowsMove guarded db.restores after.restores) {backupId : Nat}
    (idle : ¬ RestoreActive db backupId) : ¬ RestoreActive after backupId := by
  rintro ⟨row, stored, about, active⟩
  obtain ⟨old, was, moved⟩ := moves.back row stored
  exact idle ⟨old, was, moved.backup.symm.trans about, moved.active active⟩

/-- Without the guard every restore keeps its status. -/
theorem RowsMove.unguarded (moves : RowsMove false db.restores after.restores)
    {record : RestoreHistory} (stored : record ∈ db.restores) :
    ∃ row ∈ after.restores, row.id = record.id ∧ row.status = record.status := by
  obtain ⟨row, there, moved⟩ := moves.forth record stored
  rcases moved.status with same | ⟨held, _⟩
  · exact ⟨row, there, moved.id, same⟩
  · cases held

end Reads

section Turns

variable {config : DeskConfig} {desk after : Desk} {holder : Option Holder}

/-- What is vouched for stays so while nothing takes the guard. -/
theorem Vouched.carry (vouched : Vouched config desk holder)
    (rows : RowsMove false desk.worker.db.restores after.worker.db.restores)
    (tickets : after.tickets = desk.tickets) : Vouched config after holder := by
  cases holder with
  | none => exact trivial
  | some holder =>
    cases holder with
    | creating backupId targetVmid report =>
      cases report with
      | none => exact trivial
      | some source => exact rows.alone vouched
    | confirming restoreId token targetVmid now report =>
      obtain ⟨valid, alone⟩ := vouched
      refine ⟨?_, fun checked => rows.alone (alone checked)⟩
      unfold confirmable at valid ⊢
      rw [tickets]
      rw [Bool.and_eq_true] at valid ⊢
      refine ⟨?_, valid.2⟩
      obtain ⟨record, found, pending⟩ := (Option.any_eq_true _ _).mp valid.1
      obtain ⟨stored, named⟩ := Table.get_eq_some.mp found
      obtain ⟨row, there, same, status⟩ := rows.unguarded stored
      have now_ : after.worker.db.restores.get restoreId = some row :=
        Table.get_eq_some.mpr ⟨there, same.trans named⟩
      rw [now_, Option.any_some, status]
      exact pending
    | cancelling restoreId =>
      obtain ⟨record, stored, named, waits⟩ := vouched
      obtain ⟨row, there, same, status⟩ := rows.unguarded stored
      exact ⟨row, there, same.trans named, status ▸ waits⟩
    | relaying restoreId => exact trivial
    | retaining input run => exact fun current plan rest here => rows.idle (vouched _ _ _ here)
    | deleting backupId => exact rows.idle vouched

/-- A step of a retention pass writes no restore. -/
theorem pass_restores {input : PassInput} {run later : PassRun} {action : PassAction}
    (own : action.isOwn = true) (moved : PassMoves input run action later) :
    later.pass.db.restores = run.pass.db.restores := by
  cases moved with
  | misplanned | misjudged | spare | ask => rfl
  | decide => exact (settleStatic_foldl _ _ _ _).2.restores
  | @answer plan rest current here =>
    show (delete run.pass.db plan _ _).1.restores = _
    rcases delete_db run.pass.db plan (input.agent run.pending) (input.clock run.pending) with
      marked | same
    · rw [marked]
      rfl
    · rw [same]
  | interfere | die => cases own

/-- A pass asks for a deletion only while no restore needs the backup. -/
theorem pass_vouched {input : PassInput} {run later : PassRun} {action : PassAction}
    (own : action.isOwn = true) (moved : PassMoves input run action later) :
    ∀ current plan rest, later.stage = .deleting current plan rest →
      ¬ RestoreActive later.pass.db plan.backup.id := by
  intro current plan rest here
  cases moved with
  | misplanned | misjudged | spare | decide | answer => cases here
  | ask judging judged deletes =>
    obtain ⟨rfl, rfl, rfl⟩ := PassStage.deleting.inj here
    exact (revalidateCandidate_removable judged deletes).idle
  | interfere | die => cases own

/-- Whatever happens, the holder of the guard can rely on what it has checked. -/
theorem moves_vouched (vouched : Vouched config desk desk.holder)
    (moved : DeskMoves config desk after) : Vouched config after after.holder := by
  cases moved with
  | @work action state own stepped guarded =>
    have effect := work_effect own stepped
    cases takes : takesGuard desk.worker state action with
    | true =>
      have free : desk.keptHolder action = none := by
        have free := guarded takes
        cases action <;> first | exact free | rfl
      show Vouched config _ (desk.keptHolder action)
      rw [free]
      exact trivial
    | false =>
      rw [takes] at effect
      have kept : desk.keptHolder action = desk.holder ∨ desk.keptHolder action = none := by
        cases action <;> first | exact .inl rfl | exact .inr rfl
      show Vouched config _ (desk.keptHolder action)
      rcases kept with same | dropped
      · rw [same]
        exact vouched.carry effect.rows rfl
      · rw [dropped]
        exact trivial
  | @environment db same => exact vouched.carry (same ▸ .refl) rfl
  | expire free =>
    show Vouched config _ desk.holder
    rw [free]
    exact trivial
  | create | relay | mint | authorise | strike | deleted | release => exact trivial
  | confirm free valid => exact ⟨valid, fun checked => nomatch checked⟩
  | @cancel restoreId record free found waits =>
    obtain ⟨stored, named⟩ := Table.get_eq_some.mp found
    exact ⟨record, stored, named, waits⟩
  | checkCreate held alone => exact alone
  | checkConfirm held alone =>
    rw [held] at vouched
    exact ⟨vouched.1, fun _ => alone⟩
  | retain =>
    intro current plan rest here
    cases here
  | pass held own moved => exact pass_vouched own moved
  | deleteLocal free allowed =>
    simp only [deletable, Bool.and_eq_true, Option.isNone_iff_eq_none] at allowed
    exact activeForBackup_eq_none.mp allowed.2

/-- In every reachable state the holder of the guard can rely on what it has checked. -/
theorem vouched_of_reachable (reached : (deskSystem config).Reachable System.unguarded desk) :
    Vouched config desk desk.holder := by
  refine reached.invariant_alone (show System.Preserved _ _ _
    (fun desk => Vouched config desk desk.holder) from ⟨?_, ?_⟩)
  · rintro _ rfl
    exact trivial
  · exact fun _ _ _ _ vouched _ stepped => moves_vouched vouched (deskStep_moves stepped)

/-- However requests, passes, deletions, steps of the worker and crashes interleave, no deletion is
waited for while a restore of its backup is pending, confirmed or running. -/
theorem awaited_spares_restores
    (reached : (deskSystem config).Reachable System.unguarded desk) :
    AwaitedSparesRestores desk := by
  have vouched := vouched_of_reachable reached
  intro backupId location awaited
  unfold Desk.awaitedDeletion at awaited
  split at awaited
  · rename_i input run held
    rw [held] at vouched
    split at awaited
    · rename_i current plan rest here
      obtain ⟨rfl, rfl⟩ := Prod.mk.inj (Option.some.inj awaited)
      exact vouched current plan rest here
    · cases awaited
  · rename_i held
    rw [held] at vouched
    obtain ⟨rfl, rfl⟩ := Prod.mk.inj (Option.some.inj awaited)
    exact vouched
  · cases awaited

/-! ## One restore at a time -/

/-- Every restore in flight was in flight before. -/
def NoneTakesOff (before after : Database) : Prop :=
  ∀ row ∈ after.restores, isInFlight row.status = true →
    ∃ old ∈ before.restores, old.id = row.id ∧ isInFlight old.status = true

/-- Where none takes off, at most one stays in flight. -/
theorem AtMostOneInFlight.shrink {before later : Database} (one : AtMostOneInFlight before)
    (landing : NoneTakesOff before later) : AtMostOneInFlight later := by
  intro first isFirst second isSecond firstFlies secondFlies
  obtain ⟨old, oldStored, oldId, oldFlies⟩ := landing first isFirst firstFlies
  obtain ⟨other, otherStored, otherId, otherFlies⟩ := landing second isSecond secondFlies
  have same : old = other := one old oldStored other otherStored oldFlies otherFlies
  exact Table.eq_of_key isFirst isSecond (oldId.symm.trans (same ▸ otherId))

/-- Closing restores lets none take off. -/
theorem noneTakesOff_close (ids : List Nat) {status : RestoreStatus} (message : String)
    (now : Instant) (db : Database) (closed : isInFlight status = false) :
    NoneTakesOff db (closeAll ids status message now db) := by
  intro row stored flies
  rcases mem_closeAll stored with ⟨was, _⟩ | ⟨_, same⟩
  · exact ⟨row, was, rfl, flies⟩
  · rw [same, closed] at flies
    cases flies

/-- One step of the desk keeps at most one restore in flight. -/
theorem moves_oneInFlight (vouched : Vouched config desk desk.holder)
    (one : AtMostOneInFlight desk.worker.db) (moved : DeskMoves config desk after) :
    AtMostOneInFlight after.worker.db := by
  cases moved with
  | work own stepped guarded =>
    refine one.shrink fun row stored flies => ?_
    obtain ⟨old, was, moves⟩ := (work_effect own stepped).rows.back row stored
    exact ⟨old, was, moves.id.symm, moves.inFlight flies⟩
  | environment same => exact one.shrink fun row stored flies => ⟨row, same ▸ stored, rfl, flies⟩
  | expire free => exact one.shrink (noneTakesOff_close _ _ _ _ rfl)
  | create | confirm | cancel | relay | checkCreate | checkConfirm | retain | deleteLocal |
    deleted | release => exact one
  | mint held =>
    refine one.shrink fun row stored flies => ?_
    rcases (Table.mem_append _).mp stored with old | rfl
    · exact ⟨row, old, rfl, flies⟩
    · cases flies
  | @authorise restoreId token targetVmid now source held =>
    rw [held] at vouched
    have alone := inFlight_eq_none.mp (vouched.2 rfl)
    -- Nothing was in flight, so whatever is now is the restore that was authorised.
    have authorised : ∀ row ∈ (setRestore desk.worker.db restoreId (Restore.authorise source)
        (authorise_id _)).restores, isInFlight row.status = true → row.id = restoreId := by
      intro row stored flies
      rcases (Table.mem_modify (authorise_id _)).mp stored with ⟨old, _, named, rfl⟩ | ⟨was, _⟩
      · exact named
      · rw [alone row was] at flies
        cases flies
    intro first isFirst second isSecond firstFlies secondFlies
    exact Table.eq_of_key isFirst isSecond
      ((authorised first isFirst firstFlies).trans (authorised second isSecond secondFlies).symm)
  | @strike restoreId now held =>
    exact one.shrink (noneTakesOff_close [restoreId] cancelMessage now desk.worker.db rfl)
  | pass held own moved =>
    have same := pass_restores own moved
    exact one.shrink fun row stored flies => ⟨row, same ▸ stored, rfl, flies⟩

/-- However requests, the steps of the worker and crashes interleave, at most one restore is
confirmed or running. -/
theorem one_restore_in_flight
    (reached : (deskSystem config).Reachable System.unguarded desk) :
    AtMostOneInFlight desk.worker.db := by
  refine reached.invariant (fun _ => vouched_of_reachable) (show System.Preserved _ _
    (fun desk => Vouched config desk desk.holder) (fun desk => AtMostOneInFlight desk.worker.db)
    from ⟨?_, ?_⟩)
  · rintro _ rfl first stored
    exact absurd stored (Table.not_mem_empty first)
  · exact fun _ _ _ vouched one _ stepped => moves_oneInFlight vouched one (deskStep_moves stepped)

end Turns

/-- A restore that was started is the only one in flight. -/
theorem one_restore_in_flight_started : ∃ desk : Desk,
    (inFlight desk.worker.db).map RestoreHistory.status = some .running ∧
      AtMostOneInFlight desk.worker.db := by
  obtain ⟨desk, reached, shown⟩ : ∃ desk,
      (deskSystem sampleDesk).Reachable System.unguarded desk ∧
      decide ((inFlight desk.worker.db).map RestoreHistory.status = some .running) = true := by
    refine System.exists_of_runFrom rfl confirmAndStart _ ?_
    decide
  exact ⟨desk, of_decide_eq_true shown, one_restore_in_flight reached⟩

end ProxSync.Restore
