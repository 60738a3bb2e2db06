import ProxSync.Runner.Progress
/-!
# The status a run ends with

A run that is neither cancelled nor crashed ends with a status worked out from the status of its
rows, while its counters were bumped as its guests finished. The two agree as long as no archive
of the run was deleted in between; a deleted archive no longer counts as produced, so a run that
backed up everything can end as partial or failed.
-/
open ProxSync.Lib ProxSync.Retention ProxSync.History

namespace ProxSync.Runner

/-- Number of rows of a run with a status. -/
def rowsWith (db : Database) (runId : Nat) (status : BackupStatus) : Nat :=
  (forRun db runId).countP fun record => record.status == status

/-- The status the counters of a run call for. -/
def countedStatus (run : BackupRun) : RunStatus :=
  if run.guestSucceeded = run.guestTotal then .success
  else if run.guestSucceeded = 0 then .failed
  else .partialSuccess

/-- The status is the one the counters call for, or a task of the run was reported cancelled and
so is the run. -/
def Faithful (db : Database) (run : BackupRun) (status : RunStatus) : Prop :=
  status = countedStatus run ∨ (0 < rowsWith db run.id .cancelled ∧ status = .cancelled)

/-- A task of the run was reported cancelled, or none of its archives was deleted, or the run
lacks an archive and still has one. -/
def KeepsCount (db : Database) (run : BackupRun) : Prop :=
  0 < rowsWith db run.id .cancelled ∨ rowsWith db run.id .deleted = 0 ∨
    (run.guestSucceeded < run.guestTotal ∧ rowsWith db run.id .deleted < run.guestSucceeded)

/-- A count over the rows of a run is a count over all rows. -/
theorem countP_forRun (db : Database) (runId : Nat) (test : BackupHistory → Bool) :
    (forRun db runId).countP test =
      db.history.count fun record => ofRun runId record && test record := by
  rw [forRun, Table.count, List.countP_filter]
  exact List.countP_congr fun record _ => by simp [ofRun, and_comm]

/-- A count of a disjoint choice is the sum of the two counts. -/
theorem countP_or {records : List BackupHistory} {first second either : BackupHistory → Bool}
    (split : ∀ record, (if either record = true then 1 else 0) =
      (if first record = true then 1 else 0) + (if second record = true then 1 else 0)) :
    records.countP either = records.countP first + records.countP second := by
  induction records with
  | nil => rfl
  | cons record rest ih =>
    have here := split record
    rw [List.countP_cons, List.countP_cons, List.countP_cons]
    omega

/-- The rows of a run that produced an archive still have it, or had it deleted. -/
theorem countP_produced (db : Database) (runId : Nat) :
    (forRun db runId).countP produced =
      rowsWith db runId .success + rowsWith db runId .deleted := by
  refine countP_or fun record => ?_
  cases status : record.status <;> simp [produced, status]

/-- The finished rows of a run are the ones with an outcome. -/
theorem countP_isTerminal (db : Database) (runId : Nat) :
    (forRun db runId).countP (fun record => record.status.isTerminal) =
      (forRun db runId).countP produced + (forRun db runId).countP fruitless := by
  refine countP_or fun record => ?_
  cases status : record.status <;> simp [produced, fruitless, status, BackupStatus.isTerminal]

/-- A run has at most one row for each target. -/
theorem length_forRun_le {db : Database} (book : Book db) {run : BackupRun}
    (stored : run ∈ db.runs) : (forRun db run.id).length ≤ run.guestTotal := by
  have mine : ∀ record ∈ forRun db run.id, record ∈ db.history ∧ record.runId = some run.id := by
    intro record listed
    simpa [forRun, Table.mem_iff] using listed
  have distinct : ((forRun db run.id).map BackupHistory.key).Nodup := by
    refine List.Nodup.map_on ?_ ?_
    · intro first listedFirst second listedSecond key
      obtain ⟨firstStored, firstOwned⟩ := mine first listedFirst
      obtain ⟨secondStored, secondOwned⟩ := mine second listedSecond
      exact book.single first firstStored second secondStored (by simp [firstOwned])
        (firstOwned.trans secondOwned.symm) key
    · have ids : db.history.rows.Pairwise fun first second => first ≠ second :=
        db.history.ascending.imp fun below equal =>
          absurd (congrArg BackupHistory.id equal) below.ne
      exact (List.nodup_iff_pairwise_ne.mpr ids).filter _
  have named : (forRun db run.id).map BackupHistory.key ⊆
      run.targets.list.map ResolvedTarget.key := by
    intro key listed
    obtain ⟨record, isMine, rfl⟩ := List.mem_map.mp listed
    obtain ⟨recordStored, owned⟩ := mine record isMine
    obtain ⟨other, otherStored, sameId, target⟩ := book.known record recordStored run.id owned
    exact Table.eq_of_key otherStored stored sameId ▸ target
  have bound := (List.subperm_of_subset distinct named).length_le
  rw [List.length_map, List.length_map] at bound
  rw [(book.tallied run stored).total]
  exact bound

/-- What the counters of a stored run say about its rows. -/
theorem counters_eq {db : Database} (book : Book db) {run : BackupRun} (stored : run ∈ db.runs) :
    run.guestSucceeded = rowsWith db run.id .success + rowsWith db run.id .deleted ∧
      run.guestSucceeded + run.guestFailed =
        (forRun db run.id).countP fun record => record.status.isTerminal := by
  have tallied := book.tallied run stored
  have succeeded : run.guestSucceeded = (forRun db run.id).countP produced := by
    rw [tallied.succeeded, countP_forRun]
  have failed : run.guestFailed = (forRun db run.id).countP fruitless := by
    rw [tallied.failed, countP_forRun]
  refine ⟨succeeded.trans (countP_produced db run.id), ?_⟩
  rw [countP_isTerminal, succeeded, failed]

/-- Rows with an archive and cancelled rows are different rows of the run. -/
theorem produced_cancelled_le {db : Database} (book : Book db) {run : BackupRun}
    (stored : run ∈ db.runs) :
    run.guestSucceeded + rowsWith db run.id .cancelled ≤ run.guestTotal := by
  have bound := length_forRun_le book stored
  have apart : (forRun db run.id).countP
        (fun record => produced record || record.status == .cancelled) =
      (forRun db run.id).countP produced + rowsWith db run.id .cancelled := by
    refine countP_or fun record => ?_
    cases status : record.status <;> simp [produced, status]
  have within : (forRun db run.id).countP
      (fun record => produced record || record.status == .cancelled) ≤ _ := List.countP_le_length
  have succeeded := (counters_eq book stored).1
  rw [countP_produced, ← succeeded] at apart
  omega

/-- The summary of a run as a function of what its rows have come to. -/
theorem summariseRun_eq {run : BackupRun} {db : Database} :
    summariseRun run (forRun db run.id) =
      if (forRun db run.id).isEmpty then .failed
      else if rowsWith db run.id .success = 0 then
        (if 0 < rowsWith db run.id .cancelled then .cancelled
          else if 0 = run.guestTotal then .success else .failed)
      else if rowsWith db run.id .success = run.guestTotal then .success
      else .partialSuccess := by
  change (if (forRun db run.id).isEmpty then _
    else if 0 < rowsWith db run.id .cancelled ∧ rowsWith db run.id .success = 0 then _
    else if rowsWith db run.id .success = run.guestTotal then _
    else if rowsWith db run.id .success = 0 then
      (if 0 < rowsWith db run.id .cancelled then _ else _) else _) = _
  by_cases none : rowsWith db run.id .success = 0
  · by_cases requested : 0 < rowsWith db run.id .cancelled
    · simp [none, requested]
    · simp [none, requested]
  · simp [none]

/-- The summary of a run is faithful exactly when the counts are kept. -/
theorem summariseRun_faithful_iff {db : Database} (book : Book db) {run : BackupRun}
    (stored : run ∈ db.runs) :
    Faithful db run (summariseRun run (forRun db run.id)) ↔ KeepsCount db run := by
  have tallied := book.tallied run stored
  have succeeded := (counters_eq book stored).1
  have apart := produced_cancelled_le book stored
  have positive : 0 < run.guestTotal := by
    rw [tallied.total]
    exact List.length_pos_iff.mpr tallied.nonempty
  rw [Faithful, KeepsCount, summariseRun_eq, countedStatus]
  by_cases empty : (forRun db run.id).isEmpty = true
  · have norows : ∀ status, rowsWith db run.id status = 0 := by
      intro status
      rw [rowsWith, List.isEmpty_iff.mp empty, List.countP_nil]
    have unproduced : run.guestSucceeded = 0 := by rw [succeeded, norows, norows]
    have incomplete : 0 ≠ run.guestTotal := by omega
    simp [empty, norows, unproduced, incomplete]
  · rw [if_neg empty]
    by_cases none : rowsWith db run.id .success = 0
    · rw [if_pos none]
      by_cases requested : 0 < rowsWith db run.id .cancelled
      · simp [requested]
      · rw [if_neg requested, if_neg (by omega : ¬ 0 = run.guestTotal)]
        split_ifs <;> simp <;> omega
    · rw [if_neg none]
      split_ifs <;> simp <;> omega

/-- The run is at the end of its loop, neither cancelled nor crashed. -/
def AtEnd (state : State) (run : BackupRun) : Prop :=
  state.phase = .finalising run.id none ∧ run.id ∉ state.cancelled ∧
    state.db.runs.get run.id = some run

/-- Deciding and committing gives the run the status. -/
def EndsWith (config : Config) (state : State) (run : BackupRun) (status : RunStatus) : Prop :=
  ∀ now, ∃ decided after, step config state .decide = some decided ∧
    step config decided (.finalise now) = some after ∧
    runStatus after.db run.id = some status

/-- A run at the end of its loop gets the summary of its rows. -/
theorem endsWith_iff {config : Config} {state : State} {run : BackupRun} {status : RunStatus}
    (atEnd : AtEnd state run) :
    EndsWith config state run status ↔ status = summariseRun run (forRun state.db run.id) := by
  obtain ⟨here, unrequested, stored⟩ := atEnd
  let summary := summariseRun run (forRun state.db run.id)
  let decided := state.goto (.committing run.id none summary .normal)
  have decides : step config state .decide = some decided := by
    simp [step, here, State.decide, stored, unrequested, decided, summary]
  have finalises : ∀ now, step config decided (.finalise now) =
      some (decided.finalise run.id none summary .normal now) := fun _ => rfl
  have written : ∀ now,
      runStatus (decided.finalise run.id none summary .normal now).db run.id = some summary := by
    intro now
    have before : runStatus state.db run.id = some run.status := by rw [runStatus, stored]; rfl
    exact runStatus_setRun_self (finished_leavesTally summary none now) before fun _ => rfl
  constructor
  · intro ends
    obtain ⟨_, after, isDecided, isFinal, given⟩ := ends 0
    obtain rfl := Option.some.inj (decides.symm.trans isDecided)
    obtain rfl := Option.some.inj ((finalises 0).symm.trans isFinal)
    exact Option.some.inj (given.symm.trans (written 0))
  · rintro rfl now
    exact ⟨decided, _, decides, finalises now, written now⟩

/-- A run at the end of its loop ends with the status its counters call for exactly when the counts
are kept, and its counters are the number of its finished rows. -/
theorem finalised_faithful_iff (config : Config) (state : State) (run : BackupRun)
    (status : RunStatus) (reached : (system config).Reachable System.unguarded state)
    (atEnd : AtEnd state run) (ends : EndsWith config state run status) :
    (Faithful state.db run status ↔ KeepsCount state.db run) ∧
      run.guestSucceeded + run.guestFailed =
        (forRun state.db run.id).countP fun record => record.status.isTerminal := by
  have book := (sound_of_reachable reached).book
  have stored := (Table.get_eq_some.mp atEnd.2.2).1
  rw [(endsWith_iff atEnd).mp ends]
  exact ⟨summariseRun_faithful_iff book stored, (counters_eq book stored).2⟩

instance (state : State) (run : BackupRun) : Decidable (AtEnd state run) :=
  inferInstanceAs (Decidable (_ ∧ _ ∧ _))

instance (db : Database) (run : BackupRun) (status : RunStatus) :
    Decidable (Faithful db run status) :=
  inferInstanceAs (Decidable (_ ∨ _))

/-- A run that backed up its only guest ends as successful. -/
theorem finalised_success : ∃ state run, AtEnd state run ∧ run.guestSucceeded = 1 ∧
    EndsWith plainConfig state run .success ∧
    (Faithful state.db run .success ↔ KeepsCount state.db run) := by
  obtain ⟨state, reached, shown⟩ :
      ∃ state, (system plainConfig).Reachable System.unguarded state ∧
        (decide (∃ run ∈ state.db.runs, AtEnd state run ∧ run.guestSucceeded = 1 ∧
          summariseRun run (forRun state.db run.id) = .success)) = true :=
    System.exists_of_runFrom rfl (firstDone oneGuest) _ (by decide)
  obtain ⟨run, _, atEnd, counted, summary⟩ := of_decide_eq_true shown
  have ends : EndsWith plainConfig state run .success := (endsWith_iff atEnd).mpr summary.symm
  exact ⟨state, run, atEnd, counted, ends,
    (finalised_faithful_iff plainConfig state run .success reached atEnd ends).1⟩

/-- A run whose only archive is deleted before it ends is recorded as failed. -/
theorem finalised_failed_after_delete :
    ¬ ∀ state run status, (system plainConfig).Reachable System.unguarded state →
      AtEnd state run → EndsWith plainConfig state run status → Faithful state.db run status := by
  intro always
  obtain ⟨state, reached, shown⟩ :
      ∃ state, (system plainConfig).Reachable System.unguarded state ∧
        (decide (∃ run ∈ state.db.runs, AtEnd state run ∧
          summariseRun run (forRun state.db run.id) = .failed ∧
          ¬ Faithful state.db run .failed)) = true :=
    System.exists_of_runFrom rfl (firstDone oneGuest ++ [.writeHistory 1 (.deleteLocal 21)]) _
      (by decide)
  obtain ⟨run, _, atEnd, summary, unfaithful⟩ := of_decide_eq_true shown
  exact unfaithful (always state run .failed reached atEnd ((endsWith_iff atEnd).mpr summary.symm))

end ProxSync.Runner
