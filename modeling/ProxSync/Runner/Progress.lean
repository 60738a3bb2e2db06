import ProxSync.Runner.Writes
/-!
# How far a run has come

The rows of a run follow its targets: a guest has a row only when every earlier guest is settled.
Wherever the executor is suspended, its plan agrees with the rows, it holds the one running row of
the guest it works on, and it reaches the end of its loop only with a row for every target or with
the run cancelled. This holds in every reachable state, whatever crashes and fails.
-/
open ProxSync.Lib ProxSync.Retention ProxSync.History

namespace ProxSync.Runner

/-- Every target of the run has a row. -/
def Covered (db : Database) (runId : Nat) : Prop :=
  ∃ run ∈ db.runs, run.id = runId ∧ ∀ target ∈ run.targets.list, HasRow db runId target.key

/-- A guest has a row only when every earlier guest of the run is settled. -/
def Ordered (db : Database) : Prop :=
  ∀ run ∈ db.runs, ∀ done target rest, run.targets.list = done ++ target :: rest →
    HasRow db run.id target.key → ∀ earlier ∈ done, Settled db run.id earlier.key

/-- The plan knows nothing of the target, and it has no row. -/
structure Fresh (db : Database) (runId : Nat) (plan : RunPlan) (target : ResolvedTarget) :
    Prop where
  unfinished : target.key ∉ plan.completed
  unlisted : plan.adoptable.lookup target.key = none
  absent : ¬ HasRow db runId target.key

/-- The plan knows whether the target is settled, and which running row it has. -/
structure Sorted (db : Database) (runId : Nat) (plan : RunPlan) (target : ResolvedTarget) :
    Prop where
  finished : target.key ∈ plan.completed ↔ Settled db runId target.key
  listed : ∀ id, plan.adoptable.lookup target.key = some id →
    ∃ task, Held db runId target.key id task
  unlisted : target.key ∉ plan.completed → plan.adoptable.lookup target.key = none →
    ¬ HasRow db runId target.key

/-- The targets before the current one are settled and the ones after it are untouched. -/
def OnTrack (db : Database) (work : Work) : Prop :=
  ∃ run ∈ db.runs, run.id = work.runId ∧ ∃ done,
    run.targets.list = done ++ work.target :: work.rest ∧
    (∀ earlier ∈ done, Settled db work.runId earlier.key) ∧
    ∀ later ∈ work.rest, Fresh db work.runId work.plan later

/-- The current target is unfinished, and its running row is the listed one. -/
structure Openable (db : Database) (work : Work) : Prop where
  listed : ∀ id, work.plan.adoptable.lookup work.target.key = some id →
    ∃ task, Held db work.runId work.target.key id task
  unlisted : work.plan.adoptable.lookup work.target.key = none →
    ¬ HasRow db work.runId work.target.key

/-- The rows recovery still has to look at are distinct running rows, without and with a task. -/
structure Recoverable (db : Database) (pending : List Nat) (adoptable : List (Nat × String)) :
    Prop where
  distinct : (pending ++ adoptable.map Prod.fst).Nodup
  unconfirmed : ∀ id ∈ pending, ∃ record ∈ db.history, record.id = id ∧
    record.status = .running ∧ record.agentTaskId = none
  confirmed : ∀ entry ∈ adoptable, ∃ record ∈ db.history, record.id = entry.1 ∧
    record.status = .running ∧ record.agentTaskId = some entry.2

/-- What the executor can rely on where it is suspended. -/
def Facts (db : Database) (cancelled : List Nat) : Phase → Prop
  | .recovering pending adoptable => Recoverable db pending adoptable
  | .opening work => OnTrack db work ∧ Openable db work
  | .asking work backupId | .awaiting work backupId | .storing work backupId _ =>
    OnTrack db work ∧ Held db work.runId work.target.key backupId none
  | .polling work backupId taskId _ | .querying work backupId taskId _ =>
    OnTrack db work ∧ Held db work.runId work.target.key backupId (some taskId)
  | .finalising runId none => runId ∈ cancelled ∨ Covered db runId
  | .committing runId _ status exit =>
    status.isTerminal = true ∧ (exit = .normal → Covered db runId)
  | _ => True

/-- What holds in every reachable state. -/
structure Sound (state : State) : Prop where
  book : Book state.db
  ordered : Ordered state.db
  facts : Facts state.db state.cancelled state.phase

variable {db after : Database} {cancelled : List Nat}

/-! ## Facts after a write -/

section Carried

/-- A covered run stays covered. -/
theorem Covered.grows {runId : Nat} (covered : Covered db runId) (grows : Grows db after) :
    Covered after runId := by
  obtain ⟨run, stored, named, all⟩ := covered
  obtain ⟨later, laterStored, sameId, sameTargets⟩ := grows.runs run stored
  refine ⟨later, laterStored, sameId.trans named, fun target listed => ?_⟩
  exact (all target (sameTargets ▸ listed)).grows grows

/-- An untouched target stays untouched where no run gets a row. -/
theorem Fresh.noNewRows {runId : Nat} {plan : RunPlan} {target : ResolvedTarget}
    (fresh : Fresh db runId plan target) (same : NoNewRows db after) :
    Fresh after runId plan target :=
  ⟨fresh.unfinished, fresh.unlisted, fun has => fresh.absent (same.hasRow has)⟩

/-- An untouched target is sorted. -/
theorem Fresh.sorted {runId : Nat} {plan : RunPlan} {target : ResolvedTarget}
    (fresh : Fresh db runId plan target) : Sorted db runId plan target := by
  refine ⟨⟨fun finished => absurd finished fresh.unfinished, fun settled => ?_⟩, ?_, ?_⟩
  · exact absurd settled.hasRow fresh.absent
  · intro id listed
    rw [fresh.unlisted] at listed
    simp at listed
  · exact fun _ _ => fresh.absent

/-- Sorting looks at the rows only. -/
theorem Sorted.ofHistory {db after : Database} {runId : Nat} {plan : RunPlan}
    {target : ResolvedTarget} (sorted : Sorted db runId plan target)
    (same : after.history = db.history) : Sorted after runId plan target := by
  obtain ⟨finished, listed, unlisted⟩ := sorted
  refine ⟨?_, ?_, ?_⟩
  · simpa only [Settled, same] using finished
  · simpa only [Held, same] using listed
  · simpa only [HasRow, same] using unlisted

/-- Work stays on track where rows are kept and no run gets one. -/
theorem OnTrack.carry {work : Work} (track : OnTrack db work) (grows : Grows db after)
    (same : NoNewRows db after) : OnTrack after work := by
  obtain ⟨run, stored, named, done, split, settled, fresh⟩ := track
  obtain ⟨later, laterStored, sameId, sameTargets⟩ := grows.runs run stored
  refine ⟨later, laterStored, sameId.trans named, done, sameTargets ▸ split, ?_, ?_⟩
  · exact fun earlier before => (settled earlier before).grows grows
  · exact fun target behind => (fresh target behind).noNewRows same

/-- Rows stay in the order of the targets where no run gets a row. -/
theorem Ordered.carry (ordered : Ordered db) (book : Book db) (grows : Grows db after)
    (same : NoNewRows db after) : Ordered after := by
  intro later laterStored done target rest split has earlier before
  obtain ⟨row, stored, owned, key⟩ := same.hasRow has
  obtain ⟨run, runStored, named, _⟩ := book.known row stored later.id owned
  obtain ⟨kept, keptStored, sameId, sameTargets⟩ := grows.runs run runStored
  have equal : kept = later := Table.eq_of_key keptStored laterStored (sameId.trans named)
  rw [← equal, sameTargets] at split
  rw [← named] at owned ⊢
  have settled := ordered run runStored done target rest split ⟨row, stored, owned, key⟩
  exact (settled earlier before).grows grows

/-- What the executor relies on is not disturbed by an undisturbing write. -/
theorem Facts.undisturbed {cancelled : List Nat} {phase : Phase}
    (facts : Facts db cancelled phase) (same : Undisturbed db after) :
    Facts after cancelled phase := by
  have grows := same.grows
  have noNew := same.noNewRows
  cases phase with
  | recovering pending adoptable =>
    refine ⟨facts.distinct, fun id listed => ?_, fun entry listed => ?_⟩
    · obtain ⟨row, stored, named, running, bare⟩ := facts.unconfirmed id listed
      obtain ⟨later, laterStored, alike⟩ := same.forth row stored
      exact ⟨later, laterStored, alike.owner.id.trans named, alike.running.mpr running,
        alike.task.trans bare⟩
    · obtain ⟨row, stored, named, running, known⟩ := facts.confirmed entry listed
      obtain ⟨later, laterStored, alike⟩ := same.forth row stored
      exact ⟨later, laterStored, alike.owner.id.trans named, alike.running.mpr running,
        alike.task.trans known⟩
  | opening work =>
    refine ⟨facts.1.carry grows noNew, fun id listed => ?_, fun unlisted has => ?_⟩
    · obtain ⟨task, held⟩ := facts.2.listed id listed
      exact ⟨task, held.undisturbed same⟩
    · exact facts.2.unlisted unlisted (noNew.hasRow has)
  | asking | awaiting | storing | polling | querying =>
    exact ⟨facts.1.carry grows noNew, facts.2.undisturbed same⟩
  | finalising runId error =>
    cases error with
    | none => exact facts.imp id fun covered => covered.grows grows
    | some => trivial
  | committing => exact ⟨facts.1, fun normal => (facts.2 normal).grows grows⟩
  | down | starting | idle | claiming | claimed | ended => trivial

/-- More cancelled runs change no fact. -/
theorem Facts.moreCancelled {db : Database} {cancelled : List Nat} {phase : Phase} (runId : Nat)
    (facts : Facts db cancelled phase) : Facts db (runId :: cancelled) phase := by
  cases phase with
  | finalising owner error =>
    cases error with
    | none => exact facts.imp (fun requested => List.mem_cons_of_mem _ requested) id
    | some => trivial
  | down | starting | recovering | idle | claiming | claimed | opening | asking | awaiting |
    storing | polling | querying | committing | ended => exact facts

end Carried

/-! ## The loop over the targets -/

section Loop

/-- The loop over sorted targets, behind settled ones, is suspended with the facts it needs. -/
theorem facts_resumeLoop (cancelled : List Nat) (plan : RunPlan) (stopping : Bool)
    {run : BackupRun} (stored : run ∈ db.runs) (ordered : Ordered db) :
    ∀ rest done, run.targets.list = done ++ rest →
      (∀ earlier ∈ done, Settled db run.id earlier.key) →
      (∀ later ∈ rest, Sorted db run.id plan later) →
      Facts db cancelled (resumeLoop run.id plan cancelled stopping rest) := by
  intro rest
  induction rest with
  | nil =>
    intro done split settled _
    refine .inr ⟨run, stored, rfl, fun target listed => ?_⟩
    rw [split, List.append_nil] at listed
    exact (settled target listed).hasRow
  | cons target rest ih =>
    intro done split settled sorted
    have current := sorted target (by simp)
    unfold resumeLoop
    by_cases stopped : stopping = true
    · rw [if_pos stopped]
      trivial
    · rw [if_neg stopped]
      by_cases requested : run.id ∈ cancelled
      · rw [if_pos requested]
        exact .inl requested
      · rw [if_neg requested]
        by_cases finished : target.key ∈ plan.completed
        · rw [if_pos finished]
          refine ih (done ++ [target]) (by simp [split]) ?_ fun later behind =>
            sorted later (by simp [behind])
          intro earlier before
          rcases List.mem_append.mp before with before | isTarget
          · exact settled earlier before
          · rw [List.mem_singleton.mp isTarget]
            exact current.finished.mp finished
        · rw [if_neg finished]
          refine ⟨⟨run, stored, rfl, done, split, settled, fun later behind => ?_⟩,
            current.listed, current.unlisted finished⟩
          -- A row behind the first unsettled target would contradict the order of the rows.
          change later ∈ rest at behind
          have absent : ¬ HasRow db run.id later.key := by
            intro has
            obtain ⟨front, back, cut⟩ := List.append_of_mem behind
            have whole : run.targets.list = (done ++ target :: front) ++ later :: back := by
              simp [split, cut]
            have isOver := ordered run stored _ later back whole has target (by simp)
            exact finished (current.finished.mpr isOver)
          have known := sorted later (by simp [behind])
          refine ⟨fun listed => absent (known.finished.mp listed).hasRow, ?_, absent⟩
          cases listed : plan.adoptable.lookup later.key with
          | none => rfl
          | some id =>
            obtain ⟨task, held⟩ := known.listed id listed
            exact absurd held.hasRow absent

/-- A stopping loop that still has targets is left; one without targets has covered the run. -/
theorem facts_resumeLoop_stopping (cancelled : List Nat) {work : Work} {backupId : Nat}
    {task : Option String} (track : OnTrack db work)
    (held : Held db work.runId work.target.key backupId task) :
    Facts db cancelled (resumeLoop work.runId work.plan cancelled true work.rest) := by
  obtain ⟨run, stored, named, done, split, settled, _⟩ := track
  cases rest : work.rest with
  | nil =>
    refine .inr ⟨run, stored, named, fun target listed => ?_⟩
    rw [split, rest] at listed
    rcases List.mem_append.mp listed with before | isTarget
    · exact (settled target before).hasRow
    · rw [List.mem_singleton.mp isTarget]
      exact held.hasRow
  | cons => trivial

/-- Closing the row of the current target lets the loop go on. -/
theorem Settles.facts_resumeLoop {record closed : BackupHistory} {work : Work} {stopping : Bool}
    (settles : Settles db after record closed) (track : OnTrack db work)
    (ordered : Ordered after) (owned : record.runId = some work.runId)
    (key : record.key = work.target.key) :
    Facts after cancelled (resumeLoop work.runId work.plan cancelled stopping work.rest) := by
  obtain ⟨run, stored, named, done, split, settled, fresh⟩ := track
  obtain ⟨later, laterStored, sameId, sameTargets⟩ := settles.runs run stored
  have owner : later.id = work.runId := sameId.trans named
  have whole : later.targets.list = (done ++ [work.target]) ++ work.rest := by
    simp [sameTargets, split]
  have goes := Runner.facts_resumeLoop cancelled work.plan stopping laterStored ordered work.rest
    (done ++ [work.target]) whole
  rw [owner] at goes
  apply goes
  · intro earlier before
    rcases List.mem_append.mp before with before | isTarget
    · exact (settled earlier before).grows settles.grows
    · rw [List.mem_singleton.mp isTarget, ← key]
      exact settles.settled owned
  · exact fun target behind => ((fresh target behind).noNewRows settles.noNewRows).sorted

/-- A plan read from the rows of a run sorts its targets. -/
theorem sorted_runPlan {run : BackupRun} (options : RunOptions) (target : ResolvedTarget) :
    Sorted db run.id (runPlan options run (forRun db run.id)) target := by
  have rows : ∀ record, record ∈ forRun db run.id ↔
      record ∈ db.history ∧ record.runId = some run.id := by
    intro record
    simp [forRun, Table.mem_iff]
  refine ⟨?_, ?_, ?_⟩
  · simp only [runPlan, List.mem_map, List.mem_filter, rows, Settled, BackupStatus.isTerminal,
      bne_iff_ne, and_assoc]
    constructor
    · rintro ⟨record, stored, owned, isOver, key⟩
      exact ⟨record, stored, owned, key, isOver⟩
    · rintro ⟨record, stored, owned, key, isOver⟩
      exact ⟨record, stored, owned, isOver, key⟩
  · intro id listed
    have entry : (target.key, id) ∈ (runPlan options run (forRun db run.id)).adoptable := by
      obtain ⟨front, back, split, _⟩ := List.lookup_eq_some_iff.mp listed
      simp [split]
    simp only [runPlan, List.mem_reverse, List.mem_map, List.mem_filter, rows, Prod.mk.injEq,
      beq_iff_eq] at entry
    obtain ⟨record, ⟨⟨stored, owned⟩, running⟩, key, named⟩ := entry
    exact ⟨record.agentTaskId, record, stored, named, owned, key, running, rfl⟩
  · rintro unfinished unlisted ⟨record, stored, owned, key⟩
    by_cases running : record.status = .running
    · have entry : (target.key, record.id) ∈
          (runPlan options run (forRun db run.id)).adoptable := by
        simp only [runPlan, List.mem_reverse, List.mem_map, List.mem_filter, rows, beq_iff_eq]
        exact ⟨record, ⟨⟨stored, owned⟩, running⟩, by rw [key]⟩
      have absent := List.lookup_eq_none_iff.mp unlisted _ entry
      simp at absent
    · apply unfinished
      simp only [runPlan, List.mem_map, List.mem_filter, rows, BackupStatus.isTerminal, bne_iff_ne]
      exact ⟨record, ⟨⟨stored, owned⟩, running⟩, key⟩

/-- The row a plan lists for the current target is the one it is held by. -/
theorem Openable.adopted {db : Database} {work : Work} (openable : Openable db work)
    {adoptId : Nat} {adopted : BackupHistory}
    (listed : work.plan.adoptable.lookup work.target.key = some adoptId)
    (found : db.history.get adoptId = some adopted) :
    Held db work.runId work.target.key adopted.id adopted.agentTaskId := by
  obtain ⟨stored, named⟩ := Table.get_eq_some.mp found
  obtain ⟨_, record, recordStored, recordNamed, owned, key, running, _⟩ :=
    openable.listed adoptId listed
  have equal : record = adopted :=
    Table.eq_of_key recordStored stored (recordNamed.trans named.symm)
  subst equal
  exact ⟨record, stored, rfl, owned, key, running, rfl⟩

/-- A current target whose listed row cannot be read has no row. -/
theorem Openable.absent {db : Database} {work : Work} (openable : Openable db work)
    (unlisted : (work.plan.adoptable.lookup work.target.key).bind db.history.get = none) :
    ¬ HasRow db work.runId work.target.key := by
  cases listed : work.plan.adoptable.lookup work.target.key with
  | none => exact openable.unlisted listed
  | some id =>
    obtain ⟨_, record, stored, rfl, _⟩ := openable.listed id listed
    simp [listed, Table.get_of_mem stored] at unlisted

/-- The row of a key in a sorted list of distinct keys splits it in one place. -/
theorem split_unique {targets : Targets} {done other : List ResolvedTarget}
    {target found : ResolvedTarget} {rest behind : List ResolvedTarget}
    (split : targets.list = done ++ target :: rest)
    (cut : targets.list = other ++ found :: behind) (same : found.key = target.key) :
    other = done ∧ found = target ∧ behind = rest := by
  have distinct := targets.distinct
  have equal : found = target := by
    have injective := List.inj_on_of_nodup_map distinct
    exact injective (by simp [cut]) (by simp [split]) same
  subst equal
  have apart : found ∉ done ∧ found ∉ rest := by
    have nodup := distinct.of_map
    rw [split, List.nodup_middle, List.nodup_cons, List.mem_append, not_or] at nodup
    exact nodup.1
  have equation : done ++ found :: rest = other ++ found :: behind := split.symm.trans cut
  obtain ⟨front, _, back⟩ := (List.append_cons_inj_of_notMem apart.1 apart.2).mp equation
  exact ⟨front.symm, rfl, back.symm⟩

end Loop

/-! ## Recovery -/

section Recovery

/-- The rows a restart looks at are running. -/
theorem mem_runningRows {record : BackupHistory} (listed : record ∈ runningRows db) :
    record ∈ db.history ∧ record.status = .running := by
  have kept := (orderNewestFirst_perm _).mem_iff.mp (List.mem_of_mem_take listed)
  obtain ⟨stored, running⟩ := List.mem_filter.mp kept
  exact ⟨stored, by simpa using running⟩

/-- The rows a restart looks at are distinct. -/
theorem runningRows_distinct (db : Database) :
    (runningRows db).Pairwise fun first second => first.id ≠ second.id := by
  have stored : (db.history.rows.filter fun record => record.status == .running).Pairwise
      fun first second => first.id ≠ second.id :=
    (db.history.ascending.imp fun below => below.ne).filter _
  have ordered := ((orderNewestFirst_perm _).pairwise_iff (fun different => different.symm)).mpr
    stored
  exact ordered.sublist (List.take_sublist _ _)

/-- A scan finds distinct running rows and splits them by their task. -/
theorem recoverable_scan (db : Database) : Recoverable db
    (((runningRows db).filter fun record => record.agentTaskId.isNone).map BackupHistory.id)
    ((runningRows db).filterMap fun record =>
      record.agentTaskId.map fun taskId => (record.id, taskId)) := by
  have distinct := runningRows_distinct db
  have entries : ((runningRows db).filterMap fun record =>
      record.agentTaskId.map fun taskId => (record.id, taskId)).map Prod.fst =
      (runningRows db).filterMap fun record => record.agentTaskId.map fun _ => record.id := by
    rw [List.map_filterMap]
    congr 1
    funext record
    cases record.agentTaskId <;> rfl
  refine ⟨?_, ?_, ?_⟩
  · rw [entries, List.nodup_append]
    refine ⟨?_, ?_, ?_⟩
    · rw [List.nodup_iff_pairwise_ne, List.pairwise_map]
      exact distinct.filter _
    · rw [List.nodup_iff_pairwise_ne, List.pairwise_filterMap]
      refine distinct.imp fun {first second} apart id isFirst other isSecond => ?_
      obtain ⟨_, _, rfl⟩ := Option.map_eq_some_iff.mp isFirst
      obtain ⟨_, _, rfl⟩ := Option.map_eq_some_iff.mp isSecond
      exact apart
    · rintro id unconfirmed other confirmed rfl
      obtain ⟨first, listedFirst, named⟩ := List.mem_map.mp unconfirmed
      obtain ⟨second, listedSecond, isSecond⟩ := List.mem_filterMap.mp confirmed
      obtain ⟨task, known, same⟩ := Option.map_eq_some_iff.mp isSecond
      obtain ⟨listedFirst, bare⟩ := List.mem_filter.mp listedFirst
      have equal : first = second := Table.eq_of_key (mem_runningRows listedFirst).1
        (mem_runningRows listedSecond).1 (named.trans same.symm)
      subst equal
      simp [known] at bare
  · intro id unconfirmed
    obtain ⟨record, listed, named⟩ := List.mem_map.mp unconfirmed
    obtain ⟨listed, bare⟩ := List.mem_filter.mp listed
    obtain ⟨stored, running⟩ := mem_runningRows listed
    exact ⟨record, stored, named, running, by simpa using bare⟩
  · intro entry confirmed
    obtain ⟨record, listed, isEntry⟩ := List.mem_filterMap.mp confirmed
    obtain ⟨task, known, rfl⟩ := Option.map_eq_some_iff.mp isEntry
    obtain ⟨stored, running⟩ := mem_runningRows listed
    exact ⟨record, stored, rfl, running, known⟩

/-- The first row without a task is apart from the others. -/
theorem Recoverable.pending_cons {db : Database} {backupId : Nat} {pending : List Nat}
    {adoptable : List (Nat × String)}
    (recoverable : Recoverable db (backupId :: pending) adoptable) :
    backupId ∉ pending ++ adoptable.map Prod.fst ∧ Recoverable db pending adoptable := by
  obtain ⟨apart, distinct⟩ := List.nodup_cons.mp recoverable.distinct
  exact ⟨apart, distinct, fun id listed => recoverable.unconfirmed id (by simp [listed]),
    recoverable.confirmed⟩

/-- The first row with a task is apart from the others. -/
theorem Recoverable.adoptable_cons {db : Database} {entry : Nat × String}
    {adoptable : List (Nat × String)} (recoverable : Recoverable db [] (entry :: adoptable)) :
    entry.1 ∉ [] ++ adoptable.map Prod.fst ∧ Recoverable db [] adoptable := by
  obtain ⟨apart, distinct⟩ := List.nodup_cons.mp recoverable.distinct
  exact ⟨apart, distinct, by simp,
    fun other listed => recoverable.confirmed other (List.mem_cons_of_mem entry listed)⟩

/-- Closing a row leaves the other rows to be recovered. -/
theorem Recoverable.settle {pending : List Nat} {adoptable : List (Nat × String)}
    {record closed : BackupHistory} (recoverable : Recoverable db pending adoptable)
    (settles : Settles db after record closed)
    (apart : record.id ∉ pending ++ adoptable.map Prod.fst) :
    Recoverable after pending adoptable := by
  rw [List.mem_append, not_or] at apart
  refine ⟨recoverable.distinct, fun id listed => ?_, fun entry listed => ?_⟩
  · obtain ⟨row, stored, rfl, facts⟩ := recoverable.unconfirmed id listed
    exact ⟨row, settles.others stored fun same => apart.1 (same ▸ listed), rfl, facts⟩
  · obtain ⟨row, stored, named, facts⟩ := recoverable.confirmed entry listed
    refine ⟨row, settles.others stored fun same => apart.2 ?_, named, facts⟩
    exact List.mem_map.mpr ⟨entry, listed, named.symm.trans same⟩

section Closing

variable {pending : List Nat} {adoptable : List (Nat × String)} {backupId : Nat} {taskId : String}

/-- Interrupting the first row without a task closes that row only. -/
theorem Recoverable.interrupts (recoverable : Recoverable db (backupId :: pending) adoptable)
    (book : Book db) (message : String) (now : Instant) : ∃ record closed, record.id = backupId ∧
      closed.status = .interrupted ∧
      Settles db (closeBackup db backupId .interrupted message now) record closed ∧
      Book (closeBackup db backupId .interrupted message now) := by
  obtain ⟨record, stored, rfl, running, _⟩ := recoverable.unconfirmed _ List.mem_cons_self
  exact ⟨record, _, rfl, rfl, closeBackup_settles book stored running .interrupted (by decide)
    (by decide) message now⟩

/-- Interrupting the first row with a task closes that row only. -/
theorem Recoverable.forgets (recoverable : Recoverable db [] ((backupId, taskId) :: adoptable))
    (book : Book db) (message : String) (now : Instant) : ∃ record closed, record.id = backupId ∧
      closed.status = .interrupted ∧
      Settles db (closeBackup db backupId .interrupted message now) record closed ∧
      Book (closeBackup db backupId .interrupted message now) := by
  obtain ⟨record, stored, rfl, running, _⟩ := recoverable.confirmed _ List.mem_cons_self
  exact ⟨record, _, rfl, rfl, closeBackup_settles book stored running .interrupted (by decide)
    (by decide) message now⟩

/-- Recording the outcome of the first row with a task closes that row only. -/
theorem Recoverable.records {config : Config}
    (recoverable : Recoverable db [] ((backupId, taskId) :: adoptable)) (book : Book db)
    {runId : Nat} {task : AgentTask} {upload : Bool} {now : Instant}
    (context : contextFor config db backupId = some (runId, upload))
    (recorded : recordOutcome db backupId runId task upload now = some after) :
    ∃ record closed, record.id = backupId ∧ Settles db after record closed ∧ Book after := by
  obtain ⟨record, stored, rfl, running, _⟩ := recoverable.confirmed _ List.mem_cons_self
  have owned := contextFor_owner book stored running context
  exact ⟨record, _, rfl, recordOutcome_settles book stored running owned recorded⟩

end Closing

end Recovery

/-! ## Steps of the executor -/

section Steps

variable {state : State}

/-- Writes of other actors and of runs keep what holds. -/
theorem Sound.undisturbed (sound : Sound state) (book : Book db)
    (same : Undisturbed state.db db) : Sound (state.commit db state.phase) :=
  ⟨book, sound.ordered.carry sound.book same.grows same.noNewRows, sound.facts.undisturbed same⟩

/-- What is noted changes nothing the executor relies on. -/
theorem Sound.note (sound : Sound state) (event : Event) : Sound (state.note event) :=
  ⟨sound.book, sound.ordered, sound.facts⟩

/-- Rewriting the status or the times of a run keeps what holds. -/
theorem Sound.setRun (sound : Sound state) {update : BackupRun → BackupRun}
    (leaves : LeavesTally update) (runId : Nat) :
    Sound (state.commit (setRun state.db runId update leaves.id) state.phase) :=
  sound.undisturbed (sound.book.setRun leaves runId) (.setRun leaves runId)

/-- Closing one of the rows recovery looks at. -/
theorem Sound.recoverRow (sound : Sound state) {record closed : BackupHistory}
    {pending : List Nat} {adoptable : List (Nat × String)} (book : Book db)
    (settles : Settles state.db db record closed)
    (recoverable : Recoverable state.db pending adoptable)
    (apart : record.id ∉ pending ++ adoptable.map Prod.fst) :
    Sound (state.commit db (.recovering pending adoptable)) :=
  ⟨book, sound.ordered.carry sound.book settles.grows settles.noNewRows,
    recoverable.settle settles apart⟩

/-- Closing the row of the current target. -/
theorem Sound.closeRow (sound : Sound state) {record closed : BackupHistory}
    {work : Work} (book : Book db) (settles : Settles state.db db record closed)
    (track : OnTrack state.db work) (owned : record.runId = some work.runId)
    (key : record.key = work.target.key) : Sound (state.commit db (state.nextTarget work)) := by
  have ordered := sound.ordered.carry sound.book settles.grows settles.noNewRows
  exact ⟨book, ordered, settles.facts_resumeLoop track ordered owned key⟩

/-- Closing the held row of the current target without an outcome. -/
theorem Sound.close (sound : Sound state) {work : Work} {backupId : Nat}
    {task : Option String} (track : OnTrack state.db work)
    (held : Held state.db work.runId work.target.key backupId task) (status : BackupStatus)
    (isOver : status ≠ .running) (barren : status ≠ .success ∧ status ≠ .deleted) (message : String)
    (now : Instant) : Sound (state.close work backupId status message now) := by
  obtain ⟨_, _, _, owned, key, settles, book⟩ :=
    held.closes sound.book status isOver barren message now
  exact sound.closeRow book settles track owned key

/-- Opening the row of the current target keeps the executor on track and holds the row. -/
theorem Sound.openRow (sound : Sound state) {work : Work} {id : Nat}
    {uploadStatus : UploadStatus} {now : Instant} (track : OnTrack state.db work)
    (absent : ¬ HasRow state.db work.runId work.target.key)
    (fresh : ∀ other ∈ state.db.history, other.id < id) :
    Sound (state.commit { state.db with
      history := state.db.history.insert (BackupHistory.create id (some work.runId) work.target
        work.plan.options.storage uploadStatus now) fresh } (.asking work id)) := by
  obtain ⟨run, stored, named, done, split, settled, untouched⟩ := track
  let opened := BackupHistory.create id (some work.runId) work.target work.plan.options.storage
    uploadStatus now
  have fresh : ∀ other ∈ state.db.history, other.id < opened.id := fresh
  have grows := grows_insert fresh
  have target_mem : work.target ∈ run.targets.list := by simp [split]
  have rows : ∀ row ∈ state.db.history, row.runId = some work.runId → row.key ≠ work.target.key :=
    fun row rowStored owned key => absent ⟨row, rowStored, owned, key⟩
  refine ⟨sound.book.openRow fresh stored named target_mem rows, ?_, ?_, ?_⟩
  · intro other otherStored front target back cut has earlier before
    obtain ⟨row, rowStored, owned, key⟩ := has
    rcases (Table.mem_insert fresh).mp rowStored with old | rfl
    · exact (sound.ordered other otherStored front target back cut ⟨row, old, owned, key⟩ earlier
        before).grows grows
    · -- The new row is the current target's, and what is in front of that is settled.
      have sameRun : work.runId = other.id := by
        simpa [opened, BackupHistory.create] using owned
      have equal : other = run := Table.eq_of_key otherStored stored (sameRun.symm.trans named.symm)
      subst equal
      obtain ⟨sameFront, _, _⟩ := split_unique split cut key.symm
      rw [← sameRun]
      exact (settled earlier (sameFront ▸ before)).grows grows
  · refine ⟨run, stored, named, done, split, fun earlier before => ?_, fun later behind => ?_⟩
    · exact (settled earlier before).grows grows
    · have known := untouched later behind
      refine ⟨known.unfinished, known.unlisted, ?_⟩
      rintro ⟨row, rowStored, owned, key⟩
      rcases (Table.mem_insert fresh).mp rowStored with old | rfl
      · exact known.absent ⟨row, old, owned, key⟩
      · -- The current target is not among the ones behind it.
        have distinct := run.targets.distinct
        rw [split, List.map_append, List.map_cons, List.nodup_append, List.nodup_cons] at distinct
        exact distinct.2.1.1 (List.mem_map.mpr ⟨later, behind, key.symm⟩)
  · exact ⟨opened, (Table.mem_insert fresh).mpr (.inr rfl), rfl, rfl, rfl, rfl, rfl⟩

/-- Storing the accepted task holds the row with it. -/
theorem Sound.storeTask (sound : Sound state) {work : Work} {backupId : Nat}
    {taskId : String} {correlationId : Option String} (track : OnTrack state.db work)
    (held : Held state.db work.runId work.target.key backupId none) :
    Sound (state.commit (setRecord state.db backupId (History.storeTask taskId correlationId)
      fun _ => rfl) (.polling work backupId taskId none)) := by
  obtain ⟨record, stored, rfl, owned, key, running, _⟩ := held
  have keeps : ∀ row, (History.storeTask taskId correlationId row).id = row.id := fun _ => rfl
  have owner : ∀ row, SameOwner row (History.storeTask taskId correlationId row) :=
    fun _ => ⟨rfl, rfl, rfl⟩
  have grows := grows_storeTask state.db record.id taskId correlationId
  have noNew : NoNewRows state.db
      (setRecord state.db record.id (History.storeTask taskId correlationId) keeps) := by
    intro row rowStored _
    rcases (Table.mem_modify keeps).mp rowStored with ⟨old, oldStored, _, rfl⟩ | ⟨old, _⟩
    · exact ⟨old, oldStored, owner old⟩
    · exact ⟨row, old, ⟨rfl, rfl, rfl⟩⟩
  refine ⟨?_, sound.ordered.carry sound.book grows noNew, track.carry grows noNew, ?_⟩
  · exact sound.book.setRecord keeps stored (owner record)
      (fun named => sound.book.named record stored named) ⟨rfl, rfl⟩
  · exact ⟨_, (Table.mem_modify keeps).mpr (.inl ⟨record, stored, rfl, rfl⟩), rfl, owned, key,
      running, rfl⟩

/-- Reading the plan of a stored run enters its loop with the facts it needs. -/
theorem Sound.loadPlan (sound : Sound state) {run : BackupRun} {runId : Nat}
    (found : state.db.runs.get runId = some run) (options : RunOptions) (now : Instant)
    (cancelled : List Nat) (stopping : Bool) :
    let db := Runner.setRun state.db runId (started now) fun _ => rfl
    Book db ∧ Ordered db ∧ Facts db cancelled (resumeLoop runId
      (runPlan options run (forRun state.db runId)) cancelled stopping run.targets.list) := by
  obtain ⟨stored, rfl⟩ := Table.get_eq_some.mp found
  have kept := sound.setRun (started_leavesTally now) run.id
  refine ⟨kept.book, kept.ordered, ?_⟩
  have startedStored : started now run ∈
      (Runner.setRun state.db run.id (started now) (started_leavesTally now).id).runs :=
    (Table.mem_modify (started_leavesTally now).id).mpr (.inl ⟨run, stored, rfl, rfl⟩)
  have goes := facts_resumeLoop cancelled (runPlan options run (forRun state.db run.id)) stopping
    startedStored kept.ordered run.targets.list [] rfl
  refine goes (by simp) fun target _ => ?_
  exact (sorted_runPlan options target).ofHistory rfl

/-- The status a run is decided to end with is terminal. -/
theorem summariseRun_isTerminal (run : BackupRun) (records : List BackupHistory) :
    (summariseRun run records).isTerminal = true := by
  simp only [summariseRun]
  repeat' split
  all_goals rfl

/-- One step keeps what holds in every reachable state. -/
theorem step_sound {config : Config} {after : State} {action : Action} (sound : Sound state)
    (stepped : step config state action = some after) : Sound after := by
  have facts := sound.facts
  cases step_moves stepped with
  | createRun fresh nonempty =>
    exact sound.undisturbed (sound.book.createRun fresh nonempty) (.createRun fresh)
  | importFile fresh => exact sound.undisturbed (sound.book.importFile fresh) (.importFile fresh)
  | changeRestores =>
    exact sound.undisturbed (sound.book.congr rfl rfl)
      (.ofRuns (fun run stored => ⟨run, stored, rfl, rfl⟩) rfl)
  | writeHistory found applies =>
    obtain ⟨stored, rfl⟩ := Table.get_eq_some.mp found
    exact sound.undisturbed (sound.book.writeHistory stored applies)
      (.writeHistory sound.book stored applies)
  | scan => exact ⟨sound.book, sound.ordered, recoverable_scan state.db⟩
  | interruptPending here =>
    rw [here] at facts
    obtain ⟨apart, rest⟩ := facts.pending_cons
    obtain ⟨record, closed, rfl, _, settles, book⟩ := facts.interrupts sound.book _ _
    exact sound.recoverRow book settles rest apart
  | forget here =>
    rw [here] at facts
    obtain ⟨apart, rest⟩ := facts.adoptable_cons
    obtain ⟨record, closed, rfl, _, settles, book⟩ := facts.forgets sound.book _ _
    exact sound.recoverRow book settles rest apart
  | leave here =>
    rw [here] at facts
    exact ⟨sound.book, sound.ordered, facts.adoptable_cons.2⟩
  | recover here terminal context recorded =>
    rw [here] at facts
    obtain ⟨apart, rest⟩ := facts.adoptable_cons
    obtain ⟨record, closed, rfl, settles, book⟩ := facts.records sound.book context recorded
    exact (sound.recoverRow book settles rest apart).note _
  | requeue here =>
    have kept := sound.undisturbed sound.book.requeue .requeue
    exact ⟨kept.book, kept.ordered, trivial⟩
  | @claimCommit runId now here =>
    have kept := sound.setRun (claim_leavesTally now) runId
    exact ⟨kept.book, kept.ordered, trivial⟩
  | loadPlan here stored valid =>
    obtain ⟨book, ordered, entered⟩ := sound.loadPlan stored _ _ _ _
    exact ⟨book, ordered, entered⟩
  | adoptTask here listed found known | adoptBare here listed found known =>
    rw [here] at facts
    have held := facts.2.adopted listed found
    exact ⟨sound.book, sound.ordered, facts.1, known ▸ held⟩
  | openBackup here unlisted fresh =>
    rw [here] at facts
    exact sound.openRow facts.1 (facts.2.absent unlisted) fresh
  | send here | accept here | query here | keepPolling here =>
    rw [here] at facts
    exact ⟨sound.book, sound.ordered, facts⟩
  | refuseToSend here | lose here =>
    rw [here] at facts
    exact sound.close facts.1 facts.2 .failed (by decide) (by decide) _ _
  | refuse here =>
    rw [here] at facts
    exact (sound.close facts.1 facts.2 .failed (by decide) (by decide) _ _).note _
  | storeTask here =>
    rw [here] at facts
    exact sound.storeTask facts.1 facts.2
  | giveUp here =>
    rw [here] at facts
    exact sound.close facts.1 facts.2 .interrupted (by decide) (by decide) _ _
  | record here terminal recorded =>
    rw [here] at facts
    obtain ⟨_, _, _, owned, key, settles, book⟩ := facts.2.records sound.book recorded
    exact (sound.closeRow book settles facts.1 owned key).note _
  | pollStop here stopped =>
    rw [here] at facts
    refine ⟨sound.book, sound.ordered, ?_⟩
    have left := facts_resumeLoop_stopping state.cancelled facts.1 facts.2
    simpa [State.goto, State.nextTarget, stopped] using left
  | decide here decided =>
    rw [here] at facts
    refine ⟨sound.book, sound.ordered, ?_⟩
    cases decided with
    | cancelled | crashed => exact ⟨rfl, nofun⟩
    | normal stored unrequested fine =>
      subst fine
      exact ⟨summariseRun_isTerminal _ _, fun _ => facts.resolve_left unrequested⟩
  | @finalise runId error status exit now here =>
    have kept := sound.setRun (finished_leavesTally status error now) runId
    exact ⟨kept.book, kept.ordered, trivial⟩
  | @cancelCommit runId now pending =>
    have kept := sound.setRun
      (finished_leavesTally .cancelled (some "Cancelled before it started") now) runId
    exact ⟨kept.book, kept.ordered, kept.facts⟩
  | cancelMark pending => exact ⟨sound.book, sound.ordered, facts.moreCancelled _⟩
  | stop | cancelRead | cancelReturn => exact ⟨sound.book, sound.ordered, facts⟩
  | boot | crash | claimRead | loseRun | rejectPlan | recordFails | claimFails | handle | die |
    decideGone | exitLoop => exact ⟨sound.book, sound.ordered, trivial⟩

/-- Every step keeps rows and settled rows. -/
theorem step_grows {config : Config} {after : State} {action : Action} (sound : Sound state)
    (stepped : step config state action = some after) : Grows state.db after.db := by
  have facts := sound.facts
  have same := Grows.refl state.db
  cases step_moves stepped with
  | createRun fresh => exact (Undisturbed.createRun fresh).grows
  | importFile fresh => exact (Undisturbed.importFile fresh).grows
  | writeHistory found applies =>
    obtain ⟨stored, rfl⟩ := Table.get_eq_some.mp found
    exact (Undisturbed.writeHistory sound.book stored applies).grows
  | interruptPending here =>
    rw [here] at facts
    obtain ⟨_, _, _, _, settles, _⟩ := facts.interrupts sound.book _ _
    exact settles.grows
  | forget here =>
    rw [here] at facts
    obtain ⟨_, _, _, _, settles, _⟩ := facts.forgets sound.book _ _
    exact settles.grows
  | recover here terminal context recorded =>
    rw [here] at facts
    obtain ⟨_, _, _, settles, _⟩ := facts.records sound.book context recorded
    exact settles.grows
  | requeue => exact Undisturbed.requeue.grows
  | @claimCommit runId now => exact (Undisturbed.setRun (claim_leavesTally now) runId).grows
  | @loadPlan runId now => exact (Undisturbed.setRun (started_leavesTally now) runId).grows
  | openBackup here unlisted fresh => exact grows_insert fresh
  | refuseToSend here | refuse here | lose here =>
    rw [here] at facts
    obtain ⟨_, _, _, _, _, settles, _⟩ :=
      facts.2.closes sound.book .failed (by decide) (by decide) _ _
    exact settles.grows
  | storeTask => exact grows_storeTask _ _ _ _
  | giveUp here =>
    rw [here] at facts
    obtain ⟨_, _, _, _, _, settles, _⟩ :=
      facts.2.closes sound.book .interrupted (by decide) (by decide) _ _
    exact settles.grows
  | record here terminal recorded =>
    rw [here] at facts
    obtain ⟨_, _, _, _, _, settles, _⟩ := facts.2.records sound.book recorded
    exact settles.grows
  | @finalise runId error status exit now =>
    exact (Undisturbed.setRun (finished_leavesTally status error now) runId).grows
  | @cancelCommit runId now =>
    exact (Undisturbed.setRun
      (finished_leavesTally .cancelled (some "Cancelled before it started") now) runId).grows
  | changeRestores => exact ⟨same.runs, same.rows⟩
  | boot | crash | stop | scan | leave | claimRead | loseRun | rejectPlan | adoptTask | adoptBare |
    send | accept | query | keepPolling | recordFails | pollStop | claimFails | handle | die |
    decideGone | decide | exitLoop | cancelRead | cancelMark | cancelReturn => exact same

/-- Every reachable state is sound, whatever fails and whenever the process dies. -/
theorem sound_of_reachable {config : Config} {allow : State → Action → Prop}
    (reached : (system config).Reachable allow state) : Sound state := by
  refine reached.invariant_alone ⟨?_, ?_⟩
  · rintro _ rfl
    have noRow : ∀ record, record ∉ Database.empty.history := Table.not_mem_empty
    have noRun : ∀ run, run ∉ Database.empty.runs := Table.not_mem_empty
    exact ⟨⟨⟨fun record stored => absurd stored (noRow record),
      fun record stored => absurd stored (noRow record),
      fun record stored => absurd stored (noRow record),
      fun record stored => absurd stored (noRow record)⟩,
      fun run stored => absurd stored (noRun run)⟩,
      fun run stored => absurd stored (noRun run), trivial⟩
  · exact fun _ _ _ _ sound _ stepped => step_sound sound stepped

end Steps

end ProxSync.Runner
