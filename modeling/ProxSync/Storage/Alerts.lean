import ProxSync.Lib.Alarm
import ProxSync.Lib.Format
import ProxSync.Lib.System
import ProxSync.Lib.Table
import ProxSync.Schemas
/-!
# Alerts on the storage

The storage is sampled again and again, and a sample that classifies higher than the one before it
raises an alert. How the earlier sample classified is not stored but worked out again, with the
thresholds that are in force by then. Where an edit of the thresholds lifts the earlier sample into
a severity, the next sample there is no rise, and nothing is raised.
-/
open ProxSync.Lib

namespace ProxSync.Storage

/-! ## Severities -/

/-- How full the storage is. -/
inductive StorageSeverity
  | unknown
  | healthy
  | warning
  | critical
  deriving DecidableEq, Repr

namespace StorageSeverity

/-- The severity as it is written. -/
def value : StorageSeverity → String
  | .unknown => "unknown"
  | .healthy => "healthy"
  | .warning => "warning"
  | .critical => "critical"

/-- How severe a severity is. -/
def rank : StorageSeverity → ℤ
  | .unknown => -1
  | .healthy => 0
  | .warning => 1
  | .critical => 2

/-- Severities of one rank are one severity. -/
theorem rank_injective : Function.Injective rank := by
  intro first second same
  cases first <;> cases second <;> first | rfl | cases same

instance : LinearOrder StorageSeverity := LinearOrder.lift' rank rank_injective

/-- Whether a severity is one to alert of. -/
def Alerts (severity : StorageSeverity) : Prop := severity = .warning ∨ severity = .critical

instance (severity : StorageSeverity) : Decidable severity.Alerts :=
  inferInstanceAs (Decidable (_ ∨ _))

end StorageSeverity

/-- The thresholds of the retention settings. -/
structure Thresholds where
  storageWarningPercent : ℤ
  storageCriticalPercent : ℤ
  warning_bounded : 50 ≤ storageWarningPercent ∧ storageWarningPercent ≤ 99
  critical_bounded : 51 ≤ storageCriticalPercent ∧ storageCriticalPercent ≤ 100
  critical_above_warning : storageWarningPercent < storageCriticalPercent
  deriving DecidableEq

/-- Divide two integers. -/
def trueDivide (first second : ℤ) : Except PyError PyFloat :=
  match (PyFloat.finite (first / second : ℚ)).round with
  | .infinite _ => .error .overflowError
  | quotient => .ok quotient

/-- A hundred times a number. -/
def timesHundred : PyFloat → PyFloat
  | .finite value => (PyFloat.finite (value * 100)).round
  | value => value

/-- A number between nothing and a hundred. -/
def clamp : PyFloat → PyFloat
  | .finite value => .finite (min (max value 0) 100)
  | .infinite negative => .finite (if negative then 0 else 100)
  | .nan => .nan

/-- A number with two decimal places. -/
def roundTwo : PyFloat → PyFloat
  | .finite value => (PyFloat.finite (roundHalfEven (value * 100) / 100)).round
  | value => value

/-- The part of the capacity that is not free, in percent. -/
def effectiveUsedPercent (totalBytes freeBytes : ℤ) : Except PyError (Option PyFloat) :=
  if totalBytes ≤ 0 then .ok none
  else do
    let ratio ← trueDivide (totalBytes - freeBytes) totalBytes
    .ok (some (roundTwo (clamp (timesHundred ratio))))

/-- Whether a number is at least an integer. -/
def atLeast (bound : ℤ) : PyFloat → Bool
  | .finite value => decide ((bound : ℚ) ≤ value)
  | .infinite negative => !negative
  | .nan => false

/-- The severity of a part of the capacity. -/
def classifyStorage (usedPercent : Option PyFloat) (thresholds : Thresholds) : StorageSeverity :=
  match usedPercent with
  | none => .unknown
  | some percent =>
    if atLeast thresholds.storageCriticalPercent percent then .critical
    else if atLeast thresholds.storageWarningPercent percent then .warning
    else .healthy

/-- Whether a severity is one to alert of and higher than the one before. -/
def severityIncreased (previous current : StorageSeverity) : Bool :=
  decide (previous.rank < current.rank) && decide current.Alerts

/-! ## Samples -/

/-- What the host reports of the storage. -/
structure Usage where
  totalBytes : ℤ
  usedBytes : ℤ
  freeBytes : ℤ
  deriving DecidableEq, Repr

/-- A stored sample. -/
structure Snapshot where
  id : ℕ
  capturedAt : Instant
  local_ : Usage
  deriving DecidableEq, Repr

/-- An alert that is handed on. -/
structure Alert where
  dedupeKey : String
  severity : StorageSeverity
  previousSeverity : StorageSeverity
  usage : Usage
  usedPercent : Option PyFloat
  deriving DecidableEq, Repr

/-- The severity of a usage. -/
def severityOf (usage : Usage) (thresholds : Thresholds) : Except PyError StorageSeverity := do
  let percent ← effectiveUsedPercent usage.totalBytes usage.freeBytes
  .ok (classifyStorage percent thresholds)

/-- Whether a sample was captured after another one. -/
def newer (first second : Snapshot) : Bool :=
  decide (second.capturedAt < first.capturedAt) ||
    (first.capturedAt == second.capturedAt && decide (second.id < first.id))

/-- The sample that was captured last. -/
def latest (rows : List Snapshot) : Option Snapshot :=
  rows.foldl (fun best row => if best.all (newer row) then some row else best) none

/-- The severity of the sample before, with the thresholds that are in force now. -/
def previousSeverity (previous : Option Snapshot) (thresholds : Thresholds) :
    Except PyError StorageSeverity :=
  match previous with
  | none => .ok .healthy
  | some row => severityOf row.local_ thresholds

/-- What is known of a sample that was taken. -/
structure Taken where
  row : Snapshot
  thresholds : Thresholds
  severity : StorageSeverity
  alert : Option Alert
  deriving DecidableEq

/-- The thresholds in force, the stored samples, and those that were taken, the last one first. -/
structure Monitor where
  thresholds : Thresholds
  snapshots : Table Snapshot.id
  journal : List Taken

/-- Capture one sample. -/
def sampleOnce (monitor : Monitor) (usage : Usage) (now : Instant) : Except PyError Monitor := do
  let usedPercent ← effectiveUsedPercent usage.totalBytes usage.freeBytes
  let severity := classifyStorage usedPercent monitor.thresholds
  let previous ← previousSeverity (latest monitor.snapshots.rows) monitor.thresholds
  let alert :=
    if severityIncreased previous severity then
      some ⟨s!"storage:{severity.value}", severity, previous, usage, usedPercent⟩
    else none
  .ok { monitor with
    snapshots := monitor.snapshots.append (fun id => ⟨id, now, usage⟩) fun _ => rfl
    journal :=
      ⟨⟨monitor.snapshots.nextKey, now, usage⟩, monitor.thresholds, severity, alert⟩ ::
        monitor.journal }

/-- What happens to the storage monitor. -/
inductive MonitorAction
  | edit (thresholds : Thresholds)
  | sample (usage : Usage) (now : Instant)
  /-- A cycle in which the host is not reached or the transaction fails. -/
  | miss
  deriving DecidableEq

/-- A step of the storage monitor; what is raised while a sample is taken undoes it. -/
def monitorStep (monitor : Monitor) : MonitorAction → Option Monitor
  | .edit thresholds => some { monitor with thresholds := thresholds }
  | .sample usage now =>
    match sampleOnce monitor usage now with
    | .ok after => some after
    | .error _ => some monitor
  | .miss => some monitor

/-- The runs of the storage monitor. -/
def monitoring : System Monitor MonitorAction where
  init monitor := monitor.snapshots.rows = [] ∧ monitor.journal = []
  step := monitorStep

/-! ## What is alerted -/

/-- The severities that were observed, and whether they were alerted. -/
def observations (journal : List Taken) : List (Observation StorageSeverity) :=
  journal.map fun taken => ⟨taken.severity, taken.alert.isSome⟩

/-- Whether an alert of a severity or a higher one was raised since the last sample below it. -/
def AlertedSince (severity : StorageSeverity) (journal : List Taken) : Prop :=
  ∃ taken ∈ journal.takeWhile fun taken => decide (severity ≤ taken.severity),
    ∃ alert ∈ taken.alert, severity ≤ alert.severity

/-- The severity of the sample before the next one. -/
def severityBefore (journal : List Taken) : StorageSeverity :=
  journal.head?.elim .healthy Taken.severity

/-- What is alerted in a history: the severity of its last sample is, and so is the one that the
thresholds in force give it, unless that is higher than when it was taken; every move into a
severity is; and no severity is twice, unless there was a lower sample or an edit in between. -/
structure Alerted (monitor : Monitor) : Prop where
  standing : ∀ last ∈ monitor.journal.head?, last.severity.Alerts →
    AlertedSince last.severity monitor.journal
  current : ∀ last ∈ monitor.journal.head?, ∀ severity,
    severityOf last.row.local_ monitor.thresholds = .ok severity → severity.Alerts →
      severity ≤ last.severity → AlertedSince severity monitor.journal
  announced : ∀ later taken earlier, monitor.journal = later ++ taken :: earlier →
    taken.severity.Alerts → severityBefore earlier < taken.severity →
      ∃ alert ∈ taken.alert, alert.severity = taken.severity
  quiet : ∀ later second between first earlier,
    monitor.journal = later ++ second :: (between ++ first :: earlier) →
    (∀ taken ∈ between ++ [first], taken.thresholds = second.thresholds) →
    second.alert.isSome = true → first.alert.isSome = true → first.severity = second.severity →
      ∃ taken ∈ between, taken.severity < second.severity

/-- A sample is not captured before the one that was captured last, and it is not classified as a
severity that the sample before only has under the thresholds that are in force now. -/
def Meets (monitor : Monitor) : MonitorAction → Prop
  | .sample usage now =>
    (∀ previous ∈ latest monitor.snapshots.rows, previous.capturedAt ≤ now) ∧
      ∀ previous ∈ monitor.journal.head?, ∀ severity again,
        severityOf usage monitor.thresholds = .ok severity →
        severityOf previous.row.local_ monitor.thresholds = .ok again →
        severity.Alerts → severity ≤ again → severity ≤ previous.severity
  | .edit _ | .miss => True

/-- What is required of an answer is decided by looking at it. -/
instance decidableOfAnswer {ε α : Type} {answer : Except ε α} {required : α → Prop}
    [DecidablePred required] : Decidable (∀ value, answer = .ok value → required value) :=
  match answer with
  | .ok value => decidable_of_iff (required value) (by simp)
  | .error _ => .isTrue fun _ absent => nomatch absent

instance (monitor : Monitor) (action : MonitorAction) : Decidable (Meets monitor action) :=
  match action with
  | .sample usage now =>
    decidable_of_iff
      ((∀ previous ∈ latest monitor.snapshots.rows, previous.capturedAt ≤ now) ∧
        ∀ previous ∈ monitor.journal.head?,
          ∀ severity, severityOf usage monitor.thresholds = .ok severity →
          ∀ again, severityOf previous.row.local_ monitor.thresholds = .ok again →
          severity.Alerts → severity ≤ again → severity ≤ previous.severity)
      (and_congr_right fun _ => forall₂_congr fun _ _ => forall_congr' fun _ =>
        forall_comm.symm)
  | .edit _ | .miss => .isTrue trivial

/-! ## Histories -/

variable {monitor after : Monitor} {action : MonitorAction} {taken : Taken}
  {journal earlier later : List Taken} {usage : Usage} {now : Instant}

/-- The severity increased when it is a higher one that alerts. -/
theorem severityIncreased_iff {previous current : StorageSeverity} :
    severityIncreased previous current = true ↔ previous < current ∧ current.Alerts := by
  unfold severityIncreased
  rw [Bool.and_eq_true, decide_eq_true_iff, decide_eq_true_iff]
  exact Iff.rfl

/-- How a sample that was taken goes on from the ones before it. -/
structure Link (taken : Taken) (earlier : List Taken) : Prop where
  classified : severityOf taken.row.local_ taken.thresholds = .ok taken.severity
  named : ∀ alert ∈ taken.alert, alert.severity = taken.severity
  compared : ∃ previous,
    previousSeverity (earlier.head?.map Taken.row) taken.thresholds = .ok previous ∧
      (taken.alert.isSome = true ↔ severityIncreased previous taken.severity = true)
  settled : ∀ previous ∈ earlier.head?, ∀ again,
    severityOf previous.row.local_ taken.thresholds = .ok again →
      taken.severity.Alerts → taken.severity ≤ again → taken.severity ≤ previous.severity

/-- Whether every sample of a history goes on from the ones before it. -/
def Linked : List Taken → Prop
  | [] => True
  | taken :: earlier => Link taken earlier ∧ Linked earlier

/-- The earlier samples of a linked history are linked. -/
theorem Linked.suffix (linked : Linked (later ++ earlier)) : Linked earlier := by
  induction later with
  | nil => exact linked
  | cons _ _ ih => exact ih linked.2

/-- A rise into a severity is alerted. -/
theorem Link.alerted (link : Link taken earlier) (alerts : taken.severity.Alerts)
    (rises : severityBefore earlier < taken.severity) : taken.alert.isSome = true := by
  obtain ⟨previous, worked, raised⟩ := link.compared
  apply raised.mpr
  apply severityIncreased_iff.mpr
  refine ⟨?_, alerts⟩
  cases earlier with
  | nil =>
    obtain rfl := Except.ok.inj worked
    exact rises
  | cons last rest =>
    by_contra below
    have kept := link.settled last rfl previous worked alerts (not_lt.mp below)
    exact absurd rises (not_lt.mpr kept)

/-- The severity before the next sample is the level of the observations. -/
theorem levelBefore_observations :
    levelBefore .healthy (observations journal) = severityBefore journal := by
  cases journal <;> rfl

/-- A severity above one that alerts does. -/
theorem alerts_upward (lower higher : StorageSeverity) (le : lower ≤ higher)
    (alerts : lower.Alerts) : higher.Alerts := by
  revert le alerts
  cases lower <;> cases higher <;> decide

/-- A severity that is no worse than healthy does not alert. -/
theorem not_alerts_of_le_healthy (severity : StorageSeverity) (le : severity ≤ .healthy) :
    ¬ severity.Alerts := by
  revert le
  cases severity <;> decide

/-- In a linked history no rise is missed. -/
theorem vigilant_of_linked (linked : Linked journal) :
    Vigilant .healthy StorageSeverity.Alerts (observations journal) := by
  induction journal with
  | nil => exact vigilant_nil not_alerts_of_le_healthy
  | cons taken earlier ih =>
    obtain ⟨link, rest⟩ := linked
    apply Vigilant.cons alerts_upward (ih rest)
    intro alerts rises
    rw [levelBefore_observations] at rises
    exact link.alerted alerts rises

/-- Every sample of a linked history goes on from the ones before it. -/
theorem Linked.link (linked : Linked journal) (inside : taken ∈ journal) :
    ∃ earlier, Link taken earlier := by
  obtain ⟨later, earlier, rfl⟩ := List.append_of_mem inside
  exact ⟨earlier, linked.suffix.1⟩

/-- What was raised of the observed severities was alerted. -/
theorem alertedSince_of_raisedSince {severity : StorageSeverity} (linked : Linked journal)
    (raised : RaisedSince severity (observations journal)) : AlertedSince severity journal := by
  obtain ⟨observation, inside, alarmed⟩ := raised
  unfold observations at inside
  rw [List.takeWhile_map] at inside
  obtain ⟨taken, since, rfl⟩ := List.mem_map.mp inside
  obtain ⟨alert, given⟩ := Option.isSome_iff_exists.mp alarmed
  have listed : taken ∈ journal := (List.takeWhile_prefix _).subset since
  obtain ⟨earlier, link⟩ := linked.link listed
  have reached : severity ≤ taken.severity := by simpa using List.mem_takeWhile_imp since
  exact ⟨taken, since, alert, given, reached.trans_eq (link.named alert given).symm⟩

/-- Every severity to alert of that the last sample is at was alerted. -/
theorem alertedSince_of_linked {severity : StorageSeverity} (linked : Linked journal)
    (alerts : severity.Alerts) (reached : severity ≤ severityBefore journal) :
    AlertedSince severity journal := by
  apply alertedSince_of_raisedSince linked
  exact vigilant_of_linked linked severity alerts (levelBefore_observations ▸ reached)

/-- The samples between two alerts of one severity are not all at it or above it. -/
theorem exists_lower_of_linked {second first : Taken} {between : List Taken}
    (linked : Linked (later ++ second :: (between ++ first :: earlier)))
    (alone : ∀ taken ∈ between ++ [first], taken.thresholds = second.thresholds)
    (alerted : second.alert.isSome = true) (same : first.severity = second.severity) :
    ∃ taken ∈ between, taken.severity < second.severity := by
  obtain ⟨link, rest⟩ := linked.suffix
  obtain ⟨previous, worked, raised⟩ := link.compared
  have rises := (severityIncreased_iff.mp (raised.mp alerted)).1
  -- The sample before was classified with the same thresholds when it was taken.
  have before : previous = severityBefore (between ++ first :: earlier) := by
    obtain ⟨last, others, split, listed⟩ : ∃ last others,
        between ++ first :: earlier = last :: others ∧ last ∈ between ++ [first] := by
      cases between with
      | nil => exact ⟨first, earlier, rfl, List.mem_cons_self⟩
      | cons third others => exact ⟨third, _, rfl, List.mem_cons_self⟩
    rw [split] at worked rest ⊢
    have again : severityOf last.row.local_ second.thresholds = .ok previous := worked
    rw [← alone last listed, rest.1.classified] at again
    exact (Except.ok.inj again).symm
  rw [before, ← levelBefore_observations] at rises
  unfold observations at rises
  rw [List.map_append, List.map_cons] at rises
  obtain ⟨observation, inside, below⟩ := @exists_below _ _ .healthy (observations earlier)
    ⟨second.severity, true⟩ ⟨first.severity, first.alert.isSome⟩ (observations between) same rises
  obtain ⟨taken, listed, rfl⟩ := List.mem_map.mp inside
  exact ⟨taken, listed, below⟩

/-- In a linked history what has to be alerted is. -/
theorem alerted_of_linked (linked : Linked monitor.journal) : Alerted monitor where
  standing := by
    intro last newest alerts
    apply alertedSince_of_linked linked alerts
    unfold severityBefore
    rw [newest]
    exact le_rfl
  current := by
    intro last newest severity _ alerts reached
    apply alertedSince_of_linked linked alerts
    unfold severityBefore
    rw [newest]
    exact reached
  announced := by
    intro later taken earlier split alerts rises
    rw [split] at linked
    have link := linked.suffix.1
    obtain ⟨alert, raised⟩ := Option.isSome_iff_exists.mp (link.alerted alerts rises)
    exact ⟨alert, raised, link.named alert raised⟩
  quiet := by
    intro later second between first earlier split alone alerted _ same
    rw [split] at linked
    exact exists_lower_of_linked linked alone alerted same

/-! ## Runs -/

/-- A new row is the latest one if it is newer than the latest before. -/
theorem latest_append (rows : List Snapshot) (row : Snapshot) :
    latest (rows ++ [row]) =
      if (latest rows).all (newer row) then some row else latest rows := by
  unfold latest
  rw [List.foldl_append]
  rfl

/-- The latest row is one of the rows. -/
theorem mem_of_latest {rows : List Snapshot} {row : Snapshot} (last : latest rows = some row) :
    row ∈ rows := by
  induction rows using List.reverseRecOn with
  | nil => cases last
  | append_singleton earlier new ih =>
    rw [latest_append] at last
    split at last
    · rw [← Option.some.inj last]
      exact List.mem_append_right _ List.mem_cons_self
    · exact List.mem_append_left _ (ih last)

/-- What the monitor keeps: its history is linked, and its last sample is the one that was captured
last. -/
structure Kept (monitor : Monitor) : Prop where
  linked : Linked monitor.journal
  last : latest monitor.snapshots.rows = monitor.journal.head?.map Taken.row

/-- A sample that is taken is compared with the one before it. -/
theorem kept_of_sample (kept : Kept monitor) (meets : Meets monitor (.sample usage now))
    (sampled : sampleOnce monitor usage now = .ok after) : Kept after := by
  obtain ⟨ordered, settled⟩ := meets
  obtain ⟨percent, measured, sampled⟩ := bind_eq_ok.mp sampled
  obtain ⟨previous, worked, sampled⟩ := bind_eq_ok.mp sampled
  obtain rfl := Except.ok.inj sampled
  rw [kept.last] at worked
  have classified : severityOf usage monitor.thresholds =
      .ok (classifyStorage percent monitor.thresholds) := bind_eq_ok.mpr ⟨percent, measured, rfl⟩
  constructor
  · refine ⟨⟨classified, ?_, ⟨previous, worked, ?_⟩, ?_⟩, kept.linked⟩
    · intro alert given
      dsimp only at given
      split at given
      · rw [← Option.some.inj given]
      · cases given
    · dsimp only
      split
      · rename_i rises
        exact iff_of_true rfl rises
      · rename_i level
        exact iff_of_false Bool.false_ne_true level
    · intro before newest again worked
      exact settled before newest _ again classified worked
  · show latest (monitor.snapshots.rows ++ [_]) = some _
    rw [latest_append, if_pos]
    cases last : latest monitor.snapshots.rows with
    | none => rfl
    | some row =>
      have before := ordered row last
      have below : row.id < monitor.snapshots.nextKey := Table.lt_nextKey (mem_of_latest last)
      show newer ⟨monitor.snapshots.nextKey, now, usage⟩ row = true
      unfold newer
      rcases before.lt_or_eq with earlier | same
      · simp [earlier]
      · simp [same, below]

/-- Every run whose samples meet the condition keeps its history linked. -/
theorem kept_of_reachable (reached : monitoring.Reachable Meets monitor) : Kept monitor := by
  apply reached.invariant_alone
  constructor
  · rintro monitor ⟨empty, fresh⟩
    refine ⟨?_, ?_⟩
    · rw [fresh]
      trivial
    · rw [empty, fresh]
      rfl
  · intro monitor action after _ kept meets stepped
    cases action with
    | edit thresholds =>
      obtain rfl := Option.some.inj stepped
      exact ⟨kept.linked, kept.last⟩
    | sample usage now =>
      dsimp only [monitoring, monitorStep] at stepped
      split at stepped
      · rename_i sampled
        obtain rfl := Option.some.inj stepped
        exact kept_of_sample kept meets sampled
      · obtain rfl := Option.some.inj stepped
        exact kept
    | miss =>
      obtain rfl := Option.some.inj stepped
      exact kept

/-- In every run whose samples are captured in order, and are not in a severity into which only an
edit lifted the sample before, what is to be alerted is, and nothing is alerted twice. -/
theorem alerted_of_meets (reached : monitoring.Reachable Meets monitor) : Alerted monitor :=
  alerted_of_linked (kept_of_reachable reached).linked

/-- A monitor that has not sampled. -/
def fresh : Monitor where
  thresholds := ⟨85, 95, by decide, by decide, by decide⟩
  snapshots := .empty
  journal := []

/-- A storage that fills up while its thresholds are edited. -/
theorem alerted_of_meets_filling : ∃ monitor, Alerted monitor ∧
    monitor.journal.map (fun taken => (taken.severity, taken.alert.isSome)) =
      [(.critical, true), (.warning, false), (.warning, true), (.healthy, false)] := by
  have initial : monitoring.init fresh := ⟨rfl, rfl⟩
  obtain ⟨monitor, reached, shown⟩ : ∃ monitor, monitoring.Reachable Meets monitor ∧
      (monitor.journal.map (fun taken => (taken.severity, taken.alert.isSome)) ==
        [(.critical, true), (.warning, false), (.warning, true), (.healthy, false)]) = true := by
    apply System.exists_of_runFrom initial [.sample ⟨1000, 600, 400⟩ 7,
      .sample ⟨1000, 880, 120⟩ 8, .edit ⟨80, 95, by decide, by decide, by decide⟩,
      .sample ⟨1000, 900, 100⟩ 9, .miss, .sample ⟨1000, 960, 40⟩ 10]
    decide +kernel
  exact ⟨monitor, alerted_of_meets reached, eq_of_beq shown⟩

/-- Lowered thresholds turn a healthy storage into a warning that nobody is told of. -/
theorem not_alerted_of_edit : ∃ monitor, monitoring.Reachable System.unguarded monitor ∧
    ¬ Alerted monitor := by
  have initial : monitoring.init fresh := ⟨rfl, rfl⟩
  obtain ⟨monitor, reached, silent⟩ : ∃ monitor,
      monitoring.Reachable System.unguarded monitor ∧
        ((monitor.journal.map fun taken => (taken.severity, taken.alert)) ==
          [(.warning, none), (.healthy, none)]) = true := by
    apply System.exists_of_runFrom initial [.sample ⟨1000, 600, 400⟩ 7,
      .edit ⟨50, 95, by decide, by decide, by decide⟩, .sample ⟨1000, 600, 400⟩ 8]
    decide +kernel
  refine ⟨monitor, reached, ?_⟩
  intro alerted
  have shape := eq_of_beq silent
  cases split : monitor.journal with
  | nil =>
    rw [split] at shape
    cases shape
  | cons last earlier =>
    rw [split, List.map_cons] at shape
    obtain ⟨entry, rest⟩ := List.cons.inj shape
    obtain ⟨severity, quiet⟩ := Prod.mk.inj entry
    have before : severityBefore earlier < last.severity := by
      cases earlier with
      | nil => cases rest
      | cons first others =>
        obtain ⟨entry, -⟩ := List.cons.inj rest
        show first.severity < last.severity
        rw [severity, (Prod.mk.inj entry).1]
        decide
    obtain ⟨alert, given, -⟩ := alerted.announced [] last earlier split (.inl severity) before
    rw [quiet] at given
    cases given

end ProxSync.Storage
