import ProxSync.Lib.OrderedDict
import ProxSync.Lib.Table
import ProxSync.Schemas
import ProxSync.Scheduler.Weekday
/-!
# Registration of backup jobs

The schedule in memory is rebuilt from the rows of the backup jobs: what is no longer wanted is
removed, and every wanted row whose expression is valid is registered under its key. A row is wanted
when it is enabled, whether or not its expression is valid, so a job that was registered before its
expression became invalid is neither removed nor replaced.
-/
open ProxSync.Lib

namespace ProxSync.Scheduler.Registration

/-! ## Triggers -/

/-- What a call raises. -/
inductive Raised
  | zoneInfoNotFound
  | valueError (message : String)
  /-- The error of a rejected request. -/
  | validationFailed (detail : String)
  | other (message : String)
  deriving DecidableEq, Repr

/-- The timezones and the triggers of the libraries. -/
structure Library (TimeZone Trigger : Type) where
  zoneInfo : String → Except Raised TimeZone
  cronTrigger (minute hour day month dayOfWeek : String) (timezone : TimeZone) :
    Except Raised Trigger
  getNextFireTime (trigger : Trigger) (previous : Option Instant) (now : Instant) : Option Instant

variable {TimeZone Trigger : Type}

/-- The timezone of a name. -/
def resolveTimezone (library : Library TimeZone Trigger) (name : String) : Except Raised TimeZone :=
  match library.zoneInfo name with
  | .error .zoneInfoNotFound | .error (.valueError _) =>
    .error (.validationFailed s!"'{name}' is not a known IANA timezone")
  | answer => answer

/-- The trigger of the fields of an expression. -/
def fieldsTrigger (library : Library TimeZone Trigger) (minute hour day month dayOfWeek : String)
    (timezone : TimeZone) : Except Raised Trigger :=
  match translateDayOfWeek dayOfWeek with
  | .ok translated => library.cronTrigger minute hour day month translated timezone
  | .error refused => .error (.valueError refused.message)

/-- The trigger of an expression. -/
def buildTrigger (library : Library TimeZone Trigger) (expression timezone : String) :
    Except Raised Trigger := do
  let tzinfo ← resolveTimezone library timezone
  match words expression with
  | [minute, hour, day, month, dayOfWeek] =>
    if strip day ≠ "*" ∧ strip dayOfWeek ≠ "*" then
      .error (.validationFailed (s!"'{expression}' restricts both day-of-month ('{day}') and " ++
        s!"day-of-week ('{dayOfWeek}'). Standard cron treats that as 'either', which ProxSync " ++
        "does not implement. Use one or the other, or create two schedules."))
    else
      match fieldsTrigger library minute hour day month dayOfWeek tzinfo with
      | .error (.valueError message) =>
        .error (.validationFailed s!"'{expression}' is not a valid cron expression: {message}")
      | answer => answer
  | fields =>
    .error (.validationFailed (s!"'{expression}' is not a valid cron expression: expected 5 " ++
      s!"fields (minute hour day-of-month month day-of-week), got {fields.length}."))

/-- The next instant an expression fires at. -/
def nextFireTime (library : Library TimeZone Trigger) (expression timezone : String)
    (now : Instant) : Except Raised (Option Instant) := do
  let trigger ← buildTrigger library expression timezone
  let _ ← resolveTimezone library timezone
  .ok (library.getNextFireTime trigger none now)

/-! ## Jobs -/

/-- A row of the backup jobs. -/
structure BackupJob where
  id : Nat
  name : String
  enabled : Bool
  cronExpression : String
  timezone : String
  nextRunAt : Option Instant
  deriving DecidableEq, Repr

/-- What a job of the scheduler calls. -/
inductive Callable
  | fire
  | syncJobs
  | refreshInventory
  deriving DecidableEq, Repr

/-- A job of the scheduler. -/
structure Job (Trigger : Type) where
  callable : Callable
  trigger : Trigger
  args : List Nat
  name : String
  coalesce : Bool
  maxInstances : Nat
  misfireGraceTime : Option Nat
  deriving DecidableEq, Repr

/-- The rows of the backup jobs. -/
abbrev Rows := Table BackupJob.id

/-- The jobs of the scheduler by their identifiers. -/
abbrev Jobs (Trigger : Type) := OrderedDict String (Job Trigger)

/-- What the identifier of a backup job starts with. -/
def jobPrefix : String := "backup-job-"

/-- The identifier under which a backup job is registered. -/
def jobKey (id : Nat) : String := jobPrefix ++ toString id

/-- Whether an identifier is one of a backup job. -/
def startsWithPrefix (key : String) : Bool := jobPrefix.toList.isPrefixOf key.toList

/-- An identifier without what it starts with. -/
def removePrefix (key : String) : String := .ofList (key.toList.drop jobPrefix.toList.length)

/-- The rows that are enabled, in the order of their identifiers. -/
def listEnabled (rows : Rows) : List BackupJob := rows.rows.filter (·.enabled)

/-- Refresh the next instant of a row, which stays where its expression is not valid. -/
def refresh (library : Library TimeZone Trigger) (now : Nat → Instant) (rows : Rows)
    (job : BackupJob) : Except Raised Rows :=
  match nextFireTime library job.cronExpression job.timezone (now job.id) with
  | .ok next => .ok (rows.modify job.id ({ · with nextRunAt := next }) fun _ => rfl)
  | .error (.validationFailed _) => .ok rows
  | .error raised => .error raised

/-- Remove a job whose row is not wanted. -/
def dropUnwanted (wanted : List Nat) (jobs : Jobs Trigger) (existing : String) :
    Except Raised (Jobs Trigger) :=
  if startsWithPrefix existing then
    match integer (removePrefix existing) with
    | .ok jobId => .ok (if jobId ∈ wanted.map Int.ofNat then jobs else jobs.erase existing)
    | .error invalid => .error (.valueError invalid.message)
  else .ok jobs

/-- The job that is registered for a row. -/
def registered (grace : Nat) (job : BackupJob) (trigger : Trigger) : Job Trigger :=
  { callable := .fire, trigger, args := [job.id], name := job.name, coalesce := true,
    maxInstances := 1, misfireGraceTime := some grace }

/-- Register a row under its key, unless its expression is not valid. -/
def addJob (library : Library TimeZone Trigger) (grace : Nat) (jobs : Jobs Trigger)
    (job : BackupJob) : Except Raised (Jobs Trigger) :=
  match buildTrigger library job.cronExpression job.timezone with
  | .ok trigger => .ok (jobs.assign (jobKey job.id) (registered grace job trigger))
  | .error (.validationFailed _) => .ok jobs
  | .error raised => .error raised

/-- Make the schedule in memory match the rows. -/
def syncJobs (library : Library TimeZone Trigger) (grace : Nat) (now : Nat → Instant) (rows : Rows)
    (jobs : Jobs Trigger) : Except Raised (Rows × Jobs Trigger) := do
  let enabled := listEnabled rows
  let refreshed ← enabled.foldlM (refresh library now) rows
  let remaining ← jobs.keys.foldlM (dropUnwanted (enabled.map (·.id))) jobs
  let registered ← enabled.foldlM (addJob library grace) remaining
  .ok (refreshed, registered)

/-! ## Keys -/

variable {library : Library TimeZone Trigger} {grace : Nat} {now : Nat → Instant} {rows : Rows}
variable {jobs : Jobs Trigger} {key : String} {row : BackupJob}

/-- The identifier of a job is a prefix and its number. -/
theorem toList_jobKey (id : Nat) :
    (jobKey id).toList = jobPrefix.toList ++ (toString id).toList :=
  String.toList_append

/-- The identifier of a job starts with the prefix. -/
theorem startsWithPrefix_jobKey (id : Nat) : startsWithPrefix (jobKey id) = true := by
  unfold startsWithPrefix
  rw [toList_jobKey, List.isPrefixOf_iff_prefix]
  exact List.prefix_append _ _

/-- Without the prefix it is the number of the job. -/
theorem removePrefix_jobKey (id : Nat) : removePrefix (jobKey id) = toString id := by
  unfold removePrefix
  rw [toList_jobKey, List.drop_left, String.ofList_toList]

/-- Jobs of one identifier have one number. -/
theorem jobKey_inj {first second : Nat} : jobKey first = jobKey second ↔ first = second := by
  constructor
  · intro same
    have digits : toString first = toString second := by
      rw [← removePrefix_jobKey, same, removePrefix_jobKey]
    exact Nat.repr_inj.mp digits
  · rintro rfl
    rfl

/-- The wanted rows are the stored ones that are enabled. -/
theorem mem_listEnabled : row ∈ listEnabled rows ↔ row ∈ rows ∧ row.enabled = true :=
  List.mem_filter

/-! ## Removal -/

/-- Whether an identifier is one of a backup job that is not wanted. -/
def unwanted (wanted : List Nat) (key : String) : Bool :=
  startsWithPrefix key &&
    match integer (removePrefix key) with
    | .ok jobId => !(wanted.map Int.ofNat).contains jobId
    | .error _ => false

/-- An identifier that is read as a number stays when the number is wanted. -/
theorem unwanted_eq_false_iff {wanted : List Nat} {jobId : ℤ} (named : startsWithPrefix key = true)
    (read : integer (removePrefix key) = .ok jobId) :
    unwanted wanted key = false ↔ ∃ id : Nat, id ∈ wanted ∧ (id : ℤ) = jobId := by
  unfold unwanted
  rw [named, read, Bool.true_and, Bool.not_eq_false', List.contains_iff_mem, List.mem_map]
  rfl

/-- Every identifier of a backup job must be read as a number, and those not wanted are removed. -/
theorem dropUnwanted_eq_ok (wanted : List Nat) (jobs : Jobs Trigger) (key : String)
    (after : Jobs Trigger) : dropUnwanted wanted jobs key = .ok after ↔
      (startsWithPrefix key = true → ∃ jobId, integer (removePrefix key) = .ok jobId) ∧
        after = if unwanted wanted key = true then jobs.erase key else jobs := by
  unfold dropUnwanted unwanted
  cases startsWithPrefix key with
  | false => simp [eq_comm]
  | true =>
    cases read : integer (removePrefix key) with
    | error invalid => simp
    | ok jobId =>
      by_cases inside : jobId ∈ wanted.map Int.ofNat
      · simp [inside, eq_comm]
      · simp [inside, eq_comm]

/-- The removed identifiers are gone, and the others keep their jobs. -/
theorem lookup_erased (wanted : List Nat) (keys : List String) (jobs : Jobs Trigger)
    (key : String) :
    (keys.foldl (fun jobs key => if unwanted wanted key = true then jobs.erase key else jobs)
      jobs).lookup key =
        if key ∈ keys ∧ unwanted wanted key = true then none else jobs.lookup key := by
  induction keys generalizing jobs with
  | nil => simp
  | cons first rest ih =>
    rw [List.foldl_cons, ih]
    by_cases same : key = first
    · subst same
      cases unwanted wanted key with
      | true => simp
      | false => simp
    · have kept : (if unwanted wanted first = true then jobs.erase first else jobs).lookup key =
          jobs.lookup key := by
        split
        · exact AList.lookup_erase_ne same
        · rfl
      rw [kept]
      simp [same]

/-! ## Registration -/

/-- The expression of a row is valid. -/
def Valid (library : Library TimeZone Trigger) (row : BackupJob) : Prop :=
  ∃ trigger, buildTrigger library row.cronExpression row.timezone = .ok trigger

/-- Register a row under its key where its expression is valid. -/
def place (library : Library TimeZone Trigger) (grace : Nat) (jobs : Jobs Trigger)
    (row : BackupJob) : Jobs Trigger :=
  match buildTrigger library row.cronExpression row.timezone with
  | .ok trigger => jobs.assign (jobKey row.id) (registered grace row trigger)
  | .error _ => jobs

/-- A row is registered unless its trigger raises something else than a rejection. -/
theorem addJob_eq_ok (library : Library TimeZone Trigger) (grace : Nat) (jobs : Jobs Trigger)
    (row : BackupJob) (after : Jobs Trigger) : addJob library grace jobs row = .ok after ↔
      (∀ raised, buildTrigger library row.cronExpression row.timezone = .error raised →
        ∃ detail, raised = .validationFailed detail) ∧ after = place library grace jobs row := by
  unfold addJob place
  cases buildTrigger library row.cronExpression row.timezone with
  | ok trigger => simp [eq_comm]
  | error raised => cases raised <;> simp [eq_comm]

/-- A key that no valid row has keeps its job. -/
theorem lookup_place_of_forall_ne {list : List BackupJob}
    (other : ∀ row ∈ list, Valid library row → key ≠ jobKey row.id) :
    (list.foldl (place library grace) jobs).lookup key = jobs.lookup key := by
  induction list generalizing jobs with
  | nil => rfl
  | cons first rest ih =>
    rw [List.foldl_cons, ih fun row inside => other row (List.mem_cons_of_mem _ inside)]
    unfold place
    split
    · rename_i trigger built
      exact OrderedDict.lookup_assign_ne (other first List.mem_cons_self ⟨trigger, built⟩)
    · rfl

/-- A valid row is registered under its key. -/
theorem lookup_place {list : List BackupJob} {trigger : Trigger}
    (distinct : list.Pairwise fun first second => first.id ≠ second.id) (inside : row ∈ list)
    (built : buildTrigger library row.cronExpression row.timezone = .ok trigger) :
    (list.foldl (place library grace) jobs).lookup (jobKey row.id) =
      some (registered grace row trigger) := by
  induction list generalizing jobs with
  | nil => cases inside
  | cons first rest ih =>
    rw [List.pairwise_cons] at distinct
    rw [List.foldl_cons]
    rcases List.mem_cons.mp inside with rfl | later
    · have others : ∀ other ∈ rest, Valid library other → jobKey row.id ≠ jobKey other.id := by
        intro other there _ same
        exact distinct.1 other there (jobKey_inj.mp same)
      rw [lookup_place_of_forall_ne others]
      unfold place
      rw [built]
      exact OrderedDict.lookup_assign
    · exact ih distinct.2 later

/-! ## Synchronisation -/

/-- The jobs of the scheduler under keys of backup jobs are those of the enabled rows whose
expressions are valid. -/
def Matches (library : Library TimeZone Trigger) (grace : Nat) (rows : Rows)
    (jobs : Jobs Trigger) : Prop :=
  ∀ key, startsWithPrefix key = true → ∀ job, jobs.lookup key = some job ↔
    ∃ row ∈ rows, row.enabled = true ∧ key = jobKey row.id ∧ ∃ trigger,
      buildTrigger library row.cronExpression row.timezone = .ok trigger ∧
        job = registered grace row trigger

/-- A job whose identifier is read as that of an enabled row is registered under the key of that
row, and the expression of the row is valid. -/
def Replaceable (library : Library TimeZone Trigger) (rows : Rows) (jobs : Jobs Trigger) : Prop :=
  ∀ key ∈ jobs, startsWithPrefix key = true → ∀ row ∈ rows, row.enabled = true →
    integer (removePrefix key) = .ok (row.id : ℤ) → key = jobKey row.id ∧ Valid library row

/-- What is registered when the rows are read, and what is looked up afterwards. -/
theorem syncJobs_ok {after : Rows × Jobs Trigger}
    (synced : syncJobs library grace now rows jobs = .ok after) : ∃ remaining : Jobs Trigger,
      (∀ key ∈ jobs, startsWithPrefix key = true →
        ∃ jobId, integer (removePrefix key) = .ok jobId) ∧
      (∀ key, remaining.lookup key =
        if unwanted ((listEnabled rows).map (·.id)) key = true then none else jobs.lookup key) ∧
      after.2 = (listEnabled rows).foldl (place library grace) remaining := by
  unfold syncJobs at synced
  obtain ⟨refreshed, -, synced⟩ := bind_eq_ok.mp synced
  obtain ⟨remaining, dropped, synced⟩ := bind_eq_ok.mp synced
  obtain ⟨placed, added, synced⟩ := bind_eq_ok.mp synced
  obtain rfl := Except.ok.inj synced
  obtain ⟨read, rfl⟩ := (foldlM_eq_ok (dropUnwanted_eq_ok _)).mp dropped
  obtain ⟨-, rfl⟩ := (foldlM_eq_ok (addJob_eq_ok library grace)).mp added
  refine ⟨_, read, ?_, rfl⟩
  intro key
  rw [lookup_erased]
  by_cases there : key ∈ jobs
  · simp only [AList.mem_keys.mp there, true_and]
  · rw [AList.lookup_eq_none.mpr there, ite_self, ite_self]

/-- Other jobs of the scheduler are left alone. -/
theorem lookup_syncJobs_of_not_prefixed {after : Rows × Jobs Trigger}
    (synced : syncJobs library grace now rows jobs = .ok after)
    (other : startsWithPrefix key = false) : after.2.lookup key = jobs.lookup key := by
  obtain ⟨remaining, -, kept, placed⟩ := syncJobs_ok synced
  rw [placed, lookup_place_of_forall_ne, kept, if_neg]
  · unfold unwanted
    rw [other]
    exact Bool.false_ne_true
  · rintro row - - rfl
    rw [startsWithPrefix_jobKey] at other
    cases other

/-- The schedule in memory matches the rows exactly when no job is registered for an enabled row
whose expression is not valid. -/
theorem matches_iff_replaceable {after : Rows × Jobs Trigger}
    (synced : syncJobs library grace now rows jobs = .ok after) :
    Matches library grace rows after.2 ↔ Replaceable library rows jobs := by
  obtain ⟨remaining, read, kept, placed⟩ := syncJobs_ok synced
  have distinct : (listEnabled rows).Pairwise fun first second => first.id ≠ second.id :=
    (rows.ascending.imp fun below => below.ne).filter _
  constructor
  · intro same key inside named row stored enabled spelled
    obtain ⟨job, found⟩ := Option.isSome_iff_exists.mp (AList.lookup_isSome.mpr inside)
    have stays : remaining.lookup key = some job := by
      rw [kept, if_neg, found]
      have wanted : ∃ id : Nat, id ∈ (listEnabled rows).map (·.id) ∧ (id : ℤ) = row.id :=
        ⟨row.id, List.mem_map.mpr ⟨row, mem_listEnabled.mpr ⟨stored, enabled⟩, rfl⟩, rfl⟩
      rw [(unwanted_eq_false_iff named spelled).mpr wanted]
      exact Bool.false_ne_true
    obtain ⟨other, stored', enabled', rfl, trigger, built⟩ :
        ∃ other ∈ rows, other.enabled = true ∧ key = jobKey other.id ∧ Valid library other := by
      by_cases owner : ∃ row ∈ listEnabled rows, Valid library row ∧ key = jobKey row.id
      · obtain ⟨other, listed, valid, owned⟩ := owner
        obtain ⟨stored, enabled⟩ := mem_listEnabled.mp listed
        exact ⟨other, stored, enabled, owned, valid⟩
      · have final : after.2.lookup key = some job := by
          rw [placed, lookup_place_of_forall_ne, stays]
          intro row listed valid owned
          exact owner ⟨row, listed, valid, owned⟩
        obtain ⟨other, stored, enabled, owned, trigger, built, -⟩ := (same key named job).mp final
        exact ⟨other, stored, enabled, owned, trigger, built⟩
    rw [removePrefix_jobKey] at spelled
    have same : row.id = other.id := Int.ofNat_inj.mp (integer_toString spelled)
    obtain rfl := Table.eq_of_key stored stored' same
    exact ⟨rfl, trigger, built⟩
  · intro replaceable key named job
    rw [placed]
    constructor
    · intro found
      by_cases owner : ∃ row ∈ listEnabled rows, Valid library row ∧ key = jobKey row.id
      · obtain ⟨row, inside, ⟨trigger, built⟩, rfl⟩ := owner
        obtain ⟨stored, enabled⟩ := mem_listEnabled.mp inside
        rw [lookup_place distinct inside built] at found
        exact ⟨row, stored, enabled, rfl, trigger, built, (Option.some.inj found).symm⟩
      · have unowned : ∀ row ∈ listEnabled rows, Valid library row → key ≠ jobKey row.id :=
          fun row inside valid same => owner ⟨row, inside, valid, same⟩
        rw [lookup_place_of_forall_ne unowned, kept] at found
        split at found
        · cases found
        · rename_i wanted
          have inside : key ∈ jobs := AList.lookup_isSome.mp (Option.isSome_of_eq_some found)
          obtain ⟨jobId, spelled⟩ := read key inside named
          obtain ⟨id, listed, rfl⟩ :=
            (unwanted_eq_false_iff named spelled).mp (Bool.eq_false_iff.mpr wanted)
          obtain ⟨row, enabled, rfl⟩ := List.mem_map.mp listed
          obtain ⟨stored, on⟩ := mem_listEnabled.mp enabled
          obtain ⟨owned, valid⟩ := replaceable key inside named row stored on spelled
          exact absurd owned (unowned row enabled valid)
    · rintro ⟨row, stored, enabled, rfl, trigger, built, rfl⟩
      exact lookup_place distinct (mem_listEnabled.mpr ⟨stored, enabled⟩) built

/-- A timezone database with one zone, and triggers that keep their fields and fire once. -/
def oneZone : Library String (List String) where
  zoneInfo name := if name = "UTC" then .ok name else .error .zoneInfoNotFound
  cronTrigger minute hour day month dayOfWeek _ := .ok [minute, hour, day, month, dayOfWeek]
  getNextFireTime _ _ now := if now < 262800000000 then some 262800000000 else none

/-- A table of one enabled job with an expression. -/
def oneJob (expression : String) : Rows :=
  .singleton ⟨1, "weekly", true, expression, "UTC", none⟩

/-- A scheduler that has the job with an earlier expression, a job whose row is gone, and the
refresh of the inventory. -/
def earlierJobs : Jobs (List String) :=
  let earlier (id : Nat) : Job (List String) :=
    registered 300 ⟨id, "earlier", true, "0 5 * * 1", "UTC", none⟩ ["0", "5", "*", "*", "mon"]
  let refreshing : Job (List String) :=
    { callable := .refreshInventory, trigger := [], args := [], name := "inventory",
      coalesce := true, maxInstances := 1, misfireGraceTime := none }
  (((∅ : Jobs (List String)).assign "inventory-refresh" refreshing).assign (jobKey 1)
    (earlier 1)).assign (jobKey 2) (earlier 2)

/-- One job is replaced, one is removed and the refresh of the inventory stays. -/
theorem matches_iff_replaceable_weekly : ∃ after,
    syncJobs oneZone 300 (fun _ => 0) (oneJob "0 1 * * 0") earlierJobs = .ok after ∧
      after.2.keys = ["backup-job-1", "inventory-refresh"] ∧
      (after.2.lookup "backup-job-1").map Job.name = some "weekly" ∧
      (Matches oneZone 300 (oneJob "0 1 * * 0") after.2 ↔
        Replaceable oneZone (oneJob "0 1 * * 0") earlierJobs) := by
  have shown : (syncJobs oneZone 300 (fun _ => 0) (oneJob "0 1 * * 0") earlierJobs).map
      (fun after => (after.2.keys, (after.2.lookup "backup-job-1").map Job.name)) =
        .ok (["backup-job-1", "inventory-refresh"], some "weekly") := by
    decide +kernel
  cases synced : syncJobs oneZone 300 (fun _ => 0) (oneJob "0 1 * * 0") earlierJobs with
  | error raised =>
    rw [synced] at shown
    cases shown
  | ok after =>
    rw [synced] at shown
    obtain ⟨keys, names⟩ := Prod.mk.inj (Except.ok.inj shown)
    exact ⟨after, rfl, keys, names, matches_iff_replaceable synced⟩

/-- A job that was registered is still there when its expression was replaced by an invalid one. -/
theorem not_matches_of_edited : ∃ first second,
    syncJobs oneZone 300 (fun _ => 0) (oneJob "0 1 * * 0") ∅ = .ok first ∧
      syncJobs oneZone 300 (fun _ => 0) (oneJob "0 1 * *") first.2 = .ok second ∧
      ¬ Matches oneZone 300 (oneJob "0 1 * *") second.2 := by
  have stale : (do
      let first ← syncJobs oneZone 300 (fun _ => 0) (oneJob "0 1 * * 0") ∅
      let second ← syncJobs oneZone 300 (fun _ => 0) (oneJob "0 1 * *") first.2
      Except.ok ((second.2.lookup "backup-job-1").map Job.trigger)) =
        .ok (some ["0", "1", "*", "*", "sun"]) := by decide +kernel
  obtain ⟨first, registered, stale⟩ := bind_eq_ok.mp stale
  obtain ⟨second, synced, stale⟩ := bind_eq_ok.mp stale
  obtain ⟨job, found, -⟩ := Option.map_eq_some_iff.mp (Except.ok.inj stale)
  refine ⟨first, second, registered, synced, ?_⟩
  intro same
  obtain ⟨row, stored, -, -, trigger, built, -⟩ :=
    (same "backup-job-1" (by decide +kernel) job).mp found
  obtain rfl := List.mem_singleton.mp stored
  have refused : (buildTrigger oneZone "0 1 * *" "UTC").isOk = false := by decide +kernel
  rw [show buildTrigger oneZone "0 1 * *" "UTC" = .ok trigger from built] at refused
  cases refused

end ProxSync.Scheduler.Registration
