import ProxSync.Settings.Checks
import ProxSync.Settings.Rows
/-!
# Writing the defaults of the settings

Writing the defaults keeps every row that is there, but for the guard of retention, which is made
true. Every default has a row then, and to write the defaults once more leaves everything as it is.
-/
open ProxSync.Lib

namespace ProxSync.Settings

/-- A row is as it was, or is the guard of retention and true now. -/
def RowKept (after : Store) (area : SettingsSection) (key : String) (row : Setting) : Prop :=
  after area key = some row ∨ area = .retention ∧ key = uploadGuard ∧ retired row = true ∧
    (after area key).map (unwrap ·.value) = some (.bool true)

/-- Writing the defaults leaves every row, but makes the guard of retention true, and then has
nothing to do. -/
def DefaultsKeep (rules : Rules) (box : SecretBox) (stamp : Stamp) (store : Store)
    (timezone : Option String) : Prop :=
  ∀ after count, ensureDefaults rules box stamp timezone store = .ok (after, count) →
    (∀ area key row, store area key = some row → RowKept after area key row) ∧
    ∀ later, ensureDefaults rules box later timezone after = .ok (after, 0)

/-- Every default of a section has a row, and the guard of retention is true. -/
structure Complete (rules : Rules) (timezone : Option String) (store : Store)
    (area : SettingsSection) : Prop where
  defaults : ∃ defaults, sectionDefaults rules area timezone = .ok defaults ∧
    ∀ entry ∈ defaults, (store area entry.1).isSome = true
  guarded : area = .retention → (store .retention uploadGuard).any retired = false

variable {rules : Rules} {box : SecretBox} {stamp : Stamp} {store after : Store}
variable {area other : SettingsSection} {values : Values} {key : String} {row : Setting}
variable {skipped : String × Value → Bool} {timezone : Option String}

/-- A section with the same rows is complete. -/
theorem Complete.congr (complete : Complete rules timezone store area)
    (same : ∀ key, after area key = store area key) : Complete rules timezone after area where
  defaults := by
    obtain ⟨defaults, valid, rows⟩ := complete.defaults
    exact ⟨defaults, valid, fun entry inside => same entry.1 ▸ rows entry inside⟩
  guarded := by
    rintro rfl
    rw [same]
    exact complete.guarded rfl

/-- The guard is true now, if it is there. -/
theorem guard_normalizeRetentionGuard :
    ((normalizeRetentionGuard box stamp store).1 .retention uploadGuard).any retired = false := by
  unfold normalizeRetentionGuard
  split
  · dsimp only
    rw [upsert_same]
    rfl
  · rename_i fine
    exact Bool.not_eq_true _ ▸ fine

/-- A row is kept when the guard is made true. -/
theorem rowKept_normalizeRetentionGuard (found : store area key = some row) :
    RowKept (normalizeRetentionGuard box stamp store).1 area key row := by
  unfold normalizeRetentionGuard
  split
  · rename_i stale
    unfold RowKept
    dsimp only
    by_cases guard : area = .retention ∧ key = uploadGuard
    · obtain ⟨rfl, rfl⟩ := guard
      rw [found] at stale
      rw [upsert_same]
      exact .inr ⟨rfl, rfl, stale, rfl⟩
    · left
      rw [upsert_other (not_and_or.mp guard), found]
  · exact .inl found

/-- Where nothing is given, a section has its defaults. -/
theorem modelValidate_default : modelValidate rules (sectionModel area) (fun _ => none) =
    .ok ((sectionModel area).fields.map fun field => (field.key, field.default)) := by
  have keys : ((sectionModel area).fields.map fun field =>
      (field.key, field.default)).map Prod.fst = (sectionModel area).fields.map Field.key := by
    rw [List.map_map]
    rfl
  rw [modelValidate_eq_ok (sectionModel_keys area)]
  refine ⟨keys, fun field inside => ⟨field.default, ?_, check_default inside⟩, ?_⟩
  · rw [lookup_eq_some_iff_mem (keys ▸ sectionModel_keys area)]
    exact List.mem_map_of_mem inside
  · cases area <;> rfl

/-- The defaults of a section have its keys. -/
theorem sectionDefaults_keys {defaults : Values}
    (valid : sectionDefaults rules area timezone = .ok defaults) :
    defaults.map Prod.fst = (sectionModel area).fields.map Field.key := by
  obtain ⟨plain, checked, chosen⟩ := bind_eq_ok.mp valid
  have keys := ((modelValidate_eq_ok (sectionModel_keys area)).mp (mapError_eq_ok.mp checked)).keys
  split at chosen
  · have zoned := mapError_eq_ok.mp chosen
    exact ((modelValidate_eq_ok (sectionModel_keys .general)).mp zoned).keys
  · obtain rfl := Except.ok.inj chosen
    exact keys

/-- The default of the guard is true. -/
theorem guard_sectionDefaults {defaults : Values}
    (valid : sectionDefaults rules .retention timezone = .ok defaults) :
    (uploadGuard, .bool true) ∈ defaults := by
  obtain ⟨_, checked, chosen⟩ := bind_eq_ok.mp valid
  obtain rfl := Except.ok.inj chosen
  have filled := (modelValidate_eq_ok (sectionModel_keys .retention)).mp (mapError_eq_ok.mp checked)
  have inside : (⟨uploadGuard, .always, .bool true⟩ : Field) ∈ retentionSettings := by
    simp [retentionSettings, uploadGuard]
  obtain ⟨value, found, outcome⟩ := filled.checked _ inside
  obtain rfl := Except.ok.inj outcome
  exact (lookup_eq_some_iff_mem (filled.keys ▸ sectionModel_keys .retention)).mp found

/-- What writing the defaults of a section leaves. -/
structure Seeded (rules : Rules) (timezone : Option String) (store : Store)
    (area : SettingsSection) (after : Store) : Prop where
  apart : ∀ other key, other ≠ area → after other key = store other key
  kept : ∀ key row, store area key = some row → RowKept after area key row
  complete : Complete rules timezone after area

/-- A row that is kept is there. -/
theorem rowKept_isSome (kept : RowKept after area key row) : (after area key).isSome = true := by
  rcases kept with same | ⟨-, -, -, true'⟩
  · rw [same]
    rfl
  · rw [← Option.isSome_map (f := fun row => unwrap row.value), true']
    rfl

/-- A seeded entry keeps its key. -/
@[simp] theorem seeded_fst {entry : String × Value} : (seeded area entry).1 = entry.1 := by
  unfold seeded
  split
  · rfl
  · rfl

/-- The rows of a section, with its guard made true. -/
def guardedRows (box : SecretBox) (stamp : Stamp) (store : Store) (area : SettingsSection) :
    Store :=
  (if area = .retention then normalizeRetentionGuard box stamp store else (store, 0)).1

/-- Guarding the rows of a section leaves the others. -/
theorem guardedRows_apart (differ : other ≠ area) :
    guardedRows box stamp store area other key = store other key := by
  unfold guardedRows
  split
  · rename_i thresholds
    unfold normalizeRetentionGuard
    split
    · exact upsert_other (.inl (thresholds ▸ differ))
    · rfl
  · rfl

/-- Guarding the rows of a section keeps each of them. -/
theorem rowKept_guardedRows (found : store area key = some row) :
    RowKept (guardedRows box stamp store area) area key row := by
  unfold guardedRows
  split
  · exact rowKept_normalizeRetentionGuard found
  · exact .inl found

/-- Seeding a section leaves it seeded. -/
theorem seeded_seedSection {written count : Nat}
    (done : seedSection rules box stamp timezone (store, written) area = .ok (after, count)) :
    Seeded rules timezone store area after := by
  obtain ⟨defaults, valid, finished⟩ := bind_eq_ok.mp done
  obtain ⟨rfl, -⟩ := Prod.mk.inj (Except.ok.inj finished)
  change Seeded rules timezone store area (persist box stamp area
    (fun entry => (store area entry.1).isSome) (guardedRows box stamp store area)
    (defaults.map (seeded area)))
  have distinct : ((defaults.map (seeded area)).map Prod.fst).Nodup := by
    rw [List.map_map, Function.comp_def]
    simp only [seeded_fst]
    rw [sectionDefaults_keys valid]
    exact sectionModel_keys area
  have stays : ∀ key row, store area key = some row →
      persist box stamp area (fun entry => (store area entry.1).isSome)
        (guardedRows box stamp store area) (defaults.map (seeded area)) area key =
        guardedRows box stamp store area area key := by
    intro key row found
    apply persist_skipped
    simp [found]
  have written : ∀ entry ∈ defaults, store area entry.1 = none →
      persist box stamp area (fun entry => (store area entry.1).isSome)
        (guardedRows box stamp store area) (defaults.map (seeded area)) area entry.1 =
        some (rowOf box stamp area (seeded area entry)) := by
    intro entry inside missing
    have first := @seeded_fst area entry
    have listed : (entry.1, (seeded area entry).2) ∈ defaults.map (seeded area) := by
      rw [← first]
      exact List.mem_map_of_mem inside
    rw [persist_lookup distinct ((lookup_eq_some_iff_mem distinct).mpr listed), missing, ← first]
    rfl
  refine ⟨fun other key differ => ?_, fun key row found => ?_, ⟨defaults, valid, ?_⟩, ?_⟩
  · rw [persist_apart (.inl differ), guardedRows_apart differ]
  · unfold RowKept
    rw [stays key row found]
    exact rowKept_guardedRows found
  · intro entry inside
    cases there : store area entry.1 with
    | some row =>
      rw [stays entry.1 row there]
      exact rowKept_isSome (rowKept_guardedRows there)
    | none =>
      rw [written entry inside there]
      rfl
  · rintro rfl
    cases there : store .retention uploadGuard with
    | some row =>
      rw [stays uploadGuard row there]
      exact guard_normalizeRetentionGuard
    | none =>
      rw [written _ (guard_sectionDefaults valid) there]
      rfl

/-- A section whose defaults are written is left as it is. -/
theorem seedSection_complete {written : Nat} (complete : Complete rules timezone store area) :
    seedSection rules box stamp timezone (store, written) area = .ok (store, written) := by
  obtain ⟨defaults, valid, rows⟩ := complete.defaults
  have idle : (if area = .retention then normalizeRetentionGuard box stamp store
      else (store, 0)) = (store, 0) := by
    split
    · rename_i thresholds
      unfold normalizeRetentionGuard
      rw [complete.guarded thresholds]
      rfl
    · rfl
  have missing : (defaults.filter fun entry => !(store area entry.1).isSome) = [] := by
    rw [List.filter_eq_nil_iff]
    intro entry inside
    simp [rows entry inside]
  apply bind_eq_ok.mpr
  refine ⟨defaults, valid, ?_⟩
  dsimp only
  rw [idle, missing, persist_all_skipped]
  · rfl
  · intro entry inside
    obtain ⟨default, there, rfl⟩ := List.mem_map.mp inside
    rw [seeded_fst]
    exact rows default there

/-- What writing the defaults of several sections leaves. -/
theorem seeded_foldlM {areas : List SettingsSection} (distinct : areas.Nodup)
    {written count : Nat} (done : areas.foldlM (seedSection rules box stamp timezone)
      (store, written) = .ok (after, count)) :
    (∀ other key, other ∉ areas → after other key = store other key) ∧
      (∀ area key row, store area key = some row → RowKept after area key row) ∧
      ∀ area ∈ areas, Complete rules timezone after area := by
  induction areas generalizing store written with
  | nil =>
    obtain ⟨rfl, -⟩ := Prod.mk.inj (Except.ok.inj done)
    exact ⟨fun _ _ _ => rfl, fun _ _ _ found => .inl found, by simp⟩
  | cons first rest ih =>
    obtain ⟨⟨middle, soFar⟩, here, later⟩ := bind_eq_ok.mp done
    have unique := List.nodup_cons.mp distinct
    have seeded := seeded_seedSection here
    obtain ⟨apart, kept, complete⟩ := ih unique.2 later
    refine ⟨fun other key absent => ?_, fun area key row found => ?_, fun area inside => ?_⟩
    · have differ : other ≠ first := fun same => absent (by simp [same])
      have others : other ∉ rest := fun inside => absent (List.mem_cons_of_mem _ inside)
      rw [apart other key others, seeded.apart other key differ]
    · by_cases same : area = first
      · subst same
        unfold RowKept
        rw [apart area key unique.1]
        exact seeded.kept key row found
      · apply kept
        rw [seeded.apart area key same, found]
    · rcases List.mem_cons.mp inside with rfl | inside
      · exact seeded.complete.congr fun key => apart area key unique.1
      · exact complete area inside

/-- Where all defaults are written, nothing is. -/
theorem foldlM_complete {areas : List SettingsSection} {written : Nat}
    (complete : ∀ area ∈ areas, Complete rules timezone store area) :
    areas.foldlM (seedSection rules box stamp timezone) (store, written) =
      .ok (store, written) := by
  induction areas with
  | nil => rfl
  | cons first rest ih =>
    rw [List.foldlM_cons, seedSection_complete (complete first List.mem_cons_self)]
    exact ih fun area inside => complete area (List.mem_cons_of_mem _ inside)

/-- Writing the defaults does not fail where no time zone is given. -/
theorem exists_ensureDefaults (rules : Rules) (box : SecretBox) (stamp : Stamp) (store : Store) :
    ∃ done, ensureDefaults rules box stamp none store = .ok done := by
  have each : ∀ progress area, ∃ after,
      seedSection rules box stamp none progress area = .ok after := by
    intro progress area
    have valid : sectionDefaults rules area none =
        .ok ((sectionModel area).fields.map fun field => (field.key, field.default)) := by
      unfold sectionDefaults
      rw [modelValidate_default]
      cases area <;> rfl
    exact exists_bind_eq_ok valid ⟨_, rfl⟩
  unfold ensureDefaults
  generalize (store, 0) = progress
  induction sections generalizing progress with
  | nil => exact ⟨progress, rfl⟩
  | cons first rest ih =>
    obtain ⟨middle, here⟩ := each progress first
    exact exists_bind_eq_ok here (ih middle)

/-- Writing the defaults keeps every row, but for the guard, and is done once. -/
theorem defaultsKeep : DefaultsKeep rules box stamp store timezone := by
  intro after count done
  obtain ⟨-, kept, complete⟩ := seeded_foldlM (by decide) done
  exact ⟨kept, fun later => foldlM_complete complete⟩

end ProxSync.Settings
