import ProxSync.Lib.Value
import ProxSync.Settings.Fields
/-!
# The sections of the settings

A section lists its fields with their defaults. A field is checked by its kind, which coerces the
value, bounds a number or normalises a text, and a section is valid when all of its fields are and
its thresholds are ordered. How numbers and flags are coerced, which time zones there are and which
letters, are rules of the libraries.
-/
open ProxSync.Lib

namespace ProxSync.Settings

/-- The sections. -/
inductive SettingsSection
  | general
  | gdrive
  | telegram
  | retention
  | agent
  | proxmox
  deriving DecidableEq, Repr

/-- The sections in their order. -/
def sections : List SettingsSection := [.general, .gdrive, .telegram, .retention, .agent, .proxmox]

/-- The section as it is written. -/
def SettingsSection.value : SettingsSection → String
  | .general => "general"
  | .gdrive => "gdrive"
  | .telegram => "telegram"
  | .retention => "retention"
  | .agent => "agent"
  | .proxmox => "proxmox"

/-- The rules of the libraries, which leave a flag and a number as they are. -/
structure Rules where
  letters : Letters
  /-- The time zones that are known. -/
  zone : String → Bool
  zone_default : zone "Asia/Jakarta" = true
  flag : Value → Except String Bool
  number : Value → Except String ℤ
  flag_self : ∀ value, flag (.bool value) = .ok value
  number_self : ∀ value, number (.int value) = .ok value

/-- What is done to the text of a field. -/
inductive Normaliser
  | plain
  | knownTimezone
  | absolutePath
  | relativeFolder
  | rcloneRemote
  | remoteFolder
  | chatIdShape
  deriving DecidableEq, Repr

/-- The time zone of a text. -/
def knownTimezone (rules : Rules) (value : String) : Except String String :=
  if rules.zone value then .ok value else .error s!"'{value}' is not a known IANA timezone"

/-- What a normaliser makes of a text. -/
def Normaliser.run (rules : Rules) : Normaliser → String → Except String String
  | .plain => .ok
  | .knownTimezone => Settings.knownTimezone rules
  | .absolutePath => Settings.absolutePath
  | .relativeFolder => Settings.relativeFolder
  | .rcloneRemote => Settings.rcloneRemote rules.letters
  | .remoteFolder => Settings.remoteFolder
  | .chatIdShape => Settings.chatIdShape

/-- What the value of a field is. -/
inductive Kind
  | flag
  | integer (low high : ℤ)
  | optionalInteger (low high : ℤ)
  | choice (members : List String)
  /-- Nothing but true. -/
  | always
  | text (normaliser : Normaliser)
  /-- A text that may be missing. -/
  | secret
  deriving DecidableEq, Repr

/-- A number within bounds. -/
def bounded (low high value : ℤ) : Except String Value :=
  if value < low then .error s!"Input should be greater than or equal to {low}"
  else if high < value then .error s!"Input should be less than or equal to {high}"
  else .ok (.int value)

/-- The members of an enumeration, as they are asked for. -/
def listed : List String → String
  | [] => ""
  | [member] => s!"'{member}'"
  | [member, last] => s!"'{member}' or '{last}'"
  | member :: rest => s!"'{member}', " ++ listed rest

/-- Check a value; what a check of the schema itself raises is a value error. -/
def Kind.check (rules : Rules) : Kind → Value → Except String Value
  | .flag, value => (rules.flag value).map .bool
  | .integer low high, value => rules.number value >>= bounded low high
  | .optionalInteger _ _, .none => .ok .none
  | .optionalInteger low high, value => rules.number value >>= bounded low high
  | .choice members, .str member =>
    if member ∈ members then .ok (.str member) else .error s!"Input should be {listed members}"
  | .choice members, _ => .error s!"Input should be {listed members}"
  | .always, .bool true => .ok (.bool true)
  | .always, _ => .error "Input should be True"
  | .text normaliser, .str written =>
    ((normaliser.run rules (stripped written)).map .str).mapError ("Value error, " ++ ·)
  | .text _, _ => .error "Input should be a valid string"
  | .secret, .none => .ok .none
  | .secret, .str written => .ok (.str (stripped written))
  | .secret, _ => .error "Input should be a valid string"

/-- A field of a section. -/
structure Field where
  key : String
  kind : Kind
  default : Value

/-- The error of a field. -/
structure FieldError where
  field : String
  message : String
  deriving DecidableEq, Repr

/-- Checked values under the keys of their fields. -/
abbrev Values := List (String × Value)

/-- The fields of a section, and what must hold between them. -/
structure SectionModel where
  fields : List Field
  coherent : Values → List FieldError

/-- The fields of the general settings. -/
def generalSettings : List Field :=
  [⟨"timezone", .text .knownTimezone, .str "Asia/Jakarta"⟩,
    ⟨"storage_path", .text .absolutePath, .str "/mnt/backup-hdd"⟩,
    ⟨"backup_folder", .text .relativeFolder, .str "dump"⟩,
    ⟨"temp_folder", .text .absolutePath, .str "/mnt/backup-hdd/tmp"⟩,
    ⟨"log_retention_days", .integer 1 3650, .int 90⟩,
    ⟨"audit_retention_days", .integer 30 3650, .int 730⟩]

/-- The fields of the settings of Google Drive. -/
def gdriveSettings : List Field :=
  [⟨"enabled", .flag, .bool false⟩,
    ⟨"remote_name", .text .rcloneRemote, .str "gdrive"⟩,
    ⟨"folder", .text .remoteFolder, .str "proxsync/dump"⟩,
    ⟨"bandwidth_limit_kbps", .integer 0 10000000, .int 0⟩,
    ⟨"transfers", .integer 1 32, .int 4⟩,
    ⟨"upload_retry", .integer 0 10, .int 3⟩,
    ⟨"verify_after_upload", .flag, .bool true⟩,
    ⟨"delete_remote_on_retention", .flag, .bool true⟩]

/-- The fields of the settings of Telegram. -/
def telegramSettings : List Field :=
  [⟨"enabled", .flag, .bool false⟩,
    ⟨"bot_token", .secret, .none⟩,
    ⟨"chat_id", .text .chatIdShape, .str ""⟩,
    ⟨"notify_backup_started", .flag, .bool true⟩,
    ⟨"notify_backup_success", .flag, .bool true⟩,
    ⟨"notify_backup_failed", .flag, .bool true⟩,
    ⟨"notify_restore_started", .flag, .bool true⟩,
    ⟨"notify_restore_finished", .flag, .bool true⟩,
    ⟨"notify_restore_failed", .flag, .bool true⟩,
    ⟨"notify_upload_failed", .flag, .bool true⟩,
    ⟨"notify_retention_deleted", .flag, .bool false⟩,
    ⟨"notify_storage_threshold", .flag, .bool true⟩]

/-- The fields of the settings of retention. -/
def retentionSettings : List Field :=
  [⟨"keep_local", .integer 1 365, .int 2⟩,
    ⟨"keep_remote", .integer 0 365, .int 2⟩,
    ⟨"scope", .choice ["per_guest"], .str "per_guest"⟩,
    ⟨"require_upload_before_delete", .always, .bool true⟩,
    ⟨"dry_run", .flag, .bool false⟩,
    ⟨"storage_warning_percent", .integer 50 99, .int 85⟩,
    ⟨"storage_critical_percent", .integer 51 100, .int 95⟩]

/-- The fields of the settings of the agent. -/
def agentSettings : List Field :=
  [⟨"poll_interval_seconds", .integer 1 300, .int 5⟩,
    ⟨"default_storage", .text .plain, .str "backup-hdd"⟩,
    ⟨"default_mode", .choice ["snapshot", "suspend", "stop"], .str "snapshot"⟩,
    ⟨"default_compression", .choice ["zstd", "gzip", "lzo", "none"], .str "zstd"⟩,
    ⟨"default_zstd_threads", .optionalInteger 0 64, .none⟩,
    ⟨"default_bwlimit_kbps", .integer 0 10000000, .int 0⟩]

/-- The fields of the settings of Proxmox. -/
def proxmoxSettings : List Field :=
  [⟨"node", .text .plain, .str "pve"⟩,
    ⟨"inventory_refresh_seconds", .integer 30 86400, .int 300⟩,
    ⟨"auto_enable_new_guests", .flag, .bool false⟩]

/-- The critical threshold lies above the warning threshold, where both are there. -/
def criticalAboveWarning (values : Values) : List FieldError :=
  match values.lookup "storage_warning_percent", values.lookup "storage_critical_percent" with
  | some (.int warning), some (.int critical) =>
    if critical ≤ warning then
      [⟨"storage_critical_percent",
        "Value error, critical threshold must be above the warning threshold"⟩]
    else []
  | _, _ => []

/-- The model of a section. -/
def sectionModel : SettingsSection → SectionModel
  | .general => ⟨generalSettings, fun _ => []⟩
  | .gdrive => ⟨gdriveSettings, fun _ => []⟩
  | .telegram => ⟨telegramSettings, fun _ => []⟩
  | .retention => ⟨retentionSettings, criticalAboveWarning⟩
  | .agent => ⟨agentSettings, fun _ => []⟩
  | .proxmox => ⟨proxmoxSettings, fun _ => []⟩

/-- Whether a field of a section is a secret. -/
def isSecret (area : SettingsSection) (key : String) : Bool :=
  area == .telegram && key == "bot_token"

/-- The outcome of a field, which has its default where nothing is given. -/
def Field.outcome (rules : Rules) (given : String → Option Value) (field : Field) :
    Except String Value :=
  field.kind.check rules ((given field.key).getD field.default)

/-- The value of a field that accepts what it is given. -/
def acceptance (outcome : String × Except String Value) : Option (String × Value) :=
  outcome.2.toOption.map fun value => (outcome.1, value)

/-- The error of a field that does not. -/
def refusal (outcome : String × Except String Value) : Option FieldError :=
  match outcome.2 with
  | .ok _ => none
  | .error message => some ⟨outcome.1, message⟩

/-- The values of a model from those that are given, or the errors of its fields. -/
def modelValidate (rules : Rules) (model : SectionModel) (given : String → Option Value) :
    Except (List FieldError) Values :=
  let outcomes := model.fields.map fun field => (field.key, field.outcome rules given)
  let values := outcomes.filterMap acceptance
  let errors := outcomes.filterMap refusal ++ model.coherent values
  if errors.isEmpty then .ok values else .error errors

/-! ## What a kind accepts -/

section Kinds

attribute [local simp] Kind.check

variable {rules : Rules} {normaliser : Normaliser} {value result : Value}

/-- A number that is accepted lies within its bounds and stays. -/
theorem bounded_eq_ok {low high number : ℤ} (accepted : bounded low high number = .ok value) :
    value = .int number ∧ bounded low high number = .ok (.int number) := by
  unfold bounded at accepted ⊢
  split at accepted
  · cases accepted
  · split at accepted
    · cases accepted
    · rename_i above below
      rw [if_neg above, if_neg below]
      exact ⟨(Except.ok.inj accepted).symm, rfl⟩

/-- A text is accepted stripped and normalised. -/
theorem Kind.check_text_eq_ok : (Kind.text normaliser).check rules value = .ok result ↔
    ∃ written text, value = .str written ∧ normaliser.run rules (stripped written) = .ok text ∧
      result = .str text := by
  cases value with
  | str written =>
    cases ran : normaliser.run rules (stripped written) with
    | ok text => simp [Kind.check, ran, Except.map, Except.mapError, eq_comm]
    | error message => simp [Kind.check, ran, Except.map, Except.mapError]
  | _ => simp [Kind.check]

/-- A secret that is accepted is missing or a text without white space at its ends. -/
theorem Kind.check_secret_eq_ok : Kind.secret.check rules value = .ok result ↔
    value = .none ∧ result = .none ∨
      ∃ written, value = .str written ∧ result = .str (stripped written) := by
  cases value <;> simp [Kind.check, eq_comm]

/-- A flag is accepted as it is. -/
theorem Kind.check_flag {value : Bool} :
    Kind.flag.check rules (.bool value) = .ok (.bool value) := by
  rw [Kind.check, rules.flag_self]
  rfl

/-- An integer within its bounds is accepted as it is. -/
theorem Kind.check_integer {low high value : ℤ} (within : low ≤ value ∧ value ≤ high) :
    (Kind.integer low high).check rules (.int value) = .ok (.int value) := by
  rw [Kind.check, rules.number_self]
  change bounded low high value = _
  rw [bounded, if_neg (not_lt.mpr within.1), if_neg (not_lt.mpr within.2)]

end Kinds

/-! ## What is valid -/

/-- The values of a model are what its fields make of what is given, and are coherent. -/
structure Validates (rules : Rules) (model : SectionModel) (given : String → Option Value)
    (values : Values) : Prop where
  keys : values.map Prod.fst = model.fields.map Field.key
  checked : ∀ field ∈ model.fields, ∃ value,
    values.lookup field.key = some value ∧ field.outcome rules given = .ok value
  coherent : model.coherent values = []

section Keys

universe u v

variable {κ : Type u} {ν : Type v} [BEq κ] [LawfulBEq κ] {key : κ} {value : ν}
variable {left right : List (κ × ν)}

/-- A key that stands in a list once is looked up where it stands. -/
theorem lookup_eq_some_iff_mem (distinct : (left.map Prod.fst).Nodup) :
    left.lookup key = some value ↔ (key, value) ∈ left := by
  induction left with
  | nil => simp
  | cons entry rest ih =>
    obtain ⟨first, stored⟩ := entry
    have unique := List.nodup_cons.mp distinct
    by_cases same : key = first
    · subst same
      rw [List.lookup_cons_self, List.mem_cons, Option.some.injEq, Prod.mk.injEq]
      constructor
      · rintro rfl
        exact .inl ⟨rfl, rfl⟩
      · rintro (⟨-, rfl⟩ | inside)
        · rfl
        · exact absurd (List.mem_map_of_mem inside) unique.1
    · rw [List.lookup_cons, beq_false_of_ne same, ih unique.2, List.mem_cons, Prod.mk.injEq]
      simp [same]

/-- Lists with the same keys, each once, are the same if every key has the same value. -/
theorem eq_of_lookup (distinct : (left.map Prod.fst).Nodup)
    (keys : right.map Prod.fst = left.map Prod.fst)
    (same : ∀ key ∈ left.map Prod.fst, right.lookup key = left.lookup key) : right = left := by
  induction left generalizing right with
  | nil => exact List.map_eq_nil_iff.mp keys
  | cons entry rest ih =>
    obtain ⟨first, stored⟩ := entry
    cases right with
    | nil => cases keys
    | cons other others =>
      obtain ⟨key, value⟩ := other
      obtain ⟨rfl, tail⟩ := List.cons.inj keys
      have unique := List.nodup_cons.mp distinct
      have head := same key List.mem_cons_self
      rw [List.lookup_cons_self, List.lookup_cons_self] at head
      rw [Option.some.inj head, ih unique.2 tail]
      intro other inside
      have differ : other ≠ key := fun equal => unique.1 (equal ▸ inside)
      have later := same other (List.mem_cons_of_mem _ inside)
      rwa [List.lookup_cons, List.lookup_cons, beq_false_of_ne differ] at later

end Keys

variable {rules : Rules} {model : SectionModel} {given : String → Option Value} {values : Values}

/-- The keys of a section are different. -/
theorem sectionModel_keys (area : SettingsSection) :
    ((sectionModel area).fields.map Field.key).Nodup := by
  cases area <;> decide

/-- The values of fields that all accept what they are given stand under their keys. -/
theorem keys_of_accepted {fields : List Field}
    (accepted : ∀ field ∈ fields, ∃ value, field.outcome rules given = .ok value) :
    ((fields.map fun field => (field.key, field.outcome rules given)).filterMap acceptance).map
      Prod.fst = fields.map Field.key := by
  induction fields with
  | nil => rfl
  | cons field rest ih =>
    obtain ⟨value, answer⟩ := accepted field List.mem_cons_self
    have tail := ih fun other inside => accepted other (List.mem_cons_of_mem _ inside)
    have head : acceptance (field.key, field.outcome rules given) = some (field.key, value) := by
      rw [answer]
      rfl
    rw [List.map_cons, List.filterMap_cons_some head, List.map_cons, List.map_cons, tail]

/-- No field is refused where every one accepts what it is given. -/
theorem refusals_eq_nil_iff {fields : List Field} :
    (fields.map fun field => (field.key, field.outcome rules given)).filterMap refusal = [] ↔
      ∀ field ∈ fields, ∃ value, field.outcome rules given = .ok value := by
  rw [List.filterMap_eq_nil_iff, List.forall_mem_map]
  refine forall₂_congr fun field _ => ?_
  cases field.outcome rules given with
  | ok value => simp [refusal]
  | error message => simp [refusal]

/-- A model whose values are always coherent is filled where every field accepts. -/
theorem exists_modelValidate (coherent : ∀ values, model.coherent values = [])
    (accepted : ∀ field ∈ model.fields, ∃ value, field.outcome rules given = .ok value) :
    ∃ values, modelValidate rules model given = .ok values := by
  unfold modelValidate
  dsimp only
  rw [refusals_eq_nil_iff.mpr accepted, coherent]
  exact ⟨_, rfl⟩

/-- A model is filled where every field accepts what it is given and the values are coherent. -/
theorem modelValidate_eq_ok (distinct : (model.fields.map Field.key).Nodup) :
    modelValidate rules model given = .ok values ↔ Validates rules model given values := by
  have refused := @refusals_eq_nil_iff rules given model.fields
  unfold modelValidate
  dsimp only
  generalize whole : (model.fields.map fun field =>
    (field.key, field.outcome rules given)) = outcomes at refused ⊢
  have stands : ∀ field ∈ model.fields, ∀ value, field.outcome rules given = .ok value →
      (field.key, value) ∈ outcomes.filterMap acceptance := by
    intro field inside value answer
    rw [← whole]
    exact List.mem_filterMap.mpr ⟨_, List.mem_map_of_mem inside, by rw [answer]; rfl⟩
  rw [ite_eq_iff]
  simp only [List.isEmpty_iff, List.append_eq_nil_iff, refused, Except.ok.injEq, reduceCtorEq,
    and_false, or_false]
  constructor
  · rintro ⟨⟨accepted, coherent⟩, rfl⟩
    have keys := keys_of_accepted accepted
    rw [whole] at keys
    refine ⟨keys, fun field inside => ?_, coherent⟩
    obtain ⟨value, answer⟩ := accepted field inside
    refine ⟨value, ?_, answer⟩
    rw [lookup_eq_some_iff_mem (keys ▸ distinct)]
    exact stands field inside value answer
  · intro valid
    have accepted : ∀ field ∈ model.fields, ∃ value, field.outcome rules given = .ok value := by
      intro field inside
      obtain ⟨value, -, answer⟩ := valid.checked field inside
      exact ⟨value, answer⟩
    have keys := keys_of_accepted accepted
    rw [whole] at keys
    have same : outcomes.filterMap acceptance = values := by
      apply eq_of_lookup (valid.keys ▸ distinct) (keys.trans valid.keys.symm)
      intro key there
      rw [valid.keys] at there
      obtain ⟨field, inside, rfl⟩ := List.mem_map.mp there
      obtain ⟨value, found, answer⟩ := valid.checked field inside
      rw [found, lookup_eq_some_iff_mem (keys ▸ distinct)]
      exact stands field inside value answer
    rw [same]
    exact ⟨⟨accepted, valid.coherent⟩, rfl⟩

end ProxSync.Settings
