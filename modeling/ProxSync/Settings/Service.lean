import ProxSync.Settings.Models
/-!
# Reading and writing settings

A section is read from its rows, with defaults where there is none, and checked as a whole. An
update checks what it was sent together with what is there and then writes every field, but leaves a
secret alone that it was not sent. At every start the rows that are missing are written.
-/
open ProxSync.Lib

namespace ProxSync.Settings

/-- What the value of a row is. -/
inductive SettingValueType
  | string
  | int
  | bool
  | json
  | secret
  deriving DecidableEq, Repr

/-- The type of a value that is no secret. -/
def inferValueType : Value → SettingValueType
  | .bool _ => .bool
  | .int _ => .int
  | .dict _ | .list _ => .json
  | _ => .string

/-- A row of the settings; its value is wrapped in a dictionary. -/
structure Setting where
  value : Option (List (Value × Value))
  valueType : SettingValueType
  isSecret : Bool
  updatedBy : Option Nat
  updatedAt : ℤ

/-- A value as it is stored. -/
def wrap (value : Value) : Option (List (Value × Value)) := some [(.str "v", value)]

/-- The value of a stored row. -/
def unwrap : Option (List (Value × Value)) → Value
  | none => .none
  | some stored => Value.get stored "v"

/-- The rows, of which a section and a key name at most one. -/
abbrev Store := SettingsSection → String → Option Setting

/-- Write the row of a key. -/
def upsert (store : Store) (area : SettingsSection) (key : String) (row : Setting) : Store :=
  fun other name => if other = area ∧ name = key then some row else store other name

/-- Encryption under the key of the dashboard. -/
structure SecretBox where
  encrypt : Nat → String → String
  decrypt : String → Option String
  decrypt_encrypt : ∀ nonce plaintext, decrypt (encrypt nonce plaintext) = some plaintext
  encrypt_ne : ∀ nonce plaintext, encrypt nonce plaintext ≠ ""

/-- A masked preview of a secret. -/
def hint (plaintext : String) : String :=
  let chars := plaintext.toList
  if chars.length ≤ 4 then .ofList (List.replicate chars.length '•')
  else .ofList (List.replicate 6 '•' ++ chars.drop (chars.length - 4))

/-- What is raised about settings. -/
inductive SettingsError
  | validationFailed (detail : String)
  | schemaValidationFailed (detail : String) (errors : List FieldError)
  | configurationError
  | validationError (errors : List FieldError)
  deriving DecidableEq, Repr

/-- Sent back to mean that a stored secret is kept. -/
def secretUnchanged : String := "__unchanged__"

/-- The secrets of a section as they are shown. -/
structure SecretStatus where
  configured : Bool
  hint : Option String
  updatedAt : Option ℤ

/-- A section as it is answered. -/
structure SectionResponse where
  area : SettingsSection
  values : Values
  secrets : List (String × SecretStatus)

section Service

variable (rules : Rules) (box : SecretBox)

/-- The value of the row of a key, if there is one. -/
def storedValue (store : Store) (area : SettingsSection) (key : String) :
    Except SettingsError (Option Value) :=
  match store area key with
  | none => .ok none
  | some row =>
    match unwrap row.value with
    | .str token =>
      if isSecret area key && token != "" then
        match box.decrypt token with
        | some plaintext => .ok (some (.str plaintext))
        | none => .error .configurationError
      else .ok (some (.str token))
    | value => .ok (some value)

/-- The values of the rows. -/
def storedValues (store : Store) (area : SettingsSection) (key : String) : Option Value :=
  (storedValue box store area key).toOption.join

/-- A section as it is stored, with its secrets decrypted. -/
def getSection (store : Store) (area : SettingsSection) : Except SettingsError Values :=
  if (sectionModel area).fields.all fun field => (storedValue box store area field.key).toBool then
    (modelValidate rules (sectionModel area) (storedValues box store area)).mapError
      .validationError
  else .error .configurationError

/-- A secret as it is shown. -/
def secretStatus (store : Store) (area : SettingsSection) (entry : String × Value) :
    String × SecretStatus :=
  (entry.1, {
    configured := entry.2.truthy
    hint := match entry.2 with
      | .str plaintext => if plaintext = "" then none else some (hint plaintext)
      | _ => none
    updatedAt := (store area entry.1).map Setting.updatedAt })

/-- What is answered of a section. -/
def getSectionResponse (store : Store) (area : SettingsSection) :
    Except SettingsError SectionResponse := do
  let values ← getSection rules box store area
  .ok {
    area
    values := values.filter fun entry => !isSecret area entry.1
    secrets := (values.filter fun entry => isSecret area entry.1).map (secretStatus store area) }

/-- What is sent for a secret, unless the stored one is kept. -/
def resolveSecret : Value → Option Value
  | .none => none
  | .str text =>
    if text = secretUnchanged then none else if text = "" then some .none else some (.str text)
  | value => some value

/-- The current values with what is sent. -/
def merge (area : SettingsSection) (current payload : Values) (key : String) : Option Value :=
  match payload.lookup key with
  | none => current.lookup key
  | some value =>
    if isSecret area key then (resolveSecret value).or (current.lookup key) else some value

/-- Who writes, when, and with which nonce. -/
structure Stamp where
  updatedBy : Option Nat
  now : ℤ
  nonce : Nat

/-- The row of a value. -/
def rowOf (stamp : Stamp) (area : SettingsSection) (entry : String × Value) : Setting :=
  if isSecret area entry.1 then {
    value := wrap (match entry.2 with
      | .str plaintext =>
        if plaintext = "" then .none else .str (box.encrypt stamp.nonce plaintext)
      | _ => .none)
    valueType := .secret
    isSecret := true
    updatedBy := stamp.updatedBy
    updatedAt := stamp.now }
  else {
    value := wrap entry.2
    valueType := inferValueType entry.2
    isSecret := false
    updatedBy := stamp.updatedBy
    updatedAt := stamp.now }

/-- Write values, except those that are skipped. -/
def persist (stamp : Stamp) (area : SettingsSection) (skipped : String × Value → Bool)
    (store : Store) (values : Values) : Store :=
  values.foldl (fun store entry =>
    if skipped entry then store else upsert store area entry.1 (rowOf box stamp area entry)) store

/-- The keys that a section does not have. -/
def unknownKeys (area : SettingsSection) (payload : Values) : List String :=
  ((payload.map Prod.fst).filter fun key =>
    (sectionModel area).fields.all fun field => field.key != key).insertionSort (· ≤ ·)

/-- Whether a secret was not sent. -/
def untouched (area : SettingsSection) (payload : Values) (entry : String × Value) : Bool :=
  isSecret area entry.1 && (payload.lookup entry.1).isNone

/-- Update a section with what is sent. -/
def updateSection (stamp : Stamp) (store : Store) (area : SettingsSection) (payload : Values) :
    Except SettingsError (Store × SectionResponse) := do
  if unknownKeys area payload ≠ [] then
    .error (.validationFailed (s!"Unknown setting(s) for section '{area.value}': " ++
      String.intercalate ", " (unknownKeys area payload)))
  else
    let current ← getSection rules box store area
    let validated ← (modelValidate rules (sectionModel area) (merge area current payload)).mapError
      (.schemaValidationFailed s!"Invalid values for section '{area.value}'")
    let store := persist box stamp area (untouched area payload) store validated
    let response ← getSectionResponse rules box store area
    .ok (store, response)

/-- The rows that are committed; what is raised rolls the transaction back. -/
def committed {α : Type} (store : Store) : Except SettingsError (Store × α) → Store
  | .ok (after, _) => after
  | .error _ => store

/-! ## Defaults -/

/-- The key of the guard that retention relies on. -/
def uploadGuard : String := "require_upload_before_delete"

/-- Whether a row is the guard with a value that is not true any more. -/
def retired (row : Setting) : Bool :=
  match unwrap row.value with
  | .bool true => false
  | _ => true

/-- Make the guard true, if it is there and is not. -/
def normalizeRetentionGuard (stamp : Stamp) (store : Store) : Store × Nat :=
  if (store .retention uploadGuard).any retired then
    (upsert store .retention uploadGuard
      (rowOf box stamp .retention (uploadGuard, .bool true)), 1)
  else (store, 0)

/-- The defaults of a section, with the time zone of the installation. -/
def sectionDefaults (area : SettingsSection) (timezone : Option String) :
    Except SettingsError Values := do
  let defaults ← (modelValidate rules (sectionModel area) fun _ => none).mapError .validationError
  match area, timezone with
  | .general, some timezone =>
    (modelValidate rules (sectionModel .general) fun key =>
      if key = "timezone" then some (.str timezone) else defaults.lookup key).mapError
        .validationError
  | _, _ => .ok defaults

/-- A default as it is written. -/
def seeded (area : SettingsSection) (entry : String × Value) : String × Value :=
  if isSecret area entry.1 then (entry.1, .none) else entry

/-- Write the missing defaults of a section. -/
def seedSection (stamp : Stamp) (timezone : Option String) (progress : Store × Nat)
    (area : SettingsSection) : Except SettingsError (Store × Nat) := do
  let defaults ← sectionDefaults rules area timezone
  let existing (entry : String × Value) := (progress.1 area entry.1).isSome
  let guarded := if area = .retention then normalizeRetentionGuard box stamp progress.1
    else (progress.1, 0)
  .ok (persist box stamp area existing guarded.1 (defaults.map (seeded area)),
    progress.2 + guarded.2 + (defaults.filter fun entry => !existing entry).length)

/-- Write the missing defaults of all sections. -/
def ensureDefaults (stamp : Stamp) (timezone : Option String) (store : Store) :
    Except SettingsError (Store × Nat) :=
  sections.foldlM (seedSection rules box stamp timezone) (store, 0)

end Service

end ProxSync.Settings
