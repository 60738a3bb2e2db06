import ProxSync.Settings.Checks
import ProxSync.Settings.Seeding
/-!
# What saving settings keeps

An update that is not refused leaves the section as it was checked, and saving a section as it was
read leaves it as it is, exactly where no white space lies next to the slashes of a folder and no
secret is made of white space or stands for the one that is kept. Writing the defaults keeps what is
stored, but for the guard of retention, and has nothing to do when it is repeated.
-/
open ProxSync.Lib

namespace ProxSync.Settings

/-- What an update leaves: the section as it was merged and checked, the secrets that were not sent,
the other sections, and no secret that stands for the one that is kept. -/
structure Updated (rules : Rules) (box : SecretBox) (store : Store) (area : SettingsSection)
    (payload : Values) (after : Store) : Prop where
  merged : ∃ before validated, getSection rules box store area = .ok before ∧
    modelValidate rules (sectionModel area) (merge area before payload) = .ok validated ∧
    getSection rules box after area = .ok validated
  untouched : ∀ key, isSecret area key = true → payload.lookup key = none →
    after area key = store area key
  apart : ∀ other key, other ≠ area → after other key = store other key
  unmasked : ∀ key, isSecret area key = true →
    reads rules box after area key = some (.str secretUnchanged) →
    reads rules box store area key = some (.str secretUnchanged)

section Statements

variable (rules : Rules) (box : SecretBox) (stamp : Stamp) (store : Store)
variable (area : SettingsSection) (payload : Values)

/-- An update is refused and leaves every row, or leaves what it should. -/
def UpdateKeeps : Prop :=
  (∀ after response, updateSection rules box stamp store area payload = .ok (after, response) →
    Updated rules box store area payload after) ∧
  ∀ error, updateSection rules box stamp store area payload = .error error →
    committed store (updateSection rules box stamp store area payload) = store

/-- Saving a section as it was read leaves it. -/
def SaveKeeps : Prop :=
  ∀ before, getSection rules box store area = .ok before →
    getSection rules box (committed store (updateSection rules box stamp store area before)) area =
      .ok before

/-- A secret that is sent is not made of white space, and is the text that keeps the stored one only
as such or where that text was stored. -/
def SecretFits (before : Option Value) (sent : Value) : Prop :=
  ∀ text, (resolveSecret sent).or before = some (.str text) →
    stripped text ≠ "" ∧ (stripped text = secretUnchanged → before = some (.str secretUnchanged))

/-- What is sent, or is there where nothing is sent, is settled by its check. -/
structure Fits (before : Values) : Prop where
  texts : ∀ field ∈ (sectionModel area).fields, isSecret area field.key = false →
    ∀ given, (payload.lookup field.key).or (before.lookup field.key) = some given →
      field.kind.Settles given
  secrets : ∀ field ∈ (sectionModel area).fields, isSecret area field.key = true →
    ∀ sent, payload.lookup field.key = some sent → SecretFits (before.lookup field.key) sent

/-- An update that is accepted fits. -/
def UpdateFits : Prop :=
  ∀ before, getSection rules box store area = .ok before → unknownKeys area payload = [] →
    (∃ validated, modelValidate rules (sectionModel area) (merge area before payload) =
      .ok validated) →
    Fits area payload before

/-- Nothing that was read is a text with white space at an end or an empty secret. -/
def SaveFits : Prop :=
  ∀ before, getSection rules box store area = .ok before →
    ∀ field ∈ (sectionModel area).fields, ∀ value, before.lookup field.key = some value →
      field.kind.Solid value ∧ (isSecret area field.key = true → value ≠ .str "")

end Statements

variable {rules : Rules} {box : SecretBox} {stamp : Stamp} {store after : Store}
variable {area : SettingsSection} {payload before validated values : Values} {key : String}
variable {value : Value} {field : Field}

/-! ## What an update leaves -/

/-- Only the fields that hold one are secrets. -/
theorem kind_of_isSecret (inside : field ∈ (sectionModel area).fields)
    (secret : isSecret area field.key = true) : field.kind = .secret := by
  have only : ∀ field ∈ (sectionModel area).fields,
      isSecret area field.key = true → field.kind = .secret := by
    cases area <;> decide
  exact only field inside secret

/-- Only the values of retention must be coherent. -/
theorem coherent_of_ne (differ : area ≠ .retention) (values : Values) :
    (sectionModel area).coherent values = [] := by
  cases area with
  | retention => exact absurd rfl differ
  | _ => rfl

/-- Thresholds and guards are no texts that are normalised. -/
theorem retention_solid (inside : field ∈ (sectionModel .retention).fields) :
    field.kind.Solid value := by
  have other : ∀ field ∈ retentionSettings, ∀ normaliser, field.kind ≠ .text normaliser := by
    simp [retentionSettings]
  exact Kind.solid_of_other (other field inside)

/-- A section was read, its merge with what is sent is valid, and it was written. -/
structure Accepted (rules : Rules) (box : SecretBox) (stamp : Stamp) (store : Store)
    (area : SettingsSection) (payload before validated : Values) (after : Store) : Prop where
  read : getSection rules box store area = .ok before
  valid : modelValidate rules (sectionModel area) (merge area before payload) = .ok validated
  written : after = persist box stamp area (untouched area payload) store validated

/-- A value is read as it was checked: a text because it is not stripped, and a secret because it is
not empty, if it was sent. -/
structure Kept (area : SettingsSection) (payload : Values) (field : Field) (value : Value) :
    Prop where
  text : isSecret area field.key = false → field.kind.Solid value
  secret : isSecret area field.key = true → payload.lookup field.key ≠ none → value ≠ .str ""

namespace Accepted

variable (accepted : Accepted rules box stamp store area payload before validated after)
include accepted

/-- Validated values have the keys of their section. -/
theorem keys : validated.map Prod.fst = (sectionModel area).fields.map Field.key :=
  ((modelValidate_eq_ok (sectionModel_keys area)).mp accepted.valid).keys

/-- What stood in a field, what it is merged to and what that is checked to. -/
theorem fields (inside : field ∈ (sectionModel area).fields) :
    ∃ current merged value, before.lookup field.key = some current ∧
      storedValue box store area field.key =
        .ok (storedValues box store area field.key) ∧
      field.outcome rules (storedValues box store area) = .ok current ∧
      merge area before payload field.key = some merged ∧
      validated.lookup field.key = some value ∧ field.kind.check rules merged = .ok value := by
  obtain ⟨decrypted, held⟩ := getSection_eq_ok.mp accepted.read
  have valid := (modelValidate_eq_ok (sectionModel_keys area)).mp accepted.valid
  obtain ⟨current, there, checked⟩ := held.checked field inside
  obtain ⟨value, found, outcome⟩ := valid.checked field inside
  have merged : ∃ merged, merge area before payload field.key = some merged := by
    unfold merge
    rw [there]
    cases payload.lookup field.key with
    | none => exact ⟨current, rfl⟩
    | some sent =>
      dsimp only
      split
      · cases resolveSecret sent with
        | none => exact ⟨current, rfl⟩
        | some resolved => exact ⟨resolved, rfl⟩
      · exact ⟨sent, rfl⟩
  obtain ⟨merged, given⟩ := merged
  refine ⟨current, merged, value, there, decrypted field inside, checked, given, found, ?_⟩
  unfold Field.outcome at outcome
  rwa [given] at outcome

/-- The row of a value after the update. -/
theorem row_after (found : validated.lookup key = some value) : after area key =
    if untouched area payload (key, value) then store area key
    else some (rowOf box stamp area (key, value)) := by
  rw [accepted.written]
  apply persist_lookup
  · rw [accepted.keys]
    exact sectionModel_keys area
  · exact found

/-- A field that is no secret is checked again when it is read. -/
theorem plain_after (plain : isSecret area field.key = false)
    (found : validated.lookup field.key = some value) :
    storedValue box after area field.key = .ok (some value) := by
  have row := accepted.row_after found
  have touched : untouched area payload (field.key, value) = false := by
    unfold untouched
    rw [plain, Bool.false_and]
  rw [touched, if_neg Bool.false_ne_true] at row
  have same : shown area (field.key, value) = value := by
    unfold shown
    rw [plain]
    rfl
  rw [storedValue_rowOf row, same]

/-- A secret that was not sent is read as before. -/
theorem secret_after (secret : isSecret area key = true) (unsent : payload.lookup key = none)
    (found : validated.lookup key = some value) : after area key = store area key := by
  have row := accepted.row_after found
  have kept : untouched area payload (key, value) = true := by
    unfold untouched
    rw [secret, unsent]
    rfl
  rwa [if_pos kept] at row

/-- A secret that was sent is read if it is not empty. -/
theorem sent_after (secret : isSecret area key = true) (sent : payload.lookup key ≠ none)
    (found : validated.lookup key = some value) :
    storedValue box after area key = .ok (some (shown area (key, value))) := by
  have row := accepted.row_after found
  have touched : untouched area payload (key, value) = false := by
    unfold untouched
    rw [secret, Bool.true_and, Option.isNone_eq_false_iff, Option.isSome_iff_ne_none]
    exact sent
  rw [touched, if_neg Bool.false_ne_true] at row
  exact storedValue_rowOf row

/-- A secret that was not sent is merged to what it was. -/
theorem unsent_lookup (inside : field ∈ (sectionModel area).fields)
    (secret : isSecret area field.key = true) (unsent : payload.lookup field.key = none)
    (found : validated.lookup field.key = some value) :
    before.lookup field.key = some value := by
  obtain ⟨current, merged, _, there, -, checked, given, same, outcome⟩ := accepted.fields inside
  obtain rfl := Option.some.inj (found.symm.trans same)
  unfold merge at given
  rw [unsent, there] at given
  obtain rfl := Option.some.inj given
  unfold Field.outcome at checked
  have stays := Kind.check_self (by simp [kind_of_isSecret inside secret]) checked
  rw [there, Except.ok.inj (stays.symm.trans outcome)]

/-- A field is read after the update, as it was checked exactly where it is kept. -/
theorem outcome_after (inside : field ∈ (sectionModel area).fields)
    (found : validated.lookup field.key = some value) :
    ∃ final, storedValue box after area field.key = .ok (storedValues box after area field.key) ∧
      field.outcome rules (storedValues box after area) = .ok final ∧
      (final = value ↔ Kept area payload field value) := by
  obtain ⟨current, merged, _, there, decrypted, checked, given, same, outcome⟩ :=
    accepted.fields inside
  obtain rfl := Option.some.inj (found.symm.trans same)
  unfold Field.outcome at checked ⊢
  cases secret : isSecret area field.key with
  | false =>
    have read := accepted.plain_after secret found
    obtain ⟨final, again⟩ := Kind.check_again outcome
    rw [storedValues_of_ok read]
    refine ⟨final, read, again, ?_⟩
    constructor
    · rintro rfl
      exact ⟨fun _ => (Kind.check_eq_self_iff outcome).mp again, by simp [secret]⟩
    · intro kept
      have stays := (Kind.check_eq_self_iff outcome).mpr (kept.text secret)
      exact Except.ok.inj (again.symm.trans stays)
  | true =>
    have kind := kind_of_isSecret inside secret
    by_cases unsent : payload.lookup field.key = none
    · have row := accepted.secret_after secret unsent found
      have read : storedValue box after area field.key = storedValue box store area field.key := by
        unfold storedValue
        rw [row]
      have values : storedValues box after area field.key =
          storedValues box store area field.key := by
        unfold storedValues
        rw [read]
      rw [values, read]
      have same := accepted.unsent_lookup inside secret unsent found
      obtain rfl := Option.some.inj (there.symm.trans same)
      exact ⟨current, decrypted, checked,
        iff_of_true rfl ⟨by simp [secret], by simp [unsent]⟩⟩
    · have read := accepted.sent_after secret unsent found
      rw [storedValues_of_ok read]
      rw [kind] at outcome ⊢
      rcases Kind.check_secret_eq_ok.mp outcome with ⟨-, rfl⟩ | ⟨written, -, rfl⟩
      · have none : shown area (field.key, .none) = .none := by simp [shown, secret]
        rw [none] at read ⊢
        exact ⟨.none, read, rfl, iff_of_true rfl ⟨by simp [secret], by simp⟩⟩
      · by_cases empty : stripped written = ""
        · have none : shown area (field.key, .str (stripped written)) = .none := by
            simp [shown, secret, empty]
          rw [none] at read ⊢
          refine ⟨.none, read, rfl, iff_of_false (by simp) fun kept => ?_⟩
          exact kept.secret secret unsent (by rw [empty])
        · have same : shown area (field.key, .str (stripped written)) =
              .str (stripped written) := by
            simp [shown, secret, empty]
          rw [same] at read ⊢
          refine ⟨.str (stripped written), read, ?_, iff_of_true rfl ⟨by simp [secret], ?_⟩⟩
          · simp [Kind.check]
          · simp [empty]

/-- The secrets are decrypted after the update. -/
theorem decrypted (inside : field ∈ (sectionModel area).fields) :
    storedValue box after area field.key = .ok (storedValues box after area field.key) := by
  obtain ⟨_, _, value, -, -, -, -, found, -⟩ := accepted.fields inside
  obtain ⟨final, read, -⟩ := accepted.outcome_after inside found
  exact read

/-- The section is read as it was merged and checked exactly where every field is kept. -/
theorem merged_iff : getSection rules box after area = .ok validated ↔
    ∀ field ∈ (sectionModel area).fields, ∀ value, validated.lookup field.key = some value →
      Kept area payload field value := by
  have valid := (modelValidate_eq_ok (sectionModel_keys area)).mp accepted.valid
  rw [getSection_iff (fun _ => accepted.decrypted) valid.keys valid.coherent]
  refine forall₂_congr fun field inside => forall₂_congr fun value found => ?_
  obtain ⟨final, -, outcome, kept⟩ := accepted.outcome_after inside found
  rw [outcome, Except.ok.injEq, kept]

/-- The section is read after the update. -/
theorem exists_getSection : ∃ finals, getSection rules box after area = .ok finals := by
  by_cases thresholds : area = .retention
  · refine ⟨validated, accepted.merged_iff.mpr fun field inside value found => ?_⟩
    subst thresholds
    exact ⟨fun _ => retention_solid inside, fun secret => absurd secret Bool.false_ne_true⟩
  · have outcomes : ∀ field ∈ (sectionModel area).fields, ∃ value,
        field.outcome rules (storedValues box after area) = .ok value := by
      intro field inside
      obtain ⟨_, _, value, -, -, -, -, found, -⟩ := accepted.fields inside
      obtain ⟨final, -, outcome, -⟩ := accepted.outcome_after inside found
      exact ⟨final, outcome⟩
    obtain ⟨finals, filled⟩ := exists_modelValidate (coherent_of_ne thresholds) outcomes
    exact ⟨finals, getSection_eq_ok.mpr ⟨fun _ => accepted.decrypted,
      (modelValidate_eq_ok (sectionModel_keys area)).mp filled⟩⟩

/-- A secret is neither empty nor newly masked exactly when the one that was sent fits. -/
theorem secret_iff (inside : field ∈ (sectionModel area).fields)
    (secret : isSecret area field.key = true) {sent : Value}
    (given : payload.lookup field.key = some sent)
    (found : validated.lookup field.key = some value) :
    (value ≠ .str "" ∧ (value = .str secretUnchanged →
      before.lookup field.key = some (.str secretUnchanged))) ↔
      SecretFits (before.lookup field.key) sent := by
  obtain ⟨current, merged, _, there, -, -, resolved, same, outcome⟩ := accepted.fields inside
  obtain rfl := Option.some.inj (found.symm.trans same)
  rw [kind_of_isSecret inside secret] at outcome
  unfold merge at resolved
  unfold SecretFits
  simp only [given, secret, if_true] at resolved
  rw [resolved]
  rcases Kind.check_secret_eq_ok.mp outcome with ⟨rfl, rfl⟩ | ⟨written, rfl, rfl⟩
  · simp
  · simp

/-- A value is solid exactly when the one it was checked from settles. -/
theorem text_iff (inside : field ∈ (sectionModel area).fields)
    (plain : isSecret area field.key = false)
    (found : validated.lookup field.key = some value) :
    field.kind.Solid value ↔
      ∀ given, (payload.lookup field.key).or (before.lookup field.key) = some given →
        field.kind.Settles given := by
  obtain ⟨current, merged, _, there, -, -, given, same, outcome⟩ := accepted.fields inside
  obtain rfl := Option.some.inj (found.symm.trans same)
  have either : (payload.lookup field.key).or (before.lookup field.key) = some merged := by
    rw [← given]
    unfold merge
    cases payload.lookup field.key with
    | none => rfl
    | some sent => simp [plain]
  rw [either]
  simp only [Option.some.injEq, forall_eq']
  exact Kind.solid_iff outcome

/-- An update leaves what it should exactly where what was sent fits. -/
theorem updated_iff : Updated rules box store area payload after ↔ Fits area payload before := by
  constructor
  · intro updated
    obtain ⟨_, _, read, valid, held⟩ := updated.merged
    obtain rfl := Except.ok.inj (read.symm.trans accepted.read)
    obtain rfl := Except.ok.inj (valid.symm.trans accepted.valid)
    have all := accepted.merged_iff.mp held
    refine ⟨fun field inside plain => ?_, fun field inside secret sent given => ?_⟩
    · obtain ⟨_, _, value, -, -, -, -, found, -⟩ := accepted.fields inside
      exact (accepted.text_iff inside plain found).mp ((all field inside value found).text plain)
    · obtain ⟨_, _, value, -, -, -, -, found, -⟩ := accepted.fields inside
      apply (accepted.secret_iff inside secret given found).mp
      refine ⟨(all field inside value found).secret secret (by simp [given]), ?_⟩
      rintro rfl
      have unmasked := updated.unmasked field.key secret
      rw [reads_of_ok held, reads_of_ok accepted.read] at unmasked
      exact unmasked found
  · intro fits
    have sent : ∀ field ∈ (sectionModel area).fields, isSecret area field.key = true →
        payload.lookup field.key ≠ none → ∀ value, validated.lookup field.key = some value →
        value ≠ .str "" ∧ (value = .str secretUnchanged →
          before.lookup field.key = some (.str secretUnchanged)) := by
      intro field inside secret there value found
      obtain ⟨sent, given⟩ := Option.ne_none_iff_exists'.mp there
      exact (accepted.secret_iff inside secret given found).mpr
        (fits.secrets field inside secret sent given)
    have held := accepted.merged_iff.mpr fun field inside value found =>
      ⟨fun plain => (accepted.text_iff inside plain found).mpr (fits.texts field inside plain),
        fun secret there => (sent field inside secret there value found).1⟩
    refine ⟨⟨before, validated, accepted.read, accepted.valid, held⟩, ?_, ?_, ?_⟩
    · intro key secret unsent
      cases found : validated.lookup key with
      | some value => exact accepted.secret_after secret unsent found
      | none =>
        rw [accepted.written]
        apply persist_apart
        right
        intro listed
        obtain ⟨entry, inside, rfl⟩ := List.mem_map.mp listed
        have differ := List.lookup_eq_none_iff.mp found entry inside
        simp at differ
    · intro other key apart
      rw [accepted.written]
      exact persist_apart (.inl apart)
    · intro key secret
      rw [reads_of_ok held, reads_of_ok accepted.read]
      intro found
      obtain ⟨entry, inside, same⟩ := List.lookup_isSome_iff.mp (Option.isSome_of_mem found)
      have listed := List.mem_map_of_mem (f := Prod.fst) inside
      rw [accepted.keys, ← LawfulBEq.eq_of_beq same] at listed
      obtain ⟨field, inside, rfl⟩ := List.mem_map.mp listed
      by_cases unsent : payload.lookup field.key = none
      · exact accepted.unsent_lookup inside secret unsent found
      · exact (sent field inside secret unsent _ found).2 rfl

end Accepted

/-- An update is answered exactly when its keys are known and its values are accepted. -/
theorem exists_accepted :
    (∃ response, updateSection rules box stamp store area payload = .ok (after, response)) ↔
      unknownKeys area payload = [] ∧ ∃ before validated,
        Accepted rules box stamp store area payload before validated after := by
  constructor
  · rintro ⟨response, updated⟩
    obtain ⟨known, before, validated, read, valid, written, -⟩ := updateSection_eq_ok.mp updated
    exact ⟨known, before, validated, read, valid, written⟩
  · rintro ⟨known, before, validated, accepted⟩
    obtain ⟨response, answered⟩ := getSectionResponse_ok.mpr accepted.exists_getSection
    exact ⟨response, updateSection_eq_ok.mpr ⟨known, before, validated, accepted.read,
      accepted.valid, accepted.written, answered⟩⟩

/-- An update keeps what it should exactly where it fits, if it is accepted. -/
theorem updateKeeps_iff : UpdateKeeps rules box stamp store area payload ↔
    UpdateFits rules box store area payload := by
  constructor
  · rintro ⟨keeps, -⟩ before read known ⟨validated, valid⟩
    have accepted : Accepted rules box stamp store area payload before validated _ :=
      ⟨read, valid, rfl⟩
    obtain ⟨response, updated⟩ := exists_accepted.mpr ⟨known, before, validated, accepted⟩
    exact accepted.updated_iff.mp (keeps _ response updated)
  · intro fits
    constructor
    · intro after response updated
      obtain ⟨known, before, validated, accepted⟩ := exists_accepted.mp ⟨response, updated⟩
      exact accepted.updated_iff.mpr (fits before accepted.read known ⟨validated, accepted.valid⟩)
    · intro error failed
      rw [failed]
      rfl

/-! ## Saving what was read -/

/-- A secret that is sent as it is stored is kept, unless it is empty. -/
theorem resolveSecret_or (text : String) : (resolveSecret (.str text)).or (some (.str text)) =
    some (if text = "" then .none else .str text) := by
  unfold resolveSecret
  dsimp only
  by_cases placeholder : text = secretUnchanged
  · have named : text ≠ "" := by
      rw [placeholder]
      decide
    rw [if_pos placeholder, if_neg named]
    rfl
  · rw [if_neg placeholder]
    by_cases empty : text = ""
    · rw [if_pos empty, if_pos empty]
      rfl
    · rw [if_neg empty, if_neg empty]
      rfl

/-- A field that is saved as it was read is read as before exactly where it is not stripped, and not
an empty secret. -/
theorem Accepted.saved_outcome
    (accepted : Accepted rules box stamp store area before before validated after)
    (inside : field ∈ (sectionModel area).fields) (there : before.lookup field.key = some value) :
    field.outcome rules (storedValues box after area) = .ok value ↔
      field.kind.Solid value ∧ (isSecret area field.key = true → value ≠ .str "") := by
  obtain ⟨_, merged, checked, same, -, current, given, found, outcome⟩ := accepted.fields inside
  obtain rfl := Option.some.inj (there.symm.trans same)
  unfold Field.outcome at current
  obtain ⟨final, -, answer, kept⟩ := accepted.outcome_after inside found
  unfold merge at given
  rw [there] at given
  cases secret : isSecret area field.key with
  | false =>
    simp only [secret, Bool.false_eq_true, if_false, Option.some.injEq] at given
    subst given
    have read := storedValues_of_ok (accepted.plain_after secret found)
    unfold Field.outcome
    rw [read]
    simp only [Bool.false_eq_true, false_implies, and_true]
    constructor
    · exact Kind.solid_of_check_check current outcome
    · intro solid
      have stays := (Kind.check_eq_self_iff current).mpr solid
      obtain rfl := Except.ok.inj (stays.symm.trans outcome)
      exact stays
  | true =>
    have kind := kind_of_isSecret inside secret
    simp only [secret, if_true] at given
    rw [kind] at current outcome
    rw [answer, Except.ok.injEq, kind]
    rcases Kind.check_secret_eq_ok.mp current with ⟨-, rfl⟩ | ⟨written, -, rfl⟩
    · obtain rfl : merged = .none := (Option.some.inj given).symm
      obtain rfl : checked = .none := (Except.ok.inj outcome).symm
      rw [kept.mpr ⟨by simp [secret], by simp⟩]
      exact iff_of_true rfl ⟨trivial, by simp⟩
    · rw [resolveSecret_or] at given
      by_cases empty : stripped written = ""
      · rw [if_pos empty] at given
        obtain rfl := Option.some.inj given
        obtain rfl : checked = .none := (Except.ok.inj outcome).symm
        rw [kept.mpr ⟨by simp [secret], by simp⟩]
        exact iff_of_false (by simp) fun fits => fits.2 rfl (by rw [empty])
      · rw [if_neg empty] at given
        obtain rfl := Option.some.inj given
        rw [Kind.check, stripped_stripped] at outcome
        obtain rfl := Except.ok.inj outcome
        rw [kept.mpr ⟨by simp [secret], by simp [empty]⟩]
        exact iff_of_true rfl ⟨trivial, by simp [empty]⟩

/-- The section is read as before exactly where nothing in it is stripped or an empty secret. -/
theorem Accepted.saved_iff
    (accepted : Accepted rules box stamp store area before before validated after) :
    getSection rules box after area = .ok before ↔
      ∀ field ∈ (sectionModel area).fields, ∀ value, before.lookup field.key = some value →
        field.kind.Solid value ∧ (isSecret area field.key = true → value ≠ .str "") := by
  have held := (getSection_eq_ok.mp accepted.read).2
  rw [getSection_iff (fun _ => accepted.decrypted) held.keys held.coherent]
  exact forall₂_congr fun field inside => forall₂_congr fun value => accepted.saved_outcome inside

/-- A section that was read has no keys of its own. -/
theorem unknownKeys_of_keys
    (keys : before.map Prod.fst = (sectionModel area).fields.map Field.key) :
    unknownKeys area before = [] := by
  have none : ((before.map Prod.fst).filter fun key =>
      (sectionModel area).fields.all fun field => field.key != key) = [] := by
    rw [keys, List.filter_eq_nil_iff, List.forall_mem_map]
    intro field inside
    simp only [List.all_eq_true, not_forall]
    exact ⟨field, inside, by simp⟩
  unfold unknownKeys
  rw [none]
  rfl

/-- No field of a section that was read refuses its value. -/
theorem outcome_merge_self (inside : field ∈ (sectionModel area).fields)
    (there : before.lookup field.key = some value)
    (checked : field.outcome rules (storedValues box store area) = .ok value) :
    ∃ again, field.outcome rules (merge area before before) = .ok again := by
  unfold Field.outcome at checked ⊢
  unfold merge
  rw [there]
  cases secret : isSecret area field.key with
  | false => exact Kind.check_again checked
  | true =>
    have kind := kind_of_isSecret inside secret
    rw [kind] at checked ⊢
    rcases Kind.check_secret_eq_ok.mp checked with ⟨-, rfl⟩ | ⟨written, -, rfl⟩
    · exact ⟨.none, rfl⟩
    · dsimp only
      rw [if_pos rfl, resolveSecret_or]
      by_cases empty : stripped written = ""
      · rw [if_pos empty]
        exact ⟨.none, rfl⟩
      · rw [if_neg empty]
        exact ⟨.str (stripped (stripped written)), rfl⟩

/-- Saving a section as it was read leaves it exactly where nothing in it is stripped or an empty
secret. -/
theorem saveKeeps_iff : SaveKeeps rules box stamp store area ↔ SaveFits rules box store area := by
  constructor
  · intro keeps before read
    by_cases thresholds : area = .retention
    · subst thresholds
      intro field inside value _
      exact ⟨retention_solid inside, fun secret => absurd secret Bool.false_ne_true⟩
    · have held := (getSection_eq_ok.mp read).2
      obtain ⟨validated, valid⟩ : ∃ validated,
          modelValidate rules (sectionModel area) (merge area before before) = .ok validated := by
        apply exists_modelValidate (coherent_of_ne thresholds)
        intro field inside
        obtain ⟨value, there, checked⟩ := held.checked field inside
        exact outcome_merge_self inside there checked
      have accepted : Accepted rules box stamp store area before before validated _ :=
        ⟨read, valid, rfl⟩
      obtain ⟨response, updated⟩ := exists_accepted.mpr
        ⟨unknownKeys_of_keys held.keys, before, validated, accepted⟩
      have saved := keeps before read
      rw [updated] at saved
      exact accepted.saved_iff.mp saved
  · intro fits before read
    cases updated : updateSection rules box stamp store area before with
    | error raised => exact read
    | ok answer =>
      obtain ⟨-, current, validated, accepted⟩ := exists_accepted.mp ⟨answer.2, updated⟩
      obtain rfl := Except.ok.inj (read.symm.trans accepted.read)
      exact accepted.saved_iff.mpr (fits before read)

/-- Updating, saving and writing the defaults keep what they should exactly where what is sent fits
and nothing that was read is stripped or an empty secret. -/
theorem stable_iff (rules : Rules) (box : SecretBox) (stamp : Stamp) (timezone : Option String)
    (store : Store) (area : SettingsSection) (payload : Values) :
    UpdateKeeps rules box stamp store area payload ∧ SaveKeeps rules box stamp store area ∧
        DefaultsKeep rules box stamp store timezone ↔
      UpdateFits rules box store area payload ∧ SaveFits rules box store area := by
  rw [updateKeeps_iff, saveKeeps_iff]
  simp only [defaultsKeep, and_true]

/-- Rules that accept flags and numbers as they are, the default time zone, and letters of ASCII. -/
def Rules.strict : Rules where
  letters := .ascii
  zone name := name == "Asia/Jakarta"
  zone_default := rfl
  flag
    | .bool value => .ok value
    | _ => .error "Input should be a valid boolean"
  number
    | .int value => .ok value
    | _ => .error "Input should be a valid integer"
  flag_self _ := rfl
  number_self _ := rfl

/-- A box that marks what it encrypts. -/
def SecretBox.marked : SecretBox where
  encrypt _ plaintext := .ofList ('$' :: plaintext.toList)
  decrypt token :=
    match token.toList with
    | '$' :: rest => some (.ofList rest)
    | _ => none
  decrypt_encrypt nonce plaintext := by simp
  encrypt_ne nonce plaintext := by
    rw [ne_eq, String.ext_iff, String.toList_ofList]
    simp

/-- An update that is accepted where a section and its merge are valid. -/
theorem exists_of_accepts (accepts : ((getSection rules box store area).toOption.map fun before =>
      (modelValidate rules (sectionModel area) (merge area before payload)).toBool) = some true) :
    ∃ before validated, getSection rules box store area = .ok before ∧
      modelValidate rules (sectionModel area) (merge area before payload) = .ok validated := by
  cases read : getSection rules box store area with
  | error raised =>
    rw [read] at accepts
    cases accepts
  | ok before =>
    rw [read] at accepts
    have accepted : (modelValidate rules (sectionModel area)
      (merge area before payload)).toBool = true := Option.some.inj accepts
    cases valid : modelValidate rules (sectionModel area) (merge area before payload) with
    | error errors =>
      rw [valid] at accepted
      cases accepted
    | ok validated => exact ⟨before, validated, rfl, valid⟩

/-- A folder with white space behind its slash is read as another one, and a token that is the
placeholder but for white space is stored. -/
theorem not_stable :
    ¬ UpdateKeeps .strict .marked ⟨none, 0, 0⟩ (fun _ _ => none) .gdrive
      [("folder", .str "/ a")] ∧
    ¬ UpdateKeeps .strict .marked ⟨none, 0, 0⟩ (fun _ _ => none) .telegram
      [("bot_token", .str " __unchanged__ ")] := by
  constructor
  · rw [updateKeeps_iff]
    intro fits
    obtain ⟨before, validated, read, valid⟩ := @exists_of_accepts .strict .marked
      (fun _ _ => none) .gdrive [("folder", .str "/ a")] (by decide +kernel)
    have settles := (fits before read (by decide +kernel) ⟨validated, valid⟩).texts
      ⟨"folder", .text .remoteFolder, .str "proxsync/dump"⟩
      (by simp [sectionModel, gdriveSettings]) rfl (.str "/ a") rfl
    apply settles.1
    exact ⟨['/'], ' ', ['a'], by decide +kernel, by simp [isSlash], by decide +kernel⟩
  · rw [updateKeeps_iff]
    intro fits
    obtain ⟨before, validated, read, valid⟩ := @exists_of_accepts .strict .marked
      (fun _ _ => none) .telegram [("bot_token", .str " __unchanged__ ")] (by decide +kernel)
    have secret := (fits before read (by decide +kernel) ⟨validated, valid⟩).secrets
      ⟨"bot_token", .secret, .none⟩ (by simp [sectionModel, telegramSettings]) rfl
      (.str " __unchanged__ ") rfl
    have sent : resolveSecret (.str " __unchanged__ ") = some (.str " __unchanged__ ") := by
      rw [resolveSecret, if_neg (by decide), if_neg (by decide)]
    have stored := (secret " __unchanged__ " (by rw [sent]; rfl)).2 (by decide +kernel)
    have missing : (reads .strict .marked (fun _ _ => none) .telegram "bot_token").map
        Value.truthy = some false := by
      decide +kernel
    rw [reads_of_ok read, stored] at missing
    revert missing
    decide

end ProxSync.Settings
