import ProxSync.Settings.Service
/-!
# The rows of the settings

A value that is written is read back from its row, a secret after it was encrypted and decrypted.
The rows of other keys and other sections stay. A section is read where its secrets are decrypted
and every field accepts its row, and an update that is not refused writes the merge as it was
checked.
-/
open ProxSync.Lib

namespace ProxSync.Settings

/-- What is read under a key of a section. -/
def reads (rules : Rules) (box : SecretBox) (store : Store) (area : SettingsSection)
    (key : String) : Option Value :=
  (getSection rules box store area).toOption.bind (List.lookup key)

variable {rules : Rules} {box : SecretBox} {stamp : Stamp} {store after : Store}
variable {area other : SettingsSection} {payload values : Values} {key name : String}
variable {value : Value} {row : Setting} {skipped : String × Value → Bool}
variable {response : SectionResponse}

/-- A wrapped value is read back. -/
@[simp] theorem unwrap_wrap : unwrap (wrap value) = value := rfl

/-- A written row is read. -/
theorem upsert_same : upsert store area key row area key = some row := if_pos ⟨rfl, rfl⟩

/-- Writing a row leaves the others. -/
theorem upsert_other (apart : other ≠ area ∨ name ≠ key) :
    upsert store area key row other name = store other name := by
  apply if_neg
  rintro ⟨rfl, rfl⟩
  simp at apart

/-- Writing values leaves every row alone that is not one of theirs. -/
theorem persist_apart (apart : other ≠ area ∨ name ∉ values.map Prod.fst) :
    persist box stamp area skipped store values other name = store other name := by
  unfold persist
  induction values generalizing store with
  | nil => rfl
  | cons entry rest ih =>
    rw [List.foldl_cons]
    have others : other ≠ area ∨ name ∉ rest.map Prod.fst :=
      apart.imp_right fun absent inside => absent (List.mem_cons_of_mem _ inside)
    rw [ih others]
    split
    · rfl
    · apply upsert_other
      apply apart.imp_right
      rintro absent rfl
      exact absent List.mem_cons_self

/-- A value is written to its row, unless it is skipped. -/
theorem persist_lookup (distinct : (values.map Prod.fst).Nodup)
    (found : values.lookup key = some value) :
    persist box stamp area skipped store values area key =
      if skipped (key, value) then store area key
      else some (rowOf box stamp area (key, value)) := by
  unfold persist
  rw [lookup_eq_some_iff_mem distinct] at found
  induction values generalizing store with
  | nil => cases found
  | cons entry rest ih =>
    have unique := List.nodup_cons.mp distinct
    rw [List.foldl_cons]
    rcases List.mem_cons.mp found with rfl | inside
    · change persist box stamp area skipped _ rest area key = _
      rw [persist_apart (.inr unique.1)]
      split
      · rfl
      · exact upsert_same
    · rw [ih unique.2 inside]
      have differ : key ≠ entry.1 :=
        fun same => unique.1 (List.mem_map.mpr ⟨_, inside, same⟩)
      split
      · split
        · rfl
        · exact upsert_other (.inr differ)
      · rfl

/-- A row that every value skips stays. -/
theorem persist_skipped (skips : ∀ value, skipped (key, value) = true) :
    persist box stamp area skipped store values area key = store area key := by
  unfold persist
  induction values generalizing store with
  | nil => rfl
  | cons entry rest ih =>
    obtain ⟨first, stored⟩ := entry
    rw [List.foldl_cons, ih]
    by_cases same : key = first
    · rw [← same, if_pos (skips stored)]
    · split
      · rfl
      · exact upsert_other (.inr same)

/-- Nothing is written where every value is skipped. -/
theorem persist_all_skipped (skips : ∀ entry ∈ values, skipped entry = true) :
    persist box stamp area skipped store values = store := by
  unfold persist
  induction values with
  | nil => rfl
  | cons entry rest ih =>
    rw [List.foldl_cons, if_pos (skips entry List.mem_cons_self)]
    exact ih fun other inside => skips other (List.mem_cons_of_mem _ inside)

/-! ## What is read -/

/-- What is read of a value that is written. -/
def shown (area : SettingsSection) (entry : String × Value) : Value :=
  if isSecret area entry.1 then
    match entry.2 with
    | .str plaintext => if plaintext = "" then .none else .str plaintext
    | _ => .none
  else entry.2

/-- A value that was written is read, a secret after it was decrypted. -/
theorem storedValue_rowOf (found : store area key = some (rowOf box stamp area (key, value))) :
    storedValue box store area key = .ok (some (shown area (key, value))) := by
  unfold storedValue shown
  rw [found]
  cases secret : isSecret area key with
  | false => cases value <;> simp [rowOf, secret]
  | true =>
    cases value with
    | str plaintext =>
      by_cases empty : plaintext = ""
      · simp [rowOf, secret, empty]
      · simp [rowOf, secret, empty, box.encrypt_ne, box.decrypt_encrypt]
    | _ => simp [rowOf, secret]

/-- A value that is read is one of the stored values. -/
theorem storedValues_of_ok {stored : Option Value}
    (read : storedValue box store area key = .ok stored) :
    storedValues box store area key = stored := by
  unfold storedValues
  rw [read]
  rfl

/-- Another error answers the same. -/
theorem mapError_eq_ok {α ε ε' : Type} {outcome : Except ε α} {raise : ε → ε'} {result : α} :
    outcome.mapError raise = .ok result ↔ outcome = .ok result := by
  cases outcome with
  | ok value => simp [Except.mapError]
  | error raised => simp [Except.mapError]

/-- A section is read where its secrets are decrypted and its rows are valid. -/
theorem getSection_eq_ok : getSection rules box store area = .ok values ↔
    (∀ field ∈ (sectionModel area).fields,
      storedValue box store area field.key = .ok (storedValues box store area field.key)) ∧
    Validates rules (sectionModel area) (storedValues box store area) values := by
  have decrypted : ∀ key, (storedValue box store area key).toBool = true ↔
      storedValue box store area key = .ok (storedValues box store area key) := by
    intro key
    cases read : storedValue box store area key with
    | ok stored => simp [Except.toBool, storedValues_of_ok read]
    | error raised => simp [Except.toBool]
  unfold getSection
  rw [ite_eq_iff, List.all_eq_true, mapError_eq_ok, modelValidate_eq_ok (sectionModel_keys area)]
  simp only [decrypted, reduceCtorEq, and_false, or_false]

/-- Values that could be those of a section are read where each field gives its own. -/
theorem getSection_iff
    (decrypted : ∀ field ∈ (sectionModel area).fields,
      storedValue box store area field.key = .ok (storedValues box store area field.key))
    (keys : values.map Prod.fst = (sectionModel area).fields.map Field.key)
    (coherent : (sectionModel area).coherent values = []) :
    getSection rules box store area = .ok values ↔
      ∀ field ∈ (sectionModel area).fields, ∀ value, values.lookup field.key = some value →
        field.outcome rules (storedValues box store area) = .ok value := by
  rw [getSection_eq_ok]
  constructor
  · rintro ⟨-, held⟩ field inside value found
    obtain ⟨_, same, checked⟩ := held.checked field inside
    rwa [Option.some.inj (found.symm.trans same)]
  · intro all
    refine ⟨decrypted, keys, fun field inside => ?_, coherent⟩
    have listed : field.key ∈ values.map Prod.fst := keys ▸ List.mem_map_of_mem inside
    obtain ⟨entry, there, same⟩ := List.mem_map.mp listed
    have distinct : (values.map Prod.fst).Nodup := keys ▸ sectionModel_keys area
    have found := (lookup_eq_some_iff_mem distinct).mpr there
    rw [same] at found
    exact ⟨entry.2, found, all field inside entry.2 found⟩

/-- What is read of a section is the value of its key. -/
theorem reads_of_ok (read : getSection rules box store area = .ok values) :
    reads rules box store area key = values.lookup key := by
  unfold reads
  rw [read]
  rfl

/-- A section is answered exactly when it is read. -/
theorem getSectionResponse_ok :
    (∃ response, getSectionResponse rules box store area = .ok response) ↔
      ∃ values, getSection rules box store area = .ok values := by
  constructor
  · rintro ⟨response, answered⟩
    obtain ⟨values, read, -⟩ := bind_eq_ok.mp answered
    exact ⟨values, read⟩
  · rintro ⟨values, read⟩
    exact exists_bind_eq_ok read ⟨_, rfl⟩

/-- An update that is not refused writes the merge as it was checked. -/
theorem updateSection_eq_ok :
    updateSection rules box stamp store area payload = .ok (after, response) ↔
      unknownKeys area payload = [] ∧ ∃ before validated,
        getSection rules box store area = .ok before ∧
        modelValidate rules (sectionModel area) (merge area before payload) = .ok validated ∧
        after = persist box stamp area (untouched area payload) store validated ∧
        getSectionResponse rules box after area = .ok response := by
  unfold updateSection
  by_cases unknown : unknownKeys area payload ≠ []
  · rw [if_pos unknown]
    simp [unknown]
  · rw [if_neg unknown]
    simp only [not_not.mp unknown, true_and, bind_eq_ok, mapError_eq_ok, Except.ok.injEq,
      Prod.mk.injEq]
    constructor
    · rintro ⟨before, read, validated, valid, answer, answered, rfl, rfl⟩
      exact ⟨before, validated, read, valid, rfl, answered⟩
    · rintro ⟨before, validated, read, valid, rfl, answered⟩
      exact ⟨before, read, validated, valid, response, answered, rfl, rfl⟩

end ProxSync.Settings
