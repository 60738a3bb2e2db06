import ProxSync.Settings.Models
import ProxSync.Settings.Remotes
/-!
# Checking what was checked

A check leaves what it returned as it is, once more, unless that is a text with white space at an
end, which the check strips. Only a folder can be left with such a text, where white space lies next
to the slashes that are removed from it. What is returned is never refused.
-/
open ProxSync.Lib

namespace ProxSync.Settings

/-- A text that is stripped has no white space at an end. -/
def Kind.Solid : Kind → Value → Prop
  | .text _, .str kept => Trimmed isWhiteSpace kept.toList
  | _, _ => True

/-- No white space lies next to the slashes that are removed from a folder. -/
def Normaliser.Settles : Normaliser → String → Prop
  | .absolutePath, written =>
    ¬ Behind isSlash isWhiteSpace (trim isWhiteSpace written.toList).reverse
  | .relativeFolder, written | .remoteFolder, written =>
    ¬ Behind isSlash isWhiteSpace (trim isWhiteSpace written.toList) ∧
      ¬ Behind isSlash isWhiteSpace (trim isWhiteSpace written.toList).reverse
  | _, _ => True

/-- Checking a value settles it. -/
def Kind.Settles : Kind → Value → Prop
  | .text normaliser, .str written => normaliser.Settles written
  | _, _ => True

variable {rules : Rules} {normaliser : Normaliser} {kind : Kind} {value result again : Value}
variable {written text : String} {chars : List Char} {char : Char}

/-- A blank is no slash. -/
theorem isSlash_of_isWhiteSpace (white : isWhiteSpace char = true) : isSlash char = false := by
  unfold isWhiteSpace at white
  exact isSlash_of_isSpace (Bool.and_eq_true_iff.mp white).1

/-- What is no blank in Python is none of the blanks that are stripped. -/
theorem isWhiteSpace_of_isSpace (solid : isSpace char = false) : isWhiteSpace char = false := by
  unfold isWhiteSpace
  rw [solid, Bool.false_and]

/-- Stripping shortens a text. -/
theorem stripped_sublist : (stripped text).toList.Sublist text.toList := by
  unfold stripped
  rw [String.toList_ofList]
  exact trim_sublist

/-- Stripping leaves exactly a trimmed text. -/
theorem stripped_eq_self_iff : stripped text = text ↔ Trimmed isWhiteSpace text.toList := by
  unfold stripped
  rw [String.ext_iff, String.toList_ofList, trim_eq_self_iff]

/-- A stripped text is trimmed. -/
theorem trimmed_stripped : Trimmed isWhiteSpace (stripped text).toList := by
  unfold stripped
  rw [String.toList_ofList]
  exact trimmed_trim

/-- Stripping twice is stripping once. -/
@[simp] theorem stripped_stripped : stripped (stripped text) = stripped text :=
  stripped_eq_self_iff.mpr trimmed_stripped

/-- Trailing elements are removed from a part of the list. -/
theorem trimEnd_initial {test : Char → Bool} : trimEnd test chars <+: chars := by
  unfold trimEnd
  have kept := List.reverse_prefix.mpr (List.dropWhile_suffix test (l := chars.reverse))
  rwa [List.reverse_reverse] at kept

/-- Trimming the end twice is trimming it once. -/
theorem trimEnd_trimEnd {test : Char → Bool} :
    trimEnd test (trimEnd test chars) = trimEnd test chars := by
  unfold trimEnd
  rw [List.reverse_reverse, List.dropWhile_idempotent]

/-- The first element stays, if any element does. -/
theorem head?_trimEnd {test : Char → Bool} (left : trimEnd test chars ≠ []) :
    (trimEnd test chars).head? = chars.head? := by
  obtain ⟨rest, whole⟩ := @trimEnd_initial chars test
  rw [← List.head?_append_of_ne_nil _ left, whole]

/-- What is left of a list lies within it. -/
theorem trim_infix {test : Char → Bool} : trim test chars <:+: chars := by
  obtain ⟨before, after, whole, -, -⟩ := exists_trim test chars
  exact ⟨before, after, whole.symm⟩

/-- A part of a text that does not occur in it does not occur in what is left of it. -/
theorem not_occursIn_trim {part : String} {test : Char → Bool}
    (absent : occursIn part text = false) :
    occursIn part (.ofList (trim test text.toList)) = false := by
  unfold occursIn at absent ⊢
  rw [decide_eq_false_iff_not] at absent ⊢
  rw [String.toList_ofList]
  intro inside
  exact absent (inside.trans trim_infix)

/-- The first element stays where it is not removed. -/
theorem head?_trim {test : Char → Bool} (solid : ∀ first, chars.head? = some first →
    test first = false) : (trim test chars).head? = chars.head? := by
  cases chars with
  | nil => rfl
  | cons first rest =>
    have kept := solid first rfl
    unfold trim
    rw [List.dropWhile_cons_of_neg (by simp [kept]), List.head?_reverse, List.reverse_cons]
    generalize rest.reverse = turned
    induction turned with
    | nil => simp [kept]
    | cons last turned ih =>
      by_cases dropped : test last = true
      · rw [List.cons_append, List.dropWhile_cons_of_pos dropped, ih]
      · rw [List.cons_append, List.dropWhile_cons_of_neg dropped, ← List.cons_append,
          List.getLast?_concat]
        rfl

/-! ## The texts -/

/-- A folder of the host that is accepted begins with a slash, and its trailing slashes go. -/
theorem absolutePath_eq_ok : absolutePath written = .ok text ↔ written.toList.head? = some '/' ∧
    text.toList = if trimEnd isSlash written.toList = [] then ['/']
      else trimEnd isSlash written.toList := by
  unfold absolutePath
  by_cases relative : written.toList.head? ≠ some '/'
  · rw [if_pos relative]
    simp [relative]
  · rw [if_neg relative]
    have slash := not_not.mp relative
    simp only [Except.ok.injEq, slash, true_and]
    by_cases empty : trimEnd isSlash written.toList = []
    · rw [if_pos empty, if_pos empty, String.ext_iff, eq_comm]
      rfl
    · rw [if_neg empty, if_neg empty, String.ext_iff, String.toList_ofList, eq_comm]

/-- A folder that is accepted is not an absolute one and does not lead upwards. -/
theorem relativeFolder_eq_ok : relativeFolder written = .ok text ↔
    written.toList.head? ≠ some '/' ∧ occursIn ".." written = false ∧
      text = .ofList (trim isSlash written.toList) := by
  unfold relativeFolder
  by_cases slash : written.toList.head? = some '/'
  · simp [slash]
  · cases upwards : occursIn ".." written with
    | false => simp [slash, eq_comm]
    | true => simp [slash]

/-- A folder is accepted without its slashes when it does not lead upwards. -/
theorem remoteFolder_eq_ok : remoteFolder written = .ok text ↔
    occursIn ".." written = false ∧ text = .ofList (trim isSlash written.toList) := by
  unfold remoteFolder
  cases upwards : occursIn ".." written with
  | false => simp [eq_comm]
  | true => simp

/-- A remote is accepted without its colons when only allowed characters are left. -/
theorem rcloneRemote_eq_ok {letters : Letters} : rcloneRemote letters written = .ok text ↔
    text.toList = trimEnd isColon written.toList ∧ text.toList ≠ [] ∧
      text.toList.all (fun char => letters.isalnum char || char ∈ ['.', '_', '-']) = true := by
  unfold rcloneRemote
  dsimp only
  by_cases same : text.toList = trimEnd isColon written.toList
  · rw [same]
    by_cases empty : trimEnd isColon written.toList = []
    · simp [empty]
    · cases plain : (trimEnd isColon written.toList).all fun char =>
        letters.isalnum char || char ∈ ['.', '_', '-'] with
      | false => simp [empty]
      | true => simp [empty, String.ext_iff, same]
  · simp only [same, false_and, iff_false]
    split
    · simp
    · intro accepted
      apply same
      rw [← Except.ok.inj accepted, String.toList_ofList]

/-- A chat that is accepted is kept as it is. -/
theorem chatIdShape_eq_ok (accepted : chatIdShape written = .ok text) : text = written := by
  unfold chatIdShape at accepted
  dsimp only at accepted
  generalize (if written.toList.head? = some '-' then written.toList.tail
    else written.toList) = candidate at accepted
  split at accepted
  · exact (Except.ok.inj accepted).symm
  · split at accepted
    · exact (Except.ok.inj accepted).symm
    · cases accepted

/-- A timezone that is accepted is kept as it is. -/
theorem knownTimezone_eq_ok (accepted : knownTimezone rules written = .ok text) :
    text = written := by
  unfold knownTimezone at accepted
  split at accepted
  · exact (Except.ok.inj accepted).symm
  · cases accepted

/-- What is accepted is a part of the text. -/
theorem Normaliser.run_sublist (accepted : normaliser.run rules written = .ok text) :
    text.toList.Sublist written.toList := by
  cases normaliser with
  | plain =>
    obtain rfl := Except.ok.inj accepted
    exact .refl _
  | knownTimezone =>
    rw [knownTimezone_eq_ok accepted]
  | absolutePath =>
    obtain ⟨slash, cleaned⟩ := absolutePath_eq_ok.mp accepted
    rw [cleaned]
    split
    · exact List.singleton_sublist.mpr (List.mem_of_head? slash)
    · exact trimEnd_initial.sublist
  | relativeFolder =>
    obtain ⟨-, -, rfl⟩ := relativeFolder_eq_ok.mp accepted
    rw [String.toList_ofList]
    exact trim_sublist
  | rcloneRemote =>
    rw [(rcloneRemote_eq_ok.mp accepted).1]
    exact trimEnd_initial.sublist
  | remoteFolder =>
    obtain ⟨-, rfl⟩ := remoteFolder_eq_ok.mp accepted
    rw [String.toList_ofList]
    exact trim_sublist
  | chatIdShape =>
    rw [chatIdShape_eq_ok accepted]

/-- What is accepted is accepted as it is, if it is not stripped. -/
theorem Normaliser.run_run (accepted : normaliser.run rules written = .ok text) :
    normaliser.run rules text = .ok text := by
  cases normaliser with
  | plain => rfl
  | knownTimezone =>
    obtain rfl := knownTimezone_eq_ok accepted
    exact accepted
  | absolutePath =>
    obtain ⟨slash, cleaned⟩ := absolutePath_eq_ok.mp accepted
    apply absolutePath_eq_ok.mpr
    rw [cleaned]
    split
    · exact ⟨rfl, by decide⟩
    · rename_i left
      rw [trimEnd_trimEnd, if_neg left, head?_trimEnd left]
      exact ⟨slash, rfl⟩
  | relativeFolder =>
    obtain ⟨slash, inside, rfl⟩ := relativeFolder_eq_ok.mp accepted
    refine relativeFolder_eq_ok.mpr ⟨?_, not_occursIn_trim inside, ?_⟩
    · rw [String.toList_ofList]
      intro first
      have solid := (@trimmed_trim _ isSlash written.toList).front '/' first
      revert solid
      decide
    · rw [String.toList_ofList, trim_of_trimmed trimmed_trim]
  | rcloneRemote =>
    obtain ⟨cleaned, nonempty, plain⟩ := rcloneRemote_eq_ok.mp accepted
    refine rcloneRemote_eq_ok.mpr ⟨?_, nonempty, plain⟩
    rw [cleaned, trimEnd_trimEnd]
  | remoteFolder =>
    obtain ⟨inside, rfl⟩ := remoteFolder_eq_ok.mp accepted
    refine remoteFolder_eq_ok.mpr ⟨not_occursIn_trim inside, ?_⟩
    rw [String.toList_ofList, trim_of_trimmed trimmed_trim]
  | chatIdShape =>
    obtain rfl := chatIdShape_eq_ok accepted
    exact accepted

/-- What is accepted of a stripped text has white space at an end exactly where white space lay next
to what was removed. -/
theorem Normaliser.trimmed_iff (accepted : normaliser.run rules (stripped written) = .ok text) :
    Trimmed isWhiteSpace text.toList ↔ normaliser.Settles written := by
  have white : (stripped written).toList = trim isWhiteSpace written.toList := String.toList_ofList
  cases normaliser with
  | plain =>
    obtain rfl := Except.ok.inj accepted
    exact iff_of_true trimmed_stripped trivial
  | knownTimezone =>
    rw [knownTimezone_eq_ok accepted]
    exact iff_of_true trimmed_stripped trivial
  | absolutePath =>
    obtain ⟨slash, cleaned⟩ := absolutePath_eq_ok.mp accepted
    change _ ↔ ¬ Behind isSlash isWhiteSpace (trim isWhiteSpace written.toList).reverse
    rw [cleaned, behind_iff_dropWhile fun _ => isSlash_of_isWhiteSpace, ← white]
    by_cases none : trimEnd isSlash (stripped written).toList = []
    · have all : (stripped written).toList.reverse.dropWhile isSlash = [] :=
        List.reverse_eq_nil_iff.mp none
      rw [if_pos none, all]
      refine iff_of_true (trimmed_of_all ?_) (by simp)
      simp [isWhiteSpace, isSpace]
    · have last : ∀ item, (trimEnd isSlash (stripped written).toList).getLast? = some item ↔
          ((stripped written).toList.reverse.dropWhile isSlash).head? = some item := by
        intro item
        unfold trimEnd
        rw [List.getLast?_reverse]
      rw [if_neg none]
      constructor
      · rintro trimmed ⟨item, found, blank⟩
        rw [trimmed.back item ((last item).mpr found)] at blank
        cases blank
      · intro apart
        refine ⟨fun item first => ?_, fun item found => ?_⟩
        · rw [head?_trimEnd none, slash] at first
          rw [← Option.some.inj first]
          decide
        · rw [← Bool.not_eq_true]
          exact fun blank => apart ⟨item, (last item).mp found, blank⟩
  | relativeFolder =>
    obtain ⟨-, -, rfl⟩ := relativeFolder_eq_ok.mp accepted
    rw [String.toList_ofList, trimmed_trim_iff fun _ => isSlash_of_isWhiteSpace, white]
    rfl
  | rcloneRemote =>
    have ran : Settings.rcloneRemote rules.letters (stripped written) = .ok text := accepted
    obtain ⟨-, -, plain⟩ := rcloneRemote_eq_ok.mp ran
    refine iff_of_true (trimmed_of_all fun char inside => ?_) trivial
    exact isWhiteSpace_of_isSpace (solid_of_plain (List.all_eq_true.mp plain char inside)).1
  | remoteFolder =>
    obtain ⟨-, rfl⟩ := remoteFolder_eq_ok.mp accepted
    rw [String.toList_ofList, trimmed_trim_iff fun _ => isSlash_of_isWhiteSpace, white]
    rfl
  | chatIdShape =>
    rw [chatIdShape_eq_ok accepted]
    exact iff_of_true trimmed_stripped trivial

/-- What is accepted is not refused when it is stripped and checked again. -/
theorem Normaliser.run_again (accepted : normaliser.run rules (stripped written) = .ok text) :
    ∃ again, normaliser.run rules (stripped text) = .ok again := by
  by_cases trimmed : Trimmed isWhiteSpace text.toList
  · rw [stripped_eq_self_iff.mpr trimmed]
    exact ⟨text, run_run accepted⟩
  have unsettled := mt (trimmed_iff accepted).mpr trimmed
  cases normaliser with
  | plain => exact absurd trivial unsettled
  | knownTimezone => exact absurd trivial unsettled
  | rcloneRemote => exact absurd trivial unsettled
  | chatIdShape => exact absurd trivial unsettled
  | absolutePath =>
    obtain ⟨slash, -⟩ := absolutePath_eq_ok.mp (run_run accepted)
    refine ⟨.ofList _, absolutePath_eq_ok.mpr ⟨?_, String.toList_ofList⟩⟩
    have kept : (trim isWhiteSpace text.toList).head? = text.toList.head? := by
      apply head?_trim
      intro first found
      rw [slash] at found
      rw [← Option.some.inj found]
      decide
    rw [← slash, ← kept, stripped, String.toList_ofList]
  | relativeFolder =>
    obtain ⟨slash, inside, same⟩ := relativeFolder_eq_ok.mp accepted
    obtain ⟨relative, below, -⟩ := relativeFolder_eq_ok.mp (run_run accepted)
    refine ⟨_, relativeFolder_eq_ok.mpr ⟨?_, not_occursIn_trim below, rfl⟩⟩
    have first : text.toList.head? = (stripped written).toList.head? := by
      rw [same, String.toList_ofList]
      apply head?_trim
      intro first found
      cases passes : isSlash first with
      | false => rfl
      | true =>
        obtain rfl : first = '/' := by simpa [isSlash] using passes
        exact absurd found slash
    have kept : (trim isWhiteSpace text.toList).head? = text.toList.head? := by
      apply head?_trim
      rw [first]
      exact trimmed_stripped.front
    rw [stripped, String.toList_ofList, kept]
    exact relative
  | remoteFolder =>
    obtain ⟨inside, -⟩ := remoteFolder_eq_ok.mp (run_run accepted)
    exact ⟨_, remoteFolder_eq_ok.mpr ⟨not_occursIn_trim inside, rfl⟩⟩

/-! ## The kinds -/

/-- A value that is no text to be normalised stays. -/
theorem Kind.check_self (other : ∀ normaliser, kind ≠ .text normaliser)
    (accepted : kind.check rules value = .ok result) : kind.check rules result = .ok result := by
  cases kind with
  | flag =>
    rw [Kind.check] at accepted
    cases read : rules.flag value with
    | error message =>
      rw [read] at accepted
      cases accepted
    | ok flag =>
      rw [read] at accepted
      obtain rfl := Except.ok.inj accepted
      simp [Kind.check, rules.flag_self, Except.map]
  | integer low high =>
    obtain ⟨number, -, within⟩ := bind_eq_ok.mp accepted
    obtain ⟨rfl, again⟩ := bounded_eq_ok within
    exact bind_eq_ok.mpr ⟨number, rules.number_self number, again⟩
  | optionalInteger low high =>
    by_cases missing : value = .none
    · rw [missing] at accepted
      rw [← Except.ok.inj accepted]
      rfl
    · have bound : rules.number value >>= bounded low high = .ok result := by
        cases value with
        | none => exact absurd rfl missing
        | _ => exact accepted
      obtain ⟨number, -, within⟩ := bind_eq_ok.mp bound
      obtain ⟨rfl, again⟩ := bounded_eq_ok within
      exact bind_eq_ok.mpr ⟨number, rules.number_self number, again⟩
  | choice members =>
    cases value with
    | str member =>
      rw [Kind.check] at accepted
      split at accepted
      · rename_i listed
        rw [← Except.ok.inj accepted, Kind.check, if_pos listed]
      · cases accepted
    | _ => cases accepted
  | always =>
    cases value with
    | bool flag =>
      cases flag with
      | true =>
        rw [← Except.ok.inj accepted]
        rfl
      | false => cases accepted
    | _ => cases accepted
  | text normaliser => exact absurd rfl (other normaliser)
  | secret =>
    rcases check_secret_eq_ok.mp accepted with ⟨-, rfl⟩ | ⟨written, -, rfl⟩
    · rfl
    · simp [Kind.check]

/-- Only a text that is normalised is stripped. -/
theorem Kind.solid_of_other (other : ∀ normaliser, kind ≠ .text normaliser) : kind.Solid value := by
  cases kind with
  | text normaliser => exact absurd rfl (other normaliser)
  | _ => exact trivial

/-- What a check returned has no white space that it strips exactly where none lay next to what it
removed. -/
theorem Kind.solid_iff (accepted : kind.check rules value = .ok result) :
    kind.Solid result ↔ kind.Settles value := by
  cases kind with
  | text normaliser =>
    obtain ⟨written, text, rfl, ran, rfl⟩ := check_text_eq_ok.mp accepted
    exact Normaliser.trimmed_iff ran
  | _ => exact Iff.rfl

/-- A check leaves what it returned exactly where that is not stripped. -/
theorem Kind.check_eq_self_iff (accepted : kind.check rules value = .ok result) :
    kind.check rules result = .ok result ↔ kind.Solid result := by
  cases kind with
  | text normaliser =>
    obtain ⟨written, text, rfl, ran, rfl⟩ := check_text_eq_ok.mp accepted
    change _ ↔ Trimmed isWhiteSpace text.toList
    rw [check_text_eq_ok, ← stripped_eq_self_iff]
    constructor
    · rintro ⟨_, other, same, again, rest⟩
      obtain rfl := Value.str.inj same
      obtain rfl := Value.str.inj rest
      exact String.ext (stripped_sublist.antisymm (Normaliser.run_sublist again))
    · intro same
      refine ⟨text, text, rfl, ?_, rfl⟩
      rw [same]
      exact Normaliser.run_run ran
  | _ => exact iff_of_true (check_self (by simp) accepted) trivial

/-- What a check returned is not refused by it. -/
theorem Kind.check_again (accepted : kind.check rules value = .ok result) :
    ∃ again, kind.check rules result = .ok again := by
  cases kind with
  | text normaliser =>
    obtain ⟨written, text, rfl, ran, rfl⟩ := check_text_eq_ok.mp accepted
    obtain ⟨other, again⟩ := Normaliser.run_again ran
    exact ⟨_, check_text_eq_ok.mpr ⟨_, _, rfl, again, rfl⟩⟩
  | _ => exact ⟨result, check_self (by simp) accepted⟩

/-- Where checking twice gives back what was returned, it is not stripped. -/
theorem Kind.solid_of_check_check (accepted : kind.check rules value = .ok result)
    (once : kind.check rules result = .ok again) (twice : kind.check rules again = .ok result) :
    kind.Solid result := by
  cases kind with
  | text normaliser =>
    obtain ⟨_, text, -, -, rfl⟩ := check_text_eq_ok.mp accepted
    obtain ⟨_, shorter, same, ran, rfl⟩ := check_text_eq_ok.mp once
    obtain rfl := Value.str.inj same
    obtain ⟨_, _, same, back, rest⟩ := check_text_eq_ok.mp twice
    obtain rfl := Value.str.inj same
    obtain rfl := Value.str.inj rest
    have down := Normaliser.run_sublist ran
    have up := (Normaliser.run_sublist back).trans (stripped_sublist.trans down)
    exact stripped_eq_self_iff.mp (String.ext (stripped_sublist.antisymm up))
  | _ => exact trivial

/-! ## The defaults -/

/-- A text that is not stripped and that its normaliser leaves is left. -/
theorem Kind.check_text (bare : stripped text = text)
    (ran : normaliser.run rules text = .ok text) :
    (Kind.text normaliser).check rules (.str text) = .ok (.str text) :=
  check_text_eq_ok.mpr ⟨text, text, rfl, by rwa [bare], rfl⟩

/-- The default name of a remote is one in every alphabet. -/
theorem rcloneRemote_default (letters : Letters) :
    rcloneRemote letters "gdrive" = .ok "gdrive" := by
  have ascii : "gdrive".toList.all (fun char =>
      decide (char.toNat < 128) && Agent.isAlphanumeric char) = true := by
    decide +kernel
  refine rcloneRemote_eq_ok.mpr ⟨by decide +kernel, by decide, List.all_eq_true.mpr ?_⟩
  intro char inside
  have known := List.all_eq_true.mp ascii char inside
  rw [Bool.and_eq_true, decide_eq_true_eq] at known
  rw [letters.alnum_ascii char known.1, known.2, Bool.true_or]

/-- Every default passes its own check, which leaves it. -/
theorem check_default {area : SettingsSection} {field : Field}
    (inside : field ∈ (sectionModel area).fields) :
    field.kind.check rules field.default = .ok field.default := by
  have zone : knownTimezone rules "Asia/Jakarta" = .ok "Asia/Jakarta" := by
    rw [knownTimezone, if_pos rules.zone_default]
  have all : ∀ field ∈ (sectionModel area).fields,
      field.kind.check rules field.default = .ok field.default := by
    cases area <;> simp only [sectionModel, generalSettings, gdriveSettings, telegramSettings,
      retentionSettings, agentSettings, proxmoxSettings, List.forall_mem_cons]
    all_goals and_intros
    all_goals first
      | exact Kind.check_flag
      | exact Kind.check_integer (by decide)
      | exact List.forall_mem_nil _
      | exact Kind.check_text (by decide +kernel) zone
      | exact Kind.check_text (by decide +kernel) (rcloneRemote_default rules.letters)
      | exact Kind.check_text (by decide +kernel) rfl
      | rfl
  exact all field inside

end ProxSync.Settings
