import ProxSync.Settings.Fields
/-!
# Remotes of the dashboard and of the agent

The dashboard checks the name of a remote and a folder on it when they are saved, and the agent
checks them again before they reach a command. The agent is stricter, and it strips blanks before it
strips slashes, as the dashboard does, so that a folder with a blank next to its outer slashes is
not settled by one pass of either.
-/
open ProxSync.Lib

namespace ProxSync.Settings

/-- The name of a remote as it is saved. -/
def savedRemote (letters : Letters) (name : String) : Except String String :=
  rcloneRemote letters (stripped name)

/-- The folder of a remote as it is saved. -/
def savedFolder (folder : String) : Except String String := remoteFolder (stripped folder)

/-- The agent accepts the name that is saved. -/
def NameAgrees (letters : Letters) (allowed : List String) (name : String) : Prop :=
  ∀ stored, savedRemote letters name = .ok stored →
    ∃ accepted, Agent.validateRemoteName allowed stored = .ok accepted

/-- The agent accepts the folder that is saved, and does not change it. -/
def FolderAgrees (folder : String) : Prop :=
  ∀ stored, savedFolder folder = .ok stored → Agent.validateRemotePath stored = .ok stored

/-- A path without blanks or slashes at its ends and without segments that lead upwards. -/
structure Normalised (path : String) : Prop where
  solid : Trimmed isSpace path.toList
  relative : Trimmed isSlash path.toList
  inside : ['.', '.'] ∉ path.toList.splitOn '/'

/-- What the agent makes of a path is normalised and stays as it is. -/
def PathSettles (path : String) : Prop :=
  ∀ result, Agent.validateRemotePath path = .ok result →
    Normalised result ∧ Agent.validateRemotePath result = .ok result

/-- The slashes around a text lie outside the blanks around it, from neither end. -/
def Unmixed (chars : List Char) : Prop :=
  ¬ Behind isSlash isSpace chars ∧ ¬ Behind isSlash isSpace chars.reverse

/-- What the agent asks of the name of a remote that the dashboard accepts. -/
structure NameFits (allowed : List String) (name : List Char) : Prop where
  begun : ∀ char, name.head? = some char → char ∉ ['.', '_', '-']
  short : name.length ≤ 64
  ascii : ∀ char ∈ name, char.toNat < 128
  permitted : allowed = [] ∨ .ofList name ∈ allowed

/-- What the agent checks in a folder between its outer slashes. -/
structure Clean (folder : List Char) : Prop where
  notFlag : folder.head? ≠ some '-'
  unnamed : ':' ∉ folder
  literal : ∀ glob ∈ "*?[]\x7b\x7d".toList, glob ∉ folder
  segments : ∀ segment ∈ folder.splitOn '/', segment ∉ [[], ['.'], ['.', '.']]

/-- What the agent asks of a folder that the dashboard accepts. -/
structure FolderFits (folder : List Char) : Prop where
  short : (trim isSlash folder).length ≤ 1024
  printable : Agent.hasControl (.ofList (trim isSlash folder)) = false
  clean : trim isSlash folder = [] ∨ Clean (trim isSlash folder)
  unmixed : Unmixed folder

variable {letters : Letters} {allowed : List String} {name folder path result : String}
variable {chars : List Char} {char : Char}

/-- A blank is no slash. -/
theorem isSlash_of_isSpace (space : isSpace char = true) : isSlash char = false := by
  cases slash : isSlash char with
  | false => rfl
  | true =>
    obtain rfl : char = '/' := by simpa [isSlash] using slash
    cases space

/-- Trimming slashes leaves no blank at an end where slashes and blanks are not mixed. -/
theorem unmixed_iff : Trimmed isSpace (trim isSlash chars) ↔ Unmixed chars :=
  trimmed_trim_iff fun _ => isSlash_of_isSpace

/-! ## What the agent accepts -/

/-- A folder that is checked is kept when it is clean. -/
theorem clean_iff : Clean chars ↔ chars.head? ≠ some '-' ∧ ':' ∉ chars ∧
    "*?[]\x7b\x7d".toList.find? (· ∈ chars) = none ∧
    (chars.splitOn '/').find? (· ∈ [[], ['.'], ['.', '.']]) = none := by
  simp only [List.find?_eq_none, decide_eq_true_eq]
  constructor
  · intro clean
    exact ⟨clean.notFlag, clean.unnamed, clean.literal, clean.segments⟩
  · rintro ⟨notFlag, unnamed, literal, segments⟩
    exact ⟨notFlag, unnamed, literal, segments⟩

/-- What the agent accepts, and what it makes of it. -/
theorem validateRemotePath_ok_iff :
    Agent.validateRemotePath path = .ok result ↔
      path.toList.length ≤ 1024 ∧ Agent.hasControl path = false ∧
        (trim isSlash (trim isSpace path.toList) = [] ∨
          Clean (trim isSlash (trim isSpace path.toList))) ∧
        result = .ofList (trim isSlash (trim isSpace path.toList)) := by
  have slashes : (fun char => char == '/') = isSlash := rfl
  unfold Agent.validateRemotePath
  dsimp only
  rw [slashes, clean_iff]
  generalize trim isSlash (trim isSpace path.toList) = cleaned
  by_cases long : 1024 < path.toList.length
  · simp [long]
  have short : path.toList.length ≤ 1024 := not_lt.mp long
  by_cases null : Char.ofNat 0 ∈ path.toList
  · have control : Agent.hasControl path = true := List.any_eq_true.mpr ⟨_, null, by decide⟩
    simp only [long, null, control, if_true, if_false, reduceCtorEq, Bool.true_eq_false, false_and,
      and_false]
  rw [if_neg long, if_neg null]
  cases control : Agent.hasControl path with
  | true => simp only [if_true, reduceCtorEq, Bool.true_eq_false, false_and, and_false]
  | false =>
    generalize "*?[]\x7b\x7d".toList.find? (· ∈ cleaned) = glob
    generalize (cleaned.splitOn '/').find? (· ∈ [[], ['.'], ['.', '.']]) = segment
    by_cases empty : cleaned = []
    · simp [short, empty, eq_comm]
    by_cases flag : cleaned.head? = some '-'
    · simp [empty, flag]
    by_cases colon : ':' ∈ cleaned
    · simp [empty, flag, colon]
    cases glob with
    | some glob => simp [empty, flag, colon]
    | none =>
      cases segment with
      | some segment => simp [empty, flag, colon]
      | none => simp [short, empty, flag, colon, eq_comm]

/-- The name of a remote that the agent accepts. -/
theorem validateRemoteName_ok_iff :
    (∃ accepted, Agent.validateRemoteName allowed name = .ok accepted) ↔
      Agent.isRemoteName (trimEnd isColon (trim isSpace name.toList)) = true ∧
        (allowed = [] ∨ .ofList (trimEnd isColon (trim isSpace name.toList)) ∈ allowed) := by
  have colons : (fun char => char == ':') = isColon := rfl
  unfold Agent.validateRemoteName trimEnd
  dsimp only
  rw [colons]
  generalize ((trim isSpace name.toList).reverse.dropWhile isColon).reverse = cleaned
  cases formed : Agent.isRemoteName cleaned with
  | false => simp
  | true =>
    by_cases refused : allowed ≠ [] ∧ .ofList cleaned ∉ allowed
    · simp only [refused, Bool.not_true, Bool.false_eq_true, if_true, if_false, ne_eq, and_self,
        not_false_eq_true, reduceCtorEq, exists_false, false_or, and_false]
    · have permitted : allowed = [] ∨ .ofList cleaned ∈ allowed := by
        by_cases none : allowed = []
        · exact .inl none
        · exact .inr (not_not.mp fun missing => refused ⟨none, missing⟩)
      simp only [refused, permitted, Bool.not_true, Bool.false_eq_true, if_false, Except.ok.injEq,
        exists_eq', and_self]

/-! ## Where the two agree -/

/-- A code point of the name of a remote that the dashboard accepts is no blank and no colon. -/
theorem solid_of_plain (plain : (letters.isalnum char || char ∈ ['.', '_', '-']) = true) :
    isSpace char = false ∧ isColon char = false := by
  simp only [Bool.or_eq_true, decide_eq_true_eq] at plain
  constructor
  · cases space : isSpace char with
    | false => rfl
    | true =>
      rcases plain with alnum | mark
      · rw [letters.alnum_solid char space] at alnum
        cases alnum
      · have solid : ∀ mark ∈ ['.', '_', '-'], isSpace mark = false := by simp [isSpace]
        exact space.symm.trans (solid char mark)
  · cases colon : isColon char with
    | false => rfl
    | true =>
      obtain rfl : char = ':' := by simpa [isColon] using colon
      rcases plain with alnum | mark
      · rw [letters.alnum_ascii ':' (by decide)] at alnum
        exact absurd alnum (by decide)
      · exact absurd mark (by decide)

/-- The letters and digits that the agent accepts are those of ASCII. -/
theorem ascii_of_isAlphanumeric (alnum : Agent.isAlphanumeric char = true) : char.toNat < 128 := by
  unfold Agent.isAlphanumeric at alnum
  simp only [Char.le_def, UInt32.le_iff_toNat_le, Bool.or_eq_true, Bool.and_eq_true,
    decide_eq_true_eq] at alnum
  change ((97 ≤ char.toNat ∧ char.toNat ≤ 122) ∨ (65 ≤ char.toNat ∧ char.toNat ≤ 90)) ∨
    (48 ≤ char.toNat ∧ char.toNat ≤ 57) at alnum
  omega

/-- A name that the dashboard accepts is one for the agent exactly when it is short, of ASCII, and
begins with a letter or a digit. -/
theorem isRemoteName_iff (nonempty : chars ≠ [])
    (plain : ∀ char ∈ chars, (letters.isalnum char || char ∈ ['.', '_', '-']) = true) :
    Agent.isRemoteName chars = true ↔
      (∀ char, chars.head? = some char → char ∉ ['.', '_', '-']) ∧ chars.length ≤ 64 ∧
        ∀ char ∈ chars, char.toNat < 128 := by
  have letter : ∀ char ∈ chars, char.toNat < 128 → char ∉ ['.', '_', '-'] →
      Agent.isAlphanumeric char = true := by
    intro char inside ascii unmarked
    have known := plain char inside
    simp only [unmarked, decide_false, Bool.or_false] at known
    rwa [letters.alnum_ascii char ascii] at known
  have marks : ∀ mark ∈ ['.', '_', '-'], mark.toNat < 128 := by simp
  have unmarked : ∀ char, Agent.isAlphanumeric char = true → char ∉ ['.', '_', '-'] := by
    intro char alnum mark
    have others : ∀ mark ∈ ['.', '_', '-'], Agent.isAlphanumeric mark = false := by
      simp [Agent.isAlphanumeric]
    rw [others char mark] at alnum
    cases alnum
  cases chars with
  | nil => exact absurd rfl nonempty
  | cons first rest =>
    simp only [Agent.isRemoteName, Bool.and_eq_true, decide_eq_true_eq, List.all_eq_true,
      List.head?_cons, Option.some.injEq, forall_eq', List.length_cons, List.forall_mem_cons]
    constructor
    · rintro ⟨⟨alnum, short⟩, formed⟩
      refine ⟨unmarked first alnum, Nat.succ_le_succ short, ascii_of_isAlphanumeric alnum, ?_⟩
      intro char inside
      have known := formed char inside
      simp only [Bool.or_eq_true, beq_iff_eq] at known
      rcases known with ((alnum | dot) | low) | dash
      · exact ascii_of_isAlphanumeric alnum
      all_goals exact marks char (by simp [*])
    · rintro ⟨begun, short, first_ascii, ascii⟩
      refine ⟨⟨letter first List.mem_cons_self first_ascii begun, Nat.le_of_succ_le_succ short⟩, ?_⟩
      intro char inside
      by_cases mark : char ∈ ['.', '_', '-']
      · simp only [List.mem_cons, List.not_mem_nil, or_false] at mark
        rcases mark with rfl | rfl | rfl <;> simp
      · have alnum := letter char (List.mem_cons_of_mem _ inside) (ascii char inside) mark
        simp [alnum]

/-- The agent keeps the folder that is saved exactly when it fits. -/
theorem folderAgrees_iff : FolderAgrees folder ↔
    ((∃ stored, savedFolder folder = .ok stored) →
      FolderFits (trim isWhiteSpace folder.toList)) := by
  unfold FolderAgrees savedFolder remoteFolder stripped
  rw [String.toList_ofList]
  by_cases upwards : occursIn ".." (.ofList (trim isWhiteSpace folder.toList)) = true
  · simp [upwards]
  · simp only [upwards, if_false, Except.ok.injEq, forall_eq', exists_eq', true_implies,
      Bool.false_eq_true]
    rw [validateRemotePath_ok_iff, String.toList_ofList, String.ofList_inj]
    constructor
    · rintro ⟨short, printable, clean, same⟩
      rw [← same] at clean
      exact ⟨short, printable, clean, unmixed_iff.mp (trimmed_of_trim_trim same.symm)⟩
    · intro fits
      have solid := unmixed_iff.mpr fits.unmixed
      rw [trim_of_trimmed solid, trim_of_trimmed trimmed_trim]
      exact ⟨fits.short, fits.printable, fits.clean, rfl⟩

/-- What the agent makes of a path is settled exactly when slashes and blanks around it are not
mixed. -/
theorem pathSettles_iff : PathSettles path ↔
    ((∃ result, Agent.validateRemotePath path = .ok result) →
      Unmixed (trim isSpace path.toList)) := by
  constructor
  · rintro settles ⟨result, accepted⟩
    have solid := (settles result accepted).1.solid
    obtain ⟨-, -, -, rfl⟩ := validateRemotePath_ok_iff.mp accepted
    rw [String.toList_ofList] at solid
    exact unmixed_iff.mp solid
  · intro unmixed result accepted
    have solid := unmixed_iff.mpr (unmixed ⟨result, accepted⟩)
    obtain ⟨short, printable, clean, rfl⟩ := validateRemotePath_ok_iff.mp accepted
    have upwards : ['.', '.'] ∉
        (trim isSlash (trim isSpace path.toList)).splitOn '/' := by
      intro inside
      rcases clean with empty | clean
      · rw [empty] at inside
        revert inside
        decide
      · exact clean.segments _ inside (by decide)
    have kept : Agent.hasControl (.ofList (trim isSlash (trim isSpace path.toList))) = false := by
      unfold Agent.hasControl at printable ⊢
      rw [List.any_eq_false] at printable ⊢
      intro char inside
      rw [String.toList_ofList] at inside
      exact printable char (mem_of_mem_trim (mem_of_mem_trim inside))
    refine ⟨⟨by rwa [String.toList_ofList], ?_, by rwa [String.toList_ofList]⟩, ?_⟩
    · rw [String.toList_ofList]
      exact trimmed_trim
    · rw [validateRemotePath_ok_iff, String.toList_ofList, trim_of_trimmed solid,
        trim_of_trimmed trimmed_trim]
      exact ⟨(trim_sublist.trans trim_sublist).length_le.trans short, kept, clean, rfl⟩

/-- The agent accepts the name that is saved exactly when it fits. -/
theorem nameAgrees_iff : NameAgrees letters allowed name ↔
    ((∃ stored, savedRemote letters name = .ok stored) →
      NameFits allowed (trimEnd isColon (trim isWhiteSpace name.toList))) := by
  unfold NameAgrees savedRemote rcloneRemote stripped
  rw [String.toList_ofList]
  generalize trimEnd isColon (trim isWhiteSpace name.toList) = cleaned
  dsimp only
  split
  · simp
  · rename_i accepted
    obtain ⟨nonempty, plain⟩ := not_or.mp accepted
    have plain := List.all_eq_true.mp (not_not.mp plain)
    have blanks : Trimmed isSpace cleaned :=
      trimmed_of_all fun char inside => (solid_of_plain (plain char inside)).1
    have colons : Trimmed isColon cleaned :=
      trimmed_of_all fun char inside => (solid_of_plain (plain char inside)).2
    have kept : trimEnd isColon cleaned = cleaned := by
      unfold trimEnd
      rw [dropWhile_of_front colons.reverse.front, List.reverse_reverse]
    simp only [Except.ok.injEq, forall_eq', exists_eq', true_implies]
    rw [validateRemoteName_ok_iff, String.toList_ofList, trim_of_trimmed blanks, kept,
      isRemoteName_iff nonempty plain]
    constructor
    · rintro ⟨⟨begun, short, ascii⟩, permitted⟩
      exact ⟨begun, short, ascii, permitted⟩
    · intro fits
      exact ⟨⟨fits.begun, fits.short, fits.ascii⟩, fits.permitted⟩

/-- What is saved agrees with the agent, and its paths are settled, exactly where names and folders
fit and no blank lies behind the outer slashes of a path. -/
theorem remotes_agree_iff (letters : Letters) (allowed : List String) (name folder path : String) :
    NameAgrees letters allowed name ∧ FolderAgrees folder ∧ PathSettles path ↔
      ((∃ stored, savedRemote letters name = .ok stored) →
        NameFits allowed (trimEnd isColon (trim isWhiteSpace name.toList))) ∧
      ((∃ stored, savedFolder folder = .ok stored) →
        FolderFits (trim isWhiteSpace folder.toList)) ∧
      ((∃ result, Agent.validateRemotePath path = .ok result) →
        Unmixed (trim isSpace path.toList)) := by
  rw [nameAgrees_iff, folderAgrees_iff, pathSettles_iff]

/-- The dashboard saves a name with a leading dash and a folder with an empty segment, which the
agent refuses, and a blank that slashes hid stays in a path. -/
theorem not_agrees : ¬ NameAgrees .ascii [] "-gdrive" ∧ ¬ FolderAgrees "backups//dump" ∧
    ¬ PathSettles "/ dump" := by
  refine ⟨?_, ?_, ?_⟩
  · intro agrees
    obtain ⟨accepted, answer⟩ := agrees "-gdrive" (by decide +kernel)
    have refused : (Agent.validateRemoteName [] "-gdrive").toBool = false := by decide +kernel
    rw [answer] at refused
    cases refused
  · intro agrees
    have answer := agrees "backups//dump" (by decide +kernel)
    have refused : (Agent.validateRemotePath "backups//dump").toBool = false := by decide +kernel
    rw [answer] at refused
    cases refused
  · intro settles
    have solid := (settles " dump" (by decide +kernel)).1.solid.front ' ' (by decide +kernel)
    revert solid
    decide

end ProxSync.Settings
