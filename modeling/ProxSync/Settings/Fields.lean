import ProxSync.Agent.Validators
import ProxSync.Lib.Numeral
import ProxSync.Lib.Trim
/-!
# The text fields of the settings

Each text of a section is stripped of the white space around it and then checked, and some are
normalised further, by removing the slashes around a folder or the colons after the name of a
remote. What a field is normalised to may have white space at an end again.
-/
open ProxSync.Lib

namespace ProxSync.Settings

/-- The letters and digits that the interpreter's tables list. -/
structure Letters where
  isalnum : Char → Bool
  alnum_ascii : ∀ char, char.toNat < 128 → isalnum char = Agent.isAlphanumeric char
  alnum_solid : ∀ char, isSpace char = true → isalnum char = false

/-- The letters and digits of ASCII alone. -/
def Letters.ascii : Letters where
  isalnum := Agent.isAlphanumeric
  alnum_ascii _ _ := rfl
  alnum_solid char space := by
    unfold isSpace at space
    unfold Agent.isAlphanumeric
    simp only [Bool.or_eq_true, Bool.and_eq_true, decide_eq_true_eq, beq_iff_eq] at space
    simp only [Char.le_def, UInt32.le_iff_toNat_le, Bool.or_eq_false_iff, Bool.and_eq_false_imp,
      decide_eq_true_eq, decide_eq_false_iff_not]
    change ((97 ≤ char.toNat → ¬ char.toNat ≤ 122) ∧ (65 ≤ char.toNat → ¬ char.toNat ≤ 90)) ∧
      (48 ≤ char.toNat → ¬ char.toNat ≤ 57)
    omega

/-- The white space around a text that a section strips; separators of records stay. -/
def isWhiteSpace (char : Char) : Bool :=
  isSpace char && !(28 ≤ char.toNat && char.toNat ≤ 31)

/-- A text as a section takes it. -/
def stripped (value : String) : String := .ofList (trim isWhiteSpace value.toList)

/-- A list without the trailing elements that a test accepts. -/
def trimEnd (test : Char → Bool) (chars : List Char) : List Char :=
  (chars.reverse.dropWhile test).reverse

/-- Whether a character is a slash. -/
def isSlash (char : Char) : Bool := char == '/'

/-- Whether a character is a colon. -/
def isColon (char : Char) : Bool := char == ':'

/-- The path of a folder of the host. -/
def absolutePath (value : String) : Except String String :=
  if value.toList.head? ≠ some '/' then .error "must be an absolute path"
  else
    let cleaned := trimEnd isSlash value.toList
    .ok (if cleaned = [] then "/" else .ofList cleaned)

/-- The name of a folder below another one. -/
def relativeFolder (value : String) : Except String String :=
  if value.toList.head? = some '/' ∨ occursIn ".." value then
    .error "must be a relative folder name without '..'"
  else .ok (.ofList (trim isSlash value.toList))

/-- The name of a remote. -/
def rcloneRemote (letters : Letters) (value : String) : Except String String :=
  let cleaned := trimEnd isColon value.toList
  if cleaned = [] ∨ ¬ cleaned.all (fun char => letters.isalnum char || char ∈ ['.', '_', '-']) then
    .error "remote name may contain only letters, digits, '.', '_' and '-'"
  else .ok (.ofList cleaned)

/-- The folder of a remote. -/
def remoteFolder (value : String) : Except String String :=
  if occursIn ".." value then .error "folder must not contain '..'"
  else .ok (.ofList (trim isSlash value.toList))

/-- The chat that messages are sent to; none, if the text is empty. -/
def chatIdShape (value : String) : Except String String :=
  let candidate := if value.toList.head? = some '-' then value.toList.tail else value.toList
  if value = "" then .ok value
  else if (candidate ≠ [] ∧ candidate.all isDigitChar) ∨ value.toList.head? = some '@' then
    .ok value
  else .error "chat_id must be a numeric id (optionally negative) or an @channel"

end ProxSync.Settings
