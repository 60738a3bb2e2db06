import ProxSync.Lib.Text
/-!
# Names that reach a command

File names, names of remotes and folders on them are checked before they become part of a command.
A value that is refused is answered with the reason, and a remote and a folder that are accepted are
normalised.
-/
open ProxSync.Lib

namespace ProxSync.Agent

/-- Whether a text has a control character. -/
def hasControl (text : String) : Bool :=
  text.toList.any fun char => char.toNat < 0x20 || char.toNat == 0x7f

/-- Why a text is not a flat file name, if it is not. -/
def refuseBasename (name : String) : Option String :=
  let chars := name.toList
  if name ∈ ["", ".", ".."] ∨ blank name then
    some "Filename is empty or refers to a directory entry"
  else if 255 < chars.length then some "Filename exceeds 255 characters"
  else if '/' ∈ chars ∨ '\\' ∈ chars then some "Filename must not contain a path separator"
  else if Char.ofNat 0 ∈ chars then some "Filename must not contain a null byte"
  else if hasControl name then some "Filename must not contain control characters"
  else if chars.head? = some '-' then some "Filename must not start with '-'"
  else none

/-- The letters and digits of ASCII. -/
def isAlphanumeric (char : Char) : Bool :=
  ('a' ≤ char && char ≤ 'z') || ('A' ≤ char && char ≤ 'Z') || ('0' ≤ char && char ≤ '9')

/-- A well-formed name of a remote. -/
def isRemoteName (name : List Char) : Bool :=
  match name with
  | [] => false
  | first :: rest => isAlphanumeric first && rest.length ≤ 63 &&
      rest.all fun char => isAlphanumeric char || char == '.' || char == '_' || char == '-'

/-- The name of a permitted remote; an empty allow-list permits every well-formed name. -/
def validateRemoteName (allowed : List String) (name : String) : Except String String :=
  let cleaned := ((trim isSpace name.toList).reverse.dropWhile (· == ':')).reverse
  if !isRemoteName cleaned then
    .error (s!"'{name}' is not a valid rclone remote name; expected letters, digits, " ++
      "'.', '_' or '-', starting with a letter or digit")
  else if allowed ≠ [] ∧ .ofList cleaned ∉ allowed then
    .error (s!"Remote '{String.ofList cleaned}' is not in the agent's allow-list. " ++
      "Permitted remotes: " ++ String.intercalate ", " (allowed.insertionSort (· ≤ ·)))
  else .ok (.ofList cleaned)

/-- A folder of a remote, without slashes around it. -/
def validateRemotePath (path : String) : Except String String :=
  if 1024 < path.toList.length then .error "Remote path exceeds 1024 characters"
  else if Char.ofNat 0 ∈ path.toList then .error "Remote path must not contain a null byte"
  else if hasControl path then .error "Remote path must not contain control characters"
  else
    let cleaned := trim (· == '/') (trim isSpace path.toList)
    if cleaned = [] then .ok ""
    else if cleaned.head? = some '-' then .error "Remote path must not start with '-'"
    else if ':' ∈ cleaned then
      .error "Remote path must not contain ':'; the remote is named separately"
    else
      match "*?[]\x7b\x7d".toList.find? (· ∈ cleaned) with
      | some glob =>
        .error (s!"Remote path must not contain '{glob}': rclone reads it as a filter " ++
          "pattern, which would change which files a command touches")
      | none =>
        match (cleaned.splitOn '/').find? (· ∈ [[], ['.'], ['.', '.']]) with
        | some segment =>
          .error (s!"Remote path segment '{String.ofList segment}' is not allowed; " ++
            "'..' and empty segments are rejected")
        | none => .ok (.ofList cleaned)

/-- What names an object of a remote in a command. -/
def buildRemoteSpec (remote path filename : String) : String :=
  s!"{remote}:" ++ String.intercalate "/" ([path, filename].filter (· ≠ ""))

end ProxSync.Agent
