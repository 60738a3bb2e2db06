import ProxSync.Agent.Artifacts
import ProxSync.Agent.Task
import ProxSync.Lib.Json
import ProxSync.Lib.OrderedDict
/-!
# What rclone prints of a remote

A listing is a list of objects and a quota is one object. Text that is no JSON, or JSON of another
kind, is answered with the failure of the command. The members of an object are converted one by
one, and a conversion may raise an error that nobody expects: a size that is no number, a number
that is infinite, or hashes that are not under keys.
-/
open ProxSync.Lib

namespace ProxSync.Agent.Rclone

/-- An object of a remote as it is read. -/
structure RemoteEntry where
  name : String
  path : String
  sizeBytes : ℤ
  isDir : Bool
  modifiedAt : Option DateTime
  hashes : OrderedDict String String

/-- The text under a key, unless it is empty. -/
def textUnder (hashes : OrderedDict String String) (key : String) : Option String :=
  (hashes.lookup key).filter (· ≠ "")

/-- The digest of an object, under either spelling of its name. -/
def RemoteEntry.md5 (entry : RemoteEntry) : Option String :=
  (textUnder entry.hashes "md5").or (textUnder entry.hashes "MD5")

/-- The space of a remote, as far as it is known. -/
structure RemoteQuota where
  totalBytes : Option ℤ
  usedBytes : Option ℤ
  freeBytes : Option ℤ
  trashedBytes : Option ℤ
  deriving DecidableEq, Repr

section Parse

-- How values are printed and dates read, and how deep lists and dictionaries may nest.
variable (texts : Texts) (limit : Nat)

/-- A time with an offset, universal time where none is written. -/
def parseTime : Value → Option DateTime
  | .str text =>
    if text = "" then none
    else
      (texts.fromisoformat (.ofList (text.toList.flatMap fun char =>
        if char = 'Z' then "+00:00".toList else [char]))).map fun date =>
          { date with offset := some (date.offset.getD 0) }
  | _ => none

/-- A size, zero where it counts as false. -/
def sizeOf (value : Value) : Except PyError ℤ := if value.truthy then value.toInt else .ok 0

/-- Add a hash that is there. -/
def addHash (hashes : OrderedDict String String) (entry : Value × Value) :
    OrderedDict String String :=
  if entry.2.truthy then OrderedDict.assign hashes (texts.str entry.1) (texts.str entry.2)
  else hashes

/-- The hashes of an object, none where they count as false. -/
def hashesOf (value : Value) : Except PyError (OrderedDict String String) :=
  if value.truthy then
    match value with
    | .dict entries => .ok (entries.foldl (addHash texts) ∅)
    | _ => .error .attributeError
  else .ok ∅

/-- The object of a dictionary. -/
def parseEntry (entries : List (Value × Value)) : Except PyError RemoteEntry := do
  let size ← sizeOf (Value.get entries "Size")
  let hashes ← hashesOf texts (Value.get entries "Hashes")
  .ok {
    name := texts.str ((Value.find entries "Name").getD (.str ""))
    path := texts.str ((Value.find entries "Path").getD (.str ""))
    sizeBytes := size
    isDir := ((Value.find entries "IsDir").getD (.bool false)).truthy
    modifiedAt := parseTime texts (Value.get entries "ModTime")
    hashes := hashes }

/-- The objects of a list; what is no dictionary is left out. -/
def parseEntries : List Value → Except PyError (List RemoteEntry)
  | [] => .ok []
  | .dict entries :: rest => do
    let entry ← parseEntry texts entries
    let others ← parseEntries rest
    .ok (entry :: others)
  | _ :: rest => parseEntries rest

/-- The beginning of a text. -/
def shown (output : String) : String := .ofList (output.toList.take 200)

/-- Read a text that a command printed, or another one if it printed nothing. -/
def readOutput (command empty output : String) : Except Raised Value :=
  match loads limit (if output = "" then empty else output) with
  | .ok value => .ok value
  | .error .valueError =>
    .error (.failure (.executionFailed s!"rclone {command} returned invalid JSON: {shown output}"))
  | .error raised => .error (.error raised)

/-- The objects that a listing prints. -/
def parseLsjson (output : String) : Except Raised (List RemoteEntry) := do
  match ← readOutput limit "lsjson" "[]" output with
  | .list items => raising (parseEntries texts items)
  | _ => .error (.failure (.executionFailed "rclone lsjson did not return a list"))

/-- A number that may be missing; what is no number is missing as well. -/
def optionalInt (value : Value) : Except PyError (Option ℤ) :=
  match value with
  | .none => .ok none
  | value =>
    match value.toInt with
    | .ok number => .ok (some number)
    | .error .typeError | .error .valueError => .ok none
    | .error raised => .error raised

/-- The space of the object of a dictionary. -/
def parseQuota (entries : List (Value × Value)) : Except PyError RemoteQuota := do
  let total ← optionalInt (Value.get entries "total")
  let used ← optionalInt (Value.get entries "used")
  let free ← optionalInt (Value.get entries "free")
  let trashed ← optionalInt (Value.get entries "trashed")
  .ok ⟨total, used, free, trashed⟩

/-- The space that a remote reports. -/
def parseAbout (output : String) : Except Raised RemoteQuota := do
  match ← readOutput limit "about" "\x7b\x7d" output with
  | .dict entries => raising (parseQuota entries)
  | _ => .error (.failure (.executionFailed "rclone about did not return an object"))

end Parse

/-! ## What is converted -/

/-- A parser answers or fails as a command does. -/
def Handled {α : Type} (answer : Except Raised α) : Prop :=
  ∀ raised, answer = .error raised → ∃ detail, raised = .failure (.executionFailed detail)

/-- A value that is taken for a size: one that counts as false, or a number. -/
def sizeReads : Value → Bool
  | .none | .bool _ | .int _ | .float (.finite _) => true
  | .float _ => false
  | .str text => text == "" || (integer text).toBool
  | .list items => items.isEmpty
  | .dict entries => entries.isEmpty

/-- A value that is taken for hashes. -/
def hashesRead : Value → Bool
  | .dict _ => true
  | value => !value.truthy

/-- Whether a value is an infinite number. -/
def infinite : Value → Bool
  | .float (.infinite _) => true
  | _ => false

/-- The text of a listing nests within the limit, and its objects have sizes and hashes. -/
structure LsjsonFits (limit : Nat) (output : String) : Prop where
  shallow : loads limit (if output = "" then "[]" else output) ≠ .error .recursionError
  convertible : ∀ items, loads limit (if output = "" then "[]" else output) = .ok (.list items) →
    ∀ entries, .dict entries ∈ items →
      sizeReads (Value.get entries "Size") = true ∧ hashesRead (Value.get entries "Hashes") = true

/-- The text of a quota nests within the limit, and none of its numbers is infinite. -/
structure AboutFits (limit : Nat) (output : String) : Prop where
  shallow : loads limit (if output = "" then "\x7b\x7d" else output) ≠ .error .recursionError
  bounded : ∀ entries,
    loads limit (if output = "" then "\x7b\x7d" else output) = .ok (.dict entries) →
    ∀ key ∈ ["total", "used", "free", "trashed"], infinite (Value.get entries key) = false

variable {texts : Texts} {limit : Nat} {output command empty : String} {value : Value}
variable {items : List Value} {entries : List (Value × Value)}

/-- A size is read exactly when its value has a shape that is. -/
theorem sizeOf_ok_iff : (∃ size, sizeOf value = .ok size) ↔ sizeReads value = true := by
  unfold sizeOf sizeReads Value.truthy Value.toInt
  cases value with
  | none => simp
  | bool value => cases value <;> simp
  | int value => by_cases zero : value = 0 <;> simp [zero]
  | float value =>
    cases value with
    | nan => simp [PyFloat.truncate]
    | infinite negative => simp [PyFloat.truncate]
    | finite value => by_cases zero : value = 0 <;> simp [zero, PyFloat.truncate]
  | str text =>
    by_cases empty : text = ""
    · simp [empty]
    · cases read : integer text <;> simp [empty, read, Except.toBool]
  | list items => cases items <;> simp
  | dict entries => cases entries <;> simp

/-- Hashes are read exactly when their value has a shape that is. -/
theorem hashesOf_ok_iff : (∃ hashes, hashesOf texts value = .ok hashes) ↔
    hashesRead value = true := by
  unfold hashesOf hashesRead
  cases value with
  | dict entries => by_cases some : (Value.dict entries).truthy = true <;> simp [some]
  | none => simp [Value.truthy]
  | bool value => cases value <;> simp [Value.truthy]
  | int value => by_cases zero : value = 0 <;> simp [zero, Value.truthy]
  | float value => by_cases some : (Value.float value).truthy = true <;> simp [some]
  | str text => by_cases empty : text = "" <;> simp [empty, Value.truthy]
  | list items => cases items <;> simp [Value.truthy]

/-- An entry is read exactly when its size and its hashes are. -/
theorem parseEntry_ok_iff : (∃ entry, parseEntry texts entries = .ok entry) ↔
    sizeReads (Value.get entries "Size") = true ∧
      hashesRead (Value.get entries "Hashes") = true := by
  rw [← sizeOf_ok_iff, ← @hashesOf_ok_iff texts]
  simp only [parseEntry, bind_eq_ok]
  constructor
  · rintro ⟨_, size, sized, hashes, hashed, -⟩
    exact ⟨⟨size, sized⟩, hashes, hashed⟩
  · rintro ⟨⟨size, sized⟩, hashes, hashed⟩
    exact ⟨_, size, sized, hashes, hashed, rfl⟩

/-- A list is read exactly when each of its objects is converted. -/
theorem parseEntries_ok_iff : (∃ found, parseEntries texts items = .ok found) ↔
    ∀ entries, .dict entries ∈ items →
      sizeReads (Value.get entries "Size") = true ∧
        hashesRead (Value.get entries "Hashes") = true := by
  induction items with
  | nil => exact iff_of_true ⟨[], rfl⟩ fun _ inside => absurd inside List.not_mem_nil
  | cons item rest ih =>
    cases item with
    | dict entries =>
      simp only [List.mem_cons, Value.dict.injEq, forall_eq_or_imp]
      rw [← ih, ← @parseEntry_ok_iff texts]
      simp only [parseEntries, bind_eq_ok]
      constructor
      · rintro ⟨_, entry, read, others, later, -⟩
        exact ⟨⟨entry, read⟩, others, later⟩
      · rintro ⟨⟨entry, read⟩, others, later⟩
        exact ⟨_, entry, read, others, later, rfl⟩
    | _ => simpa [parseEntries] using ih

/-- A number is missing or is read unless it is infinite. -/
theorem optionalInt_ok_iff : (∃ number, optionalInt value = .ok number) ↔
    infinite value = false := by
  unfold optionalInt infinite Value.toInt
  cases value with
  | float value => cases value <;> simp [PyFloat.truncate]
  | str text => cases read : integer text <;> simp [read]
  | _ => simp

/-- Text that is read is what its value is. -/
theorem readOutput_eq_ok : readOutput limit command empty output = .ok value ↔
    loads limit (if output = "" then empty else output) = .ok value := by
  unfold readOutput
  split
  · rename_i found
    rw [found, Except.ok.injEq, Except.ok.injEq]
  · rename_i failed
    simp [failed]
  · rename_i failed
    simp [failed]

/-- Text that is not read fails as a command does, unless it nests too deep. -/
theorem handled_readOutput : Handled (readOutput limit command empty output) ↔
    loads limit (if output = "" then empty else output) ≠ .error .recursionError := by
  unfold readOutput Handled
  cases read : loads limit (if output = "" then empty else output) with
  | ok value => simp
  | error raised =>
    rcases loads_error read with rfl | rfl
    · simp
    · simp

/-- What follows a handled computation decides. -/
theorem handled_bind {α β : Type} {first : Except Raised α} {next : α → Except Raised β} :
    Handled (first >>= next) ↔
      Handled first ∧ ∀ value, first = .ok value → Handled (next value) := by
  unfold Handled
  cases first with
  | error raised => simp [bind, Except.bind]
  | ok value => simp [bind, Except.bind]

/-- What does not raise is handled exactly when it answers. -/
theorem handled_raising {α : Type} {answer : Except PyError α} :
    Handled (raising answer) ↔ ∃ value, answer = .ok value := by
  unfold Handled
  cases answer <;> simp [raising]

/-- A listing is read, or fails as a command does, exactly when its text fits. -/
theorem handled_parseLsjson :
    Handled (parseLsjson texts limit output) ↔ LsjsonFits limit output := by
  unfold parseLsjson
  rw [handled_bind, handled_readOutput]
  simp only [readOutput_eq_ok]
  constructor
  · rintro ⟨shallow, converted⟩
    refine ⟨shallow, fun items read => ?_⟩
    have handled := converted (.list items) read
    exact parseEntries_ok_iff.mp (handled_raising.mp handled)
  · intro fits
    refine ⟨fits.shallow, fun value read => ?_⟩
    cases value with
    | list items =>
      exact handled_raising.mpr (parseEntries_ok_iff.mpr (fits.convertible items read))
    | _ =>
      intro raised failed
      exact ⟨_, (Except.error.inj failed).symm⟩

/-- A quota is read, or fails as a command does, exactly when its text fits. -/
theorem handled_parseAbout : Handled (parseAbout limit output) ↔ AboutFits limit output := by
  have quota : ∀ entries, (∃ quota, parseQuota entries = .ok quota) ↔
      ∀ key ∈ ["total", "used", "free", "trashed"], infinite (Value.get entries key) = false := by
    intro entries
    simp only [List.forall_mem_cons, List.not_mem_nil, false_implies, implies_true, and_true,
      ← optionalInt_ok_iff, parseQuota, bind_eq_ok]
    constructor
    · rintro ⟨_, total, here, used, there, free, left, trashed, binned, -⟩
      exact ⟨⟨total, here⟩, ⟨used, there⟩, ⟨free, left⟩, trashed, binned⟩
    · rintro ⟨⟨total, here⟩, ⟨used, there⟩, ⟨free, left⟩, trashed, binned⟩
      exact ⟨_, total, here, used, there, free, left, trashed, binned, rfl⟩
  unfold parseAbout
  rw [handled_bind, handled_readOutput]
  simp only [readOutput_eq_ok]
  constructor
  · rintro ⟨shallow, converted⟩
    refine ⟨shallow, fun entries read => ?_⟩
    have handled := converted (.dict entries) read
    exact (quota entries).mp (handled_raising.mp handled)
  · intro fits
    refine ⟨fits.shallow, fun value read => ?_⟩
    cases value with
    | dict entries => exact handled_raising.mpr ((quota entries).mpr (fits.bounded entries read))
    | _ =>
      intro raised failed
      exact ⟨_, (Except.error.inj failed).symm⟩

/-! ## Objects that rclone describes -/

/-- An object as rclone describes it. -/
structure RemoteObject where
  name : String
  size : ℤ
  isDir : Bool
  hashes : List (String × String)
  /-- No hash is given twice. -/
  distinct : (hashes.map Prod.fst).Nodup

/-- The digest of an object, under either spelling of its name. -/
def RemoteObject.md5 (object : RemoteObject) : Option String :=
  ((object.hashes.lookup "md5").filter (· ≠ "")).or
    ((object.hashes.lookup "MD5").filter (· ≠ ""))

/-- The members of a dictionary that describe an object. -/
structure Describes (object : RemoteObject) (entries : List (Value × Value)) : Prop where
  name : Value.find entries "Name" = some (.str object.name)
  size : Value.find entries "Size" = some (.int object.size)
  isDir : Value.find entries "IsDir" = some (.bool object.isDir)
  hashes : Value.find entries "Hashes" = none ∧ object.hashes = [] ∨
    Value.find entries "Hashes" =
      some (.dict (object.hashes.map fun hash => (.str hash.1, .str hash.2)))

/-- An entry has what its object was described with. -/
structure Agrees (object : RemoteObject) (entry : RemoteEntry) : Prop where
  name : entry.name = object.name
  size : entry.sizeBytes = object.size
  isDir : entry.isDir = object.isDir
  md5 : entry.md5 = object.md5

variable {object : RemoteObject}

/-- A hash that is added is found under its name unless it is empty. -/
theorem textUnder_addHash {hashes : OrderedDict String String} {key name text : String} :
    textUnder (addHash texts hashes (.str name, .str text)) key =
      if key = name ∧ text ≠ "" then some text else textUnder hashes key := by
  unfold addHash textUnder
  by_cases empty : text = ""
  · simp [empty, Value.truthy]
  · by_cases same : key = name
    · subst same
      have found : (OrderedDict.assign hashes key text).lookup key = some text :=
        OrderedDict.lookup_assign
      simp [empty, Value.truthy, texts.str_text, found, Option.filter]
    · simp [empty, same, Value.truthy, texts.str_text, OrderedDict.lookup_assign_ne same]

/-- The hashes of an object are found under their names. -/
theorem textUnder_foldl {pairs : List (String × String)} {hashes : OrderedDict String String}
    {key : String} (distinct : (pairs.map Prod.fst).Nodup) :
    textUnder ((pairs.map fun hash => (Value.str hash.1, Value.str hash.2)).foldl (addHash texts)
        hashes) key =
      ((pairs.lookup key).filter (· ≠ "")).or (textUnder hashes key) := by
  induction pairs generalizing hashes with
  | nil => rfl
  | cons pair rest ih =>
    obtain ⟨name, text⟩ := pair
    rw [List.map_cons, List.nodup_cons] at distinct
    rw [List.map_cons, List.foldl_cons, ih distinct.2, textUnder_addHash]
    by_cases same : key = name
    · subst same
      have missing : rest.lookup key = none := by
        rw [List.lookup_eq_none_iff]
        intro other inside
        have differ : key ≠ other.1 := by
          intro same
          exact distinct.1 (List.mem_map.mpr ⟨other, inside, same.symm⟩)
        simpa using differ
      by_cases empty : text = "" <;> simp [missing, empty, Option.filter]
    · have skipped : ((name, text) :: rest).lookup key = rest.lookup key := by
        rw [List.lookup_cons, beq_false_of_ne same]
      simp [same, skipped]

/-- An object is read as it is described. -/
theorem parseEntry_of_describes (describes : Describes object entries) :
    ∃ entry, parseEntry texts entries = .ok entry ∧ Agrees object entry := by
  have sized : sizeOf (Value.get entries "Size") = .ok object.size := by
    unfold Value.get sizeOf
    rw [describes.size, Option.getD_some]
    by_cases zero : object.size = 0 <;> simp [zero, Value.truthy, Value.toInt]
  have hashed : ∃ hashes, hashesOf texts (Value.get entries "Hashes") = .ok hashes ∧
      ∀ key, textUnder hashes key = (object.hashes.lookup key).filter (· ≠ "") := by
    unfold Value.get
    rcases describes.hashes with ⟨missing, empty⟩ | found
    · rw [missing, empty]
      exact ⟨∅, rfl, fun _ => rfl⟩
    · rw [found, Option.getD_some]
      refine ⟨(object.hashes.map fun hash => (Value.str hash.1, Value.str hash.2)).foldl
        (addHash texts) ∅, ?_, fun key => ?_⟩
      · unfold hashesOf
        cases some : object.hashes <;> simp [Value.truthy]
      · rw [textUnder_foldl object.distinct]
        exact Option.or_none
  obtain ⟨hashes, hashed, under⟩ := hashed
  refine ⟨_, bind_eq_ok.mpr ⟨_, sized, bind_eq_ok.mpr ⟨_, hashed, rfl⟩⟩, ?_⟩
  constructor
  · simp [describes.name, texts.str_text]
  · rfl
  · simp [describes.isDir, Value.truthy]
  · simp only [RemoteEntry.md5, RemoteObject.md5, under]

/-- A list of described objects is read as one entry for each, in order. -/
theorem parseEntries_of_describes {objects : List RemoteObject}
    {dicts : List (List (Value × Value))} (described : List.Forall₂ Describes objects dicts) :
    ∃ found, parseEntries texts (dicts.map .dict) = .ok found ∧
      List.Forall₂ Agrees objects found := by
  induction described with
  | nil => exact ⟨[], rfl, .nil⟩
  | cons here _ ih =>
    obtain ⟨entry, read, agrees⟩ := parseEntry_of_describes here
    obtain ⟨others, later, rest⟩ := ih
    exact ⟨entry :: others, bind_eq_ok.mpr ⟨entry, read, bind_eq_ok.mpr ⟨others, later, rfl⟩⟩,
      .cons agrees rest⟩

/-- A listing of described objects is read as one entry for each, in order. -/
def ListsObjects (texts : Texts) (limit : Nat) (output : String) : Prop :=
  ∀ objects dicts, List.Forall₂ Describes objects dicts →
    loads limit (if output = "" then "[]" else output) = .ok (.list (dicts.map .dict)) →
    ∃ found, parseLsjson texts limit output = .ok found ∧ List.Forall₂ Agrees objects found

/-- The parsers answer, or fail as a command does, exactly when what was printed fits, and described
objects are read as they are. -/
theorem parses_iff (texts : Texts) (limit : Nat) (output : String) :
    (Handled (parseLsjson texts limit output) ↔ LsjsonFits limit output) ∧
      (Handled (parseAbout limit output) ↔ AboutFits limit output) ∧
      ListsObjects texts limit output := by
  refine ⟨handled_parseLsjson, handled_parseAbout, fun objects dicts described read => ?_⟩
  obtain ⟨found, answered, agree⟩ := @parseEntries_of_describes texts _ _ described
  refine ⟨found, ?_, agree⟩
  apply bind_eq_ok.mpr
  refine ⟨_, readOutput_eq_ok.mpr read, ?_⟩
  exact raising_eq_ok.mpr answered

/-- Whether an error is raised that is no failure. -/
def escapes {α : Type} : Except Raised α → Bool
  | .error (.error _) => true
  | _ => false

/-- What escapes is not handled. -/
theorem not_handled_of_escapes {α : Type} {answer : Except Raised α}
    (raised : escapes answer = true) : ¬ Handled answer := by
  intro handled
  unfold escapes at raised
  split at raised
  · obtain ⟨detail, failure⟩ := handled _ rfl
    cases failure
  · cases raised

/-- A size and a quota beyond the largest number, and hashes that are a number, are not expected. -/
theorem not_handled :
    ¬ Handled (parseLsjson dottedTexts 100 "[\x7b\"Name\": \"a\", \"Size\": 1e400\x7d]") ∧
      ¬ Handled (parseLsjson dottedTexts 100 "[\x7b\"Name\": \"a\", \"Hashes\": 1\x7d]") ∧
      ¬ Handled (parseAbout 100 "\x7b\"total\": Infinity\x7d") := by
  refine ⟨?_, ?_, ?_⟩
  · exact not_handled_of_escapes (by decide +kernel)
  · exact not_handled_of_escapes (by decide +kernel)
  · exact not_handled_of_escapes (by decide +kernel)

end ProxSync.Agent.Rclone
