import ProxSync.Lib.Format
import ProxSync.Outbox.Notifications
/-!
# The texts of notifications

Each event has a template that puts the variables of the event into a text with a bold headline.
What a variable holds is escaped or is a number, so the tags of a text are those of its template,
and depend on the variables only where a template leaves out the error.
-/
open ProxSync.Lib

namespace ProxSync.Outbox

/-- The markup of a message. -/
def telegramHtml : Grammar := ⟨["b", "code"], ["amp", "lt", "gt"]⟩

/-- A code point as it is written in a message. -/
def escapeChar (char : Char) : List Char :=
  if char = '&' then ['&', 'a', 'm', 'p', ';']
  else if char = '<' then ['&', 'l', 't', ';']
  else if char = '>' then ['&', 'g', 't', ';']
  else [char]

/-- A text as it is written in a message; quotes are kept. -/
def htmlEscape (text : String) : String := .ofList (text.toList.flatMap escapeChar)

/-- The variables of an event. -/
abbrev Variables := List (Value × Value)

/-- The first value, unless it does not count. -/
def orElse (value other : Value) : Value := if value.truthy then value else other

section Templates

variable (repr : Value → Except PyError String)

/-- A value as it is written in a message. -/
def esc (value : Value) : Except PyError String := do
  let text ← value.written repr
  .ok (htmlEscape text)

/-- Whether a size is small. -/
def small : PyFloat → Bool
  | .finite value => decide (|value| < 1024)
  | .infinite _ | .nan => false

/-- A size in the next unit. -/
def inNextUnit : PyFloat → PyFloat
  | .finite value => .finite (value / 1024)
  | size => size

/-- A size in the first unit it is small in. -/
def scaledBytes (size : PyFloat) : List String → String
  | [] => fixed 1 size ++ " TiB"
  | unit :: rest =>
    if small size || unit == "TiB" then fixed (if unit == "B" then 0 else 1) size ++ " " ++ unit
    else scaledBytes (inNextUnit size) rest

/-- A size in words. -/
def humanBytes : Value → Except PyError String
  | .none => .ok "unknown"
  | value => do
    let size ← value.toFloat
    .ok (scaledBytes size ["B", "KiB", "MiB", "GiB", "TiB"])

/-- Two digits of a number. -/
def twoDigits (value : ℤ) : String := .ofList (padded 2 (Nat.toDigits 10 value.natAbs))

/-- A duration in words. -/
def humanDuration : Value → Except PyError String
  | .none => .ok "unknown"
  | seconds => do
    let total ← seconds.toInt
    if total < 60 then fstring [.hole (decimal total), .literal "s"]
    else
      let minutes := total / 60
      let secs := total % 60
      if minutes < 60 then
        fstring [.hole (decimal minutes), .literal "m ", .hole (.ok (twoDigits secs)), .literal "s"]
      else
        fstring [.hole (decimal (minutes / 60)), .literal "h ",
          .hole (.ok (twoDigits (minutes % 60))), .literal "m"]

/-- A percentage with one place. -/
def humanPercent (value : Value) : Except PyError String :=
  match value with
  | .int _ | .float _ => do
    let number ← value.toFloat
    .ok (fixed 1 number ++ "%")
  | _ => esc repr value

/-- Guests that are named in a message. -/
def maxListedGuests : Nat := 8

/-- A guest as it is named in a message. -/
def guestLabel : Value → Except PyError String
  | .dict guest =>
    let name := orElse (.get guest "guest_name") (orElse (.get guest "name") (.str "unnamed"))
    let guestType := Value.get guest "guest_type"
    match Value.get guest "vmid" with
    | .none => esc repr name
    | vmid =>
      fstring [.hole (esc repr name), .literal " (", .hole (esc repr guestType), .literal "/",
        .hole (esc repr vmid), .literal ")"]
  | guest => esc repr guest

/-- The elements of a value that is sliced. -/
def sequence : Value → Except PyError (List Value)
  | .list items => .ok items
  | .str text => .ok (text.toList.map fun char => .str (.ofList [char]))
  | .dict _ => .error .keyError
  | _ => .error .typeError

/-- The guests of a message. -/
def guestList (guests : Value) : Except PyError String :=
  if guests.truthy then do
    let items ← sequence guests
    let rendered ← (items.take maxListedGuests).mapM (guestLabel repr)
    let remaining := items.length - rendered.length
    if 0 < remaining then do
      let more ← fstring [.literal "and ", .hole (decimal remaining), .literal " more"]
      .ok (joined ", " (rendered ++ [more]))
    else .ok (joined ", " rendered)
  else .ok "none"

/-- The parts of a message that are there. -/
def present : List (Option (Except PyError String)) → Except PyError (List String)
  | [] => .ok []
  | none :: rest => present rest
  | some part :: rest => do
    let text ← part
    let others ← present rest
    .ok (if text = "" then others else text :: others)

/-- The lines of a message. -/
def lines (parts : List (Option (Except PyError String))) : Except PyError String := do
  let texts ← present parts
  .ok (joined "\n" texts)

/-- The error of an event, if it has one. -/
def errorLine (v : Variables) : Option (Except PyError String) :=
  if (Value.get v "error").truthy then
    some (fstring [.literal "<code>", .hole (esc repr (.get v "error")), .literal "</code>"])
  else none

/-- The message that a backup started. -/
def backupStarted (v : Variables) : Except PyError String :=
  lines [
    some (fstring [.literal "▶️ <b>Backup started</b> · run #",
      .hole (esc repr (.get v "run_id"))]),
    some (fstring [.hole (esc repr (.get v "guest_total")), .literal " guest(s) · ",
      .hole (esc repr ((Value.find v "trigger").getD (.str "manual"))), .literal " · storage ",
      .hole (esc repr (.get v "storage"))]),
    some (guestList repr (.get v "guests"))]

/-- The message that a backup succeeded. -/
def backupSuccess (v : Variables) : Except PyError String :=
  lines [
    some (fstring [.literal "✅ <b>Backup finished</b> · run #",
      .hole (esc repr (.get v "run_id"))]),
    some (fstring [.hole (esc repr (.get v "succeeded")), .literal "/",
      .hole (esc repr (.get v "guest_total")), .literal " guest(s) · ",
      .hole (humanBytes (.get v "total_bytes")), .literal " · ",
      .hole (humanDuration (.get v "duration_seconds"))])]

/-- The message that a backup failed. -/
def backupFailed (v : Variables) : Except PyError String :=
  let headline := if (Value.get v "succeeded").truthy then "Backup incomplete" else "Backup failed"
  lines [
    some (fstring [.literal "❌ <b>", .literal headline, .literal "</b> · run #",
      .hole (esc repr (.get v "run_id"))]),
    some (fstring [.hole (esc repr (.get v "succeeded")), .literal "/",
      .hole (esc repr (.get v "guest_total")), .literal " guest(s) succeeded · ",
      .hole (humanDuration (.get v "duration_seconds"))]),
    some (fstring [.literal "Failed: ", .hole (guestList repr (.get v "failed_guests"))]),
    errorLine repr v]

/-- The message that a restore started. -/
def restoreStarted (v : Variables) : Except PyError String :=
  let overwriting :=
    if (Value.get v "overwrite").truthy then " · overwriting the existing guest" else ""
  lines [
    some (fstring [.literal "▶️ <b>Restore started</b> · #",
      .hole (esc repr (.get v "restore_id"))]),
    some (fstring [.hole (esc repr (.get v "filename")), .literal " → ",
      .hole (esc repr (.get v "target_type")), .literal " ",
      .hole (esc repr (.get v "target_vmid")), .literal " on ",
      .hole (esc repr (.get v "target_storage"))]),
    some (fstring [.literal "Source: ", .hole (esc repr (.get v "source")), .literal overwriting])]

/-- The message that a restore finished. -/
def restoreFinished (v : Variables) : Except PyError String :=
  lines [
    some (fstring [.literal "✅ <b>Restore finished</b> · #",
      .hole (esc repr (.get v "restore_id"))]),
    some (fstring [.hole (esc repr (.get v "target_type")), .literal " ",
      .hole (esc repr (.get v "target_vmid")), .literal " · ",
      .hole (humanDuration (.get v "duration_seconds"))]),
    if (Value.get v "warning").truthy then
      some (fstring [.literal "⚠️ ", .hole (esc repr (.get v "warning"))])
    else none]

/-- The message that a restore failed. -/
def restoreFailed (v : Variables) : Except PyError String := do
  let status ← (orElse (.get v "status") (.str "failed")).written repr
  let headline := if status = "interrupted" then "Restore outcome unknown" else "Restore failed"
  lines [
    some (fstring [.literal "❌ <b>", .literal headline, .literal "</b> · #",
      .hole (esc repr (.get v "restore_id"))]),
    some (fstring [.hole (esc repr (.get v "target_type")), .literal " ",
      .hole (esc repr (.get v "target_vmid")), .literal " · status ",
      .hole (esc repr (.str status))]),
    errorLine repr v]

/-- The message that an upload failed. -/
def uploadFailed (v : Variables) : Except PyError String :=
  lines [
    some (.ok "⚠️ <b>Upload failed</b>"),
    some (fstring [.hole (esc repr (.get v "filename")), .literal " (",
      .hole (esc repr (.get v "guest_type")), .literal "/", .hole (esc repr (.get v "vmid")),
      .literal ") after ", .hole (esc repr (.get v "attempts")), .literal " attempt(s)"]),
    some (.ok "The local copy is intact; retention will not delete it while it is unreplicated."),
    errorLine repr v]

/-- The message that retention deleted copies. -/
def retentionDeleted (v : Variables) : Except PyError String :=
  lines [
    some (.ok "🧹 <b>Retention applied</b>"),
    some (do
      let guest ← fstring [.hole (esc repr (.get v "guest_type")), .literal "/",
        .hole (esc repr (.get v "vmid")), .literal " ",
        .hole (esc repr ((Value.find v "guest_name").getD (.str "")))]
      .ok (strip guest)),
    some (fstring [.hole (esc repr (.get v "deleted_local")), .literal " local and ",
      .hole (esc repr (.get v "deleted_remote")), .literal " remote copies removed · ",
      .hole (humanBytes (.get v "freed_bytes")), .literal " freed"]),
    some (fstring [.literal "Keeping ", .hole (esc repr (.get v "keep_local")),
      .literal " local / ", .hole (esc repr (.get v "keep_remote")), .literal " remote"])]

/-- The message that a storage reached a threshold. -/
def storageThreshold (v : Variables) : Except PyError String := do
  let severity ← (orElse (.get v "severity") (.str "warning")).written repr
  let glyph := if severity = "critical" then "🔴" else "🟠"
  lines [
    some (fstring [.literal glyph, .literal " <b>Storage ", .hole (esc repr (.str severity)),
      .literal "</b>"]),
    some (fstring [.hole (humanBytes (.get v "used_bytes")), .literal " of ",
      .hole (humanBytes (.get v "total_bytes")), .literal " used (",
      .hole (humanPercent repr (.get v "used_percent")), .literal ") · ",
      .hole (humanBytes (.get v "free_bytes")), .literal " free"]),
    some (fstring [.literal "Threshold crossed from ",
      .hole (esc repr ((Value.find v "previous_severity").getD (.str "healthy"))), .literal "."])]

/-- The message that tests the channel. -/
def test (v : Variables) : Except PyError String :=
  lines [
    some (.ok "🔔 <b>ProxSync test message</b>"),
    some (.ok "If you can read this, the bot token and chat id are correct."),
    if (Value.get v "requested_by").truthy then
      some (fstring [.literal "Sent by ", .hole (esc repr (.get v "requested_by")), .literal "."])
    else none]

/-- The text of an event. -/
def render : NotificationEvent → Variables → Except PyError String
  | .backupStarted => backupStarted repr
  | .backupSuccess => backupSuccess repr
  | .backupFailed => backupFailed repr
  | .restoreStarted => restoreStarted repr
  | .restoreFinished => restoreFinished repr
  | .restoreFailed => restoreFailed repr
  | .uploadFailed => uploadFailed repr
  | .retentionDeleted => retentionDeleted repr
  | .storageThreshold => storageThreshold repr
  | .test => test repr

end Templates

variable {repr : Value → Except PyError String} {value : Value} {v : Variables}

/-! ## What is put into a message -/

/-- An escaped text is scanned between tags. -/
theorem marks_htmlEscape (text : String) : Marks telegramHtml (htmlEscape text) [] := by
  have same : ∀ chars : List Char,
      (chars.flatMap escapeChar).foldl (Scan.step telegramHtml) .start = .start := by
    intro chars
    induction chars with
    | nil => rfl
    | cons char rest ih =>
      have here : (escapeChar char).foldl (Scan.step telegramHtml) .start = .start := by
        by_cases ampersand : char = '&'
        · subst ampersand
          decide +kernel
        · by_cases less : char = '<'
          · subst less
            decide +kernel
          · by_cases more : char = '>'
            · subst more
              decide +kernel
            · have kept : escapeChar char = [char] := by
                simp [escapeChar, ampersand, less, more]
              rw [kept]
              apply Scan.foldl_plain rfl
              simp [marking, ampersand, less, more]
      rw [List.flatMap_cons, List.foldl_append, here, ih]
  unfold Marks htmlEscape Scan.scanFrom
  rw [String.toList_ofList]
  exact same text.toList

/-- An escaped value marks nothing. -/
@[simp] theorem marked_esc : Marked telegramHtml (esc repr value) [] := by
  intro text answered
  obtain ⟨raw, -, written⟩ := bind_eq_ok.mp answered
  rw [← Except.ok.inj written]
  exact marks_htmlEscape raw

/-- A number marks nothing. -/
@[simp] theorem marked_decimal {number : ℤ} : Marked telegramHtml (decimal number) [] :=
  marked_of_plain fun _ => plain_decimal

/-- A size is written with a unit that is plain. -/
theorem plain_scaledBytes {units : List String} (size : PyFloat)
    (plain : ∀ unit ∈ units, ∀ char ∈ unit.toList, marking char = false) :
    ∀ char ∈ (scaledBytes size units).toList, marking char = false := by
  induction units generalizing size with
  | nil =>
    intro char inside
    rw [scaledBytes, String.toList_append, List.mem_append] at inside
    rcases inside with digit | unit
    · exact plain_fixed 1 size char digit
    · have named : ∀ char ∈ " TiB".toList, marking char = false := by simp [marking]
      exact named char unit
  | cons unit rest ih =>
    intro char inside
    rw [scaledBytes] at inside
    split at inside
    · rw [String.toList_append, String.toList_append, List.mem_append, List.mem_append] at inside
      rcases inside with (digit | blank) | named
      · exact plain_fixed _ size char digit
      · have blanks : ∀ char ∈ " ".toList, marking char = false := by simp [marking]
        exact blanks char blank
      · exact plain unit List.mem_cons_self char named
    · exact ih _ (fun other later => plain other (List.mem_cons_of_mem _ later)) char inside

/-- A size marks nothing. -/
@[simp] theorem marked_humanBytes : Marked telegramHtml (humanBytes value) [] := by
  apply marked_of_plain
  intro text answered
  unfold humanBytes at answered
  split at answered
  · rw [← Except.ok.inj answered]
    simp [marking]
  · obtain ⟨size, -, written⟩ := bind_eq_ok.mp answered
    rw [← Except.ok.inj written]
    apply plain_scaledBytes
    simp [marking]

/-- Two digits mark nothing. -/
@[simp] theorem marked_twoDigits {number : ℤ} :
    Marked telegramHtml (.ok (twoDigits number)) [] := by
  apply marked_of_plain
  rintro _ ⟨rfl⟩ char inside
  rw [twoDigits, String.toList_ofList] at inside
  exact plain_padded (fun _ => plain_toDigits) inside

/-- A duration marks nothing. -/
@[simp] theorem marked_humanDuration : Marked telegramHtml (humanDuration value) [] := by
  intro text answered
  unfold humanDuration at answered
  split at answered
  · rw [← Except.ok.inj answered]
    exact marks_plain (by simp [marking])
  · obtain ⟨total, -, answered⟩ := bind_eq_ok.mp answered
    simp only at answered
    split_ifs at answered
    all_goals
      refine marked_plain_fstring ?_ text answered
      simp [Piece.Plain, marking]

/-- A percentage marks nothing. -/
@[simp] theorem marked_humanPercent : Marked telegramHtml (humanPercent repr value) [] := by
  intro text answered
  unfold humanPercent at answered
  split at answered
  · obtain ⟨number, -, written⟩ := bind_eq_ok.mp answered
    rw [← Except.ok.inj written]
    refine (marks_plain (plain_fixed 1 number)).append (marks_plain ?_)
    simp [marking]
  · obtain ⟨number, -, written⟩ := bind_eq_ok.mp answered
    rw [← Except.ok.inj written]
    refine (marks_plain (plain_fixed 1 number)).append (marks_plain ?_)
    simp [marking]
  · exact marked_esc text answered

/-- The label of a guest marks nothing. -/
@[simp] theorem marked_guestLabel : Marked telegramHtml (guestLabel repr value) [] := by
  intro text answered
  unfold guestLabel at answered
  split at answered
  · simp only at answered
    split at answered
    · exact marked_esc text answered
    · refine marked_plain_fstring ?_ text answered
      simp [Piece.Plain, marking]
  · exact marked_esc text answered

/-- Texts that are each marked up without tags. -/
theorem marks_mapM {items : List Value} {texts : List String}
    (rendered : items.mapM (guestLabel repr) = .ok texts) :
    List.Forall₂ (Marks telegramHtml) texts (texts.map fun _ => []) := by
  induction items generalizing texts with
  | nil =>
    rw [List.mapM_nil] at rendered
    obtain rfl := Except.ok.inj rendered
    exact .nil
  | cons item rest ih =>
    rw [List.mapM_cons] at rendered
    obtain ⟨first, here, rendered⟩ := bind_eq_ok.mp rendered
    obtain ⟨others, later, rendered⟩ := bind_eq_ok.mp rendered
    obtain rfl := Except.ok.inj rendered
    exact .cons (marked_guestLabel first here) (ih later)

/-- A list of guests marks nothing. -/
@[simp] theorem marked_guestList : Marked telegramHtml (guestList repr value) [] := by
  intro text answered
  have comma : ∀ char ∈ ", ".toList, marking char = false := by simp [marking]
  unfold guestList at answered
  split at answered
  · obtain ⟨items, -, answered⟩ := bind_eq_ok.mp answered
    obtain ⟨rendered, labels, answered⟩ := bind_eq_ok.mp answered
    have marks := marks_mapM labels
    simp only at answered
    split at answered
    · obtain ⟨more, counted, answered⟩ := bind_eq_ok.mp answered
      have last : Marks telegramHtml more [] := by
        refine marked_plain_fstring ?_ more counted
        simp [Piece.Plain, marking]
      rw [← Except.ok.inj answered]
      simpa using marks_joined comma (List.rel_append marks (.cons last .nil))
    · rw [← Except.ok.inj answered]
      simpa using marks_joined comma marks
  · rw [← Except.ok.inj answered]
    exact marks_plain (by simp [marking])

/-! ## The lines of a message -/

/-- A line that is left out has no tags, and one that is there has those it is marked with. -/
def LineMarked (part : Option (Except PyError String)) (tags : List String) : Prop :=
  match part with
  | none => tags = []
  | some line => Marked telegramHtml line tags

/-- The lines that are there have the tags of all lines. -/
theorem marks_present {parts : List (Option (Except PyError String))} {tags : List (List String)}
    {texts : List String} (marked : List.Forall₂ LineMarked parts tags)
    (answered : present parts = .ok texts) :
    ∃ kept : List (List String), List.Forall₂ (Marks telegramHtml) texts kept ∧
      kept.flatten = tags.flatten := by
  induction marked generalizing texts with
  | nil =>
    obtain rfl := Except.ok.inj answered
    exact ⟨[], .nil, rfl⟩
  | @cons part here parts later marked _ ih =>
    cases part with
    | none =>
      obtain rfl : here = [] := marked
      exact ih answered
    | some line =>
      obtain ⟨text, written, answered⟩ := bind_eq_ok.mp answered
      obtain ⟨others, remaining, answered⟩ := bind_eq_ok.mp answered
      obtain ⟨kept, marks, same⟩ := ih remaining
      have first := marked text written
      obtain rfl := Except.ok.inj answered
      by_cases empty : text = ""
      · subst empty
        rw [if_pos rfl]
        exact ⟨kept, marks, by rw [List.flatten_cons, first.eq_nil, same, List.nil_append]⟩
      · rw [if_neg empty]
        exact ⟨here :: kept, .cons first marks, by rw [List.flatten_cons, List.flatten_cons, same]⟩

/-- A message has the tags of its lines. -/
theorem marked_lines {parts : List (Option (Except PyError String))} {tags : List (List String)}
    (marked : List.Forall₂ LineMarked parts tags) :
    Marked telegramHtml (lines parts) tags.flatten := by
  intro text answered
  obtain ⟨texts, there, answered⟩ := bind_eq_ok.mp answered
  obtain ⟨kept, marks, same⟩ := marks_present marked there
  rw [← Except.ok.inj answered, ← same]
  exact marks_joined (by simp [marking]) marks

/-- A line of parts that add no tag has none. -/
theorem lineMarked_plain {pieces : List Piece}
    (plain : ∀ piece ∈ pieces, piece.Plain telegramHtml) :
    LineMarked (some (fstring pieces)) [] := marked_plain_fstring plain

/-- The tags around an error, if there is one. -/
def errorTags (v : Variables) : List String :=
  if (Value.get v "error").truthy then ["code", "/code"] else []

/-- The tags of a headline. -/
def bold : List String := ["b", "/b"]

/-- The literals of the headlines, with a gap for each hole. -/
def headlines : List (List (Option String)) := [
  [some "▶️ <b>Backup started</b> · run #", none],
  [some "✅ <b>Backup finished</b> · run #", none],
  [some "❌ <b>", some "Backup incomplete", some "</b> · run #", none],
  [some "❌ <b>", some "Backup failed", some "</b> · run #", none],
  [some "▶️ <b>Restore started</b> · #", none],
  [some "✅ <b>Restore finished</b> · #", none],
  [some "❌ <b>", some "Restore outcome unknown", some "</b> · #", none],
  [some "❌ <b>", some "Restore failed", some "</b> · #", none],
  [some "⚠️ <b>Upload failed</b>"],
  [some "🧹 <b>Retention applied</b>"],
  [some "🔴", some " <b>Storage ", none, some "</b>"],
  [some "🟠", some " <b>Storage ", none, some "</b>"],
  [some "🔔 <b>ProxSync test message</b>"]]

/-- Every headline opens and closes one element, and its holes are between tags. -/
theorem outlined_headlines : ∀ headline ∈ headlines,
    outlined telegramHtml .start headline = some ⟨.text, [], bold⟩ := by
  decide +kernel

/-- A headline without holes has the tags of a headline. -/
theorem marks_headline {text : String} (headline : [some text] ∈ headlines) :
    Marks telegramHtml text bold := by
  apply Option.some.inj
  exact outlined_headlines _ headline

/-- A headline whose holes are tame has the tags of a headline. -/
theorem marked_headline {pieces : List Piece} (headline : pieces.map Piece.outline ∈ headlines)
    (tame : ∀ piece ∈ pieces, piece.Tame telegramHtml) :
    LineMarked (some (fstring pieces)) bold :=
  marked_fstring tame (outlined_headlines _ headline)

/-- The line of an error has its own tags, where there is one. -/
theorem lineMarked_errorLine : LineMarked (errorLine repr v) (errorTags v) := by
  unfold errorLine errorTags
  split
  · refine marked_fstring (by simp [Piece.Tame]) ?_
    simp only [List.map, Piece.outline]
    decide +kernel
  · rfl

/-! ## The templates -/

attribute [local simp] Piece.Tame Piece.Plain Piece.outline headlines

/-- A backup that started is told in bold. -/
theorem marked_backupStarted : Marked telegramHtml (backupStarted repr v) bold := by
  show Marked _ _ [bold, [], []].flatten
  refine marked_lines (.cons (marked_headline ?_ ?_) (.cons (lineMarked_plain ?_) (.cons ?_ .nil)))
  · simp
  · simp
  · simp [marking]
  · exact marked_guestList

/-- A backup that succeeded is told in bold. -/
theorem marked_backupSuccess : Marked telegramHtml (backupSuccess repr v) bold := by
  show Marked _ _ [bold, []].flatten
  refine marked_lines (.cons (marked_headline ?_ ?_) (.cons (lineMarked_plain ?_) .nil))
  · simp
  · simp
  · simp [marking]

/-- A backup that failed is told in bold, with the line of its error. -/
theorem marked_backupFailed :
    Marked telegramHtml (backupFailed repr v) (bold ++ errorTags v) := by
  rw [show bold ++ errorTags v = [bold, [], [], errorTags v].flatten by simp]
  refine marked_lines (.cons (marked_headline ?_ ?_) (.cons (lineMarked_plain ?_)
    (.cons (lineMarked_plain ?_) (.cons lineMarked_errorLine .nil))))
  · split <;> simp
  · simp
  · simp [marking]
  · simp [marking]

/-- A restore that started is told in bold. -/
theorem marked_restoreStarted : Marked telegramHtml (restoreStarted repr v) bold := by
  show Marked _ _ [bold, [], []].flatten
  refine marked_lines (.cons (marked_headline ?_ ?_) (.cons (lineMarked_plain ?_)
    (.cons (lineMarked_plain ?_) .nil)))
  · simp
  · simp
  · simp [marking]
  · split <;> simp [marking]

/-- A restore that finished is told in bold. -/
theorem marked_restoreFinished : Marked telegramHtml (restoreFinished repr v) bold := by
  show Marked _ _ [bold, [], []].flatten
  refine marked_lines (.cons (marked_headline ?_ ?_) (.cons (lineMarked_plain ?_)
    (.cons ?_ .nil)))
  · simp
  · simp
  · simp [marking]
  · split
    · exact lineMarked_plain (by simp [marking])
    · rfl

/-- A restore that failed is told in bold, with the line of its error. -/
theorem marked_restoreFailed :
    Marked telegramHtml (restoreFailed repr v) (bold ++ errorTags v) := by
  refine Marked.andThen fun status => ?_
  rw [show bold ++ errorTags v = [bold, [], errorTags v].flatten by simp]
  refine marked_lines (.cons (marked_headline ?_ ?_) (.cons (lineMarked_plain ?_)
    (.cons lineMarked_errorLine .nil)))
  · split <;> simp
  · simp
  · simp [marking]

/-- An upload that failed is told in bold, with the line of its error. -/
theorem marked_uploadFailed :
    Marked telegramHtml (uploadFailed repr v) (bold ++ errorTags v) := by
  rw [show bold ++ errorTags v = [bold, [], [], errorTags v].flatten by simp]
  refine marked_lines (.cons ?_ (.cons (lineMarked_plain ?_) (.cons ?_
    (.cons lineMarked_errorLine .nil))))
  · rintro _ ⟨rfl⟩
    exact marks_headline (by simp)
  · simp [marking]
  · rintro _ ⟨rfl⟩
    exact marks_plain (by simp [marking])

/-- Deleted copies are told in bold. -/
theorem marked_retentionDeleted : Marked telegramHtml (retentionDeleted repr v) bold := by
  show Marked _ _ [bold, [], [], []].flatten
  refine marked_lines (.cons ?_ (.cons ?_ (.cons (lineMarked_plain ?_)
    (.cons (lineMarked_plain ?_) .nil))))
  · rintro _ ⟨rfl⟩
    exact marks_headline (by simp)
  · intro text answered
    obtain ⟨guest, written, answered⟩ := bind_eq_ok.mp answered
    rw [← Except.ok.inj answered]
    apply Marks.strip
    apply marked_plain_fstring _ guest written
    simp [marking]
  · simp [marking]
  · simp [marking]

/-- A storage at a threshold is told in bold. -/
theorem marked_storageThreshold : Marked telegramHtml (storageThreshold repr v) bold := by
  refine Marked.andThen fun severity => ?_
  show Marked _ _ [bold, [], []].flatten
  refine marked_lines (.cons (marked_headline ?_ ?_) (.cons (lineMarked_plain ?_)
    (.cons (lineMarked_plain ?_) .nil)))
  · split <;> simp
  · simp
  · simp [marking]
  · simp [marking]

/-- A test is told in bold. -/
theorem marked_test : Marked telegramHtml (test repr v) bold := by
  show Marked _ _ [bold, [], []].flatten
  refine marked_lines (.cons ?_ (.cons ?_ (.cons ?_ .nil)))
  · rintro _ ⟨rfl⟩
    exact marks_headline (by simp)
  · rintro _ ⟨rfl⟩
    exact marks_plain (by simp [marking])
  · split
    · exact lineMarked_plain (by simp [marking])
    · rfl

/-- The tags of an event, given whether there is an error. -/
def templateTags (event : NotificationEvent) (failed : Bool) : List String :=
  match event with
  | .backupFailed | .restoreFailed | .uploadFailed =>
    bold ++ if failed then ["code", "/code"] else []
  | .backupStarted | .backupSuccess | .restoreStarted | .restoreFinished | .retentionDeleted
  | .storageThreshold | .test => bold

/-- A message is well formed, with the tags of the template of its event. -/
theorem marked_render (event : NotificationEvent) : Marked telegramHtml (render repr event v)
    (templateTags event (Value.get v "error").truthy) := by
  cases event with
  | backupStarted => exact marked_backupStarted
  | backupSuccess => exact marked_backupSuccess
  | backupFailed => exact marked_backupFailed
  | restoreStarted => exact marked_restoreStarted
  | restoreFinished => exact marked_restoreFinished
  | restoreFailed => exact marked_restoreFailed
  | uploadFailed => exact marked_uploadFailed
  | retentionDeleted => exact marked_retentionDeleted
  | storageThreshold => exact marked_storageThreshold
  | test => exact marked_test

/-- Whatever the variables hold, every bracket and ampersand of a message belongs to a complete tag
or entity, and its tags are those of its template. -/
theorem render_keeps_markup {event : NotificationEvent} {text : String}
    (rendered : render repr event v = .ok text) :
    WellFormed telegramHtml text ∧
      tagsOf telegramHtml text = templateTags event (Value.get v "error").truthy ∧
      text.toList.count '<' = (templateTags event (Value.get v "error").truthy).length ∧
      text.toList.count '>' = (templateTags event (Value.get v "error").truthy).length := by
  have marks := marked_render event text rendered
  obtain ⟨formed, tags⟩ := marks_iff.mp marks
  exact ⟨formed, tags, marks.brackets⟩

/-- The variables of an upload that failed, with markup in their texts. -/
def hostileUpload : Variables :=
  [(.str "filename", .str "</b><b>vzdump & co"), (.str "guest_type", .str "<code>"),
    (.str "vmid", .int 101), (.str "attempts", .list []), (.str "error", .str "&lt;</code>")]

/-- Markup in a file name, a guest type and an error does not add to the tags of the template. -/
theorem render_keeps_markup_hostile :
    ∃ text, render (fun _ => .ok "[]") .uploadFailed hostileUpload = .ok text ∧
      WellFormed telegramHtml text ∧
      tagsOf telegramHtml text = ["b", "/b", "code", "/code"] := by
  have answers : (render (fun _ => .ok "[]") .uploadFailed hostileUpload).toBool = true := by
    decide +kernel
  cases rendered : render (fun _ => .ok "[]") .uploadFailed hostileUpload with
  | error raised =>
    rw [rendered] at answers
    cases answers
  | ok text =>
    obtain ⟨formed, tags, -⟩ := render_keeps_markup rendered
    refine ⟨text, rfl, formed, tags.trans ?_⟩
    decide +kernel

end ProxSync.Outbox
