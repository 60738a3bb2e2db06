import ProxSync.Outbox.Templates
/-!
# Messages cut to length

A message that is too long for the transport is cut, and an ellipsis is put in place of its tail.
The cut does not look at the markup: what is left is well formed only where it falls outside every
tag, entity and element.
-/
open ProxSync.Lib

namespace ProxSync.Outbox

/-- The longest message the transport takes. -/
def maxMessageLength : Nat := 4096

/-- A message cut to the length the transport takes. -/
def truncate (text : String) : String :=
  if text.toList.length ≤ maxMessageLength then text
  else .ofList (text.toList.take (maxMessageLength - 1) ++ ['…'])

/-- What is sent to the transport. -/
structure Payload where
  chatId : String
  text : String
  disableWebPagePreview : Bool
  parseMode : Option String

/-- The payload of a message. -/
def sendMessage (chatId text : String) : Payload := ⟨chatId, truncate text, true, some "HTML"⟩

/-- The last place a message is cut at is outside every tag, entity and element. -/
def CutsBetween (text : String) : Prop :=
  WellFormed telegramHtml (.ofList (text.toList.take (maxMessageLength - 1)))

instance (text : String) : Decidable (CutsBetween text) :=
  inferInstanceAs (Decidable (WellFormed ..))

variable {text : String}

/-- A truncated text is as long as allowed at most. -/
theorem length_truncate : (truncate text).toList.length ≤ maxMessageLength := by
  unfold truncate
  split
  · assumption
  · rw [String.toList_ofList, List.length_append, List.length_take]
    show min (maxMessageLength - 1) _ + 1 ≤ maxMessageLength
    have most := Nat.min_le_left (maxMessageLength - 1) text.toList.length
    have positive : 0 < maxMessageLength := by decide
    omega

/-- An ellipsis neither completes nor breaks a text. -/
theorem wellFormed_ellipsis {chars : List Char} :
    WellFormed telegramHtml (.ofList (chars ++ ['…'])) ↔
      WellFormed telegramHtml (.ofList chars) := by
  have plain : marking '…' = false ∧ '…' ≠ ';' := by decide
  unfold WellFormed Scan.scanFrom
  rw [String.toList_ofList, String.toList_ofList, List.foldl_append]
  constructor
  · rintro ⟨mode, opened⟩
    have same := Scan.step_settles plain.1 plain.2 mode
    exact ⟨same ▸ mode, same ▸ opened⟩
  · rintro ⟨mode, opened⟩
    have same : ['…'].foldl (Scan.step telegramHtml) (chars.foldl (Scan.step telegramHtml) .start) =
        chars.foldl (Scan.step telegramHtml) .start :=
      Scan.foldl_plain mode (by simp [marking])
    rw [same]
    exact ⟨mode, opened⟩

/-- What is sent of a message has at most the allowed length, and is well formed exactly when the
message is not longer, or is cut outside every tag, entity and element. -/
theorem sent_well_formed_iff {repr : Value → Except PyError String} {event : NotificationEvent}
    {v : Variables} {chatId : String} (rendered : render repr event v = .ok text) :
    (sendMessage chatId text).text.toList.length ≤ maxMessageLength ∧
      (WellFormed telegramHtml (sendMessage chatId text).text ↔
        text.toList.length ≤ maxMessageLength ∨ CutsBetween text) := by
  refine ⟨length_truncate, ?_⟩
  show WellFormed telegramHtml (truncate text) ↔ _
  unfold truncate
  by_cases fits : text.toList.length ≤ maxMessageLength
  · rw [if_pos fits]
    exact iff_of_true (render_keeps_markup rendered).1 (.inl fits)
  · rw [if_neg fits, wellFormed_ellipsis]
    exact (or_iff_right fits).symm

/-- Who asked for a test message. -/
def requestedBy : Variables := [(.str "requested_by", .str "<admin>")]

/-- A test message is sent as it is rendered. -/
theorem sent_well_formed_test :
    ∃ text, render (fun _ => .ok "[]") .test requestedBy = .ok text ∧
      WellFormed telegramHtml (sendMessage "@backups" text).text := by
  have short : ((render (fun _ => .ok "[]") .test requestedBy).toOption.any
      fun text => decide (text.toList.length ≤ maxMessageLength)) = true := by
    decide +kernel
  cases rendered : render (fun _ => .ok "[]") .test requestedBy with
  | error raised =>
    rw [rendered] at short
    cases short
  | ok text =>
    rw [rendered] at short
    exact ⟨text, rfl, (sent_well_formed_iff rendered).2.mpr (.inl (of_decide_eq_true short))⟩

/-! ## A cut inside an element -/

/-- A message is not cut well inside plain text of an open element. -/
theorem not_cutsBetween_of_opened {before middle after : List Char}
    (whole : text.toList = before ++ middle ++ after)
    (plain : ∀ char ∈ middle, marking char = false)
    (starts : before.length < maxMessageLength)
    (ends : maxMessageLength ≤ before.length + middle.length)
    (between : (before.foldl (Scan.step telegramHtml) .start).mode = .text)
    (opened : (before.foldl (Scan.step telegramHtml) .start).opened ≠ []) : ¬ CutsBetween text := by
  have cut : text.toList.take (maxMessageLength - 1) =
      before ++ middle.take (maxMessageLength - 1 - before.length) := by
    rw [whole, List.append_assoc, List.take_append, List.take_of_length_le (by omega),
      List.take_append_of_le_length (by omega)]
  rintro ⟨-, closed⟩
  apply opened
  unfold Scan.scanFrom at closed
  rw [String.toList_ofList, cut, List.foldl_append,
    Scan.foldl_plain between fun char inside => plain char (List.mem_of_mem_take inside)] at closed
  exact closed

/-- A long error. -/
def longError : List Char := List.replicate 5000 'x'

/-- The message of an upload that failed, up to its error. -/
def uploadHead : String :=
  "⚠️ <b>Upload failed</b>" ++ "\n" ++ "None (None/None) after None attempt(s)" ++ "\n" ++
    "The local copy is intact; retention will not delete it while it is unreplicated." ++ "\n" ++
    "<code>"

/-- The sample error is escaped as it is. -/
theorem htmlEscape_longError : htmlEscape (.ofList longError) = .ofList longError := by
  have kept : ∀ count,
      (List.replicate count 'x').flatMap escapeChar = List.replicate count 'x' := by
    intro count
    induction count with
    | zero => rfl
    | succ count ih =>
      rw [List.replicate_succ, List.flatMap_cons, ih]
      rfl
  unfold htmlEscape longError
  rw [String.toList_ofList, kept]

/-- Lines with a text are all there. -/
theorem lines_of_ne_empty {texts : List String} (some : ∀ text ∈ texts, text ≠ "") :
    lines (texts.map fun text => Option.some (.ok text)) = .ok (joined "\n" texts) := by
  have there : present (texts.map fun text => Option.some (.ok text)) = .ok texts := by
    induction texts with
    | nil => rfl
    | cons text rest ih =>
      have later := ih fun other inside => some other (List.mem_cons_of_mem _ inside)
      have here := some text List.mem_cons_self
      show Except.bind (present _)
        (fun others => .ok (if text = "" then others else text :: others)) = _
      rw [later, Except.bind, if_neg here]
  unfold lines
  rw [there]
  rfl

/-- Four lines are joined by line feeds. -/
theorem lines_four {first second third last : String} (one : first ≠ "") (two : second ≠ "")
    (three : third ≠ "") (four : last ≠ "") :
    lines [some (.ok first), some (.ok second), some (.ok third), some (.ok last)] =
      .ok (first ++ "\n" ++ second ++ "\n" ++ third ++ "\n" ++ last) := by
  have all : ∀ text ∈ [first, second, third, last], text ≠ "" := by
    simp only [List.forall_mem_cons]
    exact ⟨one, two, three, four, fun _ inside => absurd inside List.not_mem_nil⟩
  apply (lines_of_ne_empty all).trans
  simp only [joined, String.append_assoc]

/-- The text of an upload of which only the error is known. -/
theorem render_uploadError {repr : Value → Except PyError String} {error : String}
    (some : error ≠ "") :
    render repr .uploadFailed [(.str "error", .str error)] =
      .ok (uploadHead ++ htmlEscape error ++ "</code>") := by
  have absent : ∀ key : String, "error" ≠ key →
      Value.get [(.str "error", .str error)] key = .none := by
    intro key other
    simp [Value.get, Value.find, Value.sameKey, other]
  have there : Value.get [(.str "error", .str error)] "error" = .str error := by
    simp [Value.get, Value.find, Value.sameKey]
  have nothing : ∀ key : String, "error" ≠ key →
      esc repr (.get [(.str "error", .str error)] key) = .ok "None" := by
    intro key other
    have plain : htmlEscape "None" = "None" := by decide +kernel
    rw [absent key other]
    exact congrArg Except.ok plain
  have line : errorLine repr [(.str "error", .str error)] =
      Option.some (.ok ("<code>" ++ (htmlEscape error ++ "</code>"))) := by
    unfold errorLine
    rw [there]
    simp [Value.truthy, some, fstring, Piece.text, esc, Value.written, bind, Except.bind]
  have middle : fstring [.hole (.ok "None"), .literal " (", .hole (.ok "None"), .literal "/",
      .hole (.ok "None"), .literal ") after ", .hole (.ok "None"), .literal " attempt(s)"] =
      .ok "None (None/None) after None attempt(s)" := by
    have texts : "None" ++ (" (" ++ ("None" ++ ("/" ++ ("None" ++ (") after " ++ ("None" ++
        (" attempt(s)" ++ ""))))))) = "None (None/None) after None attempt(s)" := by
      decide +kernel
    rw [← texts]
    rfl
  show uploadFailed repr _ = _
  unfold uploadFailed
  rw [nothing "filename" (by decide), nothing "guest_type" (by decide), nothing "vmid" (by decide),
    nothing "attempts" (by decide), middle, line]
  have full : "<code>" ++ (htmlEscape error ++ "</code>") ≠ "" := by
    intro empty
    have letters := congrArg String.toList empty
    rw [String.toList_append] at letters
    exact absurd letters (by simp)
  have headline : "⚠️ <b>Upload failed</b>" ≠ "" := by decide +kernel
  have subject : "None (None/None) after None attempt(s)" ≠ "" := by decide +kernel
  have advice :
      "The local copy is intact; retention will not delete it while it is unreplicated." ≠ "" := by
    decide +kernel
  rw [lines_four headline subject advice full, ← String.append_assoc, ← String.append_assoc]
  rfl

/-- A long error is cut inside its element, and the message is sent with an element left open. -/
theorem not_sent_well_formed :
    ∃ text, render (fun _ => .ok "[]") .uploadFailed
        [(.str "error", .str (.ofList longError))] = .ok text ∧
      ¬ WellFormed telegramHtml (sendMessage "@backups" text).text := by
  have some : String.ofList longError ≠ "" := by
    intro empty
    have letters := congrArg String.toList empty
    rw [String.toList_ofList] at letters
    exact absurd letters nofun
  have rendered : render (fun _ => .ok "[]") .uploadFailed
      [(.str "error", .str (.ofList longError))] = _ := render_uploadError some
  rw [htmlEscape_longError] at rendered
  refine ⟨_, rendered, fun formed => ?_⟩
  have whole : (uploadHead ++ String.ofList longError ++ "</code>").toList =
      uploadHead.toList ++ longError ++ "</code>".toList := by
    rw [String.toList_append, String.toList_append, String.toList_ofList]
  have head : uploadHead.toList.length < 300 ∧
      (uploadHead.toList.foldl (Scan.step telegramHtml) .start).mode = .text ∧
      (uploadHead.toList.foldl (Scan.step telegramHtml) .start).opened = ["code"] := by
    decide +kernel
  have length : longError.length = 5000 := List.length_replicate
  have limit : maxMessageLength = 4096 := rfl
  rcases (sent_well_formed_iff rendered).2.mp formed with fits | cuts
  · rw [whole, List.length_append, List.length_append] at fits
    omega
  · apply not_cutsBetween_of_opened whole _ (by omega) (by omega) head.2.1 _ cuts
    · intro char inside
      rw [List.eq_of_mem_replicate inside]
      rfl
    · rw [head.2.2]
      exact List.cons_ne_nil _ _

end ProxSync.Outbox
