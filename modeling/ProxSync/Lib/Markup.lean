import ProxSync.Lib.Trim
/-!
# Marked up texts

A text with tags and entities is scanned from left to right. The scan knows whether it is inside a
tag or an entity, which elements are open, and which tags it has met; a tag that closes nothing, an
entity that is not known and a stray bracket break it. A text that is scanned completely, with every
element closed, has the same effect wherever it stands between tags, so texts are put together from
marked up parts, and from literals with holes that markup cannot get out of.
-/
namespace ProxSync.Lib

/-- The elements and entities of a markup. -/
structure Grammar where
  elements : List String
  entities : List String

/-- Where a scan is. -/
inductive ScanMode
  | text
  | tag (name : List Char)
  | entity (name : List Char)
  | broken
  deriving DecidableEq, Repr

/-- A scan: where it is, the open elements, innermost first, and the tags it has met in order. -/
structure Scan where
  mode : ScanMode
  opened : List String
  tags : List String
  deriving DecidableEq, Repr

/-- The code points that markup is made of. -/
def marking (char : Char) : Bool := char == '<' || char == '>' || char == '&'

namespace Scan

/-- Nothing has been scanned. -/
def start : Scan := ⟨.text, [], []⟩

/-- A tag is complete: it opens an element, or closes the innermost one. -/
def finishTag (grammar : Grammar) (scan : Scan) (name : List Char) : Scan :=
  let tag := String.ofList name
  if tag ∈ grammar.elements then ⟨.text, tag :: scan.opened, scan.tags ++ [tag]⟩
  else
    match scan.opened with
    | inner :: outer =>
      if name = '/' :: inner.toList then ⟨.text, outer, scan.tags ++ [tag]⟩
      else { scan with mode := .broken }
    | [] => { scan with mode := .broken }

/-- Scan a code point. -/
def step (grammar : Grammar) (scan : Scan) (char : Char) : Scan :=
  match scan.mode with
  | .text =>
    if char = '<' then { scan with mode := .tag [] }
    else if char = '&' then { scan with mode := .entity [] }
    else if char = '>' then { scan with mode := .broken }
    else scan
  | .tag name =>
    if char = '>' then scan.finishTag grammar name
    else if marking char then { scan with mode := .broken }
    else { scan with mode := .tag (name ++ [char]) }
  | .entity name =>
    if char = ';' then
      if String.ofList name ∈ grammar.entities then { scan with mode := .text }
      else { scan with mode := .broken }
    else if marking char then { scan with mode := .broken }
    else { scan with mode := .entity (name ++ [char]) }
  | .broken => scan

/-- Scan a text. -/
def scanFrom (grammar : Grammar) (scan : Scan) (text : String) : Scan :=
  text.toList.foldl (step grammar) scan

/-- A scan inside the elements that are open at another one. -/
def under (outer inner : Scan) : Scan :=
  ⟨inner.mode, inner.opened ++ outer.opened, outer.tags ++ inner.tags⟩

end Scan

/-- Every tag and entity of a text is complete, and every element it opens is closed in order. -/
def WellFormed (grammar : Grammar) (text : String) : Prop :=
  (Scan.start.scanFrom grammar text).mode = .text ∧ (Scan.start.scanFrom grammar text).opened = []

instance (grammar : Grammar) (text : String) : Decidable (WellFormed grammar text) :=
  inferInstanceAs (Decidable (_ ∧ _))

/-- The tags of a text, in order. -/
def tagsOf (grammar : Grammar) (text : String) : List String :=
  (Scan.start.scanFrom grammar text).tags

/-- A well formed text with its tags. -/
def Marks (grammar : Grammar) (text : String) (tags : List String) : Prop :=
  Scan.start.scanFrom grammar text = ⟨.text, [], tags⟩

variable {grammar : Grammar} {scan outer after : Scan} {char : Char} {chars : List Char}
variable {text first last : String} {tags others : List String}

/-- A text is marked up when it is well formed and has the tags. -/
theorem marks_iff :
    Marks grammar text tags ↔ WellFormed grammar text ∧ tagsOf grammar text = tags := by
  unfold Marks WellFormed tagsOf
  constructor
  · intro marks
    rw [marks]
    exact ⟨⟨rfl, rfl⟩, rfl⟩
  · rintro ⟨⟨mode, opened⟩, rfl⟩
    rw [← mode, ← opened]

namespace Scan

/-! ## Parts of a text -/

/-- A text is scanned after the one before it. -/
theorem scanFrom_append :
    scan.scanFrom grammar (first ++ last) =
      (scan.scanFrom grammar first).scanFrom grammar last := by
  unfold scanFrom
  rw [String.toList_append, List.foldl_append]

/-- What is broken stays so. -/
theorem step_broken (broken : scan.mode = .broken) : scan.step grammar char = scan := by
  simp [step, broken]

/-- A broken scan stays broken. -/
theorem foldl_broken (broken : scan.mode = .broken) : chars.foldl (step grammar) scan = scan := by
  induction chars with
  | nil => rfl
  | cons char rest ih => rw [List.foldl_cons, step_broken broken, ih]

/-- A complete tag has the same effect inside other elements, unless it closes one of them. -/
theorem finishTag_under {name : List Char} (sound : (scan.finishTag grammar name).mode ≠ .broken) :
    (outer.under scan).finishTag grammar name = outer.under (scan.finishTag grammar name) := by
  unfold finishTag at sound ⊢
  by_cases opens : String.ofList name ∈ grammar.elements
  · simp only [opens, if_true]
    simp [under]
  · simp only [opens, if_false] at sound ⊢
    cases opened : scan.opened with
    | nil => simp [opened] at sound
    | cons inner rest =>
      by_cases closes : name = '/' :: inner.toList
      · simp [under, opened, closes]
      · simp [opened, closes] at sound

/-- A code point has the same effect inside other elements, unless it breaks the scan. -/
theorem step_under (sound : (scan.step grammar char).mode ≠ .broken) :
    (outer.under scan).step grammar char = outer.under (scan.step grammar char) := by
  obtain ⟨mode, opened, tags⟩ := scan
  cases mode with
  | text =>
    simp only [step, under]
    split_ifs <;> rfl
  | tag name =>
    by_cases closes : char = '>'
    · subst closes
      exact finishTag_under sound
    · simp only [step, under, closes, if_false]
      split_ifs <;> rfl
  | entity name =>
    simp only [step, under]
    split_ifs <;> rfl
  | broken => rfl

/-- A text has the same effect inside other elements, unless it breaks the scan. -/
theorem foldl_under (sound : (chars.foldl (step grammar) scan).mode ≠ .broken) :
    chars.foldl (step grammar) (outer.under scan) =
      outer.under (chars.foldl (step grammar) scan) := by
  induction chars generalizing scan with
  | nil => rfl
  | cons char rest ih =>
    rw [List.foldl_cons] at sound ⊢
    have here : (scan.step grammar char).mode ≠ .broken := by
      intro broken
      rw [foldl_broken broken] at sound
      exact sound broken
    rw [step_under here, List.foldl_cons]
    exact ih sound

/-- Plain code points between tags have no effect. -/
theorem foldl_plain (between : scan.mode = .text) (plain : ∀ char ∈ chars, marking char = false) :
    chars.foldl (step grammar) scan = scan := by
  induction chars with
  | nil => rfl
  | cons char rest ih =>
    have here := plain char List.mem_cons_self
    unfold marking at here
    simp only [Bool.or_eq_false_iff, beq_eq_false_iff_ne] at here
    obtain ⟨⟨less, more⟩, ampersand⟩ := here
    have stays : scan.step grammar char = scan := by
      simp [step, between, less, more, ampersand]
    rw [List.foldl_cons, stays]
    exact ih fun other inside => plain other (List.mem_cons_of_mem _ inside)

/-- A code point that ends nothing is scanned between tags when the scan is there before it. -/
theorem step_settles (plain : marking char = false) (other : char ≠ ';')
    (between : (scan.step grammar char).mode = .text) : scan.step grammar char = scan := by
  unfold marking at plain
  simp only [Bool.or_eq_false_iff, beq_eq_false_iff_ne] at plain
  obtain ⟨⟨less, more⟩, ampersand⟩ := plain
  obtain ⟨mode, opened, tags⟩ := scan
  cases mode with
  | text => simp [step, less, more, ampersand]
  | tag name => simp [step, marking, less, more, ampersand] at between
  | entity name => simp [step, marking, less, more, ampersand, other] at between
  | broken => rfl

/-- Code points that end nothing leave a scan between tags only where it is there before them. -/
theorem foldl_settles (plain : ∀ char ∈ chars, marking char = false ∧ char ≠ ';')
    (between : (chars.foldl (step grammar) scan).mode = .text) :
    chars.foldl (step grammar) scan = scan := by
  induction chars generalizing scan with
  | nil => rfl
  | cons char rest ih =>
    rw [List.foldl_cons] at between ⊢
    have later := ih (fun other inside => plain other (List.mem_cons_of_mem _ inside)) between
    rw [later] at between ⊢
    exact step_settles (plain char List.mem_cons_self).1 (plain char List.mem_cons_self).2 between

/-- Tags that are met or begun. -/
def begun (scan : Scan) : Nat :=
  match scan.mode with
  | .tag _ => scan.tags.length + 1
  | _ => scan.tags.length

/-- A tag that is finished is counted. -/
theorem finishTag_tags {name : List Char} (sound : (scan.finishTag grammar name).mode ≠ .broken) :
    (scan.finishTag grammar name).mode = .text ∧
      (scan.finishTag grammar name).tags.length = scan.tags.length + 1 := by
  unfold finishTag at sound ⊢
  simp only at sound ⊢
  split_ifs at sound ⊢ with opens
  · exact ⟨rfl, List.length_append⟩
  · split at sound
    · split_ifs at sound ⊢
      · exact ⟨rfl, List.length_append⟩
      · exact absurd rfl sound
    · exact absurd rfl sound

/-- Every bracket that does not break the scan begins or ends a tag. -/
theorem step_brackets (sound : (scan.step grammar char).mode ≠ .broken) :
    (scan.step grammar char).begun = scan.begun + (if char = '<' then 1 else 0) ∧
      (scan.step grammar char).tags.length = scan.tags.length + if char = '>' then 1 else 0 := by
  obtain ⟨mode, opened, tags⟩ := scan
  cases mode with
  | text =>
    simp only [step] at sound ⊢
    split_ifs at sound ⊢ <;> simp_all [begun]
  | tag name =>
    by_cases closes : char = '>'
    · subst closes
      have ended := finishTag_tags (sound : (finishTag grammar _ name).mode ≠ .broken)
      have here : (Scan.mk (.tag name) opened tags).step grammar '>' =
          (Scan.mk (.tag name) opened tags).finishTag grammar name := rfl
      rw [here]
      simp [begun, ended]
    · simp only [step, closes, if_false] at sound ⊢
      split_ifs at sound ⊢ <;> simp_all [begun, marking]
  | entity name =>
    simp only [step] at sound ⊢
    split_ifs at sound ⊢ <;> simp_all [begun, marking]
  | broken => exact absurd rfl sound

/-- The brackets of a sound text are those of its tags. -/
theorem foldl_brackets (sound : (chars.foldl (step grammar) scan).mode ≠ .broken) :
    (chars.foldl (step grammar) scan).begun = scan.begun + chars.count '<' ∧
      (chars.foldl (step grammar) scan).tags.length = scan.tags.length + chars.count '>' := by
  induction chars generalizing scan with
  | nil => exact ⟨rfl, rfl⟩
  | cons char rest ih =>
    rw [List.foldl_cons] at sound ⊢
    have here : (scan.step grammar char).mode ≠ .broken := by
      intro broken
      rw [foldl_broken broken] at sound
      exact sound broken
    obtain ⟨opening, closing⟩ := ih sound
    obtain ⟨first, last⟩ := step_brackets here
    rw [opening, closing, first, last, List.count_cons, List.count_cons]
    simp only [beq_iff_eq]
    omega

end Scan

/-! ## Marked up parts -/

/-- A marked up text has no bracket but those of its tags. -/
theorem Marks.brackets (marks : Marks grammar text tags) :
    text.toList.count '<' = tags.length ∧ text.toList.count '>' = tags.length := by
  have ended : text.toList.foldl (Scan.step grammar) .start = ⟨.text, [], tags⟩ := marks
  obtain ⟨opening, closing⟩ : _ ∧ _ := Scan.foldl_brackets
    (by rw [ended]; exact nofun : (text.toList.foldl (Scan.step grammar) .start).mode ≠ .broken)
  rw [ended] at opening closing
  exact ⟨((Nat.zero_add _).symm.trans opening.symm), ((Nat.zero_add _).symm.trans closing.symm)⟩

/-- A marked up text has the same effect anywhere between tags. -/
theorem Marks.scanFrom (marks : Marks grammar text tags) (between : scan.mode = .text) :
    scan.scanFrom grammar text = ⟨.text, scan.opened, scan.tags ++ tags⟩ := by
  have framed : scan.under .start = scan := by
    obtain ⟨mode, opened, met⟩ := scan
    obtain rfl : mode = .text := between
    simp [Scan.under, Scan.start]
  have sound : (text.toList.foldl (Scan.step grammar) .start).mode ≠ .broken := by
    have ended : text.toList.foldl (Scan.step grammar) .start = ⟨.text, [], tags⟩ := marks
    rw [ended]
    exact nofun
  have moved : text.toList.foldl (Scan.step grammar) (scan.under .start) =
      scan.under (text.toList.foldl (Scan.step grammar) .start) := Scan.foldl_under sound
  rw [framed] at moved
  unfold Scan.scanFrom
  rw [moved, show text.toList.foldl (Scan.step grammar) .start = ⟨.text, [], tags⟩ from marks]
  rfl

/-- An empty text marks nothing. -/
theorem marks_empty : Marks grammar "" [] := rfl

/-- An empty text has no tags. -/
theorem Marks.eq_nil (marks : Marks grammar "" tags) : tags = [] :=
  (congrArg Scan.tags marks).symm

/-- Two texts mark what each of them marks. -/
theorem Marks.append (marks : Marks grammar first tags) (then' : Marks grammar last others) :
    Marks grammar (first ++ last) (tags ++ others) := by
  unfold Marks
  rw [Scan.scanFrom_append, show Scan.start.scanFrom grammar first = _ from marks]
  exact then'.scanFrom rfl

/-- Blanks are not markup and end no entity. -/
theorem marking_of_isSpace (space : isSpace char = true) : marking char = false ∧ char ≠ ';' := by
  have other : ∀ mark : Char, isSpace mark = false → char ≠ mark := by
    rintro mark solid rfl
    rw [space] at solid
    cases solid
  unfold marking
  simp [other '<' rfl, other '>' rfl, other '&' rfl, other ';' rfl]

/-- A marked up text without the blanks around it has the same tags. -/
theorem Marks.strip (marks : Marks grammar text tags) : Marks grammar (Lib.strip text) tags := by
  obtain ⟨before, after, whole, front, back⟩ := exists_trim isSpace text.toList
  have blanks : ∀ char ∈ after, marking char = false ∧ char ≠ ';' :=
    fun char inside => marking_of_isSpace (back char inside)
  have begun : before.foldl (Scan.step grammar) .start = .start :=
    Scan.foldl_plain rfl fun char inside => (marking_of_isSpace (front char inside)).1
  have scanned : text.toList.foldl (Scan.step grammar) .start = ⟨.text, [], tags⟩ := marks
  rw [whole, List.foldl_append, List.foldl_append, begun] at scanned
  unfold Marks Scan.scanFrom Lib.strip
  rw [String.toList_ofList]
  exact (Scan.foldl_settles blanks (by rw [scanned])).symm.trans scanned

/-- A text without code points of markup has no tags. -/
theorem marks_plain (plain : ∀ char ∈ text.toList, marking char = false) : Marks grammar text [] :=
  Scan.foldl_plain rfl plain

end ProxSync.Lib
