import ProxSync.Lib.Trim
/-!
# Lines of words

A text is split into lines at the code points that end one, and a line into words at its blanks.
Lines that end are split apart again, and so are words with blanks between them, whatever the
number of blanks.
-/
namespace ProxSync.Lib

/-- The code points that end a line. -/
def endsLine (char : Char) : Bool :=
  let code := char.toNat
  (10 ≤ code && code ≤ 13) || (28 ≤ code && code ≤ 30) || code == 0x85 || code == 0x2028 ||
    code == 0x2029

/-- A code point in front of the first line. -/
def inFront (char : Char) : List (List Char) → List (List Char)
  | [] => [[char]]
  | line :: lines => (char :: line) :: lines

/-- The lines of a text; a carriage return and a line feed end one line. -/
def splitlines : List Char → List (List Char)
  | [] => []
  | '\r' :: '\n' :: rest => [] :: splitlines rest
  | char :: rest =>
    if endsLine char then [] :: splitlines rest else inFront char (splitlines rest)

/-- The words of a line. -/
def wordsOf (line : List Char) : List (List Char) :=
  (line.splitOnP isSpace).filter fun word => !word.isEmpty

/-- A word without blanks, which is not empty. -/
structure Word where
  chars : List Char
  nonempty : chars ≠ []
  solid : ∀ char ∈ chars, isSpace char = false
  deriving DecidableEq

/-- A text with blanks behind it, up to a width. -/
def padRight (width : Nat) (chars : List Char) : List Char :=
  chars ++ List.replicate (width - chars.length) ' '

/-- A text with blanks in front of it, up to a width. -/
def padLeft (width : Nat) (chars : List Char) : List Char :=
  List.replicate (width - chars.length) ' ' ++ chars

/-- Words in columns of their widths, each behind a blank. -/
def columns (cells : List (Nat × Word)) : List Char :=
  cells.flatMap fun cell => ' ' :: padLeft cell.1 cell.2.chars

/-- A line of a table, with a first column that is aligned to the left. -/
def tableLine (first : Nat × Word) (cells : List (Nat × Word)) : List Char :=
  padRight first.1 first.2.chars ++ columns cells

variable {line rest gap : List Char} {char : Char} {word : Word}

/-- The end of a line is a blank. -/
theorem isSpace_of_endsLine (ends : endsLine char = true) : isSpace char = true := by
  unfold endsLine at ends
  unfold isSpace
  simp only [Bool.or_eq_true, Bool.and_eq_true, decide_eq_true_eq, beq_iff_eq] at ends ⊢
  omega

/-- A line that a line feed ends is the first one. -/
theorem splitlines_append (plain : ∀ char ∈ line, endsLine char = false) :
    splitlines (line ++ '\n' :: rest) = line :: splitlines rest := by
  induction line with
  | nil =>
    rw [List.nil_append, splitlines.eq_3 _ _ (by simp), if_pos (by decide)]
  | cons first others ih =>
    have here := plain first List.mem_cons_self
    have later := ih fun char inside => plain char (List.mem_cons_of_mem _ inside)
    have step : splitlines (first :: (others ++ '\n' :: rest)) =
        inFront first (splitlines (others ++ '\n' :: rest)) := by
      rw [splitlines.eq_3 _ _ (by rintro _ rfl; cases here), here]
      rfl
    rw [List.cons_append, step, later]
    rfl

/-- Lines that line feeds end are split apart again. -/
theorem splitlines_flatMap {lines : List (List Char)}
    (plain : ∀ line ∈ lines, ∀ char ∈ line, endsLine char = false) :
    splitlines (lines.flatMap fun line => line ++ ['\n']) = lines := by
  induction lines with
  | nil => rfl
  | cons first others ih =>
    rw [List.flatMap_cons, List.append_assoc, List.singleton_append,
      splitlines_append (plain first List.mem_cons_self),
      ih fun line inside => plain line (List.mem_cons_of_mem _ inside)]

/-- Blanks in front of words are skipped. -/
theorem wordsOf_blanks (blanks : ∀ char ∈ gap, isSpace char = true) :
    wordsOf (gap ++ rest) = wordsOf rest := by
  induction gap with
  | nil => rfl
  | cons first others ih =>
    have space := blanks first List.mem_cons_self
    rw [← ih fun char inside => blanks char (List.mem_cons_of_mem _ inside)]
    unfold wordsOf
    rw [List.cons_append, List.splitOnP_cons_eq_if_modifyHead, if_pos space]
    rfl

/-- A single word is the only one. -/
theorem wordsOf_word : wordsOf word.chars = [word.chars] := by
  unfold wordsOf
  rw [List.splitOnP_eq_singleton word.solid]
  exact List.filter_cons_of_pos (by simp [word.nonempty])

/-- A word with blanks behind it is the first one. -/
theorem wordsOf_append (some : gap ≠ []) (blanks : ∀ char ∈ gap, isSpace char = true) :
    wordsOf (word.chars ++ (gap ++ rest)) = word.chars :: wordsOf rest := by
  cases gap with
  | nil => exact absurd rfl some
  | cons first others =>
    have skipped : wordsOf (others ++ rest) = wordsOf rest :=
      wordsOf_blanks fun char inside => blanks char (List.mem_cons_of_mem _ inside)
    rw [← skipped]
    unfold wordsOf
    rw [List.cons_append, List.splitOnP_append_cons_of_forall_mem word.solid first
      (blanks first List.mem_cons_self)]
    exact List.filter_cons_of_pos (by simp [word.nonempty])

/-- Words with single blanks between them are split apart again. -/
theorem wordsOf_intercalate (list : List Word) :
    wordsOf ([' '].intercalate (list.map Word.chars)) = list.map Word.chars := by
  induction list with
  | nil => rfl
  | cons first rest ih =>
    cases rest with
    | nil =>
      rw [List.map_singleton, List.intercalate_singleton]
      exact wordsOf_word
    | cons second others =>
      rw [List.map_cons, List.intercalate_cons_of_ne_nil (by simp), List.append_assoc,
        wordsOf_append (by simp) (by simp; decide), ih]

/-- The words of a line are words. -/
theorem exists_wordsOf (line : List Char) :
    ∃ list : List Word, list.map Word.chars = wordsOf line := by
  show wordsOf line ∈ Set.range (List.map Word.chars)
  rw [Set.range_list_map]
  intro chars inside
  obtain ⟨part, some⟩ := List.mem_filter.mp inside
  exact ⟨⟨chars, by simpa using some, fun char held => false_of_mem_splitOnP part held⟩, rfl⟩

/-- Words are the words of their line, which does not depend on the blanks between them. -/
theorem wordsOf_wordsOf (line : List Char) :
    wordsOf ([' '].intercalate (wordsOf line)) = wordsOf line := by
  obtain ⟨list, same⟩ := exists_wordsOf line
  rw [← same]
  exact wordsOf_intercalate list

/-- Padding is blank. -/
theorem isSpace_of_mem_replicate {width : Nat} (inside : char ∈ List.replicate width ' ') :
    isSpace char = true := by
  rw [List.eq_of_mem_replicate inside]
  rfl

/-- The words of columns behind a word. -/
theorem wordsOf_columns {cells : List (Nat × Word)} (blanks : ∀ char ∈ gap, isSpace char = true) :
    wordsOf (word.chars ++ (gap ++ columns cells)) =
      word.chars :: cells.map fun cell => cell.2.chars := by
  induction cells generalizing gap word with
  | nil =>
    by_cases none : gap = []
    · rw [none]
      exact (congrArg wordsOf (List.append_nil _)).trans wordsOf_word
    · rw [wordsOf_append none blanks]
      rfl
  | cons cell others ih =>
    have line : gap ++ columns (cell :: others) =
        (gap ++ ' ' :: List.replicate (cell.1 - cell.2.chars.length) ' ') ++
          (cell.2.chars ++ ([] ++ columns others)) := by
      simp [columns, padLeft]
    rw [line, wordsOf_append (by simp), ih (by simp), List.map_cons]
    intro char inside
    rcases List.mem_append.mp inside with before | behind
    · exact blanks char before
    · rcases List.mem_cons.mp behind with rfl | pad
      · rfl
      · exact isSpace_of_mem_replicate pad

/-- The words of a line of a table. -/
theorem wordsOf_tableLine {first : Nat × Word} {cells : List (Nat × Word)} :
    wordsOf (tableLine first cells) = first.2.chars :: cells.map fun cell => cell.2.chars := by
  unfold tableLine padRight
  rw [List.append_assoc]
  exact wordsOf_columns fun char => isSpace_of_mem_replicate

/-- No line ends inside of a line of a table. -/
theorem endsLine_tableLine {first : Nat × Word} {cells : List (Nat × Word)}
    (inside : char ∈ tableLine first cells) : endsLine char = false := by
  have solid : ∀ {word : Word}, char ∈ word.chars → endsLine char = false := by
    intro word inside
    have known := word.solid char inside
    cases ends : endsLine char with
    | false => rfl
    | true =>
      rw [isSpace_of_endsLine ends] at known
      cases known
  have pad : ∀ {width : Nat}, char ∈ List.replicate width ' ' → endsLine char = false := by
    intro width inside
    rw [List.eq_of_mem_replicate inside]
    rfl
  unfold tableLine padRight columns padLeft at inside
  rcases List.mem_append.mp inside with front | behind
  · exact (List.mem_append.mp front).elim solid pad
  · obtain ⟨cell, -, here⟩ := List.mem_flatMap.mp behind
    rcases List.mem_cons.mp here with rfl | cell
    · rfl
    · exact (List.mem_append.mp cell).elim pad solid

/-- A line of a table of at least two columns has no blanks around it. -/
theorem trimmed_tableLine {first : Nat × Word} {cells : List (Nat × Word)} (some : cells ≠ []) :
    Trimmed isSpace (tableLine first cells) where
  front char found := by
    obtain ⟨head, tail, split⟩ := List.exists_cons_of_ne_nil first.2.nonempty
    unfold tableLine padRight at found
    rw [split] at found
    obtain rfl := Option.some.inj found
    exact first.2.solid head (by rw [split]; exact List.mem_cons_self)
  back char found := by
    obtain ⟨others, last, rfl⟩ := (List.eq_nil_or_concat cells).resolve_left some
    have line : tableLine first (others ++ [last]) =
        (padRight first.1 first.2.chars ++ columns others ++
          ' ' :: List.replicate (last.1 - last.2.chars.length) ' ') ++ last.2.chars := by
      simp [tableLine, columns, padLeft]
    rw [List.concat_eq_append, line, List.getLast?_append_of_ne_nil _ last.2.nonempty] at found
    exact last.2.solid char (List.mem_of_getLast? found)

/-- What has no blanks begins a word exactly when it begins the word with blanks behind it. -/
theorem prefix_append_iff {start front after : List Char}
    (solid : ∀ char ∈ start, isSpace char = false)
    (gap : ∀ char, after.head? = some char → isSpace char = true) :
    start <+: front ++ after ↔ start <+: front := by
  constructor
  · intro begins
    by_cases within : start.length ≤ front.length
    · exact List.prefix_of_prefix_length_le begins (List.prefix_append _ _) within
    · have longer : front <+: start :=
        List.prefix_of_prefix_length_le (List.prefix_append _ _) begins (by omega)
      obtain ⟨more, rfl⟩ := longer
      cases more with
      | nil =>
        rw [List.append_nil] at within
        exact absurd le_rfl within
      | cons next others =>
        rw [List.prefix_append_right_inj] at begins
        obtain ⟨last, rfl⟩ := begins
        have space := gap next rfl
        rw [solid next (List.mem_append_right _ List.mem_cons_self)] at space
        cases space
  · intro begins
    exact begins.trans (List.prefix_append _ _)

/-- A line of a table begins with a text without blanks when its first word does. -/
theorem prefix_tableLine_iff {start : List Char} (solid : ∀ char ∈ start, isSpace char = false)
    {first : Nat × Word} {cells : List (Nat × Word)} :
    start <+: tableLine first cells ↔ start <+: first.2.chars := by
  unfold tableLine padRight
  rw [List.append_assoc]
  apply prefix_append_iff solid
  intro char found
  cases pad : List.replicate (first.1 - first.2.chars.length) ' ' with
  | nil =>
    rw [pad] at found
    cases cells with
    | nil => cases found
    | cons cell others =>
      obtain rfl := Option.some.inj found
      rfl
  | cons blank others =>
    rw [pad] at found
    obtain rfl := Option.some.inj found
    exact isSpace_of_mem_replicate (pad ▸ List.mem_cons_self)

end ProxSync.Lib
