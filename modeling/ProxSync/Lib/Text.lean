import Mathlib
/-!
# Texts as code points

A text is read as its code points. Blanks are the code points that stripping and splitting remove,
the first word of a text ends at its first blank, and lowering maps the ASCII capitals, which are
the only code points that lower to hexadecimal digits.
-/
namespace ProxSync.Lib

/-- The code points that stripping a text removes. -/
def isSpace (char : Char) : Bool :=
  let code := char.toNat
  (9 ≤ code && code ≤ 13) || (28 ≤ code && code ≤ 32) || code == 0x85 || code == 0xa0 ||
    code == 0x1680 || (0x2000 ≤ code && code ≤ 0x200a) || code == 0x2028 || code == 0x2029 ||
    code == 0x202f || code == 0x205f || code == 0x3000

/-- A text of which nothing is left when it is stripped. -/
def blank (text : String) : Bool := text.toList.all isSpace

/-- A list without the leading and trailing elements that a test accepts. -/
def trim {α : Type} (test : α → Bool) (items : List α) : List α :=
  ((items.dropWhile test).reverse.dropWhile test).reverse

/-- A text without the blanks around it. -/
def strip (text : String) : String := .ofList (trim isSpace text.toList)

/-- The first word of a text, empty where the text is blank. -/
def firstWord (text : String) : String :=
  .ofList ((text.toList.dropWhile isSpace).takeWhile fun char => !isSpace char)

/-- A text with its ASCII capitals lowered. -/
def lower (text : String) : String := .ofList (text.toList.map Char.toLower)

/-- Whether a text occurs in another. -/
def occursIn (part text : String) : Bool := decide (part.toList <:+: text.toList)

/-- What comes before the first separator of a text, whether there is one, and what comes after it.
-/
def partition (separator : Char) (text : String) : String × Bool × String :=
  let rest := text.toList.dropWhile (· != separator)
  (.ofList (text.toList.takeWhile (· != separator)), !rest.isEmpty, .ofList rest.tail)

/-- The parts of a text between separators. -/
def split (separator : Char) (text : String) : List String :=
  (text.toList.splitOn separator).map .ofList

/-- The words of a text, between blanks. -/
def words (text : String) : List String :=
  ((text.toList.splitOnP isSpace).filter fun word => !word.isEmpty).map .ofList

/-- Texts joined by a separator. -/
def join (separator : Char) (texts : List String) : String :=
  .ofList ([separator].intercalate (texts.map String.toList))

/-- A word that a blank follows is the first word of the text it starts. -/
theorem firstWord_append {word rest : String} {gap : Char} (some : word ≠ "")
    (solid : ∀ char ∈ word.toList, isSpace char = false) (space : isSpace gap = true) :
    firstWord (word ++ .ofList (gap :: rest.toList)) = word := by
  have begun : (word.toList ++ gap :: rest.toList).dropWhile isSpace =
      word.toList ++ gap :: rest.toList := by
    cases chars : word.toList with
    | nil => exact absurd (String.toList_inj.mp (chars.trans String.toList_empty.symm)) some
    | cons first others =>
      have plain := solid first (by rw [chars]; exact List.mem_cons_self)
      rw [List.cons_append, List.dropWhile_cons_of_neg (by rw [plain]; decide)]
  have ended : (word.toList ++ gap :: rest.toList).takeWhile (fun char => !isSpace char) =
      word.toList := by
    rw [List.takeWhile_append_of_pos (fun char inside => by rw [solid char inside]; rfl),
      List.takeWhile_cons_of_neg (by rw [space]; decide), List.append_nil]
  unfold firstWord
  rw [String.toList_append, String.toList_ofList, begun, ended, String.ofList_toList]

/-- Two texts joined by a separator are determined by the joined text and the number of separators
in the second one. -/
theorem append_cons_inj_of_count {α : Type} [DecidableEq α] {separator : α}
    {first second last other : List α}
    (same : first ++ separator :: last = second ++ separator :: other)
    (counts : last.count separator = other.count separator) : first = second ∧ last = other := by
  have longer : ∀ {middle some rest : List α}, separator :: some = middle ++ separator :: rest →
      some.count separator = rest.count separator → middle = [] := by
    intro middle some rest split counted
    cases middle with
    | nil => rfl
    | cons head tail =>
      have after : some = tail ++ separator :: rest := List.tail_eq_of_cons_eq split
      rw [after, List.count_append, List.count_cons_self] at counted
      omega
  rcases List.append_eq_append_iff.mp same with ⟨middle, rfl, tail⟩ | ⟨middle, rfl, tail⟩
  · obtain rfl := longer tail counts
    exact ⟨(List.append_nil _).symm, List.tail_eq_of_cons_eq tail⟩
  · obtain rfl := longer tail counts.symm
    exact ⟨List.append_nil _, (List.tail_eq_of_cons_eq tail).symm⟩

/-- Joined texts without separators are split apart again. -/
theorem split_join {separator : Char} {texts : List String} (some : texts ≠ [])
    (plain : ∀ text ∈ texts, separator ∉ text.toList) : split separator (join separator texts) =
      texts := by
  unfold split join
  rw [String.toList_ofList, List.splitOn_intercalate, List.map_map]
  · exact (List.map_congr_left fun text _ => String.ofList_toList).trans (List.map_id _)
  · intro part inside
    obtain ⟨text, there, rfl⟩ := List.mem_map.mp inside
    exact plain text there
  · intro none
    exact some (List.map_eq_nil_iff.mp none)

/-- No part between separators holds one. -/
theorem false_of_mem_splitOnP {α : Type} {test : α → Bool} {items part : List α} {item : α}
    (inside : part ∈ items.splitOnP test) (held : item ∈ part) : test item = false := by
  induction items generalizing part with
  | nil =>
    rw [List.splitOnP_nil, List.mem_singleton] at inside
    rw [inside] at held
    exact absurd held List.not_mem_nil
  | cons first rest ih =>
    rw [List.splitOnP_cons_eq_if_modifyHead] at inside
    split at inside
    · rcases List.mem_cons.mp inside with rfl | later
      · exact absurd held List.not_mem_nil
      · exact ih later held
    · rename_i differ
      obtain ⟨head, tail, split⟩ := List.exists_cons_of_ne_nil (List.splitOnP_ne_nil test rest)
      rw [split, List.modifyHead_cons] at inside
      rcases List.mem_cons.mp inside with rfl | later
      · rcases List.mem_cons.mp held with rfl | within
        · exact Bool.eq_false_of_not_eq_true differ
        · exact ih (by rw [split]; exact List.mem_cons_self) within
      · exact ih (by rw [split]; exact List.mem_cons_of_mem _ later) held

/-- A part between separators has none. -/
theorem notMem_of_mem_splitOn {α : Type} [DecidableEq α] {separator : α} {items part : List α}
    (inside : part ∈ items.splitOn separator) : separator ∉ part := by
  intro held
  rw [List.splitOn_eq_splitOnP] at inside
  have differ := false_of_mem_splitOnP inside held
  rw [beq_self_eq_true] at differ
  cases differ

variable {separator : Char} {text : String}

/-- What comes before the first separator and what comes after it. -/
theorem toList_of_partition (separated : (partition separator text).2.1 = true) :
    text.toList = (partition separator text).1.toList ++
        separator :: (partition separator text).2.2.toList ∧
      separator ∉ (partition separator text).1.toList := by
  have whole := List.takeWhile_append_dropWhile (p := (· != separator)) (l := text.toList)
  unfold partition at separated ⊢
  simp only [String.toList_ofList] at separated ⊢
  constructor
  · cases rest : text.toList.dropWhile (· != separator) with
    | nil =>
      rw [rest] at separated
      cases separated
    | cons first others =>
      have stops := List.head?_dropWhile_not (· != separator) text.toList
      rw [rest] at stops whole
      obtain rfl : first = separator := by simpa using stops
      exact whole.symm
  · intro inside
    have all : ∀ char ∈ text.toList.takeWhile (· != separator), char ≠ separator := by
      intro char member
      simpa using List.mem_takeWhile_imp member
    exact all separator inside rfl

/-- A text without separators comes before the first one. -/
theorem toList_of_not_partition (whole : (partition separator text).2.1 = false) :
    (partition separator text).1 = text ∧ separator ∉ text.toList := by
  unfold partition at whole ⊢
  simp only [Bool.not_eq_false'] at whole ⊢
  have nothing := List.dropWhile_eq_nil_iff.mp (List.isEmpty_iff.mp whole)
  constructor
  · rw [List.takeWhile_eq_self_iff.mpr nothing, String.ofList_toList]
  · intro inside
    have differs := nothing separator inside
    rw [bne_self_eq_false] at differs
    cases differs

/-- A text is split into the part before its first separator and the parts of what comes after. -/
theorem split_of_partition (separated : (partition separator text).2.1 = true) :
    split separator text =
      (partition separator text).1 :: split separator (partition separator text).2.2 := by
  obtain ⟨parts, plain⟩ := toList_of_partition separated
  unfold split
  rw [parts, List.splitOn_append_cons_self_of_not_mem plain, List.map_cons, String.ofList_toList]

/-- A text that is split has a part. -/
theorem split_ne_nil : split separator text ≠ [] := by
  intro none
  exact List.splitOn_ne_nil separator text.toList (List.map_eq_nil_iff.mp none)

/-- A text without separators is one part. -/
theorem split_of_notMem (plain : separator ∉ text.toList) : split separator text = [text] := by
  unfold split
  rw [List.splitOn_eq_singleton plain, List.map_singleton, String.ofList_toList]

/-- What is around a separator is in the text. -/
theorem mem_of_mem_partition {char : Char} (inside : char ∈ (partition separator text).1.toList ∨
    char ∈ (partition separator text).2.2.toList) : char ∈ text.toList := by
  unfold partition at inside
  simp only [String.toList_ofList] at inside
  rcases inside with before | after
  · exact (List.takeWhile_sublist _).subset before
  · exact (List.dropWhile_sublist _).subset (List.mem_of_mem_tail after)

/-- What is in a part is in the text. -/
theorem mem_of_mem_split {char : Char} {part : String} (inside : char ∈ part.toList)
    (listed : part ∈ split separator text) : char ∈ text.toList := by
  have parts : ∀ {items part : List Char}, part ∈ items.splitOn separator →
      ∀ char ∈ part, char ∈ items := by
    intro items
    induction items with
    | nil =>
      intro part listed
      rw [List.splitOn_nil, List.mem_singleton] at listed
      rw [listed]
      exact fun _ inside => inside
    | cons first rest ih =>
      intro part listed char inside
      rw [List.splitOn_cons_eq_if_modifyHead] at listed
      split at listed
      · rcases List.mem_cons.mp listed with rfl | later
        · cases inside
        · exact List.mem_cons_of_mem _ (ih later char inside)
      · obtain ⟨head, tail, split⟩ :=
          List.exists_cons_of_ne_nil (List.splitOn_ne_nil separator rest)
        rw [split, List.modifyHead_cons] at listed
        rcases List.mem_cons.mp listed with rfl | later
        · rcases List.mem_cons.mp inside with rfl | within
          · exact List.mem_cons_self
          · exact List.mem_cons_of_mem _ (ih (by rw [split]; exact List.mem_cons_self) char within)
        · exact List.mem_cons_of_mem _
            (ih (by rw [split]; exact List.mem_cons_of_mem _ later) char inside)
  unfold split at listed
  obtain ⟨items, there, rfl⟩ := List.mem_map.mp listed
  rw [String.toList_ofList] at inside
  exact parts there char inside

end ProxSync.Lib
