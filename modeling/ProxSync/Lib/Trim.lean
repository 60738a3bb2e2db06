import ProxSync.Lib.Text
/-!
# Lists without what is at their ends

Trimming removes the leading and trailing elements that a test accepts. Its result is the part of
the list that has no such element at an end, so a trimmed list is left as it is. Trimming by a
second test may bring elements to the ends that the first one accepts, where the list has such an
element right behind those that the second one removes.
-/
namespace ProxSync.Lib

/-- No element at an end passes the test. -/
structure Trimmed {α : Type} (test : α → Bool) (items : List α) : Prop where
  front : ∀ item, items.head? = some item → test item = false
  back : ∀ item, items.getLast? = some item → test item = false

/-- What follows the leading elements that pass a test passes another one. -/
def Behind {α : Type} (test other : α → Bool) (items : List α) : Prop :=
  ∃ run item rest, items = run ++ item :: rest ∧ (∀ first ∈ run, test first = true) ∧
    other item = true

variable {α : Type} {test other : α → Bool} {items before bare after : List α}

/-- What is trimmed is trimmed from behind. -/
theorem Trimmed.reverse (trimmed : Trimmed test items) : Trimmed test items.reverse where
  front item first := trimmed.back item (by rwa [List.head?_reverse] at first)
  back item last := trimmed.front item (by rwa [List.getLast?_reverse] at last)

/-- What is trimmed off is at the ends. -/
theorem exists_trim (test : α → Bool) (items : List α) :
    ∃ before after, items = before ++ trim test items ++ after ∧
      (∀ item ∈ before, test item = true) ∧ ∀ item ∈ after, test item = true := by
  refine ⟨items.takeWhile test, ((items.dropWhile test).reverse.takeWhile test).reverse, ?_,
    fun _ => List.mem_takeWhile_imp, fun _ inside => ?_⟩
  · unfold trim
    rw [List.append_assoc, ← List.reverse_append, List.takeWhile_append_dropWhile,
      List.reverse_reverse, List.takeWhile_append_dropWhile]
  · exact List.mem_takeWhile_imp (List.mem_reverse.mp inside)

/-- Trimming removes elements. -/
theorem trim_sublist : (trim test items).Sublist items := by
  have kept := (List.dropWhile_suffix test (l := (items.dropWhile test).reverse)).sublist.reverse
  rw [List.reverse_reverse] at kept
  exact kept.trans (List.dropWhile_suffix test).sublist

/-- What is left when a list is trimmed comes from it. -/
theorem mem_of_mem_trim {item : α} (inside : item ∈ trim test items) : item ∈ items :=
  trim_sublist.subset inside

/-- Dropping what passes a test stops at the first element that does not. -/
theorem dropWhile_of_front (front : ∀ item, items.head? = some item → test item = false) :
    items.dropWhile test = items := by
  cases items with
  | nil => rfl
  | cons first rest => exact List.dropWhile_cons_of_neg (by simp [front first rfl])

/-- The part between what passes the test is what trimming leaves. -/
theorem trim_around (front : ∀ item ∈ before, test item = true)
    (back : ∀ item ∈ after, test item = true) (trimmed : Trimmed test bare) :
    trim test (before ++ bare ++ after) = bare := by
  unfold trim
  rw [List.append_assoc, List.dropWhile_append_of_pos front]
  cases none : bare with
  | nil => simp [List.dropWhile_eq_nil_iff.mpr back]
  | cons first rest =>
    rw [← none]
    have stops : ∀ item, (bare ++ after).head? = some item → test item = false := by
      intro item found
      apply trimmed.front item
      rw [none] at found ⊢
      exact found
    rw [dropWhile_of_front stops, List.reverse_append, List.dropWhile_append_of_pos,
      dropWhile_of_front trimmed.reverse.front, List.reverse_reverse]
    intro item inside
    exact back item (List.mem_reverse.mp inside)

/-- What trimming leaves has no element at an end that passes the test. -/
theorem trimmed_trim : Trimmed test (trim test items) where
  front item found := by
    have start : trim test items <+: items.dropWhile test := by
      have kept := List.dropWhile_suffix (l := (items.dropWhile test).reverse) test
      have turned := List.reverse_prefix.mpr kept
      rwa [List.reverse_reverse] at turned
    obtain ⟨rest, whole⟩ := start
    have first : (items.dropWhile test).head? = some item := by
      rw [← whole, List.head?_append, found]
      rfl
    have stops := List.head?_dropWhile_not test items
    rw [first] at stops
    simpa using stops
  back item found := by
    unfold trim at found
    rw [List.getLast?_reverse] at found
    have stops := List.head?_dropWhile_not test (items.dropWhile test).reverse
    rw [found] at stops
    simpa using stops

/-- A list without such elements at its ends is left as it is. -/
theorem trim_of_trimmed (trimmed : Trimmed test items) : trim test items = items := by
  have whole := @trim_around _ test [] items [] (by simp) (by simp) trimmed
  simpa using whole

/-- Trimming leaves exactly what is trimmed. -/
theorem trim_eq_self_iff : trim test items = items ↔ Trimmed test items := by
  constructor
  · intro same
    rw [← same]
    exact trimmed_trim
  · exact trim_of_trimmed

/-- A list that two tests leave as it is has nothing at its ends that the first one accepts. -/
theorem trimmed_of_trim_trim (same : trim other (trim test items) = items) :
    Trimmed test items := by
  have fewer := (@trim_sublist _ other (trim test items)).length_le
  rw [same] at fewer
  exact trim_eq_self_iff.mp (trim_sublist.eq_of_length_le fewer)

/-- Trimming is the same from either end. -/
theorem trim_reverse : trim test items.reverse = (trim test items).reverse := by
  obtain ⟨before, after, whole, front, back⟩ := exists_trim test items
  have turned : items.reverse = after.reverse ++ (trim test items).reverse ++ before.reverse := by
    conv_lhs => rw [whole]
    simp
  rw [turned]
  apply trim_around
  · intro item inside
    exact back item (List.mem_reverse.mp inside)
  · intro item inside
    exact front item (List.mem_reverse.mp inside)
  · exact trimmed_trim.reverse

/-- What follows the leading elements that pass a test is where dropping them stops. -/
theorem behind_iff_dropWhile (disjoint : ∀ item, other item = true → test item = false) :
    Behind test other items ↔
      ∃ item, (items.dropWhile test).head? = some item ∧ other item = true := by
  constructor
  · rintro ⟨run, item, rest, split, all, passes⟩
    refine ⟨item, ?_, passes⟩
    rw [split, List.dropWhile_append_of_pos all,
      List.dropWhile_cons_of_neg (by simp [disjoint item passes])]
    rfl
  · rintro ⟨item, found, passes⟩
    cases left : items.dropWhile test with
    | nil =>
      rw [left] at found
      cases found
    | cons first rest =>
      rw [left] at found
      obtain rfl := Option.some.inj found
      refine ⟨items.takeWhile test, first, rest, ?_, fun _ => List.mem_takeWhile_imp, passes⟩
      rw [← left, List.takeWhile_append_dropWhile]

/-- A trimmed list starts with what follows the leading elements that pass the test. -/
theorem behind_iff_head (disjoint : ∀ item, other item = true → test item = false) :
    Behind test other items ↔
      ∃ item, (trim test items).head? = some item ∧ other item = true := by
  obtain ⟨before, after, whole, front, back⟩ := exists_trim test items
  have dropped : items.dropWhile test = (trim test items ++ after).dropWhile test := by
    conv_lhs => rw [whole, List.append_assoc, List.dropWhile_append_of_pos front]
  rw [behind_iff_dropWhile disjoint, dropped]
  cases left : trim test items with
  | nil =>
    rw [List.nil_append, List.dropWhile_eq_nil_iff.mpr back]
  | cons first others =>
    have solid := (@trimmed_trim _ test items).front first (by rw [left]; rfl)
    rw [List.cons_append, List.dropWhile_cons_of_neg (by simp [solid])]
    rfl

/-- A list without elements that pass the test has none at its ends. -/
theorem trimmed_of_all (solid : ∀ item ∈ items, test item = false) : Trimmed test items where
  front item first := solid item (List.mem_of_head? first)
  back item last := solid item (List.mem_of_getLast? last)

/-- Trimming by one test leaves the ends free of what another one accepts when the list, from either
end, has no such element right behind what is trimmed off. -/
theorem trimmed_trim_iff (disjoint : ∀ item, other item = true → test item = false) :
    Trimmed other (trim test items) ↔
      ¬ Behind test other items ∧ ¬ Behind test other items.reverse := by
  rw [behind_iff_head disjoint, behind_iff_head disjoint, trim_reverse]
  simp only [List.head?_reverse, not_exists, not_and, Bool.not_eq_true]
  exact ⟨fun ⟨front, back⟩ => ⟨front, back⟩, fun ⟨front, back⟩ => ⟨front, back⟩⟩

end ProxSync.Lib
