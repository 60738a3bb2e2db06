import Mathlib.Data.List.Basic
import Mathlib.Data.List.Sort
import Mathlib.Order.Basic
/-!
# Ranks in a sorted list

In a list sorted by an asymmetric relation the position of an element is the number of elements
before it, so keeping a prefix keeps exactly the elements of small rank. A rank is a count: it does
not depend on the order the elements are listed in, and it can only fall when elements are removed.
Elements that are added raise a rank by those of them that come before. A scan that keeps the first
element of each key keeps each key once, and at each key what a search for it would find.
-/
namespace ProxSync.Lib

universe u

variable {α : Type u}

/-- Number of listed elements the relation puts before an element. -/
def rankIn (before : α → α → Bool) (elements : List α) (element : α) : Nat :=
  elements.countP fun other => before other element

section Rank

variable {before : α → α → Bool} {elements : List α} {element : α}

/-- Reordering the list keeps every rank. -/
theorem rankIn_perm {others : List α} (reordered : elements.Perm others) :
    rankIn before elements element = rankIn before others element :=
  reordered.countP_eq _

variable (asymmetric : ∀ first second, before first second = true → before second first = false)
  (sorted : elements.Pairwise fun first second => before first second = true)

include asymmetric sorted

/-- The rank of an element of a sorted list is the length of the part before it. -/
theorem rankIn_split {ahead behind : List α} (split : elements = ahead ++ element :: behind) :
    rankIn before elements element = ahead.length := by
  rw [split, List.pairwise_append, List.pairwise_cons] at sorted
  obtain ⟨_, ⟨above, _⟩, below⟩ := sorted
  have itself : before element element = false := by
    by_contra reflexive
    have holds : before element element = true := by simpa using reflexive
    simp [asymmetric _ _ holds] at holds
  have counted : ahead.countP (fun other => before other element) = ahead.length :=
    List.countP_eq_length.mpr fun other member => below other member element (by simp)
  have uncounted : behind.countP (fun other => before other element) = 0 :=
    List.countP_eq_zero.mpr fun other member => by simp [asymmetric _ _ (above other member)]
  simp [rankIn, split, List.countP_append, counted, uncounted, itself]

/-- A kept prefix holds exactly the elements whose rank is below its length. -/
theorem mem_take_iff_rankIn {kept : Nat} :
    element ∈ elements.take kept ↔ element ∈ elements ∧ rankIn before elements element < kept := by
  constructor
  · intro member
    have stored := List.mem_of_mem_take member
    obtain ⟨ahead, behind, split⟩ := List.append_of_mem member
    have whole : elements = ahead ++ element :: (behind ++ elements.drop kept) := by
      rw [← List.cons_append, ← List.append_assoc, ← split, List.take_append_drop]
    have short : ahead.length < (elements.take kept).length := by simp [split]
    refine ⟨stored, ?_⟩
    rw [rankIn_split asymmetric sorted whole]
    exact lt_of_lt_of_le short (List.length_take_le _ _)
  · rintro ⟨stored, small⟩
    obtain ⟨ahead, behind, split⟩ := List.append_of_mem stored
    rw [rankIn_split asymmetric sorted split] at small
    have leading : element ∈ (element :: behind).take (kept - ahead.length) := by
      obtain ⟨spare, extra⟩ : ∃ spare, kept - ahead.length = spare + 1 :=
        ⟨kept - ahead.length - 1, by omega⟩
      simp [extra]
    rw [split, List.take_append]
    exact List.mem_append_right _ leading

/-- A test that only the element passes finds it at its rank. -/
theorem findIdx_eq_rankIn {test : α → Bool} (stored : element ∈ elements)
    (found : test element = true)
    (unique : ∀ other ∈ elements, test other = true → other = element) :
    elements.findIdx test = rankIn before elements element := by
  obtain ⟨ahead, behind, split⟩ := List.append_of_mem stored
  rw [rankIn_split asymmetric sorted split]
  have below : ∀ other ∈ ahead, before other element = true := by
    rw [split, List.pairwise_append] at sorted
    exact fun other member => sorted.2.2 other member element (by simp)
  have missed : ahead.findIdx test = ahead.length := by
    refine List.findIdx_eq_length.mpr fun other member => ?_
    by_contra passes
    have same : other = element :=
      unique other (by simp [split, member]) (by simpa using passes)
    have reflexive : before element element = true := same ▸ below other member
    simp [asymmetric _ _ reflexive] at reflexive
  rw [split, List.findIdx_append, missed, if_neg (Nat.lt_irrefl _),
    List.findIdx_cons, found]
  simp

end Rank

/-- A nonempty list has an element of rank zero under a transitive asymmetric relation. -/
theorem exists_rankIn_zero {before : α → α → Bool} {elements : List α}
    (sorted : elements.Pairwise fun first second => before first second = true)
    (asymmetric : ∀ first second, before first second = true → before second first = false)
    (nonempty : elements ≠ []) : ∃ element ∈ elements, rankIn before elements element = 0 := by
  cases elements with
  | nil => exact absurd rfl nonempty
  | cons first rest =>
    have leading : first :: rest = [] ++ first :: rest := rfl
    exact ⟨first, by simp, rankIn_split asymmetric sorted leading⟩

/-! ## Ranks in a longer list -/

section Longer

variable {before : α → α → Bool} {elements others : List α} {earlier later : α}

/-- Elements that are added raise a rank by those of them that come before. -/
theorem rankIn_append :
    rankIn before (elements ++ others) later =
      rankIn before elements later + rankIn before others later :=
  List.countP_append

/-- An element that comes before another one has no greater rank. -/
theorem rankIn_mono
    (transitive : ∀ first second third, before first second = true →
      before second third = true → before first third = true)
    (precedes : before earlier later = true) :
    rankIn before elements earlier ≤ rankIn before elements later :=
  List.countP_mono_left fun other _ ahead => transitive other earlier later ahead precedes

/-- A nonempty sorted list has an element that every other one comes before. -/
theorem exists_last
    (asymmetric : ∀ first second, before first second = true → before second first = false)
    (sorted : elements.Pairwise fun first second => before first second = true)
    (nonempty : elements ≠ []) :
    ∃ last ∈ elements, rankIn before elements last + 1 = elements.length ∧
      ∀ other ∈ elements, other = last ∨ before other last = true := by
  obtain ⟨ahead, last, split⟩ : ∃ ahead last, elements = ahead ++ [last] :=
    ⟨_, _, (List.dropLast_append_getLast nonempty).symm⟩
  have rank : rankIn before elements last = ahead.length := rankIn_split asymmetric sorted split
  have ordered := sorted
  rw [split, List.pairwise_append] at ordered
  refine ⟨last, by simp [split], by rw [rank, split, List.length_append]; rfl,
    fun other member => ?_⟩
  rw [split, List.mem_append, List.mem_singleton] at member
  rcases member with inside | final
  · exact .inr (ordered.2.2 other inside last List.mem_cons_self)
  · exact .inl final

end Longer

/-! ## The first element of each key -/

section Firsts

variable {κ : Type u} [BEq κ] [LawfulBEq κ] {key : α → κ}

/-- Keep the first element of each key that was not seen before. -/
def firsts (key : α → κ) : List κ → List α → List α
  | _, [] => []
  | seen, element :: rest =>
    if key element ∈ seen then firsts key seen rest
    else element :: firsts key (key element :: seen) rest

/-- The scan keeps the order. -/
theorem firsts_sublist (seen : List κ) (elements : List α) :
    (firsts key seen elements).Sublist elements := by
  induction elements generalizing seen with
  | nil => exact .slnil
  | cons element rest ih =>
    unfold firsts
    split
    · exact (ih seen).cons element
    · exact (ih (key element :: seen)).cons_cons element

/-- The kept elements are those a search for their own key finds, where the key was not seen. -/
theorem mem_firsts {seen : List κ} {elements : List α} {element : α} :
    element ∈ firsts key seen elements ↔ key element ∉ seen ∧
      elements.find? (fun other => key other == key element) = some element := by
  induction elements generalizing seen with
  | nil => simp [firsts]
  | cons first rest ih =>
    unfold firsts
    by_cases known : key first ∈ seen
    · rw [if_pos known, ih, List.find?_cons]
      refine and_congr_right fun unseen => ?_
      have different : (key first == key element) = false :=
        beq_false_of_ne fun same => unseen (same ▸ known)
      rw [different]
    · rw [if_neg known, List.mem_cons, ih, List.find?_cons, List.mem_cons]
      by_cases same : key first = key element
      · rw [same, beq_self_eq_true]
        simp only [Option.some.injEq, true_or, not_true_eq_false, false_and, or_false]
        exact ⟨fun equal => ⟨same ▸ known, equal.symm⟩, fun found => found.2.symm⟩
      · rw [beq_false_of_ne same]
        have other : element ≠ first := fun equal => same (congrArg key equal.symm)
        simp only [other, false_or, Ne.symm same]

/-- Each key is kept once. -/
theorem firsts_nodup (elements : List α) : ((firsts key [] elements).map key).Nodup := by
  have apart : ∀ seen : List κ, ((firsts key seen elements).map key).Nodup := by
    induction elements with
    | nil => exact fun _ => List.nodup_nil
    | cons element rest ih =>
      intro seen
      unfold firsts
      split
      · exact ih seen
      · rw [List.map_cons, List.nodup_cons]
        refine ⟨fun repeated => ?_, ih _⟩
        obtain ⟨other, kept, same⟩ := List.mem_map.mp repeated
        exact (mem_firsts.mp kept).1 (same ▸ List.mem_cons_self)
  exact apart []

/-- Every key that occurs is kept. -/
theorem mem_firsts_keys {elements : List α} {k : κ} :
    k ∈ (firsts key [] elements).map key ↔ k ∈ elements.map key := by
  constructor
  · exact fun kept => ((firsts_sublist [] elements).map key).subset kept
  · intro occurs
    obtain ⟨element, member, rfl⟩ := List.mem_map.mp occurs
    cases found : elements.find? fun other => key other == key element with
    | none =>
      have missed := List.find?_eq_none.mp found element member
      rw [beq_self_eq_true] at missed
      exact absurd rfl missed
    | some first =>
      have same := List.find?_some found
      rw [beq_iff_eq] at same
      rw [← same] at found ⊢
      exact List.mem_map_of_mem (mem_firsts.mpr ⟨List.not_mem_nil, found⟩)

end Firsts

end ProxSync.Lib
