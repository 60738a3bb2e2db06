import Mathlib
/-!
# Walks through a changing table

A walk reads a table page by page in descending key order. Each page starts below the last key of
the page before it, and the walk ends with a page that is not full. The table may change between two
pages. Whatever it does, the keys descend through the whole walk; and where no row that is still
ahead comes back or is new, the walk meets exactly the rows that are there at every page above them.
-/
namespace ProxSync.Lib

universe u v

variable {α : Type u} {κ : Type v} [LinearOrder κ]

/-- Whether a row is below the cursor of a walk. -/
def ahead (key : α → κ) (cursor : Option κ) (row : α) : Bool :=
  cursor.all fun last => decide (key row < last)

/-- The bound of a cursor on the keys ahead. -/
def bound : Option κ → WithTop κ
  | none => ⊤
  | some last => last

/-- The first rows below a cursor, of rows in descending order. -/
def page (key : α → κ) (size : ℕ) (cursor : Option κ) (rows : List α) : List α :=
  (rows.filter (ahead key cursor)).take size

/-- The last key of a page that another page follows. -/
def follow (key : α → κ) (size : ℕ) (cursor : Option κ) (rows : List α) : Option κ :=
  if (page key size cursor rows).length < size then none
  else (page key size cursor rows).getLast?.map key

variable {key : α → κ} {size : ℕ} {cursor : Option κ} {rows : List α} {row : α} {last : κ}

/-- A row that is ahead bounds less than the cursor does. -/
theorem bound_lt (below : ahead key cursor row = true) :
    bound (some (key row)) < bound cursor := by
  cases cursor with
  | none => exact WithTop.coe_lt_top _
  | some limit => exact WithTop.coe_lt_coe.mpr (by simpa [ahead] using below)

section Page

/-- The rows of a page are rows ahead of the cursor. -/
theorem mem_page (inside : row ∈ page key size cursor rows) :
    row ∈ rows ∧ ahead key cursor row = true :=
  List.mem_filter.mp (List.mem_of_mem_take inside)

/-- A page that is not full holds every row below the cursor. -/
theorem mem_page_of_short (short : (page key size cursor rows).length < size) :
    row ∈ page key size cursor rows ↔ row ∈ rows ∧ ahead key cursor row = true := by
  have whole : page key size cursor rows = rows.filter (ahead key cursor) := by
    unfold page at short ⊢
    apply List.take_of_length_le
    rw [List.length_take] at short
    omega
  rw [whole, List.mem_filter]

/-- The key another page starts from is the key of a row of the page. -/
theorem exists_of_follow (follows : follow key size cursor rows = some last) :
    ∃ row ∈ page key size cursor rows, key row = last := by
  unfold follow at follows
  split at follows
  · cases follows
  · obtain ⟨row, final, rfl⟩ := Option.map_eq_some_iff.mp follows
    exact ⟨row, List.mem_of_getLast? final, rfl⟩

/-- The cursor falls from page to page. -/
theorem follow_lt (follows : follow key size cursor rows = some last) :
    bound (some last) < bound cursor := by
  obtain ⟨row, inside, rfl⟩ := exists_of_follow follows
  exact bound_lt (mem_page inside).2

/-- A row below a later cursor is below an earlier one. -/
theorem ahead_of_follow (follows : follow key size cursor rows = some last)
    (below : ahead key (some last) row = true) : ahead key cursor row = true := by
  obtain ⟨final, inside, rfl⟩ := exists_of_follow follows
  have limit := (mem_page inside).2
  cases cursor with
  | none => rfl
  | some first =>
    simp only [ahead, Option.all_some, decide_eq_true_eq] at below limit ⊢
    exact below.trans limit

variable (descending : rows.Pairwise fun first second => key second < key first)

include descending

/-- A page lists its rows in descending order. -/
theorem page_descending :
    (page key size cursor rows).Pairwise fun first second => key second < key first :=
  descending.sublist ((List.take_sublist _ _).trans List.filter_sublist)

/-- A row below the cursor is on the page, or below the last row of the page. -/
theorem mem_page_or_lt (follows : follow key size cursor rows = some last) (stored : row ∈ rows)
    (below : ahead key cursor row = true) :
    row ∈ page key size cursor rows ∨ key row < last := by
  obtain ⟨final, inside, rfl⟩ := exists_of_follow follows
  have sorted := descending.sublist (List.filter_sublist (p := ahead key cursor))
  have listed : row ∈ rows.filter (ahead key cursor) := List.mem_filter.mpr ⟨stored, below⟩
  rw [← List.take_append_drop size (rows.filter _)] at sorted listed
  rcases List.mem_append.mp listed with here | later
  · exact .inl here
  · exact .inr ((List.pairwise_append.mp sorted).2.2 final inside row later)

/-- No row of a page is below the last one. -/
theorem le_of_mem_page (follows : follow key size cursor rows = some last)
    (inside : row ∈ page key size cursor rows) : last ≤ key row := by
  unfold follow at follows
  split at follows
  · cases follows
  · obtain ⟨final, found, rfl⟩ := Option.map_eq_some_iff.mp follows
    have sorted : (page key size cursor rows).Pairwise _ := page_descending descending
    obtain ⟨initial, split⟩ := List.getLast?_eq_some_iff.mp found
    rw [split, List.pairwise_append] at sorted
    rw [split] at inside
    rcases List.mem_append.mp inside with earlier | same
    · exact (sorted.2.2 row earlier final (by simp)).le
    · rw [List.mem_singleton.mp same]

end Page

/-! ## Whole walks -/

section Walk

variable (key size) (tables : ℕ → List α)

/-- The pages of a walk, given the rows that are there at each query. -/
def walk [WellFoundedLT κ] (query : ℕ) (cursor : Option κ) : List (List α) :=
  let rows := page key size cursor (tables query)
  if rows = [] then []
  else
    match _follows : follow key size cursor (tables query) with
    | none => [rows]
    | some last => rows :: walk (query + 1) (some last)
termination_by wellFounded_lt.wrap (bound cursor)
decreasing_by exact follow_lt _follows

/-- The cursor of a query of a walk, if the walk gets that far. -/
def cursorAt (query : ℕ) (cursor : Option κ) : ℕ → Option (Option κ)
  | 0 => some cursor
  | n + 1 => (follow key size cursor (tables query)).bind fun last =>
    cursorAt (query + 1) (some last) n

end Walk

variable {tables : ℕ → List α} {query : ℕ}

/-- A later cursor of a walk is at most an earlier one. -/
theorem cursorAt_le {n : ℕ} {later : Option κ}
    (reached : cursorAt key size tables query (some last) n = some later) :
    bound later ≤ bound (some last) := by
  induction n generalizing query last with
  | zero =>
    obtain rfl := Option.some.inj reached
    exact le_rfl
  | succ n ih =>
    obtain ⟨next, follows, reached⟩ := Option.bind_eq_some_iff.mp reached
    exact (ih reached).trans (follow_lt follows).le

/-- A row stays while it is ahead: every query that starts above it finds it. -/
def Stays (key : α → κ) (size : ℕ) (tables : ℕ → List α) (query : ℕ) (cursor : Option κ)
    (row : α) : Prop :=
  ∀ n later, cursorAt key size tables query cursor n = some later →
    ahead key later row = true → row ∈ tables (query + n)

/-- A row stays when the query finds it and it stays in the walk that follows, if one does. -/
theorem stays_iff (below : ahead key cursor row = true) :
    Stays key size tables query cursor row ↔ row ∈ tables query ∧
      ∀ last, follow key size cursor (tables query) = some last →
        Stays key size tables (query + 1) (some last) row := by
  constructor
  · intro stays
    refine ⟨stays 0 cursor rfl below, fun last follows n later reached unmet => ?_⟩
    have there := stays (n + 1) later (by simp only [cursorAt, follows, Option.bind_some, reached])
      unmet
    rwa [← Nat.add_assoc, Nat.add_right_comm] at there
  · rintro ⟨here, afterwards⟩ n later reached unmet
    cases n with
    | zero => exact here
    | succ n =>
      obtain ⟨last, follows, reached⟩ := Option.bind_eq_some_iff.mp reached
      rw [← Nat.add_assoc, Nat.add_right_comm]
      exact afterwards last follows n later reached unmet

section Exact

variable [WellFoundedLT κ]

/-- A walk ends at an empty page. -/
theorem walk_of_empty (empty : page key size cursor (tables query) = []) :
    walk key size tables query cursor = [] := by
  rw [walk]
  simp [empty]

/-- A walk ends with a page that nothing follows. -/
theorem walk_of_none (filled : page key size cursor (tables query) ≠ [])
    (ends : follow key size cursor (tables query) = none) :
    walk key size tables query cursor = [page key size cursor (tables query)] := by
  rw [walk]
  simp only [if_neg filled]
  split
  · rfl
  · rename_i follows
    exact absurd (ends.symm.trans follows) (by simp)

/-- A walk goes on from the cursor of a page. -/
theorem walk_of_some (filled : page key size cursor (tables query) ≠ [])
    (follows : follow key size cursor (tables query) = some last) :
    walk key size tables query cursor =
      page key size cursor (tables query) :: walk key size tables (query + 1) (some last) := by
  rw [walk]
  simp only [if_neg filled]
  split
  · rename_i ends
    exact absurd (ends.symm.trans follows) (by simp)
  · rename_i other found
    rw [Option.some.inj (found.symm.trans follows)]

/-- A walk makes one query more than it has pages, at most. -/
theorem cursorAt_length (query : ℕ) (cursor : Option κ) :
    cursorAt key size tables query cursor ((walk key size tables query cursor).length + 1) =
      none := by
  induction query, cursor using walk.induct key size tables with
  | case1 query cursor rows empty =>
    have ends : follow key size cursor (tables query) = none := by
      simp [follow, show page key size cursor (tables query) = [] from empty]
    simp [cursorAt, ends]
  | case2 query cursor rows filled ends => simp [cursorAt, ends]
  | case3 query cursor rows filled last follows ih =>
    rw [walk_of_some filled follows, List.length_cons, cursorAt, follows, Option.bind_some]
    exact ih

variable (descending : ∀ n, (tables n).Pairwise fun first second => key second < key first)

include descending

/-- The rows of a walk are below its cursor and descend. -/
theorem walk_descending (query : ℕ) (cursor : Option κ) :
    (∀ row ∈ (walk key size tables query cursor).flatten, ahead key cursor row = true) ∧
      (walk key size tables query cursor).flatten.Pairwise
        fun first second => key second < key first := by
  induction query, cursor using walk.induct key size tables with
  | case1 query cursor rows empty =>
    rw [walk_of_empty empty]
    simp
  | case2 query cursor rows filled ends =>
    rw [walk_of_none filled ends, List.flatten_singleton]
    exact ⟨fun row inside => (mem_page inside).2, page_descending (descending query)⟩
  | case3 query cursor rows filled last follows ih =>
    obtain ⟨below, sorted⟩ := ih
    rw [walk_of_some filled follows, List.flatten_cons]
    constructor
    · intro row inside
      rcases List.mem_append.mp inside with here | later
      · exact (mem_page here).2
      · exact ahead_of_follow follows (below row later)
    · refine List.pairwise_append.mpr ⟨page_descending (descending query), sorted, ?_⟩
      intro first here second later
      have under : key second < last := by simpa [ahead] using below second later
      exact under.trans_le (le_of_mem_page (descending query) follows here)

/-- Where no row that is still ahead is new, a walk meets the rows ahead that stay. -/
theorem mem_walk (positive : 0 < size) (query : ℕ) (cursor : Option κ)
    (settled : ∀ last, follow key size cursor (tables query) = some last → ∀ n row,
      key row < last → row ∈ tables (query + n + 1) → row ∈ tables (query + n)) :
    row ∈ (walk key size tables query cursor).flatten ↔
      ahead key cursor row = true ∧ Stays key size tables query cursor row := by
  induction query, cursor using walk.induct key size tables with
  | case1 query cursor rows empty =>
    rw [walk_of_empty empty]
    have short : (page key size cursor (tables query)).length < size := by
      simpa [show page key size cursor (tables query) = [] from empty] using positive
    constructor
    · simp
    · rintro ⟨below, stays⟩
      have here := (mem_page_of_short short).mpr ⟨((stays_iff below).mp stays).1, below⟩
      rw [show page key size cursor (tables query) = [] from empty] at here
      simp at here
  | case2 query cursor rows filled ends =>
    have short : (page key size cursor (tables query)).length < size := by
      unfold follow at ends
      split at ends
      · assumption
      · simp [show page key size cursor (tables query) ≠ [] from filled] at ends
    rw [walk_of_none filled ends, List.flatten_singleton, mem_page_of_short short, and_comm]
    refine and_congr_right fun below => ?_
    rw [stays_iff below]
    simp [ends]
  | case3 query cursor rows filled last follows ih =>
    have onward := ih fun next nextFollows n row below later => by
      have under : key row < last := below.trans (by
        have falls := follow_lt nextFollows
        simpa [bound] using falls)
      have there := settled last follows (n + 1) row under
      rw [show query + (n + 1) = query + 1 + n by omega] at there
      exact there later
    rw [walk_of_some filled follows, List.flatten_cons, List.mem_append, onward]
    constructor
    · rintro (here | ⟨under, stays⟩)
      · obtain ⟨stored, below⟩ := mem_page here
        refine ⟨below, (stays_iff below).mpr ⟨stored, ?_⟩⟩
        intro next nextFollows n later reached unmet
        -- the row is on this page, so no later query starts above it
        exfalso
        obtain rfl := Option.some.inj (nextFollows.symm.trans follows)
        have low := cursorAt_le reached
        have high := le_of_mem_page (descending query) follows here
        cases later with
        | none => simp [bound] at low
        | some limit =>
          have above : key row < limit := by simpa [ahead] using unmet
          have under : limit ≤ next := by simpa [bound] using low
          exact absurd (above.trans_le under) high.not_gt
      · have under' : key row < last := by simpa [ahead] using under
        have below := ahead_of_follow follows under
        have there := ((stays_iff under).mp stays).1
        refine ⟨below, (stays_iff below).mpr ⟨settled last follows 0 row under' there, ?_⟩⟩
        intro next nextFollows
        obtain rfl := Option.some.inj (nextFollows.symm.trans follows)
        exact stays
    · rintro ⟨below, stays⟩
      obtain ⟨stored, afterwards⟩ := (stays_iff below).mp stays
      rcases mem_page_or_lt (descending query) follows stored below with here | under
      · exact .inl here
      · exact .inr ⟨by simpa [ahead] using under, afterwards last follows⟩

end Exact

end ProxSync.Lib
