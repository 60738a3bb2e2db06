import Mathlib.Data.List.Forall2
/-!
# Computations that may raise

A computation that raises or answers is followed by another one that takes its answer. What a
sequence answers or raises comes from one of its parts.
-/
namespace ProxSync.Lib

universe u v

variable {ε : Type u} {α β : Type v} {first : Except ε α} {next : α → Except ε β}

/-- A sequence answers when both of its parts do. -/
theorem bind_eq_ok {result : β} :
    first >>= next = .ok result ↔ ∃ value, first = .ok value ∧ next value = .ok result := by
  cases first with
  | error raised => simp [bind, Except.bind]
  | ok value => simp [bind, Except.bind]

/-- A sequence of parts that answer answers. -/
theorem exists_bind_eq_ok {value : α} (answered : first = .ok value)
    (later : ∃ result, next value = .ok result) : ∃ result, first >>= next = .ok result := by
  obtain ⟨result, last⟩ := later
  exact ⟨result, bind_eq_ok.mpr ⟨value, answered, last⟩⟩

/-- A sequence raises what one of its parts raises. -/
theorem bind_eq_error {raised : ε} :
    first >>= next = .error raised ↔
      first = .error raised ∨ ∃ value, first = .ok value ∧ next value = .error raised := by
  cases first with
  | error other => simp [bind, Except.bind]
  | ok value => simp [bind, Except.bind]

/-- A fold whose step answers under a condition on the item alone answers when every item meets the
condition, and with what the steps answer. -/
theorem foldlM_eq_ok {σ : Type v} {ι : Type u} {step : σ → ι → Except ε σ} {good : ι → Prop}
    {pure : σ → ι → σ}
    (answers : ∀ state item after,
      step state item = .ok after ↔ good item ∧ after = pure state item)
    {items : List ι} {start result : σ} :
    items.foldlM step start = .ok result ↔
      (∀ item ∈ items, good item) ∧ result = items.foldl pure start := by
  induction items generalizing start with
  | nil =>
    rw [List.foldlM_nil, List.foldl_nil]
    constructor
    · intro same
      exact ⟨fun _ inside => absurd inside List.not_mem_nil, (Except.ok.inj same).symm⟩
    · rintro ⟨-, rfl⟩
      rfl
  | cons first rest ih =>
    rw [List.foldlM_cons, bind_eq_ok, List.foldl_cons]
    constructor
    · rintro ⟨middle, stepped, remaining⟩
      obtain ⟨here, rfl⟩ := (answers _ _ _).mp stepped
      obtain ⟨others, last⟩ := ih.mp remaining
      exact ⟨List.forall_mem_cons.mpr ⟨here, others⟩, last⟩
    · rintro ⟨all, last⟩
      obtain ⟨here, others⟩ := List.forall_mem_cons.mp all
      exact ⟨_, (answers _ _ _).mpr ⟨here, rfl⟩, ih.mpr ⟨others, last⟩⟩

/-- What is answered for each of some items, when none of them raises. -/
theorem mapM_eq_ok {ι : Type*} {answer : ι → Except ε α} {items : List ι} {results : List α} :
    items.mapM answer = .ok results ↔
      List.Forall₂ (fun item result => answer item = .ok result) items results := by
  induction items generalizing results with
  | nil =>
    rw [List.mapM_nil, List.forall₂_nil_left_iff]
    constructor
    · intro same
      exact (Except.ok.inj same).symm
    · rintro rfl
      rfl
  | cons first rest ih =>
    rw [List.mapM_cons, bind_eq_ok, List.forall₂_cons_left_iff]
    constructor
    · rintro ⟨value, answered, later⟩
      obtain ⟨others, remaining, same⟩ := bind_eq_ok.mp later
      exact ⟨value, others, answered, ih.mp remaining, (Except.ok.inj same).symm⟩
    · rintro ⟨value, others, answered, remaining, rfl⟩
      exact ⟨value, answered, bind_eq_ok.mpr ⟨others, ih.mpr remaining, rfl⟩⟩

/-- Go through items until one raises, with what was made until then. -/
def attempt {σ ι ε : Type*} (step : σ → ι → Except ε σ) : List ι → σ → σ × Option ε
  | [], state => (state, none)
  | item :: rest, state =>
    match step state item with
    | .error raised => (state, some raised)
    | .ok after => attempt step rest after

/-- What goes through without raising is what a fold answers. -/
theorem attempt_of_foldlM {σ : Type v} {ι : Type*} {step : σ → ι → Except ε σ} {items : List ι}
    {start result : σ} (answered : items.foldlM step start = .ok result) :
    attempt step items start = (result, none) := by
  induction items generalizing start with
  | nil =>
    rw [List.foldlM_nil] at answered
    rw [← Except.ok.inj answered]
    rfl
  | cons first rest ih =>
    rw [List.foldlM_cons, bind_eq_ok] at answered
    obtain ⟨middle, stepped, remaining⟩ := answered
    unfold attempt
    rw [stepped]
    exact ih remaining

end ProxSync.Lib
