import ProxSync.Lib.Numeral
/-!
# Patterns of texts

A pattern lists the ways it matches the start of a text, the preferred one first, each with what it
captures and with what is left of the text. A sequence tries the ways of its first part in their
order, so the first way of a whole pattern is the one that backtracking finds. What a pattern
captures in every way is shown part by part.
-/
namespace ProxSync.Lib

/-- The ways to match the start of a text. -/
structure Pattern (α : Type) where
  run : List Char → List (α × List Char)

namespace Pattern

variable {α β : Type}

instance : Monad Pattern where
  pure value := ⟨fun input => [(value, input)]⟩
  bind first next :=
    ⟨fun input => (first.run input).flatMap fun found => (next found.1).run found.2⟩

/-- One pattern, or else another. -/
def either (first other : Pattern α) : Pattern α :=
  ⟨fun input => first.run input ++ other.run input⟩

/-- A code point. -/
def char (test : Char → Bool) : Pattern Char where
  run
    | [] => []
    | first :: rest => if test first then [(first, rest)] else []

/-- The code points of a word, compared by a test. -/
def word (same : Char → Char → Bool) : List Char → Pattern Unit
  | [] => pure ()
  | letter :: rest => do
    let _ ← char (same letter)
    word same rest

/-- As many code points as there are, or fewer. -/
def manyFrom (test : Char → Bool) : List Char → List (List Char × List Char)
  | [] => [([], [])]
  | first :: rest =>
    if test first then
      (manyFrom test rest).map (fun found => (first :: found.1, found.2)) ++ [([], first :: rest)]
    else [([], first :: rest)]

/-- As many code points as there are, or fewer. -/
def many (test : Char → Bool) : Pattern (List Char) := ⟨manyFrom test⟩

/-- As few code points as possible, or more. -/
def few (test : Char → Bool) : Pattern (List Char) := ⟨fun input => (manyFrom test input).reverse⟩

/-- At least one code point. -/
def some (test : Char → Bool) : Pattern (List Char) := do
  let first ← char test
  let rest ← many test
  pure (first :: rest)

/-- A number of code points. -/
def exactly (test : Char → Bool) : Nat → Pattern (List Char)
  | 0 => pure []
  | count + 1 => do
    let first ← char test
    let rest ← exactly test count
    pure (first :: rest)

/-- At most a number of code points, as many as there are. -/
def atMost (test : Char → Bool) : Nat → Pattern (List Char)
  | 0 => pure []
  | count + 1 =>
    either
      (do
        let first ← char test
        let rest ← atMost test count
        pure (first :: rest))
      (pure [])

/-- A pattern, if it is there. -/
def optional (pattern : Pattern α) : Pattern (Option α) :=
  either
    (do
      let value ← pattern
      pure (Option.some value))
    (pure none)

/-- The end of a text, or its last line break. -/
def ending : Pattern Unit where
  run input := if input = [] ∨ input = ['\n'] then [((), input)] else []

/-- What is captured at the start of a text. -/
def matchStart (pattern : Pattern α) (text : List Char) : Option α :=
  (pattern.run text).head?.map (·.1)

/-- What is captured at the first place of a text where the pattern matches. -/
def search (pattern : Pattern α) : List Char → Option α
  | [] => pattern.matchStart []
  | first :: rest =>
    match pattern.matchStart (first :: rest) with
    | Option.some found => Option.some found
    | none => search pattern rest

/-- A decimal digit of any script. -/
def digit (char : Char) : Bool := (decimalValue char).isSome

/-- Every capture of a pattern has a property. -/
def Gives (pattern : Pattern α) (post : α → Prop) : Prop :=
  ∀ input, ∀ found ∈ pattern.run input, post found.1

variable {pattern other : Pattern α} {next : α → Pattern β} {post : α → Prop} {last : β → Prop}
variable {test : Char → Bool} {captured : α} {text : List Char}

/-- A pattern that takes nothing gives its value. -/
theorem gives_pure {value : α} (holds : post value) : (pure value : Pattern α).Gives post := by
  intro input found inside
  obtain rfl := List.mem_singleton.mp inside
  exact holds

/-- What follows on any capture of the first part. -/
theorem Gives.bind (first : pattern.Gives post)
    (later : ∀ value, post value → (next value).Gives last) : (pattern >>= next).Gives last := by
  intro input found inside
  obtain ⟨middle, here, inside⟩ := List.mem_flatMap.mp inside
  exact later middle.1 (first input middle here) middle.2 found inside

/-- What a pattern gives may be said less exactly. -/
theorem Gives.mono {weaker : α → Prop} (gives : pattern.Gives post)
    (weakens : ∀ value, post value → weaker value) : pattern.Gives weaker :=
  fun input found inside => weakens found.1 (gives input found inside)

/-- One of two patterns gives what both give. -/
theorem Gives.either (first : pattern.Gives post) (second : other.Gives post) :
    (either pattern other).Gives post := by
  intro input found inside
  rcases List.mem_append.mp inside with inside | inside
  · exact first input found inside
  · exact second input found inside

/-- Every pattern gives something. -/
theorem gives_anything : pattern.Gives fun _ => True := fun _ _ _ => trivial

/-- A character of a class is one. -/
theorem gives_char : (char test).Gives fun first => test first = true := by
  rintro (_ | ⟨first, rest⟩) found inside
  · cases inside
  · by_cases accepted : test first = true
    · have listed : (char test).run (first :: rest) = [(first, rest)] := if_pos accepted
      rw [listed, List.mem_singleton] at inside
      exact inside ▸ accepted
    · have listed : (char test).run (first :: rest) = [] := if_neg accepted
      rw [listed] at inside
      cases inside

/-- Some characters of a class are of it, and as many as allowed at most. -/
theorem gives_atMost {count : Nat} :
    (atMost test count).Gives fun chars => chars.length ≤ count ∧
      ∀ char ∈ chars, test char = true := by
  induction count with
  | zero => exact gives_pure ⟨le_rfl, fun _ absent => absurd absent List.not_mem_nil⟩
  | succ count ih =>
    apply Gives.either
    · refine gives_char.bind fun first accepted => ih.bind ?_
      rintro rest ⟨length, others⟩
      exact gives_pure ⟨Nat.succ_le_succ length, List.forall_mem_cons.mpr ⟨accepted, others⟩⟩
    · exact gives_pure ⟨Nat.zero_le _, fun _ absent => absurd absent List.not_mem_nil⟩

/-- What may be missing is given where it is there. -/
theorem Gives.optional (gives : pattern.Gives post) :
    (optional pattern).Gives fun captured => ∀ value ∈ captured, post value := by
  apply Gives.either
  · refine gives.bind fun value holds => gives_pure ?_
    rintro _ ⟨rfl⟩
    exact holds
  · exact gives_pure nofun

/-- A match at the start captures what the pattern gives. -/
theorem Gives.matchStart (gives : pattern.Gives post)
    (found : pattern.matchStart text = Option.some captured) : post captured := by
  obtain ⟨way, first, rfl⟩ := Option.map_eq_some_iff.mp found
  exact gives text way (List.mem_of_head? first)

/-- A match anywhere captures what the pattern gives. -/
theorem Gives.search (gives : pattern.Gives post)
    (found : pattern.search text = Option.some captured) : post captured := by
  induction text with
  | nil => exact gives.matchStart found
  | cons first rest ih =>
    unfold Pattern.search at found
    split at found
    · rename_i here
      exact gives.matchStart (here.trans found)
    · exact ih found

end Pattern

end ProxSync.Lib
