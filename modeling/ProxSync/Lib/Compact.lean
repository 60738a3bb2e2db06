import ProxSync.Lib.Printable
/-!
# Writing JSON without blanks

A value is written with bare commas and colons between its parts. What is written is printable, so
it stays on one line, and a store accepts it where it takes the value. Where null stands for every
number that is not finite, only the texts decide whether a store does.
-/
namespace ProxSync.Lib.Dumps

mutual

/-- A value as it is written without blanks. -/
def compact : PyJson → Except PyError (List Char)
  | .none => .ok "null".toList
  | .bool value => .ok (if value then "true".toList else "false".toList)
  | .int value => intText value
  | .float value => .ok (floatText value)
  | .str text => .ok (quoted text)
  | .list items => do
    let written ← compactItems items
    .ok ('[' :: (written ++ [']']))
  | .dict entries => do
    let written ← compactEntries entries
    .ok ('\x7b' :: (written ++ ['\x7d']))

/-- The elements of a list. -/
def compactItems : List PyJson → Except PyError (List Char)
  | [] => .ok []
  | [item] => compact item
  | item :: rest => do
    let first ← compact item
    let others ← compactItems rest
    .ok (first ++ ',' :: others)

/-- The entries of a dictionary. -/
def compactEntries : List (PyText × PyJson) → Except PyError (List Char)
  | [] => .ok []
  | [(key, value)] => do
    let written ← compact value
    .ok (quoted key ++ ':' :: written)
  | (key, value) :: rest => do
    let first ← compact value
    let others ← compactEntries rest
    .ok (quoted key ++ ':' :: (first ++ ',' :: others))

end

/-! ## What is written is printable -/

mutual

/-- The compact text of a value is shown. -/
theorem shown_compact {text : List Char} : ∀ value, compact value = .ok text → Shown text
  | .none, written => shown_dumps .none written
  | .bool value, written => shown_dumps (.bool value) written
  | .int value, written => shown_int written
  | .float value, written => shown_dumps (.float value) written
  | .str text, written => shown_dumps (.str text) written
  | .list items, written => by
    obtain ⟨inner, here, written⟩ := bind_eq_ok.mp written
    rw [← Except.ok.inj written]
    exact .between rfl rfl (shown_compactItems items here)
  | .dict entries, written => by
    obtain ⟨inner, here, written⟩ := bind_eq_ok.mp written
    rw [← Except.ok.inj written]
    exact .between rfl rfl (shown_compactEntries entries here)

/-- The compact text of the elements of a list is shown. -/
theorem shown_compactItems {text : List Char} :
    ∀ items, compactItems items = .ok text → Shown text
  | [], written => by
    rw [← Except.ok.inj written]
    exact .nil
  | [item], written => shown_compact item written
  | item :: next :: rest, written => by
    rw [compactItems] at written
    · obtain ⟨first, here, written⟩ := bind_eq_ok.mp written
      obtain ⟨others, there, written⟩ := bind_eq_ok.mp written
      rw [← Except.ok.inj written]
      exact (shown_compact item here).append
        (.cons rfl (shown_compactItems (next :: rest) there))
    · simp

/-- The compact text of the entries of a dictionary is shown. -/
theorem shown_compactEntries {text : List Char} :
    ∀ entries, compactEntries entries = .ok text → Shown text
  | [], written => by
    rw [← Except.ok.inj written]
    exact .nil
  | [(key, value)], written => by
    obtain ⟨first, here, written⟩ := bind_eq_ok.mp written
    rw [← Except.ok.inj written]
    exact (shown_quoted key).append (.cons rfl (shown_compact value here))
  | (key, value) :: next :: rest, written => by
    rw [compactEntries] at written
    · obtain ⟨first, here, written⟩ := bind_eq_ok.mp written
      obtain ⟨others, there, written⟩ := bind_eq_ok.mp written
      rw [← Except.ok.inj written]
      exact (shown_quoted key).append (.cons rfl ((shown_compact value here).append
        (.cons rfl (shown_compactEntries (next :: rest) there))))
    · simp

end

/-! ## What a store makes of what is written -/

open JsonText

variable {dialect : Dialect} {stack : List Container} {first others chars : List Char}
  {good well : Bool} {key : PyText}

/-- The element of a list and those behind a bare comma are read one after the other. -/
theorem reads_bareComma (head : Reads dialect (.array :: stack) first good)
    (tail : Reads dialect (.array :: stack) others well) :
    Reads dialect (.array :: stack) (first ++ ',' :: others) (good && well) := by
  obtain ⟨start, rest, same, solid, other⟩ := head.starts
  constructor
  · exact ⟨start, rest ++ ',' :: others, by simp [same], solid, other⟩
  · rw [List.foldl_append]
    cases good with
    | false =>
      rw [foldl_broken head.breaks]
      exact head.breaks
    | true =>
      rw [List.foldl_cons, head.complete.step (.inl rfl)]
      exact tail.reads

/-- An entry with a bare colon is read when its key and its value are. -/
theorem readsEntries_bareEntry (value : Reads dialect (.object :: stack) chars good) :
    ReadsEntries dialect stack (quoted key ++ ':' :: chars) (paired dialect false key && good) := by
  intro mode open_
  have begun : (quoted key).foldl (step dialect) ⟨mode, .object :: stack⟩ =
      if paired dialect false key then ⟨.colon, .object :: stack⟩
      else ⟨.broken, .object :: stack⟩ := by
    have scanned : (key.flatMap escape ++ ['"']).foldl (step dialect)
        ⟨.text true .plain false, .object :: stack⟩ = _ := foldl_points key false
    rcases open_ with rfl | rfl <;> exact scanned
  rw [List.foldl_append, begun]
  cases paired dialect false key with
  | false =>
    have broken : ((':' :: chars).foldl (step dialect) ⟨.broken, .object :: stack⟩).mode =
        .broken := by
      rw [foldl_broken rfl]
    exact broken
  | true => exact value.reads

/-- The entry of a dictionary and those behind a bare comma are read one after the other. -/
theorem readsEntries_bareComma (head : ReadsEntries dialect stack first good)
    (tail : ReadsEntries dialect stack others well) :
    ReadsEntries dialect stack (first ++ ',' :: others) (good && well) := by
  intro mode open_
  have here := head mode open_
  rw [List.foldl_append]
  cases good with
  | false =>
    have broken : (first.foldl (step dialect) ⟨mode, .object :: stack⟩).mode = .broken := here
    rw [foldl_broken broken]
    exact broken
  | true =>
    have complete : Complete (first.foldl (step dialect) ⟨mode, .object :: stack⟩)
        (.object :: stack) := here
    rw [List.foldl_cons, complete.step (.inl rfl)]
    exact tail .key (.inr rfl)

mutual

/-- What is written of a value without blanks is read exactly when a store takes the value. -/
theorem reads_compact (stack : List Container) {chars : List Char} :
    ∀ value, compact value = .ok chars → Reads dialect stack chars (storable dialect value)
  | .none, written => reads_dumps stack .none written
  | .bool value, written => reads_dumps stack (.bool value) written
  | .int value, written => reads_int written
  | .float value, written => reads_dumps stack (.float value) written
  | .str text, written => reads_dumps stack (.str text) written
  | .list items, written => by
    rw [compact] at written
    obtain ⟨inner, listed, written⟩ := bind_eq_ok.mp written
    obtain rfl := Except.ok.inj written
    cases items with
    | nil =>
      obtain rfl := Except.ok.inj listed
      exact ⟨⟨'[', _, rfl, rfl, by decide⟩, rfl, rfl⟩
    | cons item rest => exact reads_list (reads_compactItems stack (item :: rest) (by simp) listed)
  | .dict entries, written => by
    rw [compact] at written
    obtain ⟨inner, listed, written⟩ := bind_eq_ok.mp written
    obtain rfl := Except.ok.inj written
    cases entries with
    | nil =>
      obtain rfl := Except.ok.inj listed
      exact ⟨⟨'\x7b', _, rfl, rfl, by decide⟩, rfl, rfl⟩
    | cons entry rest =>
      exact reads_dict (reads_compactEntries stack (entry :: rest) (by simp) listed)

/-- The compact text of elements is read when each of them can be stored. -/
theorem reads_compactItems (stack : List Container) {chars : List Char} :
    ∀ items, items ≠ [] → compactItems items = .ok chars →
      Reads dialect (.array :: stack) chars (storableItems dialect items)
  | [], filled, _ => absurd rfl filled
  | [item], _, written => by
    rw [storableItems, storableItems, Bool.and_true]
    exact reads_compact _ item written
  | item :: next :: rest, _, written => by
    rw [compactItems] at written
    · obtain ⟨first, here, written⟩ := bind_eq_ok.mp written
      obtain ⟨others, later, written⟩ := bind_eq_ok.mp written
      obtain rfl := Except.ok.inj written
      rw [storableItems]
      exact reads_bareComma (reads_compact _ item here)
        (reads_compactItems stack (next :: rest) (by simp) later)
    · simp

/-- The compact text of entries is read when each of them can be stored. -/
theorem reads_compactEntries (stack : List Container) {chars : List Char} :
    ∀ entries, entries ≠ [] → compactEntries entries = .ok chars →
      ReadsEntries dialect stack chars (storableEntries dialect entries)
  | [], filled, _ => absurd rfl filled
  | [(key, value)], _, written => by
    obtain ⟨first, here, written⟩ := bind_eq_ok.mp written
    obtain rfl := Except.ok.inj written
    rw [storableEntries, storableEntries, Bool.and_true]
    exact readsEntries_bareEntry (reads_compact _ value here)
  | (key, value) :: next :: rest, _, written => by
    rw [compactEntries] at written
    · obtain ⟨first, here, written⟩ := bind_eq_ok.mp written
      obtain ⟨others, later, written⟩ := bind_eq_ok.mp written
      obtain rfl := Except.ok.inj written
      have head := @readsEntries_bareEntry dialect stack first _ key
        (reads_compact _ value here)
      have both := readsEntries_bareComma head
        (reads_compactEntries stack (next :: rest) (by simp) later)
      rw [List.append_assoc, List.cons_append] at both
      rw [storableEntries]
      exact both
    · simp

end

/-- A store accepts what is written of a value exactly when it takes the value. -/
theorem accepts_compact {value : PyJson} (written : compact value = .ok chars) :
    accepts dialect chars = storable dialect value := by
  have read : Reads dialect [] chars _ := reads_compact [] value written
  unfold accepts
  dsimp only
  cases good : storable dialect value with
  | true =>
    rw [good] at read
    rw [read.complete.1, read.complete.2]
    rfl
  | false =>
    rw [good] at read
    rw [read.breaks]
    rfl

/-! ## Null for what is no finite number -/

mutual

/-- A value with null in the place of every number that is not finite. -/
def nulled : PyJson → PyJson
  | .none => .none
  | .bool value => .bool value
  | .int value => .int value
  | .float value => if isFinite value then .float value else .none
  | .str text => .str text
  | .list items => .list (nulledItems items)
  | .dict entries => .dict (nulledEntries entries)

/-- The elements of a list, each with null in those places. -/
def nulledItems : List PyJson → List PyJson
  | [] => []
  | item :: rest => nulled item :: nulledItems rest

/-- The entries of a dictionary, each value with null in those places. -/
def nulledEntries : List (PyText × PyJson) → List (PyText × PyJson)
  | [] => []
  | (key, value) :: rest => (key, nulled value) :: nulledEntries rest

end

mutual

/-- Whether a store takes the texts of a value, its keys included. -/
def legible (dialect : Dialect) : PyJson → Bool
  | .none | .bool _ | .int _ | .float _ => true
  | .str text => paired dialect false text
  | .list items => legibleItems dialect items
  | .dict entries => legibleEntries dialect entries

/-- Whether a store takes the texts of the elements of a list. -/
def legibleItems (dialect : Dialect) : List PyJson → Bool
  | [] => true
  | item :: rest => legible dialect item && legibleItems dialect rest

/-- Whether a store takes the texts of the entries of a dictionary. -/
def legibleEntries (dialect : Dialect) : List (PyText × PyJson) → Bool
  | [] => true
  | (key, value) :: rest =>
    paired dialect false key && legible dialect value && legibleEntries dialect rest

end

/-- The grammar alone takes every text. -/
theorem paired_anyUnits (text : PyText) : paired .anyUnits false text = true := by
  induction text with
  | nil => rfl
  | cons point rest ih =>
    have next : pair .anyUnits false point = some false := by
      unfold pair
      split <;> rfl
    rw [paired, next]
    exact ih

mutual

/-- The grammar alone takes the texts of every value. -/
theorem legible_anyUnits : ∀ value, legible .anyUnits value = true
  | .none => rfl
  | .bool _ => rfl
  | .int _ => rfl
  | .float _ => rfl
  | .str text => paired_anyUnits text
  | .list items => legibleItems_anyUnits items
  | .dict entries => legibleEntries_anyUnits entries

/-- The grammar alone takes the texts of the elements of every list. -/
theorem legibleItems_anyUnits : ∀ items, legibleItems .anyUnits items = true
  | [] => rfl
  | item :: rest => by
    rw [legibleItems, legible_anyUnits item, legibleItems_anyUnits rest, Bool.and_true]

/-- The grammar alone takes the texts of the entries of every dictionary. -/
theorem legibleEntries_anyUnits : ∀ entries, legibleEntries .anyUnits entries = true
  | [] => rfl
  | (key, value) :: rest => by
    rw [legibleEntries, paired_anyUnits, legible_anyUnits value, legibleEntries_anyUnits rest,
      Bool.and_true, Bool.and_true]

end

mutual

/-- Where null stands for what is no finite number, a store takes what can be written exactly when
it takes the texts. -/
theorem storable_nulled {chars : List Char} : ∀ value, compact (nulled value) = .ok chars →
    storable dialect (nulled value) = legible dialect value
  | .none, _ => rfl
  | .bool _, _ => rfl
  | .int value, written => by
    have short : (Nat.toDigits 10 value.natAbs).length ≤ maxStrDigits := by
      have whole : intText value = .ok chars := written
      unfold intText at whole
      dsimp only at whole
      split at whole
      · assumption
      · cases whole
    exact decide_eq_true short
  | .float value, _ => by
    rw [nulled]
    cases finite : isFinite value with
    | true => exact finite
    | false => rfl
  | .str _, _ => rfl
  | .list items, written => by
    obtain ⟨inner, listed, -⟩ := bind_eq_ok.mp written
    exact storableItems_nulled items listed
  | .dict entries, written => by
    obtain ⟨inner, listed, -⟩ := bind_eq_ok.mp written
    exact storableEntries_nulled entries listed

/-- A store takes the elements that can be written exactly when it takes their texts. -/
theorem storableItems_nulled {chars : List Char} :
    ∀ items, compactItems (nulledItems items) = .ok chars →
      storableItems dialect (nulledItems items) = legibleItems dialect items
  | [], _ => rfl
  | [item], written => by
    rw [nulledItems, nulledItems, storableItems, legibleItems, storable_nulled item written]
    rfl
  | item :: next :: rest, written => by
    rw [nulledItems, nulledItems, compactItems] at written
    · obtain ⟨first, here, written⟩ := bind_eq_ok.mp written
      obtain ⟨others, later, -⟩ := bind_eq_ok.mp written
      rw [nulledItems, storableItems, legibleItems, storable_nulled item here,
        storableItems_nulled (next :: rest) later]
    · simp

/-- A store takes the entries that can be written exactly when it takes their texts. -/
theorem storableEntries_nulled {chars : List Char} :
    ∀ entries, compactEntries (nulledEntries entries) = .ok chars →
      storableEntries dialect (nulledEntries entries) = legibleEntries dialect entries
  | [], _ => rfl
  | [(key, value)], written => by
    obtain ⟨first, here, -⟩ := bind_eq_ok.mp written
    rw [nulledEntries, nulledEntries, storableEntries, legibleEntries, storable_nulled value here]
    rfl
  | (key, value) :: next :: rest, written => by
    rw [nulledEntries, nulledEntries, compactEntries] at written
    · obtain ⟨first, here, written⟩ := bind_eq_ok.mp written
      obtain ⟨others, later, -⟩ := bind_eq_ok.mp written
      rw [nulledEntries, storableEntries, legibleEntries, storable_nulled value here,
        storableEntries_nulled (next :: rest) later]
    · simp

end

/-- Where null stands for what is no finite number, a store accepts what is written exactly when it
takes the texts, so that the grammar alone always accepts it. -/
theorem accepts_nulled {value : PyJson} (written : compact (nulled value) = .ok chars) :
    accepts dialect chars = legible dialect value :=
  (accepts_compact written).trans (storable_nulled value written)

end ProxSync.Lib.Dumps
