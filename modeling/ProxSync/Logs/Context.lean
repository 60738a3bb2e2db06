import ProxSync.Lib.Dumps
import ProxSync.Logs.Sink
/-!
# The context of a log line

The values of a log call are copied into the context of the line: containers are cut short, texts
are cut off, and what is neither a number nor a text nor a container becomes the text that
represents it. Numbers are copied as they are, whether finite or not, and so are the code points of
texts. The context can be stored exactly when no value that is copied is such a number, and no text
holds a null or half of a code point.
-/
open ProxSync.Lib ProxSync.Lib.JsonText ProxSync.Lib.Dumps

namespace ProxSync.Logs

/-- How long a text of a context may be. -/
def maxContextValueLength : ℕ := 1000

/-- How many keys a context may have. -/
def maxContextKeys : ℕ := 40

/-- The keys of a log call that are not copied into the context. -/
def dropped : List PyText :=
  ["event", "level", "timestamp", "logger", "logger_name", "category", "correlation_id"].map
    PyText.of

/-- A value as far as copying tells; a container refers to what it holds. -/
inductive PyNode (Ref : Type)
  | none
  | bool (value : Bool)
  | int (value : ℤ)
  | float (value : PyFloat)
  | str (text : PyText)
  /-- A list or a tuple. -/
  | sequence (items : List Ref)
  | dict (entries : List (Ref × Ref))
  | datetime
  | other

/-- The values that can be referred to, and what the methods that turn them into texts do. -/
structure Heap (Ref : Type) where
  node : Ref → PyNode Ref
  str : Ref → Except PyError PyText
  repr : Ref → Except PyError PyText
  isoformat : Ref → Except PyError PyText

/-- A log call: its keys and values. -/
structure EventDict (Ref : Type) where
  items : List (PyText × Ref)
  distinct : (items.map Prod.fst).Nodup

/-- The context of a log line. -/
abbrev Context := List (PyText × PyJson)

/-- Assign a value to a key, which is new or keeps its place. -/
def put (entries : Context) (key : PyText) (value : PyJson) : Context :=
  if entries.any fun entry => entry.1 == key then
    entries.map fun entry => if entry.1 = key then (key, value) else entry
  else entries ++ [(key, value)]

section Capture

variable {Ref : Type} (heap : Heap Ref)

/-- The text of a key. -/
def keyText (key : Ref) : Except PyError PyText :=
  match heap.node key with
  | .str text => .ok text
  | _ => heap.str key

/-- A value that can be written as JSON, given how deep calls may still nest. -/
def jsonable : ℕ → Ref → Except PyError PyJson
  | 0, _ => .error .recursionError
  | stack + 1, value =>
    match heap.node value with
    | .none => .ok .none
    | .bool value => .ok (.bool value)
    | .int value => .ok (.int value)
    | .float value => .ok (.float value)
    | .str text => .ok (.str (text.take maxContextValueLength))
    | .sequence items => do
      let items ← (items.take 20).mapM (jsonable stack)
      .ok (.list items)
    | .dict entries => do
      let entries ← (entries.take 20).foldlM (fun (done : Context) entry => do
        let key ← keyText heap entry.1
        let value ← jsonable stack entry.2
        .ok (put done key value)) []
      .ok (.dict entries)
    | .datetime => do
      let text ← heap.isoformat value
      .ok (.str text)
    | .other => do
      let text ← heap.repr value
      .ok (.str (text.take maxContextValueLength))

/-- Copy one value of a log call. -/
def addContext (stack : ℕ) (context : Context) (entry : PyText × Ref) : Except PyError Context :=
  if entry.1 ∈ dropped ∨ maxContextKeys ≤ context.length then .ok context
  else do
    let value ← jsonable heap stack entry.2
    .ok (put context entry.1 value)

/-- The context of a log call, if any of it is copied. -/
def context (stack : ℕ) (event : EventDict Ref) : Except PyError (Option Context) := do
  let context ← event.items.foldlM (addContext heap stack) []
  .ok (if context.isEmpty then none else some context)

end Capture

/-- A context is JSON for every store, or there is none. -/
def ValidContext (stored : Option Context) : Prop :=
  ∀ entries, stored = some entries → ∃ text, dumps (.dict entries) = .ok text ∧
    accepts .anyUnits text = true ∧ accepts .codePoints text = true

/-! ## Values that can be stored -/

section Sound

variable {Ref : Type} (heap : Heap Ref)

/-- Whether the entries of a dictionary can be stored: the keys, and each value that no later entry
replaces. -/
def soundEntries (sound : Ref → Bool) : List (Ref × Ref) → Bool
  | [] => true
  | (key, value) :: rest =>
    (match keyText heap key with
      | .ok text => paired .codePoints false text &&
          (sound value || rest.any fun other => (keyText heap other.1).toOption == some text)
      | .error _ => true) &&
    soundEntries sound rest

/-- Whether what is copied of a value can be stored: every number is finite and not too long, and no
text holds a null or half of a code point. -/
def sound : ℕ → Ref → Bool
  | 0, _ => true
  | stack + 1, value =>
    match heap.node value with
    | .none | .bool _ => true
    | .int value => printable value
    | .float value => isFinite value
    | .str text => paired .codePoints false (text.take maxContextValueLength)
    | .sequence items => (items.take 20).all (sound stack)
    | .dict entries => soundEntries heap (sound stack) (entries.take 20)
    | .datetime => (heap.isoformat value).toOption.all (paired .codePoints false)
    | .other => (heap.repr value).toOption.all fun text =>
        paired .codePoints false (text.take maxContextValueLength)

/-- The values of a log call that are copied. -/
def kept (event : EventDict Ref) : List (PyText × Ref) :=
  (event.items.filter fun entry => entry.1 ∉ dropped).take maxContextKeys

/-- Whether what is copied of a log call can be stored. -/
def soundEvent (stack : ℕ) (event : EventDict Ref) : Bool :=
  (kept event).all fun entry => paired .codePoints false entry.1 && sound heap stack entry.2

end Sound

/-! ## Entries that replace others -/

variable {entries done : Context} {entry : PyText × PyJson} {key : PyText} {value : PyJson}

/-- The entries after an assignment: the new one, and those under other keys. -/
theorem mem_put : entry ∈ put entries key value ↔
    entry = (key, value) ∨ (entry ∈ entries ∧ entry.1 ≠ key) := by
  unfold put
  by_cases there : (entries.any fun entry => entry.1 == key) = true
  · obtain ⟨old, stored, same⟩ := List.any_eq_true.mp there
    rw [if_pos there, List.mem_map]
    constructor
    · rintro ⟨earlier, inside, rfl⟩
      by_cases named : earlier.1 = key
      · exact .inl (if_pos named)
      · rw [if_neg named]
        exact .inr ⟨inside, named⟩
    · rintro (rfl | ⟨inside, differ⟩)
      · exact ⟨old, stored, if_pos (beq_iff_eq.mp same)⟩
      · exact ⟨entry, inside, if_neg differ⟩
  · have absent : ∀ other ∈ entries, other.1 ≠ key := fun other inside same =>
      there (List.any_eq_true.mpr ⟨other, inside, beq_iff_eq.mpr same⟩)
    rw [if_neg there, List.mem_append, List.mem_singleton, or_comm]
    refine or_congr_right ⟨fun inside => ⟨inside, absent entry inside⟩, And.left⟩

/-- A new key is the last one. -/
theorem put_of_absent (absent : key ∉ entries.map Prod.fst) :
    put entries key value = entries ++ [(key, value)] := by
  unfold put
  rw [if_neg]
  simpa using absent

/-- Whether an entry is the last one assigned under its key. -/
def Last : Context → PyText × PyJson → Prop
  | [], _ => False
  | first :: rest, entry =>
    Last rest entry ∨ (entry = first ∧ first.1 ∉ rest.map Prod.fst)

/-- The entries of a dictionary are the last ones of their keys. -/
theorem mem_foldl_put {pairs : Context} :
    entry ∈ pairs.foldl (fun done pair => put done pair.1 pair.2) done ↔
      Last pairs entry ∨ (entry ∈ done ∧ entry.1 ∉ pairs.map Prod.fst) := by
  induction pairs generalizing done with
  | nil => simp [Last]
  | cons first rest ih =>
    rw [List.foldl_cons, ih, mem_put, Last, List.map_cons, List.mem_cons]
    constructor
    · rintro (later | ⟨rfl | ⟨inside, differ⟩, absent⟩)
      · exact .inl (.inl later)
      · exact .inl (.inr ⟨rfl, absent⟩)
      · exact .inr ⟨inside, by simp [differ, absent]⟩
    · rintro ((later | ⟨rfl, absent⟩) | ⟨inside, absent⟩)
      · exact .inl later
      · exact .inr ⟨.inl rfl, absent⟩
      · rw [not_or] at absent
        exact .inr ⟨.inr ⟨inside, absent.1⟩, absent.2⟩

/-- Entries can be stored when each key and each value can. -/
theorem storableEntries_iff : storableEntries .codePoints entries = true ↔
    ∀ entry ∈ entries, paired .codePoints false entry.1 = true ∧
      storable .codePoints entry.2 = true := by
  induction entries with
  | nil => simp [storableEntries]
  | cons first rest ih =>
    rw [storableEntries, Bool.and_eq_true, Bool.and_eq_true, ih, List.forall_mem_cons]

/-- Elements can be stored when each of them can. -/
theorem storableItems_iff {items : List PyJson} : storableItems .codePoints items = true ↔
    ∀ item ∈ items, storable .codePoints item = true := by
  induction items with
  | nil => simp [storableItems]
  | cons first rest ih => rw [storableItems, Bool.and_eq_true, ih, List.forall_mem_cons]

/-! ## What is copied -/

variable {Ref : Type} {heap : Heap Ref} {stack : ℕ}

/-- The entries of a dictionary are copied one after the other. -/
theorem foldlM_put {items : List (Ref × Ref)} {copy : Ref → Except PyError PyJson} {after : Context}
    (copied : items.foldlM (fun (done : Context) entry => do
      let key ← keyText heap entry.1
      let value ← copy entry.2
      .ok (put done key value)) done = .ok after) :
    ∃ pairs : Context, List.Forall₂ (fun item pair => keyText heap item.1 = .ok pair.1 ∧
        copy item.2 = .ok pair.2) items pairs ∧
      after = pairs.foldl (fun done pair => put done pair.1 pair.2) done := by
  induction items generalizing done with
  | nil =>
    obtain rfl := Except.ok.inj copied
    exact ⟨[], .nil, rfl⟩
  | cons item rest ih =>
    rw [List.foldlM_cons] at copied
    obtain ⟨middle, here, copied⟩ := bind_eq_ok.mp copied
    obtain ⟨key, named, here⟩ := bind_eq_ok.mp here
    obtain ⟨value, valued, here⟩ := bind_eq_ok.mp here
    obtain rfl := Except.ok.inj here
    obtain ⟨pairs, each, rfl⟩ := ih copied
    exact ⟨(key, value) :: pairs, .cons ⟨named, valued⟩ each, rfl⟩

/-- What is copied one by one corresponds one by one. -/
theorem forall₂_of_mapM {α β : Type} {copy : α → Except PyError β} {items : List α}
    {copies : List β} (copied : items.mapM copy = .ok copies) :
    List.Forall₂ (fun item copied => copy item = .ok copied) items copies := by
  induction items generalizing copies with
  | nil =>
    rw [List.mapM_nil] at copied
    obtain rfl := Except.ok.inj copied
    exact .nil
  | cons item rest ih =>
    rw [List.mapM_cons] at copied
    obtain ⟨first, here, copied⟩ := bind_eq_ok.mp copied
    obtain ⟨others, later, copied⟩ := bind_eq_ok.mp copied
    obtain rfl := Except.ok.inj copied
    exact .cons here (ih later)

/-- The copied elements of a list can be stored when its elements can. -/
theorem storableItems_copied {items : List Ref} {copies : List PyJson}
    {copy : Ref → Except PyError PyJson} {check : Ref → Bool}
    (same : ∀ ref value, copy ref = .ok value → storable .codePoints value = check ref)
    (each : List.Forall₂ (fun item copied => copy item = .ok copied) items copies) :
    storableItems .codePoints copies = true ↔ items.all check = true := by
  rw [storableItems_iff, List.all_eq_true]
  induction each with
  | nil => simp
  | cons here _ later => rw [List.forall_mem_cons, List.forall_mem_cons, later, same _ _ here]

/-- The keys of the entries that are copied. -/
theorem any_keyText {items : List (Ref × Ref)} {copy : Ref → Except PyError PyJson}
    {pairs : Context} {text : PyText}
    (each : List.Forall₂ (fun item pair => keyText heap item.1 = .ok pair.1 ∧
        copy item.2 = .ok pair.2) items pairs) :
    (items.any fun other => (keyText heap other.1).toOption == some text) = true ↔
      text ∈ pairs.map Prod.fst := by
  induction each with
  | nil => simp
  | @cons item pair items pairs here _ ih =>
    have named : (Except.toOption (.ok pair.1 : Except PyError PyText) == some text) = true ↔
        text = pair.1 := by
      show (some pair.1 == some text) = true ↔ _
      rw [beq_iff_eq, Option.some.injEq, eq_comm]
    rw [List.any_cons, Bool.or_eq_true, ih, here.1, List.map_cons, List.mem_cons, named]

/-- The copied entries of a dictionary can be stored when its entries can. -/
theorem last_sound {items : List (Ref × Ref)} {copy : Ref → Except PyError PyJson}
    {check : Ref → Bool} {pairs : Context}
    (same : ∀ ref value, copy ref = .ok value → storable .codePoints value = check ref)
    (each : List.Forall₂ (fun item pair => keyText heap item.1 = .ok pair.1 ∧
        copy item.2 = .ok pair.2) items pairs) :
    (∀ entry, Last pairs entry → paired .codePoints false entry.1 = true ∧
        storable .codePoints entry.2 = true) ↔ soundEntries heap check items = true := by
  have keys : ∀ {items : List (Ref × Ref)} {pairs : Context},
      List.Forall₂ (fun item pair => keyText heap item.1 = .ok pair.1 ∧
        copy item.2 = .ok pair.2) items pairs → soundEntries heap check items = true →
      ∀ key ∈ pairs.map Prod.fst, paired .codePoints false key = true := by
    intro items pairs each
    induction each with
    | nil => simp
    | @cons item pair items pairs here _ ih =>
      intro good key inside
      simp only [soundEntries, here.1, Bool.and_eq_true] at good
      rcases List.mem_cons.mp inside with rfl | later
      · exact good.1.1
      · exact ih good.2 key later
  induction each with
  | nil => simp [Last, soundEntries]
  | @cons item pair items pairs here each ih =>
    have value := same _ _ here.2
    simp only [soundEntries, here.1, Bool.and_eq_true, Bool.or_eq_true, any_keyText each, ← value,
      ← ih]
    constructor
    · intro good
      have later := fun entry last => good entry (.inl last)
      refine ⟨?_, later⟩
      by_cases again : pair.1 ∈ pairs.map Prod.fst
      · exact ⟨keys each (ih.mp later) _ again, .inr again⟩
      · have first := good pair (.inr ⟨rfl, again⟩)
        exact ⟨first.1, .inl first.2⟩
    · rintro ⟨⟨named, valued⟩, later⟩ entry (last | ⟨rfl, absent⟩)
      · exact later entry last
      · exact ⟨named, valued.resolve_right absent⟩

/-- What is copied of a value can be stored exactly when the value is sound. -/
theorem storable_jsonable {ref : Ref} {copied : PyJson}
    (captured : jsonable heap stack ref = .ok copied) :
    storable .codePoints copied = sound heap stack ref := by
  induction stack generalizing ref copied with
  | zero => cases captured
  | succ stack ih =>
    have same : ∀ ref copied, jsonable heap stack ref = .ok copied →
        storable .codePoints copied = sound heap stack ref := fun _ _ copied => ih copied
    unfold jsonable at captured
    unfold sound
    cases shape : heap.node ref with
    | none =>
      simp only [shape] at captured
      obtain rfl := Except.ok.inj captured
      rfl
    | bool value =>
      simp only [shape] at captured
      obtain rfl := Except.ok.inj captured
      rfl
    | int value =>
      simp only [shape] at captured
      obtain rfl := Except.ok.inj captured
      rw [storable]
    | float value =>
      simp only [shape] at captured
      obtain rfl := Except.ok.inj captured
      rw [storable]
    | str text =>
      simp only [shape] at captured
      obtain rfl := Except.ok.inj captured
      rw [storable]
    | sequence items =>
      simp only [shape] at captured
      obtain ⟨copies, listed, captured⟩ := bind_eq_ok.mp captured
      obtain rfl := Except.ok.inj captured
      rw [storable, Bool.eq_iff_iff]
      exact storableItems_copied same (forall₂_of_mapM listed)
    | dict entries =>
      simp only [shape] at captured
      obtain ⟨done, listed, captured⟩ := bind_eq_ok.mp captured
      obtain rfl := Except.ok.inj captured
      obtain ⟨pairs, each, rfl⟩ := foldlM_put listed
      have good := last_sound same each
      rw [storable, Bool.eq_iff_iff, storableEntries_iff]
      simp only [← good, mem_foldl_put, List.not_mem_nil, false_and, or_false]
    | datetime =>
      simp only [shape] at captured
      obtain ⟨text, written, captured⟩ := bind_eq_ok.mp captured
      obtain rfl := Except.ok.inj captured
      simp [storable, written, Except.toOption]
    | other =>
      simp only [shape] at captured
      obtain ⟨text, written, captured⟩ := bind_eq_ok.mp captured
      obtain rfl := Except.ok.inj captured
      simp [storable, written, Except.toOption]

/-- The values of a log call are copied in order, up to the limit. -/
theorem foldlM_addContext {items : List (PyText × Ref)} {before after : Context}
    (distinct : (items.map Prod.fst).Nodup)
    (apart : ∀ entry ∈ items, entry.1 ∉ before.map Prod.fst)
    (within : before.length ≤ maxContextKeys)
    (copied : items.foldlM (addContext heap stack) before = .ok after) :
    ∃ copies : Context, after = before ++ copies ∧
      List.Forall₂ (fun item copy => copy.1 = item.1 ∧ jsonable heap stack item.2 = .ok copy.2)
        ((items.filter fun entry => entry.1 ∉ dropped).take (maxContextKeys - before.length))
        copies := by
  induction items generalizing before with
  | nil =>
    obtain rfl := Except.ok.inj copied
    exact ⟨[], by simp, by simp⟩
  | cons item rest ih =>
    rw [List.map_cons, List.nodup_cons] at distinct
    rw [List.foldlM_cons] at copied
    obtain ⟨middle, here, copied⟩ := bind_eq_ok.mp copied
    have later := fun entry inside => apart entry (List.mem_cons_of_mem _ inside)
    unfold addContext at here
    by_cases skipped : item.1 ∈ dropped
    · rw [if_pos (.inl skipped)] at here
      obtain rfl := Except.ok.inj here
      have others := ih distinct.2 later within copied
      rwa [List.filter_cons_of_neg (by simpa using skipped)]
    · by_cases full : maxContextKeys ≤ before.length
      · rw [if_pos (.inr full)] at here
        obtain rfl := Except.ok.inj here
        obtain ⟨copies, rfl, each⟩ := ih distinct.2 later within copied
        rw [Nat.sub_eq_zero_of_le full, List.take_zero] at each ⊢
        exact ⟨copies, rfl, each⟩
      · rw [if_neg (by simp [skipped, full])] at here
        obtain ⟨value, valued, here⟩ := bind_eq_ok.mp here
        obtain rfl := Except.ok.inj here
        rw [put_of_absent (apart item List.mem_cons_self)] at copied
        have fresh : ∀ entry ∈ rest, entry.1 ∉ (before ++ [(item.1, value)]).map Prod.fst := by
          intro entry inside again
          rw [List.map_append, List.mem_append] at again
          rcases again with earlier | same
          · exact later entry inside earlier
          · have equal : entry.1 = item.1 := by simpa using same
            exact distinct.1 (equal ▸ List.mem_map_of_mem inside)
        have room : (before ++ [(item.1, value)]).length = before.length + 1 := by simp
        obtain ⟨copies, rfl, each⟩ := ih distinct.2 fresh (by omega) copied
        refine ⟨(item.1, value) :: copies, by simp, ?_⟩
        rw [List.filter_cons_of_pos (by simpa using skipped),
          show maxContextKeys - before.length = maxContextKeys - (before.length + 1) + 1 by omega,
          List.take_succ_cons]
        rw [room] at each
        exact .cons ⟨rfl, valued⟩ each

/-- The copied values of a log call can be stored when the values can. -/
theorem kept_sound {items : List (PyText × Ref)} {copies : Context}
    (each : List.Forall₂ (fun item copy => copy.1 = item.1 ∧
      jsonable heap stack item.2 = .ok copy.2) items copies) :
    storableEntries .codePoints copies = items.all fun entry =>
      paired .codePoints false entry.1 && sound heap stack entry.2 := by
  induction each with
  | nil => rw [storableEntries, List.all_nil]
  | @cons item copy items copies here _ ih =>
    obtain ⟨key, value⟩ := copy
    obtain ⟨rfl, valued⟩ := here
    rw [storableEntries, List.all_cons, ih, storable_jsonable valued]

/-- What is copied of a log call can be stored exactly when it is sound. -/
theorem validContext_iff {event : EventDict Ref} {stored : Option Context}
    (captured : context heap stack event = .ok stored) :
    ValidContext stored ↔ soundEvent heap stack event = true := by
  obtain ⟨entries, copied, captured⟩ := bind_eq_ok.mp captured
  obtain rfl := Except.ok.inj captured
  obtain ⟨copies, same, each⟩ := foldlM_addContext event.distinct (by simp) (by simp) copied
  obtain rfl : entries = copies := same
  have every : storableEntries .codePoints entries = soundEvent heap stack event := kept_sound each
  have whole : storable .codePoints (.dict entries) = soundEvent heap stack event := by
    rw [storable, every]
  rw [← whole]
  constructor
  · intro valid
    by_cases none : entries.isEmpty = true
    · rw [List.isEmpty_iff.mp none]
      rfl
    · obtain ⟨text, written, -, accepted⟩ := valid entries (if_neg none)
      exact storable_iff.mpr ⟨text, written, accepted⟩
  · intro good other there
    obtain rfl : entries = other := by
      split at there
      · cases there
      · exact Option.some.inj there
    obtain ⟨text, written, accepted⟩ := storable_iff.mp good
    exact ⟨text, written, accepts_anyUnits accepted, accepted⟩

end ProxSync.Logs
