import ProxSync.Lib.Numeral
import ProxSync.Lib.Raising
/-!
# Values of a dynamically typed language

The values that reading JSON gives and a dictionary made of one may hold. A value is true or false
in a condition, some values can be keys, and a dictionary is made of another one or of a list of
pairs, which raises where an element is no pair.
-/
namespace ProxSync.Lib

/-- The classes of the errors that are raised. -/
inductive PyError
  | osError
  | fileNotFoundError
  | valueError
  | keyError
  | attributeError
  | typeError
  | recursionError
  | overflowError
  deriving DecidableEq, Repr

/-- Whether an error is one of the operating system. -/
def PyError.isOSError : PyError → Bool
  | .osError | .fileNotFoundError => true
  | _ => false

/-- A value that reading JSON may give; the keys of a dictionary are in their order. -/
inductive Value
  | none
  | bool (value : Bool)
  | int (value : ℤ)
  | float (value : PyFloat)
  | str (text : String)
  | list (items : List Value)
  | dict (entries : List (Value × Value))

namespace Value

/-- Whether a value counts as true. -/
def truthy : Value → Bool
  | .none => false
  | .bool value => value
  | .int value => value != 0
  | .float value => value != .finite 0
  | .str text => text != ""
  | .list items => !items.isEmpty
  | .dict entries => !entries.isEmpty

/-- The number a value equals, if any. -/
def number : Value → Option PyFloat
  | .bool value => some (.finite (if value then 1 else 0))
  | .int value => some (.finite value)
  | .float value => some value
  | _ => Option.none

/-- Whether two keys are one key. -/
def sameKey : Value → Value → Bool
  | .none, .none => true
  | .str text, .str other => text == other
  | key, other =>
    match key.number, other.number with
    | some value, some another => value == another
    | _, _ => false

/-- Whether a value can be a key. -/
def hashable : Value → Bool
  | .list _ | .dict _ => false
  | _ => true

/-- The value under a key that is a text, if it is there. -/
def find (entries : List (Value × Value)) (key : String) : Option Value :=
  (entries.find? fun entry => entry.1.sameKey (.str key)).map (·.2)

/-- The value under a key that is a text, or nothing. -/
def get (entries : List (Value × Value)) (key : String) : Value := (find entries key).getD .none

/-- The value under a key that must be there. -/
def item (entries : List (Value × Value)) (key : String) : Except PyError Value :=
  match find entries key with
  | some value => .ok value
  | Option.none => .error .keyError

/-- Assign to a key, which keeps its place and its first spelling. -/
def assign (entries : List (Value × Value)) (key value : Value) : List (Value × Value) :=
  if entries.any fun entry => entry.1.sameKey key then
    entries.map fun entry => if entry.1.sameKey key then (entry.1, value) else entry
  else entries ++ [(key, value)]

/-- The two elements of a value that is a pair. -/
def pair : Value → Except PyError (Value × Value)
  | .list [key, value] => .ok (key, value)
  | .dict [(key, _), (value, _)] => .ok (key, value)
  | .str text =>
    match text.toList with
    | [key, value] => .ok (.str (.ofList [key]), .str (.ofList [value]))
    | _ => .error .valueError
  | .list _ | .dict _ => .error .valueError
  | _ => .error .typeError

/-- Add a pair to a dictionary. -/
def addPair (entries : List (Value × Value)) (element : Value) :
    Except PyError (List (Value × Value)) := do
  let (key, value) ← pair element
  if key.hashable then .ok (assign entries key value) else .error .typeError

/-- The dictionary made of a value. -/
def toDict : Value → Except PyError (List (Value × Value))
  | .dict entries => .ok entries
  | .list items => items.foldlM addPair []
  | .str text => if text = "" then .ok [] else .error .valueError
  | _ => .error .typeError

/-- A key that is missing raises. -/
theorem item_none {entries : List (Value × Value)} {key : String}
    (absent : find entries key = Option.none) : item entries key = .error .keyError := by
  unfold item
  rw [absent]

/-- A key that is there is read. -/
theorem item_some {entries : List (Value × Value)} {key : String} {value : Value}
    (there : find entries key = some value) : item entries key = .ok value := by
  unfold item
  rw [there]

/-- A value that is no pair raises a value error or a type error. -/
theorem pair_error {value : Value} {raised : PyError} (failed : pair value = .error raised) :
    raised = .valueError ∨ raised = .typeError := by
  unfold pair at failed
  split at failed
  · cases failed
  · cases failed
  · split at failed
    · cases failed
    · exact .inl (Except.error.inj failed).symm
  · exact .inl (Except.error.inj failed).symm
  · exact .inl (Except.error.inj failed).symm
  · exact .inr (Except.error.inj failed).symm

/-- Adding what is no pair raises a value error or a type error. -/
theorem addPair_error {entries : List (Value × Value)} {element : Value} {raised : PyError}
    (failed : addPair entries element = .error raised) :
    raised = .valueError ∨ raised = .typeError := by
  rcases bind_eq_error.mp failed with unpaired | ⟨⟨key, value⟩, -, failed⟩
  · exact pair_error unpaired
  · simp only at failed
    split at failed
    · cases failed
    · exact .inr (Except.error.inj failed).symm

/-- Making a dictionary raises a value error or a type error. -/
theorem toDict_error {value : Value} {raised : PyError} (failed : value.toDict = .error raised) :
    raised = .valueError ∨ raised = .typeError := by
  unfold toDict at failed
  split at failed
  · cases failed
  · rename_i items
    revert failed
    generalize ([] : List (Value × Value)) = entries
    intro failed
    induction items generalizing entries with
    | nil => cases failed
    | cons element rest ih =>
      rw [List.foldlM_cons] at failed
      rcases bind_eq_error.mp failed with here | ⟨after, -, later⟩
      · exact addPair_error here
      · exact ih after later
  · split at failed
    · cases failed
    · exact .inl (Except.error.inj failed).symm
  · exact .inr (Except.error.inj failed).symm

end Value

end ProxSync.Lib
