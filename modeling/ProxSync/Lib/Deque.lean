import Mathlib.Data.List.Basic
import Mathlib.Data.List.TakeDrop
/-!
# Bounded double-ended queues

A queue with a greatest length. What is pushed at one end of a full queue makes room by discarding
at the other end, so pushing on the right discards from the left and pushing on the left discards
from the right. A queue can be copied into one of another greatest length.
-/
namespace ProxSync.Lib

universe u

/-- A queue that is never longer than its bound. -/
structure Deque (α : Type u) where
  items : List α
  maxlen : Nat
  /-- The queue is within its bound. -/
  bounded : items.length ≤ maxlen

namespace Deque

variable {α : Type u} {queue : Deque α}

/-- The last items of a list. -/
def lastItems (limit : Nat) (items : List α) : List α := items.drop (items.length - limit)

/-- The last items are as many as the limit at most. -/
theorem lastItems_length (limit : Nat) (items : List α) :
    (lastItems limit items).length ≤ limit := by
  rw [lastItems, List.length_drop]
  omega

/-- The last items end the list. -/
theorem lastItems_suffix (limit : Nat) (items : List α) : lastItems limit items <:+ items :=
  List.drop_suffix _ _

/-- A list that is short enough is all last items. -/
theorem lastItems_of_le {limit : Nat} {items : List α} (short : items.length ≤ limit) :
    lastItems limit items = items := by
  rw [lastItems, Nat.sub_eq_zero_of_le short, List.drop_zero]

/-- The first items are as many as the limit at most. -/
theorem take_length_le (limit : Nat) (items : List α) : (items.take limit).length ≤ limit := by
  rw [List.length_take]
  exact Nat.min_le_left _ _

/-- Dropping items keeps a bound. -/
theorem drop_length_le {limit : Nat} (count : Nat) {items : List α}
    (bounded : items.length ≤ limit) : (items.drop count).length ≤ limit := by
  rw [List.length_drop]
  omega

/-- The queue without items. -/
def empty (maxlen : Nat) : Deque α := ⟨[], maxlen, Nat.zero_le maxlen⟩

/-- Whether the next push discards an item. -/
def full (queue : Deque α) : Bool := queue.items.length == queue.maxlen

/-- Push an item on the right; a full queue loses its first one. -/
def append (queue : Deque α) (item : α) : Deque α :=
  ⟨lastItems queue.maxlen (queue.items ++ [item]), queue.maxlen, lastItems_length _ _⟩

/-- Push an item on the left; a full queue loses its last one. -/
def appendleft (queue : Deque α) (item : α) : Deque α :=
  ⟨(item :: queue.items).take queue.maxlen, queue.maxlen, take_length_le _ _⟩

/-- Push items on the left one after another. -/
def extendleft (queue : Deque α) (items : List α) : Deque α := items.foldl appendleft queue

/-- Copy a queue into one with another bound, from the left. -/
def resize (queue : Deque α) (maxlen : Nat) : Deque α :=
  ⟨lastItems maxlen queue.items, maxlen, lastItems_length _ _⟩

/-- The queue after its first items are taken out. -/
def popMany (queue : Deque α) (count : Nat) : Deque α :=
  ⟨queue.items.drop count, queue.maxlen, drop_length_le count queue.bounded⟩

/-- Pushing on the right discards from the left only. -/
theorem append_suffix (queue : Deque α) (item : α) :
    (queue.append item).items <:+ queue.items ++ [item] :=
  lastItems_suffix _ _

/-- Pushing on the right makes a queue longer by one, unless it discards one. -/
theorem length_append (queue : Deque α) (item : α) :
    (queue.append item).items.length + (if queue.full then 1 else 0) = queue.items.length + 1 := by
  have bounded := queue.bounded
  simp only [append, lastItems, List.length_drop, List.length_append, List.length_singleton, full,
    beq_iff_eq]
  split <;> omega

/-- Copying keeps the last items only. -/
theorem resize_suffix (queue : Deque α) (maxlen : Nat) :
    (queue.resize maxlen).items <:+ queue.items := lastItems_suffix _ _

/-- Copying into a queue with room for every item keeps them all. -/
theorem resize_items {maxlen : Nat} (room : queue.items.length ≤ maxlen) :
    (queue.resize maxlen).items = queue.items := lastItems_of_le room

/-- Items that are pushed on the left come out in the opposite order, before what was there, as far
as there is room. -/
theorem extendleft_items (queue : Deque α) (items : List α) :
    (queue.extendleft items).items = (items.reverse ++ queue.items).take queue.maxlen := by
  induction items generalizing queue with
  | nil =>
    rw [List.reverse_nil, List.nil_append]
    exact (List.take_of_length_le queue.bounded).symm
  | cons item rest ih =>
    have pushed := ih (queue.appendleft item)
    have split : (rest.reverse ++ (item :: queue.items).take queue.maxlen).take queue.maxlen =
        (rest.reverse ++ item :: queue.items).take queue.maxlen := by
      rw [List.take_append, List.take_append, List.take_take,
        Nat.min_eq_left (Nat.sub_le _ _)]
    rw [List.reverse_cons, List.append_assoc, List.singleton_append, ← split]
    exact pushed

/-- Items that are pushed back on the left in order are in front, if there is room for all. -/
theorem extendleft_reverse {items : List α}
    (room : items.length + queue.items.length ≤ queue.maxlen) :
    (queue.extendleft items.reverse).items = items ++ queue.items := by
  rw [extendleft_items, List.reverse_reverse]
  apply List.take_of_length_le
  rw [List.length_append]
  exact room

end Deque

end ProxSync.Lib
