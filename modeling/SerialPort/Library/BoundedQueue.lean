import Mathlib.Data.List.Nodup

/-! Bounded queues that remember what they accepted and what has been taken from them. -/

/-- A queue of at most so many items; what has been taken and what waits is what was accepted. -/
structure BoundedQueue (Item : Type) (capacity : Nat) where
  accepted : List Item
  taken : List Item
  waiting : List Item
  inOrder : taken ++ waiting = accepted
  bounded : waiting.length ≤ capacity

namespace BoundedQueue

variable {Item : Type} {capacity : Nat} (queue : BoundedQueue Item capacity)

def empty : BoundedQueue Item capacity where
  accepted := []
  taken := []
  waiting := []
  inOrder := rfl
  bounded := Nat.zero_le _

/-- An item goes to the end of the queue. -/
def accept (item : Item) (room : queue.waiting.length < capacity) : BoundedQueue Item capacity where
  accepted := queue.accepted ++ [item]
  taken := queue.taken
  waiting := queue.waiting ++ [item]
  inOrder := by rw [← List.append_assoc, queue.inOrder]
  bounded := by
    rw [List.length_append, List.length_singleton]
    omega

/-- The first item is taken. -/
def take {item : Item} {rest : List Item} (first : queue.waiting = item :: rest) :
    BoundedQueue Item capacity where
  accepted := queue.accepted
  taken := queue.taken ++ [item]
  waiting := rest
  inOrder := by rw [List.append_assoc, List.singleton_append, ← first, queue.inOrder]
  bounded := by
    have bounded := queue.bounded
    rw [first, List.length_cons] at bounded
    omega

/-- The first items are taken together. -/
def takeAll {items rest : List Item} (first : queue.waiting = items ++ rest) :
    BoundedQueue Item capacity where
  accepted := queue.accepted
  taken := queue.taken ++ items
  waiting := rest
  inOrder := by rw [List.append_assoc, ← first, queue.inOrder]
  bounded := by
    have bounded := queue.bounded
    rw [first, List.length_append] at bounded
    omega

end BoundedQueue
