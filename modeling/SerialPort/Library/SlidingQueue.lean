import Mathlib.Data.List.DropRight

/-! Bounded queues that drop the oldest items to make room for a new one. -/

/-- A queue of at most so many items; what waits are the latest ones of those that were offered. -/
structure SlidingQueue (Item : Type) (capacity : Nat) where
  offered : List Item
  waiting : List Item
  latest : waiting <:+ offered
  bounded : waiting.length ≤ capacity

namespace SlidingQueue

variable {Item : Type} {capacity : Nat}

def empty : SlidingQueue Item capacity where
  offered := []
  waiting := []
  latest := List.suffix_refl []
  bounded := Nat.zero_le _

/-- The last items of a list are among those behind anything. -/
theorem rtake_suffix (list : List Item) (count : Nat) : list.rtake count <:+ list := by
  unfold List.rtake
  exact List.drop_suffix _ _

/-- No more items are kept than asked for. -/
theorem length_rtake_le (list : List Item) (count : Nat) : (list.rtake count).length ≤ count := by
  unfold List.rtake
  rw [List.length_drop]
  omega

/-- While there is room nothing is dropped. -/
theorem rtake_concat_room {list : List Item} (item : Item) (room : list.length < capacity) :
    (list ++ [item]).rtake capacity = list ++ [item] := by
  -- There is nothing to be dropped in front.
  have short : (list ++ [item]).length - capacity = 0 := by
    rw [List.length_append, List.length_singleton]
    omega
  unfold List.rtake
  rw [short, List.drop_zero]

/-- A full list drops the one item in front. -/
theorem rtake_concat_full {list : List Item} (item : Item) (full : list.length = capacity)
    (some_ : 0 < capacity) : (list ++ [item]).rtake capacity = list.tail ++ [item] := by
  have one : (list ++ [item]).length - capacity = 1 := by
    rw [List.length_append, List.length_singleton]
    omega
  unfold List.rtake
  rw [one, List.drop_one]
  -- The item in front is an old one, since there is at least one.
  cases list with
  | nil =>
    rw [List.length_nil] at full
    omega
  | cons first rest => rfl

variable (queue : SlidingQueue Item capacity)

/-- An item goes to the end of the queue, and the oldest ones leave if there are too many. -/
def offer (item : Item) : SlidingQueue Item capacity where
  offered := queue.offered ++ [item]
  waiting := (queue.waiting ++ [item]).rtake capacity
  latest := by
    -- The new item is the last one of both lists.
    obtain ⟨earlier, whole⟩ := queue.latest
    refine (rtake_suffix _ _).trans ⟨earlier, ?_⟩
    rw [← List.append_assoc, whole]
  bounded := length_rtake_le _ _

/-- The first item leaves the queue. -/
def take : SlidingQueue Item capacity where
  offered := queue.offered
  waiting := queue.waiting.tail
  latest := (List.tail_suffix _).trans queue.latest
  bounded := by
    have bounded := queue.bounded
    rw [List.length_tail]
    omega

end SlidingQueue
