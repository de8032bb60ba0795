import Mathlib.Algebra.Order.Ring.Int
import Mathlib.Data.List.Basic
import Mathlib.Data.List.Range

/-! Cells arranged in a circle, and the items in a row of them that may run past the end. -/

namespace Circular

variable {Item : Type*} {size : Nat}

/-- Cells less than once around apart are different ones. -/
theorem position_ne {low high : Nat} (apart : low < high) (near : high < low + size) :
    low % size ≠ high % size := by
  intro same
  -- Equal remainders make the difference a multiple of the size, which it is too small for.
  have multiple : (high - low) % size = 0 := Nat.sub_mod_eq_zero_of_mod_eq same.symm
  rw [Nat.mod_eq_of_lt (by omega)] at multiple
  omega

variable [NeZero size]

/-- The cell at a position, counted around the circle as often as needed. -/
def cell (cells : Vector Item size) (position : Nat) : Item :=
  haveI inside : position % size < size := Nat.mod_lt _ (Nat.pos_of_neZero size)
  cells[position % size]

/-- The items in so many cells from a position on. -/
def window (cells : Vector Item size) (start count : Nat) : List Item :=
  (List.range count).map fun offset => cell cells (start + offset)

variable (cells : Vector Item size) (start count : Nat)

/-- A window has as many items as it is wide. -/
@[simp] theorem window_length : (window cells start count).length = count := by
  rw [window, List.length_map, List.length_range]

/-- An empty window has none. -/
@[simp] theorem window_none : window cells start 0 = [] := rfl

/-- A cell is found again one turn later. -/
theorem cell_mod : cell cells (start % size) = cell cells start := by
  simp only [cell, Nat.mod_mod]

/-- Once around the circle every cell comes again. -/
theorem window_mod : window cells (start % size) count = window cells start count := by
  -- Every cell of the window is reduced in the same way.
  refine List.map_congr_left fun offset _ => ?_
  rw [← cell_mod cells (start % size + offset), ← cell_mod cells (start + offset), Nat.mod_add_mod]

/-- The last cell of a window stands behind the others. -/
theorem window_concat :
    window cells start (count + 1) = window cells start count ++ [cell cells (start + count)] := by
  rw [window, List.range_succ, List.map_append, List.map_singleton, window]

/-- The first cell of a window stands in front of the others. -/
theorem window_cons :
    window cells start (count + 1) = cell cells start :: window cells (start + 1) count := by
  -- The range of offsets is shifted by the first of them.
  rw [window, List.range_succ_eq_map, List.map_cons, List.map_map, Nat.add_zero]
  refine congrArg (cell cells start :: ·) (List.map_congr_left fun offset _ => ?_)
  rw [Function.comp_apply, Nat.succ_eq_add_one, Nat.add_assoc, Nat.add_comm 1 offset]

/-- A window splits at any place into two. -/
theorem window_append (more : Nat) :
    window cells start (count + more) =
      window cells start count ++ window cells (start + count) more := by
  -- The second window grows cell by cell, and so does the whole.
  induction more with
  | zero => rw [Nat.add_zero, window_none, List.append_nil]
  | succ more ih => rw [← Nat.add_assoc, window_concat, ih, window_concat, List.append_assoc,
      Nat.add_assoc start count more]

/-- A cell behind a window can be changed without a change in the window. -/
theorem window_set (item : Item) (inside : count < size) :
    window (cells.set ((start + count) % size) item (Nat.mod_lt _ (Nat.pos_of_neZero size))) start
      count = window cells start count := by
  refine List.map_congr_left fun offset member => ?_
  have before := List.mem_range.mp member
  have other : (start + offset) % size ≠ (start + count) % size :=
    position_ne (by omega) (by omega)
  rw [cell, cell, Vector.getElem_set_ne _ _ other.symm]

/-- An item written into the cell behind a window becomes its last one. -/
theorem window_push (item : Item) (inside : count < size) :
    window (cells.set ((start + count) % size) item (Nat.mod_lt _ (Nat.pos_of_neZero size))) start
      (count + 1) = window cells start count ++ [item] := by
  rw [window_concat, window_set cells start count item inside, cell, Vector.getElem_set_self]

/-- Without its first items a window is the one that starts behind them. -/
theorem window_drop (number : Nat) :
    (window cells start count).drop number = window cells (start + number) (count - number) := by
  -- Within the window, it splits into the items dropped and the others.
  by_cases within : number ≤ count
  · obtain ⟨more, rfl⟩ := Nat.exists_eq_add_of_le within
    rw [window_append, List.drop_left' (window_length cells start number), Nat.add_sub_cancel_left]
  · -- There are no items left.
    have short : count - number = 0 := by omega
    rw [short, window_none]
    exact List.drop_eq_nil_of_le (by rw [window_length]; omega)

/-- The first items of a window are the window of so many cells. -/
theorem window_take (number : Nat) (within : number ≤ count) :
    (window cells start count).take number = window cells start number := by
  obtain ⟨more, rfl⟩ := Nat.exists_eq_add_of_le within
  rw [window_append, List.take_left' (window_length cells start number)]

/-- A window that does not run past the end is a stretch of the memory. -/
theorem window_eq_stretch (inside : start + count ≤ size) :
    window cells start count = (cells.toList.drop start).take count := by
  refine List.ext_getElem ?_ fun offset here there => ?_
  · rw [window_length, List.length_take, List.length_drop, Vector.length_toList]
    omega
  · rw [window_length] at here
    -- No position of the window is reduced.
    have unwrapped : (start + offset) % size = start + offset := Nat.mod_eq_of_lt (by omega)
    simp only [window, cell, List.getElem_map, List.getElem_range, List.getElem_take,
      List.getElem_drop, Vector.getElem_toList, unwrapped]

end Circular
