import Mathlib.Data.List.Nodup

/-! Lines that may lose what is sent, and keep the order as long as only the end is lost. -/

/-- What was sent, and what of it a line has kept: the first items, and all those before them. -/
structure Conveyor (Item : Type) where
  sent : List Item
  kept : List Item
  inOrder : kept <+: sent
  once : sent.Nodup

namespace Conveyor

variable {Item : Type} (conveyor : Conveyor Item)

def empty : Conveyor Item where
  sent := []
  kept := []
  inOrder := List.prefix_refl _
  once := List.nodup_nil

/-- A line that keeps every item keeps them in the order in which they were sent. -/
theorem kept_eq (whole : ∀ item ∈ conveyor.sent, item ∈ conveyor.kept) :
    conveyor.kept = conveyor.sent := by
  obtain ⟨rest, sent⟩ := conveyor.inOrder
  have once := conveyor.once
  rw [← sent] at once whole ⊢
  -- An item beyond those that are kept would have been sent twice.
  have none_ : rest = [] := by
    refine List.eq_nil_iff_forall_not_mem.mpr fun item beyond => ?_
    have kept := whole item (List.mem_append_right _ beyond)
    exact (List.nodup_append.mp once).2.2 item kept item beyond rfl
  rw [none_, List.append_nil]

/-- An item that was not sent before is sent once. -/
theorem once_append {item : Item} (fresh : item ∉ conveyor.sent) :
    (conveyor.sent ++ [item]).Nodup := by
  refine List.nodup_append.mpr ⟨conveyor.once, List.nodup_singleton item, ?_⟩
  intro earlier listed other new same
  exact fresh (List.mem_singleton.mp new ▸ same ▸ listed)

/-- An item enters a line that has kept all the earlier ones. -/
def accept (item : Item) (fresh : item ∉ conveyor.sent)
    (whole : ∀ earlier ∈ conveyor.sent, earlier ∈ conveyor.kept) : Conveyor Item where
  sent := conveyor.sent ++ [item]
  kept := conveyor.kept ++ [item]
  inOrder := ⟨[], by rw [List.append_nil, conveyor.kept_eq whole]⟩
  once := conveyor.once_append fresh

/-- An item is sent, and does not enter the line. -/
def refuse (item : Item) (fresh : item ∉ conveyor.sent) : Conveyor Item where
  sent := conveyor.sent ++ [item]
  kept := conveyor.kept
  inOrder := conveyor.inOrder.trans (List.prefix_append _ _)
  once := conveyor.once_append fresh

/-- The line loses the last item that it has kept. -/
def lose {first : List Item} {last : Item} (ends : conveyor.kept = first ++ [last]) :
    Conveyor Item where
  sent := conveyor.sent
  kept := first
  inOrder := by
    refine List.IsPrefix.trans ?_ conveyor.inOrder
    rw [ends]
    exact List.prefix_append _ _
  once := conveyor.once

end Conveyor
