import Mathlib.Data.List.Nodup

/-! Logs whose entries belong to keys, with the entries of each key in one piece. -/

namespace Grouped

variable {Key Value : Type} [DecidableEq Key] {keys : List Key} {log : List (Key × Value)}
  {key : Key} {value : Value}

/-- The entries of one key. -/
def entries (log : List (Key × Value)) (key : Key) : List Value :=
  (log.filter fun entry => entry.1 = key).map Prod.snd

/-- The log is the entries of the first key, then those of the second, and so on. -/
def InOrder (keys : List Key) (log : List (Key × Value)) : Prop :=
  log = keys.flatMap fun key => log.filter fun entry => entry.1 = key

/-- An entry under a key comes behind the others there. -/
@[simp]
theorem entries_append_self :
    entries (log ++ [(key, value)]) key = entries log key ++ [value] := by
  simp [entries, List.filter_append]

/-- It changes nothing under another key. -/
theorem entries_append_other {other : Key} (different : key ≠ other) :
    entries (log ++ [(key, value)]) other = entries log other := by
  simp [entries, List.filter_append, different]

namespace InOrder

/-- An empty log is in order. -/
theorem nil : InOrder ([] : List Key) ([] : List (Key × Value)) := rfl

/-- Every entry belongs to one of the keys. -/
theorem mem_keys (inOrder : InOrder keys log) {entry : Key × Value} (logged : entry ∈ log) :
    entry.1 ∈ keys := by
  rw [inOrder] at logged
  obtain ⟨key, listed, filtered⟩ := List.mem_flatMap.mp logged
  obtain rfl : entry.1 = key := by simpa using (List.mem_filter.mp filtered).2
  exact listed

/-- A key that is not listed has no entries. -/
theorem entries_fresh (inOrder : InOrder keys log) (fresh : key ∉ keys) :
    entries log key = [] := by
  unfold entries
  rw [List.map_eq_nil_iff, List.filter_eq_nil_iff]
  intro entry logged same
  exact fresh (of_decide_eq_true same ▸ inOrder.mem_keys logged)

/-- The next key comes before its entries. -/
theorem addKey (inOrder : InOrder keys log) (fresh : key ∉ keys) :
    InOrder (keys ++ [key]) log := by
  have none_yet : log.filter (fun entry => entry.1 = key) = [] :=
    List.map_eq_nil_iff.mp (inOrder.entries_fresh fresh)
  unfold InOrder
  rw [List.flatMap_append, List.flatMap_singleton, none_yet, List.append_nil]
  exact inOrder

/-- An entry of the last key is added at the end. -/
theorem addEntry (inOrder : InOrder keys log) (distinct : keys.Nodup)
    (last : keys.getLast? = some key) : InOrder keys (log ++ [(key, value)]) := by
  obtain ⟨earlier, rfl⟩ := List.getLast?_eq_some_iff.mp last
  have fresh : key ∉ earlier := fun listed =>
    (List.nodup_append.mp distinct).2.2 key listed key (by simp) rfl
  -- The entries of the earlier keys are what they were.
  have kept : ∀ other ∈ earlier,
      (log ++ [(key, value)]).filter (fun entry => entry.1 = other) =
        log.filter fun entry => entry.1 = other := by
    intro other listed
    have different : key ≠ other := fun same => fresh (same ▸ listed)
    simp [List.filter_append, different]
  unfold InOrder at inOrder ⊢
  rw [List.flatMap_append, List.flatMap_singleton] at inOrder ⊢
  rw [List.flatMap_congr kept, List.filter_append]
  simp only [decide_true, List.filter_cons_of_pos, List.filter_nil]
  rw [← List.append_assoc, ← inOrder]

end InOrder

end Grouped
