import Mathlib.Data.List.Basic
import Mathlib.Order.Bounds.Basic

/-! Loops that try again until an attempt succeeds, for at most a given number of attempts. -/

namespace Retry

variable {α : Type*}

/-- Another attempt follows: none has succeeded, and not all of them are used up. -/
structure Continues (success : α → Bool) (limit : Nat) (log : List α) : Prop where
  left : log.length < limit
  missed : ∀ outcome ∈ log, success outcome = false

/-- The loop is over: an attempt has succeeded, the last one, or all of them are used up. -/
structure Over (success : α → Bool) (limit : Nat) (log : List α) : Prop where
  within : log.length ≤ limit
  missed : ∀ outcome ∈ log.dropLast, success outcome = false
  ended : log.length = limit ∨ ∃ outcome, log.getLast? = some outcome ∧ success outcome = true

/-- The outcomes of the attempts are the first ones of all outcomes to come. -/
def Follows (log : List α) (tape : Nat → α) : Prop :=
  ∀ index outcome, log[index]? = some outcome → tape index = outcome

/-- The numbers of attempts after which the loop would end: at a success, and at the limit. -/
def stops (success : α → Bool) (limit : Nat) (tape : Nat → α) : Set Nat :=
  -- At the limit the loop ends whatever the last outcome is.
  {count | (0 < count ∧ success (tape (count - 1)) = true) ∨ count = limit}

variable {success : α → Bool} {limit : Nat} {log : List α} {outcome : α} {tape : Nat → α}

/-- Where one try is allowed, the first one goes on. -/
theorem Continues.start (positive : 0 < limit) : Continues success limit [] :=
  ⟨positive, nofun⟩

/-- Without a single attempt the loop is over at once. -/
theorem Over.start : Over success 0 ([] : List α) :=
  ⟨Nat.le_refl 0, nofun, .inl rfl⟩

/-- After a failure the loop goes on while attempts are left. -/
theorem Continues.again (continues : Continues success limit log)
    (failed : success outcome = false) (left : log.length + 1 < limit) :
    Continues success limit (log ++ [outcome]) where
  left := by rwa [List.length_append, List.length_singleton]
  missed := by
    intro earlier made
    rcases List.mem_append.mp made with before | last
    · exact continues.missed earlier before
    · rwa [List.mem_singleton.mp last]

/-- The loop is over after a success, and after the last attempt. -/
theorem Continues.isOver (continues : Continues success limit log)
    (ends : success outcome = true ∨ ¬log.length + 1 < limit) :
    Over success limit (log ++ [outcome]) where
  within := by
    rw [List.length_append, List.length_singleton]
    exact continues.left
  missed := by
    rw [List.dropLast_concat]
    exact continues.missed
  ended := by
    -- The new outcome is the last one, and decides which of the two ends it is.
    rw [List.length_append, List.length_singleton, List.getLast?_concat]
    rcases ends with succeeded | used
    · exact .inr ⟨outcome, rfl, succeeded⟩
    · exact .inl (Nat.le_antisymm continues.left (Nat.not_lt.mp used))

/-- A loop that is over has made as many attempts as the first success or the limit asks for. -/
theorem Over.isLeast (finished : Over success limit log) (follows : Follows log tape) :
    IsLeast (stops success limit tape) log.length := by
  -- The loop has stopped there, and could not have stopped before.
  constructor
  · rcases finished.ended with used | ⟨outcome, last, succeeded⟩
    · exact .inr used
    · -- The last outcome on the tape so far is the success.
      rw [List.getLast?_eq_getElem?] at last
      have inside := (List.getElem?_eq_some_iff.mp last).1
      refine .inl ⟨by omega, ?_⟩
      rw [follows _ _ last]
      exact succeeded
  · rintro count (⟨positive, succeeded⟩ | rfl)
    · -- A success before the last attempt would have ended the loop there.
      by_contra early
      have inside : count - 1 < log.length := by omega
      have earlier : log[count - 1] ∈ log.dropLast := by
        rw [List.mem_iff_getElem]
        exact ⟨count - 1, by rw [List.length_dropLast]; omega, List.getElem_dropLast _⟩
      rw [follows _ _ (List.getElem?_eq_getElem inside), finished.missed _ earlier] at succeeded
      cases succeeded
    · exact finished.within

/-- A loop that would go on has not made enough attempts. -/
theorem Continues.not_isLeast (continues : Continues success limit log)
    (follows : Follows log tape) : ¬IsLeast (stops success limit tape) log.length := by
  rintro ⟨⟨positive, succeeded⟩ | used, -⟩
  · have inside : log.length - 1 < log.length := by omega
    rw [follows _ _ (List.getElem?_eq_getElem inside),
      continues.missed _ (List.getElem_mem inside)] at succeeded
    cases succeeded
  · exact Nat.ne_of_lt continues.left used

/-- No attempt follows a successful one. -/
theorem Over.once (finished : Over success limit log) {index : Nat}
    (made : log[index]? = some outcome)
    (succeeded : success outcome = true) : index + 1 = log.length := by
  -- A success that is not the last outcome would be one that is missed.
  by_contra earlier
  obtain ⟨inside, rfl⟩ := List.getElem?_eq_some_iff.mp made
  have listed : log[index] ∈ log.dropLast := by
    rw [List.mem_iff_getElem]
    exact ⟨index, by rw [List.length_dropLast]; omega, List.getElem_dropLast _⟩
  rw [finished.missed _ listed] at succeeded
  cases succeeded

/-- Some outcomes follow the ones there are. -/
theorem exists_follows (log : List α) (default : α) : ∃ tape : Nat → α, Follows log tape :=
  -- Behind the outcomes there are, it does not matter what comes.
  ⟨fun index => log[index]?.getD default, fun index outcome made => by
    simp only [made, Option.getD_some]⟩

end Retry
