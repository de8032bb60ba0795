import Mathlib.Data.List.Basic

/-! Loops that may fail, and do not as long as each turn has credit left. -/

namespace Credit

variable {State : Type*} {α : Type*} {Failure : Type*} {body : State → α → Except Failure State}

/-- A loop over items succeeds if each turn takes at most one unit of a credit that is enough;
what holds of the items done so far and the state holds at the end. -/
theorem foldlM_ok (credit : State → Nat) (holds : List α → State → Prop) {start : State}
    {items : List α} (enough : items.length ≤ credit start) (first : holds [] start)
    (turn : ∀ {done state} item, holds done state → 0 < credit state →
      ∃ next, body state item = .ok next ∧ holds (done ++ [item]) next ∧
        credit state ≤ credit next + 1) :
    ∃ finish, items.foldlM body start = .ok finish ∧ holds items finish := by
  -- The items are done from the front, so that those done before are a parameter.
  have general : ∀ {rest : List α} {done : List α} {state : State}, rest.length ≤ credit state →
      holds done state → ∃ finish, rest.foldlM body state = .ok finish ∧
        holds (done ++ rest) finish := by
    intro rest
    induction rest with
    | nil =>
      intro done state _ held
      exact ⟨state, rfl, by rwa [List.append_nil]⟩
    | cons item rest ih =>
      intro done state enough held
      rw [List.length_cons] at enough
      obtain ⟨next, result, held, spent⟩ := turn item held (by omega)
      obtain ⟨finish, results, all⟩ := ih (show rest.length ≤ credit next by omega) held
      refine ⟨finish, ?_, ?_⟩
      · rw [List.foldlM_cons, result]
        exact results
      · rwa [List.append_cons]
  exact general enough first

/-- A loop fails only as one of its turns does, in a state that the turns before have kept. -/
theorem foldlM_fails (holds : State → Prop) (bad : Failure → Prop) {start : State}
    {items : List α} {why : Failure} (first : holds start)
    (turn : ∀ {state next} item, holds state → body state item = .ok next → holds next)
    (fails : ∀ {state why} item, holds state → body state item = .error why → bad why)
    (result : items.foldlM body start = .error why) : bad why := by
  induction items generalizing start with
  | nil => cases result
  | cons item items ih =>
    rw [List.foldlM_cons] at result
    cases step : body start item with
    -- The failure is this item's own, and up to here the invariant held.
    | error why' =>
      rw [step] at result
      cases result
      exact fails item first step
    | ok next =>
      rw [step] at result
      exact ih (turn item first step) result

end Credit
