import Mathlib.Logic.Basic

/-! Work that is handed from one carrier to the next, so that somebody carries it while it lasts. -/

namespace Relay

variable {State Carrier Action : Type} (carries : State → Carrier → Prop) (pending : State → Prop)
  (drops : State → Carrier → Action → Prop)

/-- Pending work is carried by somebody. -/
def Carried (state : State) : Prop :=
  pending state → ∃ carrier, carries state carrier

/-- Whoever drops pending work leaves it to another carrier. -/
def Passes (state : State) (action : Action) : Prop :=
  ∀ carrier, drops state carrier action → pending state →
    ∃ other, other ≠ carrier ∧ carries state other

variable {carries pending drops} {before after : State} {action : Action}

/-- Work that is passed on stays carried, where a step drops at most one carrier's work. -/
theorem Carried.step (carried : Carried carries pending before)
    (passes : Passes carries pending drops before action)
    (raised : pending after → pending before ∨ ∃ carrier, carries after carrier)
    (kept : pending before → pending after → ∀ carrier, carries before carrier →
      (∃ other, carries after other) ∨ drops before carrier action)
    (alone : ∀ carrier other, drops before carrier action → drops before other action →
      other = carrier) :
    Carried carries pending after := by
  intro now
  rcases raised now with earlier | taken
  · obtain ⟨carrier, carries⟩ := carried earlier
    rcases kept earlier now carrier carries with goes_on | drops
    · exact goes_on
    -- The one that drops the work has left it to somebody who cannot drop it in the same step.
    obtain ⟨other, apart, carries'⟩ := passes carrier drops earlier
    rcases kept earlier now other carries' with goes_on | drops'
    · exact goes_on
    · exact absurd (alone carrier other drops drops') apart
  · exact taken

end Relay
