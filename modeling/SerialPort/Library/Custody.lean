import Mathlib.Logic.Function.Basic

/-! Tokens that are handed from place to place, and a record of where each one is. -/

namespace Custody

variable {Place Token : Type} {holds holds' : Place → Token → Prop}
  {recorded recorded' : Token → Option Place} {source target : Place} {token : Token}

/-- Whatever a place holds is recorded there. -/
def Sound (holds : Place → Token → Prop) (recorded : Token → Option Place) : Prop :=
  ∀ place token, holds place token → recorded token = some place

namespace Sound

/-- No token is in two places. -/
theorem unique (sound : Sound holds recorded) {place place' : Place} (here : holds place token)
    (there : holds place' token) : place = place' := by
  have same := (sound _ _ here).symm.trans (sound _ _ there)
  exact Option.some.inj same

/-- Places may let go of tokens, and the record of a token that nobody holds may change. -/
theorem keep (sound : Sound holds recorded)
    (fewer : ∀ place token, holds' place token → holds place token)
    (same : ∀ place token, holds' place token → recorded' token = recorded token) :
    Sound holds' recorded' := by
  intro place token held
  rw [same place token held]
  exact sound place token (fewer place token held)

/-- A token that nobody holds is put in a place. -/
theorem gain [DecidableEq Token] (sound : Sound holds recorded)
    (free : ∀ place, ¬holds place token)
    (more : ∀ place other, holds' place other →
      holds place other ∨ place = target ∧ other = token)
    (same : recorded' = Function.update recorded token (some target)) :
    Sound holds' recorded' := by
  intro place other held
  subst same
  rcases more place other held with before | ⟨rfl, rfl⟩
  · -- A place that was there before holds another token, whose record is the old one.
    have different : other ≠ token := fun moved => free place (moved ▸ before)
    rw [Function.update_of_ne different]
    exact sound place other before
  · rw [Function.update_self]

end Sound

end Custody
