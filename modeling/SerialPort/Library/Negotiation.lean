import Mathlib.Data.List.Basic

/-! A party that may do something, and another one that asks for it or refuses it. -/

namespace Negotiation

/-- Whether the party has offered to do it without an answer yet, and whether it does it. -/
structure Party where
  offered : Bool
  active : Bool
  deriving DecidableEq

/-- What the other party says. -/
inductive Demand where
  | ask
  | refuse
  deriving DecidableEq

variable (supported : Bool) (party : Party)

/-- The party does what it is asked for if it can, and its offer is answered either way. -/
def Demand.outcome : Demand → Party
  | .ask => { offered := false, active := supported }
  | .refuse => { offered := false, active := false }

/-- What the party announces: that it does it or does not, unless the other one knows already. -/
def Party.answer : Demand → List Bool
  | .ask => if supported then if party.offered then [] else [true] else [false]
  | .refuse => if party.active then [false] else []

/-- The party does what was last announced and asked for; an offer is an announcement. -/
structure Agrees (announced : List Bool) (demands : List Demand) : Prop where
  active : party.active = true ↔ announced.getLast? = some true ∧ demands.getLast? = some .ask
  offered : party.offered = true → announced.getLast? = some true

namespace Agrees

/-- At first the party has made an offer, or has said nothing. -/
theorem start (offers : Bool) :
    Agrees { offered := offers, active := false } (if offers then [true] else []) [] where
  active := by simp
  offered := fun offered => by
    have offers_ : offers = true := offered
    rw [if_pos offers_, List.getLast?_singleton]

variable {supported party} {announced : List Bool} {demands : List Demand}

/-- The parties still agree when a demand is answered. -/
theorem step (agrees : Agrees party announced demands) (demand : Demand) :
    Agrees (demand.outcome supported) (announced ++ party.answer supported demand)
      (demands ++ [demand]) where
  active := by
    cases demand with
    | ask =>
      -- Only a pending offer makes an announcement needless.
      cases supported with
      | false => simp [Demand.outcome, Party.answer]
      | true =>
        by_cases offered : party.offered = true
        · simp [Demand.outcome, Party.answer, offered, agrees.offered offered]
        · simp [Demand.outcome, Party.answer, offered]
    | refuse => simp [Demand.outcome]
  offered := by cases demand <;> simp [Demand.outcome]

end Agrees

end Negotiation
