import Mathlib.Data.List.Chain
import Mathlib.Data.List.Count

/-! Histories that are complete rounds one after another, and then the beginning of the next. -/

namespace Rounds

variable {Entry : Type} {Round : List Entry → Prop} {history current more : List Entry}

/-- Where only a frequent entry comes right before a rare one, the rare ones are not more. -/
theorem countP_le_of_isChain {rare frequent : Entry → Bool} {entries : List Entry}
    (chain : entries.IsChain fun before after => rare after = true → frequent before = true)
    (first : ∀ entry ∈ entries.head?, rare entry = false) :
    entries.countP rare ≤ entries.countP frequent := by
  -- Every rare entry but the first one is counted with the entry before it.
  have later : entries.tail.countP rare ≤ entries.countP frequent := by
    clear first
    induction entries with
    | nil => exact Nat.le_refl _
    | cons before rest ih =>
      cases rest with
      | nil => exact Nat.zero_le _
      | cons after rest =>
        obtain ⟨precedes, chain⟩ := List.isChain_cons_cons.mp chain
        have counted := ih chain
        simp only [List.tail_cons, List.countP_cons] at counted ⊢
        by_cases rare_ : rare after = true
        · rw [if_pos rare_, if_pos (precedes rare_)]
          omega
        · rw [if_neg rare_]
          omega
  cases entries with
  | nil => exact Nat.le_refl _
  | cons entry rest =>
    rw [List.countP_cons, first entry rfl]
    exact later

/-- The beginning of a round of which something is still missing, or nothing at all. -/
def Begun (Round : List Entry → Prop) (current : List Entry) : Prop :=
  current = [] ∨ ∃ rest, rest ≠ [] ∧ Round (current ++ rest)

/-- Complete rounds, behind which the current one comes as far as it has got. -/
def InRounds (Round : List Entry → Prop) (history current : List Entry) : Prop :=
  ∃ rounds : List (List Entry), (∀ round ∈ rounds, Round round) ∧
    history = rounds.flatten ++ current

namespace InRounds

/-- Before the first round nothing has happened. -/
theorem nil : InRounds Round [] [] := ⟨[], nofun, rfl⟩

/-- The current round gets on. -/
theorem extend (inRounds : InRounds Round history current) :
    InRounds Round (history ++ more) (current ++ more) := by
  obtain ⟨rounds, complete, rfl⟩ := inRounds
  exact ⟨rounds, complete, List.append_assoc _ _ _⟩

/-- The current round is complete, and the next one may begin. -/
theorem complete (inRounds : InRounds Round history current) (round : Round current) :
    InRounds Round history [] := by
  -- The current round becomes the last of the complete ones.
  obtain ⟨rounds, complete, rfl⟩ := inRounds
  refine ⟨rounds ++ [current], fun other listed => ?_, by simp⟩
  rcases List.mem_append.mp listed with earlier | last
  · exact complete other earlier
  · rwa [List.mem_singleton.mp last]

/-- The history ends with the current round. -/
theorem getLast? (inRounds : InRounds Round history current) {last : Entry}
    (ends : current.getLast? = some last) : history.getLast? = some last := by
  obtain ⟨rounds, -, rfl⟩ := inRounds
  rw [List.getLast?_append, ends]
  rfl

/-- What is never more frequent in any beginning of a round is not so in the history. -/
theorem countP_le {rare frequent : Entry → Bool} (inRounds : InRounds Round history current)
    (begun : Begun Round current)
    (within : ∀ former latter, Round (former ++ latter) →
      former.countP rare ≤ former.countP frequent) :
    history.countP rare ≤ history.countP frequent := by
  obtain ⟨rounds, complete, rfl⟩ := inRounds
  have last : current.countP rare ≤ current.countP frequent := by
    rcases begun with rfl | ⟨rest, -, round⟩
    · exact Nat.le_refl _
    · exact within current rest round
  -- The rounds are counted one by one, from the first to the current one.
  induction rounds with
  | nil => exact last
  | cons round rounds ih =>
    have first := within round [] (by simpa using complete round List.mem_cons_self)
    have rest := ih fun other listed => complete other (List.mem_cons_of_mem _ listed)
    simp only [List.flatten_cons, List.append_assoc, List.countP_append] at rest ⊢
    omega

/-- What holds of neighbours within a round, and of the end of a round with whatever comes next,
holds of neighbours in the history. -/
theorem isChain {next : Entry → Entry → Prop} (inRounds : InRounds Round history current)
    (begun : Begun Round current) (within : ∀ round, Round round → round.IsChain next)
    (between : ∀ round, Round round → ∀ last ∈ round.getLast?, ∀ first, next last first) :
    history.IsChain next := by
  obtain ⟨rounds, complete, rfl⟩ := inRounds
  -- The rounds are joined from the first one on, and the current one stands at the end.
  induction rounds with
  | nil =>
    rcases begun with rfl | ⟨rest, -, round⟩
    · exact .nil
    · exact (within _ round).left_of_append
  | cons round rounds ih =>
    have first := complete round List.mem_cons_self
    have rest := ih fun other listed => complete other (List.mem_cons_of_mem _ listed)
    -- The first round is joined to the rest of the history at its end.
    rw [List.flatten_cons, List.append_assoc]
    exact (within round first).append rest fun last ends other _ =>
      between round first last ends other

end InRounds

end Rounds
