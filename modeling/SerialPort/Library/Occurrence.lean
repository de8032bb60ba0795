import Mathlib.Data.List.Infix
import Mathlib.Data.Nat.Find

/-! First occurrences of a pattern in a text, and what later text can do to them. -/

namespace Occurrence

variable {α : Type*}

/-- The pattern stands in the text at the given position. -/
def At (pattern text : List α) (position : Nat) : Prop :=
  pattern <+: text.drop position

/-- The position is the earliest one at which the pattern stands. -/
def First (pattern text : List α) (position : Nat) : Prop :=
  At pattern text position ∧ ∀ earlier < position, ¬At pattern text earlier

instance [DecidableEq α] (pattern text : List α) (position : Nat) :
    Decidable (At pattern text position) :=
  inferInstanceAs (Decidable (_ <+: _))

instance [DecidableEq α] (pattern text : List α) (position : Nat) :
    Decidable (First pattern text position) :=
  inferInstanceAs (Decidable (_ ∧ _))

/-- The pattern stands nowhere in the text. -/
def Absent (pattern text : List α) : Prop :=
  ∀ position, ¬At pattern text position

/-- An occurrence lies within the text. -/
theorem At.length_le {pattern text : List α} {position : Nat} (occurs : At pattern text position)
    (nonempty : pattern ≠ []) : position + pattern.length ≤ text.length := by
  -- The remaining suffix is at least as long as the pattern, which is not empty.
  have fits := List.IsPrefix.length_le occurs
  have positive := List.length_pos_iff.mpr nonempty
  simp only [List.length_drop] at fits
  omega

/-- Occurrences are decided by the window of the pattern's own length. -/
theorem at_iff_window {pattern text : List α} {position : Nat} :
    At pattern text position ↔ (text.drop position).take pattern.length = pattern := by
  -- A list is a prefix exactly when it is the truncation to its own length.
  rw [At, List.prefix_iff_eq_take]
  exact eq_comm

/-- Later text keeps an occurrence where it was. -/
theorem At.append {pattern text : List α} {position : Nat} (occurs : At pattern text position)
    (nonempty : pattern ≠ []) (later : List α) : At pattern (text ++ later) position := by
  -- The position lies inside the text, so dropping up to it leaves the later text behind.
  have inside := occurs.length_le nonempty
  rw [At, List.drop_append_of_le_length (by omega)]
  exact List.prefix_append_of_prefix occurs

/-- An occurrence that ends inside the text does not need the later text. -/
theorem At.of_append {pattern text later : List α} {position : Nat}
    (occurs : At pattern (text ++ later) position)
    (inside : position + pattern.length ≤ text.length) : At pattern text position := by
  -- Both the pattern and the rest of the text are prefixes of one list, and the pattern is shorter.
  rw [At, List.drop_append_of_le_length (by omega)] at occurs
  exact List.prefix_of_prefix_length_le occurs (List.prefix_append ..) (by simp; omega)

/-- Later text cannot displace a first occurrence. -/
theorem First.append {pattern text : List α} {position : Nat} (first : First pattern text position)
    (nonempty : pattern ≠ []) (later : List α) : First pattern (text ++ later) position := by
  -- An earlier occurrence would end inside the text as well.
  refine ⟨first.1.append nonempty later, fun earlier before occurs => ?_⟩
  have inside := first.1.length_le nonempty
  exact first.2 earlier before (occurs.of_append (by omega))

/-- A text that begins with the pattern has its first occurrence there. -/
theorem first_zero {pattern text : List α} (begins : pattern <+: text) :
    First pattern text 0 :=
  -- No position comes before the beginning.
  ⟨by simpa [At] using begins, fun _ before => absurd before (Nat.not_lt_zero _)⟩

/-- Somewhere the pattern stands first, or it stands nowhere. -/
theorem first_or_absent (pattern text : List α) :
    (∃ position, First pattern text position) ∨ Absent pattern text := by
  -- A least occurrence exists as soon as there is one.
  by_cases somewhere : ∃ position, At pattern text position
  · classical
    exact Or.inl ⟨Nat.find somewhere, Nat.find_spec somewhere,
      fun earlier before => Nat.find_min somewhere before⟩
  · exact Or.inr (not_exists.mp somewhere)

/-- A first occurrence moved to the front is the beginning of the remaining text. -/
theorem First.begins {pattern text : List α} {position : Nat}
    (first : First pattern text position) :
    pattern <+: text.drop position := first.1

/-- Occurrences in a suffix are the occurrences in the text from there on. -/
theorem at_drop {pattern text : List α} {dropped position : Nat} :
    At pattern (text.drop dropped) position ↔ At pattern text (dropped + position) := by
  -- Dropping twice drops the sum.
  rw [At, At, List.drop_drop]

/-- How much of a text without the pattern cannot take part in any occurrence to come. -/
def spent (pattern text : List α) : Nat :=
  -- Only a proper prefix of the pattern can still be completed by later text.
  text.length - (pattern.length - 1)

/-- The spent part lies within the text. -/
theorem spent_le (pattern text : List α) : spent pattern text ≤ text.length :=
  Nat.sub_le ..

/-- Dropping the spent part before or after later text arrives leaves the same tail. -/
theorem drop_spent_append (pattern text later : List α) :
    (text.drop (spent pattern text) ++ later).drop
        (spent pattern (text.drop (spent pattern text) ++ later)) =
      (text ++ later).drop (spent pattern (text ++ later)) := by
  -- Both tails have the same length, so they start at the same place of the whole text.
  rw [← List.drop_append_of_le_length (spent_le pattern text), List.drop_drop]
  congr 1
  simp only [spent, List.length_drop, List.length_append]
  omega

/-- In a text without the pattern, later text completes an occurrence only in the unspent tail. -/
theorem Absent.spent_le_position {pattern text later : List α} {position : Nat}
    (absent : Absent pattern text) (occurs : At pattern (text ++ later) position) :
    spent pattern text ≤ position := by
  -- An occurrence ending inside the text would be one of the text alone.
  by_contra early
  unfold spent at early
  exact absent position (occurs.of_append (by omega))

/-- Dropping the spent part of a text without the pattern moves first occurrences along with it. -/
theorem Absent.first_drop {pattern text later : List α} {position : Nat}
    (absent : Absent pattern text) :
    First pattern (text.drop (spent pattern text) ++ later) position ↔
      First pattern (text ++ later) (spent pattern text + position) := by
  -- Both texts agree from the spent part on, and no occurrence can start before it.
  have within := spent_le pattern text
  have shifted : ∀ at_, At pattern (text.drop (spent pattern text) ++ later) at_ ↔
      At pattern (text ++ later) (spent pattern text + at_) := by
    intro at_
    rw [← List.drop_append_of_le_length within, at_drop]
  constructor
  · rintro ⟨occurs, first⟩
    refine ⟨(shifted position).mp occurs, fun earlier before earlierOccurs => ?_⟩
    have late := absent.spent_le_position earlierOccurs
    refine first (earlier - spent pattern text) (by omega) ((shifted _).mpr ?_)
    rwa [show spent pattern text + (earlier - spent pattern text) = earlier by omega]
  · rintro ⟨occurs, first⟩
    refine ⟨(shifted position).mpr occurs, fun earlier before earlierOccurs => ?_⟩
    exact first _ (by omega) ((shifted earlier).mp earlierOccurs)

/-- Dropping the spent part of a text without the pattern keeps a later absence. -/
theorem Absent.absent_drop {pattern text later : List α} (absent : Absent pattern text) :
    Absent pattern (text.drop (spent pattern text) ++ later) ↔ Absent pattern (text ++ later) := by
  -- An occurrence on either side is one on the other, moved by the spent part.
  have within := spent_le pattern text
  rw [← List.drop_append_of_le_length within]
  constructor
  · intro gone position occurs
    have late := absent.spent_le_position occurs
    refine gone (position - spent pattern text) (at_drop.mpr ?_)
    rwa [show spent pattern text + (position - spent pattern text) = position by omega]
  · intro gone position occurs
    exact gone _ (at_drop.mp occurs)

end Occurrence
