import Mathlib.Algebra.BigOperators.Group.List.Basic
import Mathlib.Algebra.Order.Ring.Nat
import SerialPort.Library.Occurrence

/-! Pieces cut out of a text one behind the other, each known with its place. -/

namespace Excerpts

open Occurrence

variable {α : Type*}

/-- A piece of a text together with the position at which it starts. -/
structure Excerpt (α : Type*) where
  start : Nat
  piece : List α

/-- The position right behind the piece. -/
def Excerpt.stop (excerpt : Excerpt α) : Nat :=
  excerpt.start + excerpt.piece.length

/-- Every piece stands in the text at its place, and no two overlap or change their order. -/
structure Placed (text : List α) (excerpts : List (Excerpt α)) : Prop where
  stands : ∀ excerpt ∈ excerpts, At excerpt.piece text excerpt.start
  ordered : excerpts.Pairwise fun earlier later => earlier.stop ≤ later.start

/-- All pieces lie between two positions. -/
def Within (low high : Nat) (excerpts : List (Excerpt α)) : Prop :=
  ∀ excerpt ∈ excerpts, low ≤ excerpt.start ∧ excerpt.stop ≤ high

/-- No pieces are placed wherever they are. -/
theorem Placed.nil (text : List α) : Placed text [] :=
  ⟨by simp, List.Pairwise.nil⟩

/-- No pieces lie within any bounds. -/
theorem Within.nil (low high : Nat) : Within low high ([] : List (Excerpt α)) := by
  simp [Within]

/-- A wider window still holds the pieces. -/
theorem Within.mono {low high lower higher : Nat} {excerpts : List (Excerpt α)}
    (within : Within low high excerpts) (below : lower ≤ low) (above : high ≤ higher) :
    Within lower higher excerpts :=
  fun excerpt member =>
    ⟨Nat.le_trans below (within excerpt member).1, Nat.le_trans (within excerpt member).2 above⟩

/-- Pieces within some bounds and pieces behind them lie within both. -/
theorem Within.append {low high : Nat} {first second : List (Excerpt α)}
    (front : Within low high first) (back : Within low high second) :
    Within low high (first ++ second) := by
  intro excerpt member
  rcases List.mem_append.mp member with early | late
  · exact front excerpt early
  · exact back excerpt late

/-- Pieces up to a position and pieces from there on are placed together. -/
theorem Placed.append {text : List α} {first second : List (Excerpt α)} {low middle high : Nat}
    (front : Placed text first) (back : Placed text second)
    (before : Within low middle first) (behind : Within middle high second) :
    Placed text (first ++ second) := by
  -- Whatever stops before the middle stops before anything that starts behind it.
  refine ⟨?_, List.pairwise_append.mpr ⟨front.ordered, back.ordered, ?_⟩⟩
  · intro excerpt member
    rcases List.mem_append.mp member with early | late
    · exact front.stands excerpt early
    · exact back.stands excerpt late
  · intro early earlyMember late lateMember
    exact Nat.le_trans (before early earlyMember).2 (behind late lateMember).1

/-- One piece of a text, at its place. -/
theorem Placed.singleton {text : List α} {excerpt : Excerpt α}
    (stands : At excerpt.piece text excerpt.start) : Placed text [excerpt] :=
  ⟨by simpa using stands, List.pairwise_singleton ..⟩

/-- Later text leaves the pieces where they are. -/
theorem Placed.later {text : List α} {excerpts : List (Excerpt α)} (placed : Placed text excerpts)
    (inside : Within 0 text.length excerpts) (later : List α) :
    Placed (text ++ later) excerpts := by
  refine ⟨fun excerpt member => ?_, placed.ordered⟩
  have bounded := (inside excerpt member).2
  unfold Excerpt.stop at bounded
  rw [At, List.drop_append_of_le_length (by omega)]
  exact List.prefix_append_of_prefix (placed.stands excerpt member)

/-- Pieces that do not overlap are together no longer than the window they lie in. -/
theorem Placed.sum_length_le {text : List α} {excerpts : List (Excerpt α)} {low high : Nat}
    (placed : Placed text excerpts) (within : Within low high excerpts) (window : low ≤ high) :
    low + (excerpts.map fun excerpt => excerpt.piece.length).sum ≤ high := by
  -- The first piece takes its part of the window, and all others lie behind it.
  induction excerpts generalizing low with
  | nil => simpa using window
  | cons excerpt excerpts ih =>
    obtain ⟨start, stop⟩ := within excerpt List.mem_cons_self
    have ordered := List.pairwise_cons.mp placed.ordered
    have placedRest : Placed text excerpts :=
      ⟨fun other member => placed.stands other (List.mem_cons_of_mem _ member), ordered.2⟩
    have behind : Within excerpt.stop high excerpts := fun other member =>
      ⟨ordered.1 other member, (within other (List.mem_cons_of_mem _ member)).2⟩
    have rest := ih placedRest behind stop
    rw [List.map_cons, List.sum_cons]
    unfold Excerpt.stop at rest
    omega

end Excerpts
