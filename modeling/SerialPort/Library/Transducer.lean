import Mathlib.Data.List.Basic

/-! Machines that answer every symbol they read with some symbols. -/

/-- A machine that reads symbols and answers each of them with a word. -/
structure Transducer (State : Type*) (α : Type*) (β : Type*) where
  next : State → α → State
  answer : State → α → List β

namespace Transducer

variable {State State' : Type*} {α β γ : Type*}

section

variable (machine : Transducer State α β) (state : State) (symbols more : List α)

/-- The state behind a text. -/
def after : State :=
  symbols.foldl machine.next state

/-- The answers to a text, one behind the other. -/
def answers : State → List α → List β
  | _, [] => []
  | state, symbol :: symbols =>
    machine.answer state symbol ++ answers (machine.next state symbol) symbols

/-- No text leads nowhere. -/
@[simp] theorem after_nil : machine.after state [] = state := rfl

@[simp] theorem after_cons (symbol : α) :
    machine.after state (symbol :: symbols) = machine.after (machine.next state symbol) symbols :=
  rfl

/-- No text is not answered. -/
@[simp] theorem answers_nil : machine.answers state [] = [] := rfl

@[simp] theorem answers_cons (symbol : α) :
    machine.answers state (symbol :: symbols) =
      machine.answer state symbol ++ machine.answers (machine.next state symbol) symbols := rfl

/-- The state behind two texts is that behind the second, from the state behind the first. -/
theorem after_append :
    machine.after state (symbols ++ more) = machine.after (machine.after state symbols) more :=
  List.foldl_append

/-- A text that is read in two parts is answered in two parts. -/
theorem answers_append :
    machine.answers state (symbols ++ more) =
      machine.answers state symbols ++ machine.answers (machine.after state symbols) more := by
  induction symbols generalizing state with
  | nil => rfl
  | cons symbol symbols ih =>
    rw [List.cons_append, answers_cons, ih, answers_cons, List.append_assoc, after_cons]

/-- A part of a text that is not answered is not answered either. -/
theorem answers_prefix {part : List α} (silent : machine.answers state symbols = [])
    (first : part <+: symbols) : machine.answers state part = [] := by
  obtain ⟨rest, rfl⟩ := first
  rw [answers_append] at silent
  exact (List.append_eq_nil_iff.mp silent).1

end

/-- A machine that reads the answers of another one, and answers an image of each symbol. -/
structure Renders (encoder : Transducer State α β) (decoder : Transducer State' β γ)
    (valid : α → Prop) (image : α → List γ) (related : State → State' → Prop) : Prop where
  answers : ∀ {state state' symbol}, related state state' → valid symbol →
    decoder.answers state' (encoder.answer state symbol) = image symbol
  stays : ∀ {state state' symbol}, related state state' → valid symbol →
    related (encoder.next state symbol) (decoder.after state' (encoder.answer state symbol))

/-- A machine that answers the answers of another one with what that one has read. -/
abbrev Undoes (encoder : Transducer State α β) (decoder : Transducer State' β α)
    (valid : α → Prop) (related : State → State' → Prop) : Prop :=
  Renders encoder decoder valid (fun symbol => [symbol]) related

section

variable {encoder : Transducer State α β} {valid : α → Prop} {related : State → State' → Prop}
  {state : State} {state' : State'} {symbols : List α}

/-- A text comes out as the images of its symbols, and leaves the machines related. -/
theorem Renders.run {decoder : Transducer State' β γ} {image : α → List γ}
    (renders : Renders encoder decoder valid image related) (together : related state state')
    (all : ∀ symbol ∈ symbols, valid symbol) :
    decoder.answers state' (encoder.answers state symbols) = symbols.flatMap image ∧
      related (encoder.after state symbols)
        (decoder.after state' (encoder.answers state symbols)) := by
  -- The machines stay related behind each symbol, so that the rest is read as well.
  induction symbols generalizing state state' with
  | nil => exact ⟨rfl, together⟩
  | cons symbol symbols ih =>
    have first := all symbol List.mem_cons_self
    obtain ⟨rest, still⟩ := ih (renders.stays together first)
      fun other member => all other (List.mem_cons_of_mem _ member)
    rw [answers_cons, answers_append, after_append, renders.answers together first, rest,
      List.flatMap_cons]
    exact ⟨rfl, still⟩

/-- Decoding a text that was encoded gives it back. -/
theorem Undoes.run {decoder : Transducer State' β α}
    (undoes : Undoes encoder decoder valid related) (together : related state state')
    (all : ∀ symbol ∈ symbols, valid symbol) :
    decoder.answers state' (encoder.answers state symbols) = symbols := by
  rw [(Renders.run undoes together all).1, List.flatMap_singleton']

end

end Transducer
