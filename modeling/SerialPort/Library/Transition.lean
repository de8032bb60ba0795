import Mathlib.Data.List.Induction
import Mathlib.Logic.Relation

/-! Systems that take one step for each action, and what holds throughout their guarded runs. -/

namespace Transition

variable {State Abstract Action : Type}

section

variable (step : State → Action → Option State) (allowed : State → Action → Prop)

/-- A step by an action that the guard allows in the state where it is taken. -/
def Step (before after : State) : Prop :=
  ∃ action, allowed before action ∧ step before action = some after

/-- Any number of allowed steps. -/
def Run : State → State → Prop :=
  Relation.ReflTransGen (Step step allowed)

/-- The listed actions taken one after another, every one of them allowed where it is taken. -/
inductive Path (start : State) : List Action → State → Prop where
  | nil : Path start [] start
  | snoc {actions : List Action} {before after : State} {action : Action}
      (path : Path start actions before) (permitted : allowed before action)
      (stepped : step before action = some after) : Path start (actions ++ [action]) after

/-- The state after a list of actions, if every one of them is allowed and possible. -/
def execute [∀ state action, Decidable (allowed state action)] :
    State → List Action → Option State
  | state, [] => some state
  | state, action :: actions =>
    if allowed state action then (step state action).bind fun after => execute after actions
    else none

end

variable {step : State → Action → Option State} {allowed allowed' : State → Action → Prop}

namespace Run

/-- Every state is reached from itself, by no step. -/
theorem refl {state : State} : Run step allowed state state :=
  Relation.ReflTransGen.refl

/-- Two runs make one. -/
theorem trans {first second third : State} (former : Run step allowed first second)
    (latter : Run step allowed second third) : Run step allowed first third :=
  Relation.ReflTransGen.trans former latter

/-- A run goes on with one more step. -/
theorem snoc {start before after : State} {action : Action} (run : Run step allowed start before)
    (permitted : allowed before action) (stepped : step before action = some after) :
    Run step allowed start after :=
  Relation.ReflTransGen.tail run ⟨action, permitted, stepped⟩

/-- A run may begin with one more step. -/
theorem cons {before after finish : State} {action : Action} (permitted : allowed before action)
    (stepped : step before action = some after) (run : Run step allowed after finish) :
    Run step allowed before finish :=
  Relation.ReflTransGen.head ⟨action, permitted, stepped⟩ run

/-- What holds at first and is kept by each allowed step holds throughout the run. -/
theorem invariant {holds : State → Prop} {start finish : State}
    (run : Run step allowed start finish) (first : holds start)
    (kept : ∀ {before action after}, Run step allowed start before → allowed before action →
      step before action = some after → holds before → holds after) :
    holds finish := by
  -- The run is taken step by step from its start, where the property holds.
  induction run with
  | refl => exact first
  | tail earlier stepped held =>
    obtain ⟨action, permitted, stepped⟩ := stepped
    exact kept earlier permitted stepped held

/-- A run under a guard is a run under every weaker guard. -/
theorem weaken (weaker : ∀ {state action}, allowed state action → allowed' state action)
    {start finish : State} (run : Run step allowed start finish) :
    Run step allowed' start finish := by
  induction run with
  | refl => exact refl
  | tail _ stepped weakened =>
    obtain ⟨action, permitted, stepped⟩ := stepped
    exact weakened.snoc (weaker permitted) stepped

/-- A view under which each step is a move, or changes nothing, carries runs to moves. -/
theorem simulates {moves : Abstract → Abstract → Prop} {view : State → Abstract}
    {start finish : State} (run : Run step allowed start finish)
    (simulated : ∀ {before action after}, Run step allowed start before →
      allowed before action → step before action = some after →
      Relation.ReflTransGen moves (view before) (view after)) :
    Relation.ReflTransGen moves (view start) (view finish) := by
  -- That the view has moved so far is an invariant of the run.
  refine run.invariant ?_ fun earlier permitted stepped held =>
    Relation.ReflTransGen.trans held (simulated earlier permitted stepped)
  exact .refl

/-- Executing a list of actions gives a run that takes no other ones. -/
theorem of_listed [∀ state action, Decidable (allowed state action)] {actions : List Action}
    {start finish : State} (executed : execute step allowed start actions = some finish) :
    Run step (fun state action => allowed state action ∧ action ∈ actions) start finish := by
  -- Execution takes the actions from the front, so that the start varies.
  induction actions generalizing start with
  | nil => cases executed; exact refl
  | cons action actions reaches =>
    unfold execute at executed
    split at executed
    · next permitted =>
      obtain ⟨after, stepped, rest⟩ := Option.bind_eq_some_iff.mp executed
      refine cons ⟨permitted, List.mem_cons_self⟩ stepped ((reaches rest).weaken ?_)
      exact fun ⟨permitted, listed⟩ => ⟨permitted, List.mem_cons_of_mem _ listed⟩
    · cases executed

/-- Executing a list of actions gives a run. -/
theorem of_execute [∀ state action, Decidable (allowed state action)] {actions : List Action}
    {start finish : State} (executed : execute step allowed start actions = some finish) :
    Run step allowed start finish :=
  (of_listed executed).weaken And.left

/-- A test that the last state of an execution passes is passed by a state that a run reaches. -/
theorem of_test [∀ state action, Decidable (allowed state action)] {actions : List Action}
    {start : State} (test : State → Bool)
    (passed : (execute step allowed start actions).any test = true) :
    ∃ finish, Run step allowed start finish ∧ test finish = true := by
  obtain ⟨finish, executed, passes⟩ := (Option.any_eq_true _ _).mp passed
  exact ⟨finish, of_execute executed, passes⟩

end Run

namespace Path

variable {start before middle finish : State} {actions more : List Action} {action : Action}

/-- A path is a run that remembers its actions. -/
theorem run (path : Path step allowed start actions finish) : Run step allowed start finish := by
  induction path with
  | nil => exact .refl
  | snoc _ permitted stepped reached => exact reached.snoc permitted stepped

/-- Two paths, one behind the other. -/
theorem trans (former : Path step allowed start actions middle)
    (latter : Path step allowed middle more finish) :
    Path step allowed start (actions ++ more) finish := by
  induction latter with
  | nil => rwa [List.append_nil]
  | snoc _ permitted stepped joined =>
    rw [← List.append_assoc]
    exact joined.snoc permitted stepped

/-- The last action of a path is a step from the state before it. -/
theorem last (path : Path step allowed start (actions ++ [action]) finish) :
    ∃ before, Path step allowed start actions before ∧ allowed before action ∧
      step before action = some finish := by
  -- The last action is an index of the path, and has to be a variable to be split.
  generalize whole : actions ++ [action] = all at path
  cases path with
  | nil => simp at whole
  | snoc path permitted stepped =>
    obtain ⟨rfl, same⟩ := List.append_inj' whole rfl
    obtain rfl := List.cons.inj same |>.1
    exact ⟨_, path, permitted, stepped⟩

/-- Without an action there is no step. -/
theorem start_of_nil (path : Path step allowed start [] finish) : finish = start := by
  generalize none_ : ([] : List Action) = all at path
  cases path with
  | nil => rfl
  | snoc path permitted stepped => simp at none_

/-- The actions determine where a path leads. -/
theorem unique {other : State} (path : Path step allowed start actions finish)
    (path' : Path step allowed' start actions other) : finish = other := by
  -- The actions are taken off at the end, where both paths take the same step.
  induction path generalizing other with
  | nil => exact path'.start_of_nil.symm
  | snoc _ _ stepped same =>
    obtain ⟨before, earlier, -, stepped'⟩ := path'.last
    obtain rfl := same earlier
    exact Option.some.inj (stepped.symm.trans stepped')

/-- A path can be cut anywhere. -/
theorem split (path : Path step allowed start (actions ++ more) finish) :
    ∃ middle, Path step allowed start actions middle ∧ Path step allowed middle more finish := by
  -- The last action of the second part is taken off as long as there is one.
  induction more using List.reverseRecOn generalizing finish with
  | nil => exact ⟨finish, by rwa [List.append_nil] at path, .nil⟩
  | append_singleton more action ih =>
    rw [← List.append_assoc] at path
    obtain ⟨before, earlier, permitted, stepped⟩ := path.last
    obtain ⟨middle, first, second⟩ := ih earlier
    exact ⟨middle, first, second.snoc permitted stepped⟩

/-- Each action of a path is a step from the state that the actions before it lead to. -/
theorem step_of_split (path : Path step allowed start (actions ++ action :: more) finish)
    (reached : Path step allowed' start actions before) :
    ∃ after, allowed before action ∧ step before action = some after ∧
      Path step allowed start (actions ++ [action]) after := by
  rw [List.append_cons] at path
  obtain ⟨after, path, -⟩ := path.split
  obtain ⟨before', reached', permitted, stepped⟩ := path.last
  obtain rfl := reached.unique reached'
  exact ⟨after, permitted, stepped, path⟩

/-- A path under a guard is a path under every other one that admits its actions. -/
theorem weaken (path : Path step allowed start actions finish)
    (weaker : ∀ {state action}, action ∈ actions → allowed state action → allowed' state action) :
    Path step allowed' start actions finish := by
  induction path with
  | nil => exact .nil
  | snoc _ permitted stepped weakened =>
    have earlier := weakened fun listed => weaker (List.mem_append_left _ listed)
    exact earlier.snoc (weaker (List.mem_append_right _ List.mem_cons_self) permitted) stepped

/-- Executing a list of actions takes the path. -/
theorem of_execute [∀ state action, Decidable (allowed state action)]
    (executed : execute step allowed start actions = some finish) :
    Path step allowed start actions finish := by
  induction actions generalizing start with
  | nil => cases executed; exact .nil
  | cons action actions reaches =>
    unfold execute at executed
    split at executed
    · next permitted =>
      obtain ⟨after, stepped, rest⟩ := Option.bind_eq_some_iff.mp executed
      -- The first action is a path of its own, and the rest follows it.
      have first : Path step allowed start [action] after := Path.nil.snoc permitted stepped
      exact first.trans (reaches rest)
    · cases executed

/-- A test that the last state of an execution passes is passed by the state the path leads to. -/
theorem of_test [∀ state action, Decidable (allowed state action)] (test : State → Bool)
    (passed : (execute step allowed start actions).any test = true) :
    ∃ finish, Path step allowed start actions finish ∧ test finish = true := by
  obtain ⟨finish, executed, passes⟩ := (Option.any_eq_true _ _).mp passed
  exact ⟨finish, of_execute executed, passes⟩

end Path

end Transition
