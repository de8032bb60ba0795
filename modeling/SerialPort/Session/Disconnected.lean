import SerialPort.Library.Transition
import SerialPort.Session.Dormant

/-! What can happen to a session after a `disconnect` call has returned. -/

namespace SerialPort

/-- Whether the action is a call of `connect`. -/
def Action.isConnect : Action → Bool
  | .connect _ => true
  | _ => false

namespace Session

/-- Whether a `disconnect` call returns in the step, at once or after its last event. -/
def returnsBy (session : Session) : Action → Bool
  | .disconnect => session.terminal || !session.state.isConnected
  | .resume (.disconnect index) .resumes =>
    (session.disconnects[index]?).any fun disconnect => disconnect.point == .emitIdle
  | _ => false

/-- Whether reads behave as those of the Android transport: they take no notice of a cancellation,
and fail once the connection they were called on is closed. -/
def readsThrough (session : Session) : Action → Bool
  | .resume (.reader index) outcome =>
    (session.readers[index]?).all fun reader =>
      match reader.point, outcome with
      | .reading _, .throws _ => true
      | .reading link, .returns _ _ => link == session.link && link.isSome
      | .reading _, _ => false
      | _, _ => true
  | _ => true

/-- Until `connect` is called, the state does not become failed, connecting, or connected, and
nobody calls `transport.open`. -/
def Sticks (allowed : Session → Action → Prop) (session : Session) : Prop :=
  ∀ later action next,
    Transition.Run Session.step (fun session action => allowed session action ∧
      action.isConnect = false) session later →
    allowed later action → action.isConnect = false → later.step action = some next →
    next.openCalls = later.openCalls ∧ (next.state = later.state ∨ next.state.isCalm = true)

/-- When `disconnect` returns, nobody is on the way to a connection or to a failure. -/
def Rests (session : Session) (action : Action) : Prop :=
  session.returnsBy action = true → session.Dormant

instance (session : Session) (action : Action) : Decidable (session.Rests action) :=
  inferInstanceAs (Decidable (_ → _))

variable {session next : Session} {action : Action}

/-- A step that is no call of `connect` prompts none. -/
theorem unprompted_of_not_connect (other : action.isConnect = false) :
    session.Unprompted action := by
  cases action with
  | connect config => cases other
  | _ => trivial

/-- A dormant session stays dormant until `connect` is called. -/
theorem Dormant.sticks (dormant : Dormant session) (last : ShutsLast session)
    {allowed : Session → Action → Prop} : Sticks allowed session := by
  intro later action next run permitted other stepped
  have lasts {reached : Session} (run : Transition.Run Session.step
      (fun session action => allowed session action ∧ action.isConnect = false) session reached) :
      ShutsLast reached :=
    run.invariant last fun _ _ stepped last => last.step (.of_step stepped)
  -- By induction on the run: only a call of connect could wake up the session.
  have still : Dormant later := by
    refine run.invariant dormant fun earlier permitted stepped still => ?_
    exact still.step (lasts earlier) (unprompted_of_not_connect permitted.2) (.of_step stepped)
  have moved := Moves.of_step stepped
  exact ⟨(still.changes moved).1, still.calms moved⟩

/-- A `disconnect` call that returns changes nothing but itself. -/
theorem Dormant.returned (dormant : Dormant session) (last : ShutsLast session)
    (returns : session.returnsBy action = true) (stepped : session.step action = some next) :
    Dormant next := by
  refine dormant.step last ?_ (.of_step stepped)
  -- A step in which a disconnection returns is not a call of connect.
  cases action with
  | connect config => cases returns
  | _ => trivial

/-- Where nobody is on the way to a connection or to a failure, the disconnection sticks. -/
theorem disconnection_sticks (run : Transition.Run Session.step Rests {} session)
    (rests : session.Rests action) (returns : session.returnsBy action = true)
    (stepped : session.step action = some next) : Sticks (fun _ _ => True) next := by
  -- The condition is about the state before the return, which itself wakes up nobody.
  have last := ShutsLast.of_run run
  exact ((rests returns).returned last returns stepped).sticks (last.step (.of_step stepped))

end Session

/-! A reader that is blocked in a read when the session is disconnected. -/

namespace Sample

/-- The session is disconnected while its reader reads. -/
def disconnectedReading : List Action :=
  connecting 0 ++ [.resume (.reader 0) .resumes] ++ disconnecting 0

/-- The read fails, and its failure has been announced, before the session becomes idle. -/
def disconnectedFailing : List Action :=
  connecting 0 ++ [.resume (.reader 0) .resumes, .disconnect, .resume (.disconnect 0) .resumes,
    .resume (.reader 0) (.throws "closed"), .resume (.reader 0) .resumes,
    .resume (.reader 0) .resumes, .resume (.disconnect 0) .resumes]

end Sample

namespace Session

/-- The first `disconnect` call returns, and the first read fails after that. -/
def failsLate (session : Session) : Bool :=
  session.returnsBy (.resume (.disconnect 0) .resumes) &&
    (session.step (.resume (.disconnect 0) .resumes)).any fun next =>
      next.state.isCalm && next.readsThrough (.resume (.reader 0) (.throws "closed")) &&
        (next.step (.resume (.reader 0) (.throws "closed"))).any fun failed =>
          !failed.state.isCalm

/-- The read fails when its connection is closed, and the session becomes failed instead of idle. -/
theorem disconnected_fails :
    ¬∀ session action next,
      Transition.Run Session.step (fun session action => session.readsThrough action = true) {}
        session →
      session.returnsBy action = true → session.step action = some next →
      Sticks (fun session action => session.readsThrough action = true) next := by
  intro always
  obtain ⟨session, run, test⟩ := Transition.Run.of_test failsLate
    (show (Transition.execute Session.step
      (fun session action => session.readsThrough action = true)
      {} Sample.disconnectedReading).any _ = true by decide +kernel)
  simp only [failsLate, Bool.and_eq_true] at test
  obtain ⟨returns, test⟩ := test
  obtain ⟨next, stepped, test⟩ := (Option.any_eq_true _ _).mp test
  simp only [Bool.and_eq_true] at test
  obtain ⟨⟨calm, reads⟩, test⟩ := test
  obtain ⟨failed, fails, excited⟩ := (Option.any_eq_true _ _).mp test
  -- The failed read is itself the step that a disconnection should have made impossible.
  rcases (always session _ next run returns stepped next _ failed .refl reads rfl fails).2 with
    same | calm'
  · simp [same, calm] at excited
  · simp [calm'] at excited

/-- A read that fails before the session becomes idle does not disturb it any more. -/
theorem disconnected_sticks :
    ∃ session next, Transition.Run Session.step Rests {} session ∧
      session.returnsBy (.resume (.disconnect 0) .resumes) = true ∧
      session.step (.resume (.disconnect 0) .resumes) = some next ∧
      Sticks (fun _ _ => True) next := by
  -- The read fails while the transport is being closed, so nothing is left to fail later.
  obtain ⟨session, run, test⟩ := Transition.Run.of_test
    (fun (session : Session) => session.returnsBy (.resume (.disconnect 0) .resumes) &&
      decide (session.Rests (.resume (.disconnect 0) .resumes)) &&
      (session.step (.resume (.disconnect 0) .resumes)).isSome)
    (show (Transition.execute Session.step Rests {} Sample.disconnectedFailing).any _ = true by
      decide +kernel)
  simp only [Bool.and_eq_true, decide_eq_true_eq] at test
  obtain ⟨⟨returns, rests⟩, possible⟩ := test
  obtain ⟨next, stepped⟩ := Option.isSome_iff_exists.mp possible
  exact ⟨session, next, run, returns, stepped, disconnection_sticks run rests returns stepped⟩

end Session

end SerialPort
