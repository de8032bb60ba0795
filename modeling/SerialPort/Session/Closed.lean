import SerialPort.Library.Transition
import SerialPort.Session.Dormant

/-! What can happen to a session after `close` has been called. -/

namespace SerialPort

namespace Session

/-- The call is not on its way into `transport.open`. -/
def UnopeningConnect (connect : Connect) : Prop :=
  connect.point ≠ .emitConnecting ∧ connect.point ≠ .opening

/-- The loop is not on its way into `transport.open`. -/
def UnopeningLoop (loop : Loop) : Prop :=
  match loop.point with
  | .emitReconnecting _ delayMillis => loop.cancelled = true ∧ 0 < delayMillis
  | .delaying _ delayMillis => loop.cancelled = true ∧ 0 < delayMillis
  | .emitConnecting _ => False
  | .opening _ => False
  | _ => True

/-- Nobody is on the way into `transport.open`. -/
structure Unopening (session : Session) : Prop where
  connects : ∀ connect ∈ session.connects, UnopeningConnect connect
  loops : ∀ loop ∈ session.loops, UnopeningLoop loop

/-- No `disconnect` call is going to make the session idle. -/
def Undisconnecting (session : Session) : Prop :=
  ∀ disconnect ∈ session.disconnects,
    disconnect.point ≠ .emitClosing ∧ disconnect.point ≠ .closing

instance (connect : Connect) : Decidable (UnopeningConnect connect) :=
  inferInstanceAs (Decidable (_ ∧ _))

instance (loop : Loop) : Decidable (UnopeningLoop loop) := by
  delta UnopeningLoop
  rcases loop.point with _ | _ <;> infer_instance

instance (session : Session) : Decidable session.Unopening :=
  decidable_of_iff ((∀ connect ∈ session.connects, UnopeningConnect connect) ∧
      ∀ loop ∈ session.loops, UnopeningLoop loop)
    ⟨fun ⟨connects, loops⟩ => ⟨connects, loops⟩,
      fun unopening => ⟨unopening.connects, unopening.loops⟩⟩

instance (session : Session) : Decidable session.Undisconnecting :=
  inferInstanceAs (Decidable (∀ disconnect ∈ session.disconnects, _))

/-- The shutdown closes the transport when nobody is about to open it, and the session when nobody
is on the way to another state. -/
def ClosesAlone (session : Session) : Action → Prop
  | .resume .shutdown .resumes =>
    match session.shutdown with
    | some .dispatch => session.Unopening
    | some .closing => session.Dormant ∧ session.Undisconnecting
    | _ => True
  | _ => True

instance (session : Session) (action : Action) : Decidable (session.ClosesAlone action) := by
  unfold ClosesAlone
  split
  · split <;> infer_instance
  · infer_instance

/-- Every coroutine has come to its end, or is never going to run. -/
structure Over (session : Session) : Prop where
  shutdown : session.shutdown = some .finished
  connects : ∀ connect ∈ session.connects, ∃ result, connect.point = .returned result
  disconnects : ∀ disconnect ∈ session.disconnects,
    disconnect.point = .returned ∨ disconnect.point = .refused ∨ disconnect.point = .thrown
  readers : ∀ reader ∈ session.readers,
    reader.point = .finished ∨ reader.point = .dispatch ∧ reader.cancelled = true
  writers : ∀ writer ∈ session.writers,
    writer.point = .finished ∨ writer.point = .dispatch ∧ writer.cancelled = true
  timers : ∀ timer ∈ session.timers, timer.point ≠ .waiting
  loops : ∀ loop ∈ session.loops,
    loop.point = .finished ∨ loop.point = .dispatch ∧ loop.cancelled = true

/-- A closed session stays closed, and in the end its transport is closed. -/
structure Terminated (allowed : Session → Action → Prop) (session : Session) : Prop where
  closed : session.state = .closed → ∀ action next, allowed session action →
    session.step action = some next → next.state = .closed
  released : session.Over → session.link = none

variable {session next : Session} {action : Action} {index : Nat}

/-! Nobody opens the transport of a closed session any more. -/

/-- Where nobody opens the transport, no step opens it. -/
theorem Unopening.opensBy (unopening : Unopening session) : session.opensBy action = false := by
  -- A successful open would resume somebody who is opening, and nobody is.
  refine Bool.eq_false_iff.mpr fun opens => ?_
  rcases opensBy_cases opens with
    ⟨index, connect, -, found, at_⟩ | ⟨index, attempt, loop, -, found, at_⟩
  · exact absurd at_ (unopening.connects connect (List.mem_of_getElem? found)).2
  · have away := unopening.loops loop (List.mem_of_getElem? found)
    simp [UnopeningLoop, at_] at away

/-- No call of `connect` gets to opening the transport of a closed session. -/
theorem Unopening.connects_step (unopening : Unopening session) (terminal : session.terminal = true)
    (moved : Moves session action next) : ∀ connect ∈ next.connects, UnopeningConnect connect := by
  intro after listed
  obtain ⟨index, there⟩ := List.getElem?_of_mem listed
  -- A call of `connect` is as before, is cancelled, takes a turn, or is a new one.
  rcases moved.connectCall there with
    ⟨before, found, rfl | rfl⟩ | ⟨before, outcome, found, -, moved⟩ | ⟨config, rfl, -, rfl⟩
  · exact unopening.connects after (List.mem_of_getElem? found)
  · exact unopening.connects before (List.mem_of_getElem? found)
  · have away := unopening.connects before (List.mem_of_getElem? found)
    cases moved with
    | begin at_ live =>
      -- The call finds the flag set, and returns without an attempt.
      have refused : (session.connectBegin index before).connects =
          session.connects.set index { before with point := .returned .alreadyClosed } := by
        simp [connectBegin, terminal, setConnect]
      obtain rfl := eq_of_set refused there
      exact ⟨by simp, by simp⟩
    | callOpen at_ => exact absurd at_ away.1
    | failSettled at_ =>
      obtain ⟨_, _, shape⟩ := session.failSettle_shape
      obtain rfl := eq_of_set (by rw [shape]; rfl) there
      exact ⟨by simp, by simp⟩
    | _ =>
      obtain rfl := eq_of_set rfl there
      exact ⟨by simp, by simp⟩
  · exact ⟨by simp, by simp⟩

/-- No loop gets to opening the transport of a closed session. -/
theorem Unopening.loops_step (unopening : Unopening session) (terminal : session.terminal = true)
    (moved : Moves session action next) : ∀ loop ∈ next.loops, UnopeningLoop loop := by
  intro after listed
  obtain ⟨index, there⟩ := List.getElem?_of_mem listed
  -- A loop is as before, is cancelled, takes a turn, or is a new one.
  rcases moved.loop there with
    ⟨before, found, rfl | ⟨rfl, -⟩⟩ | ⟨before, outcome, found, -, moved⟩ |
      ⟨config, settled, relaunches, rfl⟩
  · exact unopening.loops after (List.mem_of_getElem? found)
  · have away := unopening.loops before (List.mem_of_getElem? found)
    unfold UnopeningLoop at away ⊢
    -- Cancelling a loop does not change where it waits, or for how long.
    cases at_ : before.point <;> simp only [Loop.cancel, at_] at away ⊢
    case emitReconnecting => exact ⟨trivial, away.2⟩
    case delaying => exact ⟨trivial, away.2⟩
  · have away := unopening.loops before (List.mem_of_getElem? found)
    unfold UnopeningLoop at away
    -- The next attempt of a loop finds the flag set, and ends the loop.
    have stalls {loop : Loop} {attempt : Nat} : session.Stalls loop.config attempt := .inl terminal
    cases moved with
    | first at_ =>
      obtain ⟨point, loops, rfl | rfl⟩ := loopAttempt_finishes stalls <;>
      · obtain rfl := eq_of_set loops there
        trivial
    | next at_ =>
      obtain ⟨point, loops, rfl | rfl⟩ := loopAttempt_finishes stalls <;>
      · obtain rfl := eq_of_set loops there
        trivial
    | announced at_ =>
      simp only [at_] at away
      obtain rfl := eq_of_set rfl there
      exact away
    | connecting at_ live =>
      simp only [at_] at away
      -- A loop that waits is cancelled, and its pause is long enough to notice.
      rcases live with live | short
      · simp [live] at away
      · omega
    | callOpen at_ => simp [at_] at away
    | opened at_ => simp [at_] at away
    | _ =>
      obtain rfl := eq_of_set rfl there
      trivial
  · trivial

/-! No `disconnect` call makes a closed session idle. -/

/-- Every move of a closed session keeps the calls of `disconnect` away from the state. -/
theorem Undisconnecting.step (away : Undisconnecting session) (terminal : session.terminal = true)
    (moved : Moves session action next) : Undisconnecting next := by
  intro after listed
  obtain ⟨index, there⟩ := List.getElem?_of_mem listed
  rcases moved.disconnecting there with
    ⟨before, found, rfl | rfl⟩ | ⟨before, outcome, found, -, turns⟩ | ⟨-, last, shape⟩
  · exact away after (List.mem_of_getElem? found)
  · exact away before (List.mem_of_getElem? found)
  · obtain ⟨emits, closes⟩ := away before (List.mem_of_getElem? found)
    -- A call that is past closing the transport only has to return.
    have ends {turned : Disconnect}
        (disconnects : next.disconnects = session.disconnects.set index turned)
        (apart : turned.point ≠ .emitClosing ∧ turned.point ≠ .closing) :
        after.point ≠ .emitClosing ∧ after.point ≠ .closing := by
      obtain rfl := eq_of_set disconnects there
      exact apart
    cases turns with
    | strike at_ => exact absurd at_ emits
    | closed at_ => exact absurd at_ closes
    | returned at_ => exact ends rfl ⟨by simp, by simp⟩
    | thrown open_ failed => exact ends rfl ⟨by simp, by simp⟩
  · -- A call on a closed session is refused.
    have refused : session.disconnectCall.disconnects =
        session.disconnects ++ [{ point := .refused }] := by simp [disconnectCall, terminal]
    rw [shape, refused, last, List.getElem?_concat_length] at there
    obtain rfl := Option.some.inj there
    exact ⟨by simp, by simp⟩

/-! The two halves of a shutdown. -/

/-- The transport stays closed from the moment on at which the shutdown closes it. -/
structure Released (session : Session) : Prop where
  unopening : (∃ point ∈ session.shutdown, point ≠ .dispatch) →
    session.Unopening ∧ session.link = none

/-- The session stays closed from the moment on at which the shutdown closes it. -/
structure Sealed (session : Session) : Prop where
  dormant : session.state = .closed →
    session.terminal = true ∧ session.Dormant ∧ session.Undisconnecting

/-- No move takes a closed session out of its last state. -/
theorem Sealed.keeps (sealing : Sealed session) (moved : Moves session action next)
    (closed : session.state = .closed) : next.state = .closed := by
  obtain ⟨-, dormant, away⟩ := sealing.dormant closed
  -- A dormant session changes its state only by the calls that are still under way.
  rcases (dormant.changes moved).2 with same | ⟨-, disconnect, listed, at_⟩ | closed'
  · rw [same, closed]
  · exact absurd at_ (away disconnect listed).2
  · exact closed'

/-- Only the shutdown closes the session. -/
theorem Moves.closes (moved : Moves session action next) (closed : next.state = .closed) :
    session.state = .closed ∨
      action = .resume .shutdown .resumes ∧ session.shutdown = some .closing := by
  cases moved.changes with
  | same state calls => exact .inl (state ▸ closed)
  | begins found at_ live open_ state => cases state.symm.trans closed
  | connectCalls found at_ state => exact .inl (state ▸ closed)
  | connects found at_ => cases closed
  | connectFails found at_ => cases closed
  | disconnects open_ connected => simp [disconnectCall, open_, connected, emit] at closed
  | idles found at_ => cases closed
  -- Of all changes of the state this one alone sets Closed.
  | closes at_ => exact .inr ⟨rfl, at_⟩
  | readFails found at_ => cases closed
  | writeFails found tries writers at_ state => cases state.symm.trans closed
  | loopBegins found at_ live => cases closed
  | loopCalls found at_ state => exact .inl (state ▸ closed)
  | loopConnects found at_ => cases closed

/-- Every step that closes alone keeps the session sealed. -/
theorem Sealed.step (sealing : Sealed session) (last : ShutsLast session)
    (alone : session.ClosesAlone action) (moved : Moves session action next) : Sealed next where
  dormant := by
    intro closed
    -- Either the session was closed before, or this step closes it and the guard holds.
    have ready : session.terminal = true ∧ session.Dormant ∧ session.Undisconnecting := by
      rcases moved.closes closed with before | ⟨closes, at_⟩
      · exact sealing.dormant before
      · simp only [closes, ClosesAlone, at_] at alone
        exact ⟨last.closing (by simp [at_]), alone⟩
    obtain ⟨terminal, dormant, away⟩ := ready
    -- A call of `connect` is harmless, for the flag is set.
    have unprompted : session.Unprompted action := by
      cases action with
      | connect config => exact terminal
      | _ => trivial
    exact ⟨moved.terminal terminal, dormant.step last unprompted moved, away.step terminal moved⟩

/-- The shutdown closes the transport before it does anything else. -/
theorem Moves.strikes (moved : Moves session action next)
    (struck : ∃ point ∈ next.shutdown, point ≠ .dispatch) :
    (∃ point ∈ session.shutdown, point ≠ .dispatch) ∨
      action = .resume .shutdown .resumes ∧ session.shutdown = some .dispatch ∧
        next = session.shutdownStrike := by
  rcases moved.aside_or_calling with aside | calling
  · exact .inl (aside.shutdown ▸ struck)
  cases calling with
  | disconnect =>
    obtain ⟨state, events, point, shape⟩ := session.disconnectCall_shape
    rw [shape] at struck
    exact .inl struck
  -- The shutdown that `close` launches has not begun.
  | close =>
    unfold closeCall at struck
    split at struck
    · exact .inl struck
    · obtain ⟨point, at_, begun⟩ := struck
      exact absurd (Option.some.inj at_).symm begun
  | inDisconnect found moved =>
    cases moved with
    | strike at_ =>
      obtain ⟨queue, channels, shape⟩ := session.cancelWorkers.poll_shape
      unfold disconnectStrike at struck
      rw [shape] at struck
      exact .inl struck
    | _ => exact .inl struck
  | inShutdown found moved =>
    cases moved with
    | strike => exact .inr ⟨rfl, found, rfl⟩
    | _ => exact .inl ⟨_, found, nofun⟩
  | _ => exact .inl struck

/-- Every step that closes alone keeps the transport released. -/
theorem Released.step (released : Released session) (last : ShutsLast session)
    (alone : session.ClosesAlone action) (moved : Moves session action next) : Released next where
  unopening := by
    intro struck
    rcases moved.strikes struck with before | ⟨strikes, at_, rfl⟩
    · -- Nobody opens the transport after it has been closed.
      obtain ⟨unopening, closed⟩ := released.unopening before
      obtain ⟨point, at_, -⟩ := before
      have terminal := last.closing (Option.isSome_iff_exists.mpr ⟨point, at_⟩)
      refine ⟨⟨unopening.connects_step terminal moved, unopening.loops_step terminal moved⟩, ?_⟩
      rcases moved.link with ⟨opens, -⟩ | ⟨-, kept | ended⟩
      · rw [unopening.opensBy] at opens
        cases opens
      · rw [kept, closed]
      · exact ended
    · simp only [strikes, ClosesAlone, at_] at alone
      exact ⟨⟨alone.connects, alone.loops⟩, rfl⟩

/-- Where the shutdown is alone in what it does, it is for good. -/
theorem closed_for_good (run : Transition.Run Session.step ClosesAlone {} session) :
    Terminated ClosesAlone session where
  closed := by
    intro closed action next alone stepped
    -- The seal holds from the step that closes the session.
    have sealing : Sealed session := by
      refine run.invariant ⟨by simp⟩ fun earlier alone stepped sealing => ?_
      exact sealing.step (.of_run earlier) alone (.of_step stepped)
    exact sealing.keeps (.of_step stepped) closed
  released := by
    intro ended
    -- All coroutines have ended, and so the shutdown has closed the transport.
    have released : Released session := by
      refine run.invariant ⟨by simp⟩ fun earlier alone stepped released => ?_
      exact released.step (.of_run earlier) alone (.of_step stepped)
    exact (released.unopening ⟨.finished, ended.shutdown, nofun⟩).2

end Session

/-! A reader that is blocked in a read when the session is closed. -/

namespace Sample

/-- The session is connected and closed, up to the event that announces it. -/
def closing : List Action :=
  [.close, .resume .shutdown .resumes, .resume .shutdown .resumes]

/-- The read fails, and its failure has been announced, before the session is closed for good. -/
def closedFailing : List Action :=
  connecting 0 ++ [.resume (.reader 0) .resumes, .resume (.writer 0) .resumes, .close,
    .resume .shutdown .resumes, .resume (.reader 0) (.throws "closed"),
    .resume (.reader 0) .resumes, .resume (.reader 0) .resumes, .resume .shutdown .resumes,
    .resume .shutdown .resumes, .resume (.writer 0) .cancels]

/-- The reader is inside a read. -/
def closedReading : List Action :=
  connecting 0 ++ [.resume (.reader 0) .resumes] ++ closing

end Sample

namespace Session

def isClosed (session : Session) : Bool :=
  match session.state with
  | .closed => true
  | _ => false

/-- The test for the last state finds it. -/
theorem isClosed_iff {session : Session} : session.isClosed = true ↔ session.state = .closed := by
  unfold isClosed
  cases state : session.state <;> simp

/-- The read fails because the transport has been closed, and the closed session becomes failed. -/
theorem closed_fails :
    ¬∀ session, Transition.Run Session.step (fun _ _ => True) {} session →
      Terminated (fun _ _ => True) session := by
  intro always
  -- A read is pending while `close` runs to its end, and then it throws.
  obtain ⟨session, run, test⟩ := Transition.Run.of_test
    (fun (session : Session) => session.isClosed &&
      (session.step (.resume (.reader 0) (.throws "closed"))).any fun next => !next.isClosed)
    (show (Transition.execute Session.step (fun _ _ => True) {} Sample.closedReading).any _ =
      true by decide +kernel)
  simp only [Bool.and_eq_true] at test
  obtain ⟨closed, test⟩ := test
  obtain ⟨next, stepped, reopened⟩ := (Option.any_eq_true _ _).mp test
  have still := (always session run).closed (isClosed_iff.mp closed) _ next trivial stepped
  simp [isClosed_iff.mpr still] at reopened

/-- A read that fails before the session is closed does not disturb the shutdown. -/
theorem closed_failing_for_good :
    ∃ session, Transition.Run Session.step ClosesAlone {} session ∧ session.isClosed = true ∧
      session.shutdown = some .finished ∧ Terminated ClosesAlone session := by
  obtain ⟨session, run, test⟩ := Transition.Run.of_test
    (fun (session : Session) => session.isClosed && session.shutdown == some .finished)
    (show (Transition.execute Session.step ClosesAlone {} Sample.closedFailing).any _ = true by
      decide +kernel)
  simp only [Bool.and_eq_true, beq_iff_eq] at test
  exact ⟨session, run, test.1, test.2, closed_for_good run⟩

end Session

end SerialPort
