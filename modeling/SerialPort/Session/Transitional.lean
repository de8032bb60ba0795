import SerialPort.Library.Relay
import SerialPort.Session.Dormant
import SerialPort.Session.Heeded
import SerialPort.Session.Outstanding

/-! Who brings a session out of the states that an operation passes through. -/

namespace SerialPort

/-- Whether the state is one that an operation passes through. -/
def SerialState.isTransitional : SerialState → Bool
  | .connecting => true
  | .closing _ => true
  | _ => false

/-- A connected session is in no state that an operation passes through. -/
theorem SerialState.settled_of_connected {state : SerialState}
    (connected : state.isConnected = true) : state.isTransitional = false := by
  cases state with
  | connected config => rfl
  | _ => cases connected

/-- Whether the call has still to begin, or to come out of `transport.open`. -/
def ConnectPoint.isAhead : ConnectPoint → Bool
  | .dispatch => true
  | .emitConnecting => true
  | .opening => true
  | _ => false

/-- Whether the call has still to make the session idle. -/
def DisconnectPoint.isAhead : DisconnectPoint → Bool
  | .emitClosing => true
  | .closing => true
  | _ => false

/-- Whether the shutdown has still to close the session. -/
def ShutdownPoint.isAhead : ShutdownPoint → Bool
  | .dispatch => true
  | .closing => true
  | _ => false

namespace Session

/-- A call of `connect` or `disconnect`, the shutdown, or a reconnect loop is in progress. -/
def Operates (session : Session) : Prop :=
  (∃ connect ∈ session.connects, connect.point.isReturned = false) ∨
    (∃ disconnect ∈ session.disconnects, disconnect.inProgress = true) ∨
    (∃ point ∈ session.shutdown, point ≠ .finished) ∨
    ∃ loop ∈ session.loops, loop.point ≠ .finished

/-- A session in which nothing is in progress is in none of the states it only passes through. -/
def AtRest (session : Session) : Prop :=
  ¬session.Operates → session.state.isTransitional = false

/-- Whether a coroutine is on its way to another state. -/
def carries (session : Session) : Job → Bool
  | .connect index => (session.connects[index]?).any fun connect => connect.point.isAhead
  | .disconnect index => (session.disconnects[index]?).any fun call => call.point.isAhead
  | .shutdown => session.shutdown.any fun point => point.isAhead
  | .loop index => (session.loops[index]?).any fun loop => loop.point.isAhead
  | _ => false

/-- The loop gives up instead of making another attempt. -/
def GivesUp (session : Session) (loop : Loop) : Prop :=
  match loop.point with
  | .closing => session.Stalls loop.config 0
  | .emitFailed attempt => session.Stalls loop.config (attempt + 1)
  | _ => False

/-- The operation ends without another state: a call of `connect` that is refused or cancelled
before it opens the transport, a call of `disconnect` or a shutdown that cannot close the transport,
and a loop that gives up, cannot close the transport, or is cancelled between its attempts. -/
def Abandons (session : Session) : Job → Outcome → Prop
  | .connect index, .resumes =>
    session.terminal = true ∧ ∃ connect ∈ session.connects[index]?, connect.point = .dispatch
  | .connect index, .cancels =>
    ∃ connect ∈ session.connects[index]?,
      connect.point = .dispatch ∨ connect.point = .emitConnecting
  | .disconnect _, .resumes => False
  | .disconnect index, _ =>
    ∃ disconnect ∈ session.disconnects[index]?, disconnect.point.isAhead = true
  | .shutdown, .throws _ => session.shutdown = some .closing
  | .loop index, .resumes => ∃ loop ∈ session.loops[index]?, session.GivesUp loop
  | .loop index, .throws _ => ∃ loop ∈ session.loops[index]?, loop.point = .closing
  | .loop index, .cancels =>
    ∃ loop ∈ session.loops[index]?, loop.point.isAhead = true ∧ loop.point.isOpening = false
  | _, _ => False

/-- Whoever ends so in such a state leaves somebody else on the way to another one. -/
def Relays (session : Session) : Action → Prop
  | .resume job outcome => session.Abandons job outcome → session.state.isTransitional = true →
      ∃ other, other ≠ job ∧ session.carries other = true
  | _ => True

/-- The coroutines that may be on the way to another state. -/
def operations (session : Session) : List Job :=
  (List.range session.connects.length).map .connect ++
    (List.range session.disconnects.length).map .disconnect ++
    (List.range session.loops.length).map .loop ++ [.shutdown]

theorem mem_operations {session : Session} {job : Job} (carries : session.carries job = true) :
    job ∈ session.operations := by
  cases job with
  | connect index => simpa [operations] using lt_of_any carries
  | disconnect index => simpa [operations] using lt_of_any carries
  | shutdown => simp [operations]
  | loop index => simpa [operations] using lt_of_any carries
  | _ => cases carries

instance (session : Session) : Decidable session.Operates :=
  inferInstanceAs (Decidable ((∃ connect ∈ session.connects, _) ∨ _))

instance (session : Session) (loop : Loop) : Decidable (session.GivesUp loop) := by
  delta GivesUp
  rcases loop.point with _ | _ <;> infer_instance

instance (session : Session) (job : Job) (outcome : Outcome) :
    Decidable (session.Abandons job outcome) := by
  delta Abandons
  rcases job with _ | _ <;> rcases outcome with _ | _ <;> infer_instance

instance (session : Session) (job : Job) :
    Decidable (∃ other, other ≠ job ∧ session.carries other = true) :=
  decidable_of_iff (∃ other ∈ session.operations, other ≠ job ∧ session.carries other = true)
    ⟨fun ⟨other, _, found⟩ => ⟨other, found⟩,
      fun ⟨other, apart, carries⟩ => ⟨other, mem_operations carries, apart, carries⟩⟩

instance (session : Session) (action : Action) : Decidable (session.Relays action) := by
  delta Relays
  rcases action with _ | _ <;> infer_instance

variable {session next : Session} {action : Action} {index : Nat} {job : Job}

/-! Whoever is on the way to another state gets there, or abandons it. -/

/-- A call of `connect` carries the session on, or abandons it. -/
theorem Moves.connectCarries (moved : Moves session action next)
    (carries : session.carries (.connect index) = true)
    (transitional : next.state.isTransitional = true) :
    next.carries (.connect index) = true ∨
      ∃ outcome, action = .resume (.connect index) outcome ∧
        session.Abandons (.connect index) outcome := by
  obtain ⟨before, found, ahead⟩ := (Option.any_eq_true _ _).mp carries
  -- Calls do not disappear, so it is there after the step as well.
  obtain ⟨after, there, turned⟩ := moved.connectLater found
  have still (ahead : after.point.isAhead = true) : next.carries (.connect index) = true := by
    simpa [Session.carries, there] using ahead
  rcases turned with same | ⟨outcome, rfl, resumed⟩
  · -- A cancellation marks the call, and leaves it at its point.
    refine .inl (still ?_)
    rcases same with rfl | rfl <;> exact ahead
  · cases resumed with
    | begin at_ live =>
      unfold connectBegin at there transitional
      split at transitional
      · next terminal =>
        -- The session was closed before the call ran: it is refused, whatever the state is.
        exact .inr ⟨_, rfl, terminal, before, found, at_⟩
      · next open_ =>
        rw [if_neg open_] at there
        split at transitional
        · next connected =>
          -- The session is connected, and so it is not in between.
          simp [setConnect, SerialState.settled_of_connected connected] at transitional
        · next unconnected =>
          rw [if_neg unconnected] at there
          obtain rfl := eq_of_set rfl there
          exact .inl (still rfl)
    | callOpen at_ =>
      obtain rfl := eq_of_set rfl there
      exact .inl (still rfl)
    -- The call leaves its attempt with another state, of which there is nothing to show.
    | opened at_ => cases transitional
    | failed at_ => cases transitional
    | caught at_ cancelled => cases transitional
    | thrown open_ outside cancelled =>
      -- A cancelled call gets out of `emit` and of its dispatch without setting a state.
      refine .inr ⟨_, rfl, before, found, ?_⟩
      cases at_ : before.point <;> simp_all [ConnectPoint.isAhead]
    | _ at_ => simp [at_, ConnectPoint.isAhead] at ahead

/-- A call of `disconnect` carries the session on, or abandons it. -/
theorem Moves.disconnectCarries (moved : Moves session action next)
    (carries : session.carries (.disconnect index) = true)
    (transitional : next.state.isTransitional = true) :
    next.carries (.disconnect index) = true ∨
      ∃ outcome, action = .resume (.disconnect index) outcome ∧
        session.Abandons (.disconnect index) outcome := by
  obtain ⟨before, found, ahead⟩ := (Option.any_eq_true _ _).mp carries
  have within := (List.getElem?_eq_some_iff.mp found).1
  obtain ⟨after, there⟩ : ∃ after, next.disconnects[index]? = some after :=
    ⟨_, List.getElem?_eq_getElem (Nat.lt_of_lt_of_le within moved.disconnects_length)⟩
  have still (ahead : after.point.isAhead = true) : next.carries (.disconnect index) = true := by
    simpa [Session.carries, there] using ahead
  rcases moved.disconnecting there with
    ⟨before', found', same⟩ | ⟨before', outcome, found', rfl, resumed⟩ | ⟨-, last, -⟩
  · -- A cancellation marks the call, and leaves it at its point.
    obtain rfl := Option.some.inj (found.symm.trans found')
    refine .inl (still ?_)
    rcases same with rfl | rfl <;> exact ahead
  · obtain rfl := Option.some.inj (found.symm.trans found')
    cases resumed with
    | strike at_ =>
      obtain ⟨queue, channels, shape⟩ := session.cancelWorkers.poll_shape
      simp only [disconnectStrike, shape] at there
      obtain rfl := eq_of_set rfl there
      exact .inl (still rfl)
    -- The call has closed the transport and made the session idle.
    | closed at_ => cases transitional
    | returned at_ => simp [at_, DisconnectPoint.isAhead] at ahead
    | thrown open_ ends =>
      -- Whatever ends the call from outside, it does not get to set the state.
      refine .inr ⟨outcome, rfl, ?_⟩
      cases outcome with
      | resumes => exact absurd rfl ends
      | _ => exact ⟨before, found, ahead⟩
  · omega

/-- The shutdown carries the session on, or abandons it. -/
theorem Moves.shutdownCarries (moved : Moves session action next) (last : ShutsLast session)
    (carries : session.carries .shutdown = true)
    (transitional : next.state.isTransitional = true) :
    next.carries .shutdown = true ∨
      ∃ outcome, action = .resume .shutdown outcome ∧ session.Abandons .shutdown outcome := by
  have same (shutdown : next.shutdown = session.shutdown) : next.carries .shutdown = true := by
    unfold Session.carries at carries ⊢
    rw [shutdown]
    exact carries
  obtain ⟨point, found, ahead⟩ := (Option.any_eq_true _ _).mp carries
  rcases moved.aside_or_calling with aside | calling
  · exact .inl (same aside.shutdown)
  cases calling with
  | disconnect =>
    obtain ⟨state, events, point, shape⟩ := session.disconnectCall_shape
    exact .inl (same (by rw [shape]))
  | close =>
    -- The session has been closed before, for it is shutting down already.
    have terminal := last.closing (by simp [found])
    exact .inl (same (by simp [closeCall, terminal]))
  | inDisconnect found moved =>
    cases moved with
    | strike at_ =>
      obtain ⟨queue, channels, shape⟩ := session.cancelWorkers.poll_shape
      exact .inl (same (by simp only [disconnectStrike, shape]; rfl))
    | _ => exact .inl (same rfl)
  | inShutdown found' moved =>
    -- After its first turn the shutdown has still to close the transport and the session.
    obtain rfl := Option.some.inj (found.symm.trans found')
    cases moved with
    | strike => exact .inl rfl
    | closed => cases transitional
    | thrown => exact .inr ⟨_, rfl, found⟩
    | finished => cases ahead
  | _ => exact .inl (same rfl)

/-- An attempt follows unless the loop gives up. -/
theorem loopAttempt_goesOn {loop : Loop} {attempt : Nat}
    (tries : ¬session.Stalls loop.config attempt) : ∃ delayMillis,
      (session.loopAttempt index loop attempt).loops =
        session.loops.set index { loop with point := .emitReconnecting attempt delayMillis } := by
  simp only [Stalls, not_or, Nat.not_le, Bool.not_eq_true, Option.isNone_eq_false_iff] at tries
  obtain ⟨open_, remains, fits⟩ := tries
  obtain ⟨delayMillis, fits⟩ := Option.isSome_iff_exists.mp fits
  exact ⟨delayMillis, by simp [loopAttempt, remains, open_, fits, setLoop, emit]⟩

/-- A loop carries the session on, or abandons it. -/
theorem Moves.loopCarries (moved : Moves session action next)
    (carries : session.carries (.loop index) = true)
    (transitional : next.state.isTransitional = true) :
    next.carries (.loop index) = true ∨
      ∃ outcome, action = .resume (.loop index) outcome ∧
        session.Abandons (.loop index) outcome := by
  obtain ⟨before, found, ahead⟩ := (Option.any_eq_true _ _).mp carries
  have within := (List.getElem?_eq_some_iff.mp found).1
  obtain ⟨after, there⟩ : ∃ after, next.loops[index]? = some after :=
    ⟨_, List.getElem?_eq_getElem (Nat.lt_of_lt_of_le within moved.advances.loops)⟩
  have still (ahead : after.point.isAhead = true) : next.carries (.loop index) = true := by
    simpa [Session.carries, there] using ahead
  rcases moved.loop there with
    ⟨before', found', same⟩ | ⟨before', outcome, found', rfl, resumed⟩ | ⟨config, -, -, rfl⟩
  · obtain rfl := Option.some.inj (found.symm.trans found')
    -- A cancellation marks the loop, and leaves it at its point.
    refine .inl (still ?_)
    rcases same with rfl | ⟨rfl, -⟩ <;> exact ahead
  · obtain rfl := Option.some.inj (found.symm.trans found')
    have attempts {attempt : Nat} (next_ : next = session.loopAttempt index before attempt)
        (quits : session.Stalls before.config attempt → session.GivesUp before) :
        next.carries (.loop index) = true ∨
          ∃ outcome, Action.resume (.loop index) .resumes = .resume (.loop index) outcome ∧
            session.Abandons (.loop index) outcome := by
      -- Between its attempts the loop goes on with the next one, or gives up.
      by_cases stalls : session.Stalls before.config attempt
      · exact .inr ⟨_, rfl, before, found, quits stalls⟩
      · obtain ⟨delayMillis, loops⟩ := loopAttempt_goesOn stalls
        obtain rfl := eq_of_set (next_ ▸ loops) there
        exact .inl (still rfl)
    cases resumed with
    | first at_ => exact attempts rfl (by simp [GivesUp, at_])
    | next at_ => exact attempts rfl (by simp [GivesUp, at_])
    -- An attempt that succeeds makes the session connected.
    | opened at_ => cases transitional
    | succeeded at_ => simp [at_, LoopPoint.isAhead] at ahead
    | finished at_ => rcases at_ with at_ | at_ <;> simp [at_, LoopPoint.isAhead] at ahead
    -- A loop that cannot close the transport does not make an attempt.
    | closeThrew at_ => exact .inr ⟨_, rfl, before, found, at_⟩
    | never at_ cancelled =>
      exact .inr ⟨_, rfl, before, found, ahead, by rw [at_]; rfl⟩
    | cancelled open_ begun outside cancelled =>
      refine .inr ⟨_, rfl, before, found, ahead, ?_⟩
      cases at_ : before.point <;> simp_all [LoopPoint.isOpening]
    | _ =>
      -- Inside an attempt the loop goes on to the next point.
      obtain rfl := eq_of_set rfl there
      exact .inl (still rfl)
  · exact .inl (still rfl)

/-- Whoever is on the way carries the session on, or abandons it. -/
theorem Moves.carries (moved : Moves session action next) (last : ShutsLast session)
    (carries : session.carries job = true) (transitional : next.state.isTransitional = true) :
    next.carries job = true ∨
      ∃ outcome, action = .resume job outcome ∧ session.Abandons job outcome := by
  cases job with
  | connect index => exact moved.connectCarries carries transitional
  | disconnect index => exact moved.disconnectCarries carries transitional
  | shutdown => exact moved.shutdownCarries last carries transitional
  | loop index => exact moved.loopCarries carries transitional
  | _ => cases carries

/-- Whoever brings the session into such a state is on the way to another one. -/
theorem Moves.transits (moved : Moves session action next)
    (transitional : next.state.isTransitional = true) :
    session.state.isTransitional = true ∨ ∃ job, next.carries job = true := by
  -- Only `connect`, `disconnect` and the attempts of loops set such a state.
  cases moved.changes with
  | same state calls => exact .inl (state ▸ transitional)
  | connectCalls found at_ state => exact .inl (state ▸ transitional)
  | loopCalls found at_ state => exact .inl (state ▸ transitional)
  | @begins index connect next found at_ live open_ state =>
    cases moved with
    | inConnect found' resumed =>
      obtain rfl := Option.some.inj (found.symm.trans found')
      have within := (List.getElem?_eq_some_iff.mp found).1
      cases resumed with
      | begin _ _ =>
        by_cases connected : session.state.isConnected = true
        · -- A connected session stays connected, and does not start to connect.
          simp only [connectBegin, open_, connected, setConnect, Bool.false_eq_true, if_false,
            if_true] at state
          simp [state, SerialState.isConnected] at connected
        · refine .inr ⟨.connect index, ?_⟩
          simp [Session.carries, connectBegin, open_, connected, emit, setConnect, within,
            ConnectPoint.isAhead]
      | _ elsewhere => simp [at_] at elsewhere
  -- The state is set by the call itself, which has still to close the transport.
  | disconnects open_ connected =>
    refine .inr ⟨.disconnect session.disconnects.length, ?_⟩
    simp [Session.carries, disconnectCall, open_, connected, emit, DisconnectPoint.isAhead]
  -- The state is set by the attempt, which has still to open the transport.
  | @loopBegins index attempt loop delayMillis found at_ live =>
    have within := (List.getElem?_eq_some_iff.mp found).1
    refine .inr ⟨.loop index, ?_⟩
    simp [Session.carries, loopConnecting, emit, setLoop, within, LoopPoint.isAhead]
  | writeFails found tries writers at_ state =>
    simp [state, SerialState.isTransitional] at transitional
  | _ => cases transitional

/-! Somebody is on the way out of every such state. -/

/-- Whoever ends so leaves the way to another state to somebody else. -/
theorem Relays.passes (relays : session.Relays action) :
    Relay.Passes (fun session job => session.carries job = true)
      (fun session => session.state.isTransitional = true)
      (fun session job action =>
        ∃ outcome, action = .resume job outcome ∧ session.Abandons job outcome)
      session action := by
  rintro job ⟨outcome, rfl, abandons⟩ transitional
  exact relays abandons transitional

/-- Somebody is on the way to another state whenever the session is in one it passes through. -/
def Attended (session : Session) : Prop :=
  Relay.Carried (fun session job => session.carries job = true)
    (fun session => session.state.isTransitional = true) session

/-- Every step that relays keeps somebody on the way. -/
theorem Attended.step (attended : Attended session) (last : ShutsLast session)
    -- Only the one who ends his operation stops being on the way, and hands over then.
    (relays : session.Relays action) (moved : Moves session action next) : Attended next := by
  refine Relay.Carried.step attended relays.passes moved.transits ?_ ?_
  · intro _ transitional job carries
    exact (moved.carries last carries transitional).imp_left fun carries => ⟨job, carries⟩
  · rintro job other ⟨outcome, rfl, -⟩ ⟨outcome', same, -⟩
    cases same
    rfl

/-- Whoever is on the way to another state is in progress. -/
theorem Attended.rests (attended : Attended session) : AtRest session := by
  intro idle
  refine Bool.eq_false_iff.mpr fun transitional => idle ?_
  obtain ⟨job, carries⟩ := attended transitional
  cases job with
  -- Whoever is at one of these points has not come to the end of his operation.
  | connect index =>
    obtain ⟨connect, found, ahead⟩ := (Option.any_eq_true _ _).mp carries
    refine .inl ⟨connect, List.mem_of_getElem? found, ?_⟩
    cases at_ : connect.point <;> simp [at_, ConnectPoint.isAhead] at ahead <;> rfl
  | disconnect index =>
    obtain ⟨disconnect, found, ahead⟩ := (Option.any_eq_true _ _).mp carries
    refine .inr (.inl ⟨disconnect, List.mem_of_getElem? found, ?_⟩)
    cases at_ : disconnect.point <;> simp [at_, DisconnectPoint.isAhead] at ahead <;>
      simp [Disconnect.inProgress, at_]
  | shutdown =>
    obtain ⟨point, found, ahead⟩ := (Option.any_eq_true _ _).mp carries
    refine .inr (.inr (.inl ⟨point, found, fun finished => ?_⟩))
    simp [finished, ShutdownPoint.isAhead] at ahead
  | loop index =>
    obtain ⟨loop, found, ahead⟩ := (Option.any_eq_true _ _).mp carries
    refine .inr (.inr (.inr ⟨loop, List.mem_of_getElem? found, fun finished => ?_⟩))
    simp [finished, LoopPoint.isAhead] at ahead
  | _ => cases carries

/-- Where nobody abandons such a state that is left to him alone, none of them persists. -/
theorem transitional_rests (run : Transition.Run Session.step Relays {} session) :
    AtRest session := by
  -- A new session is in none of these states.
  have fresh : Attended {} := nofun
  have attended : Attended session := by
    refine run.invariant fresh fun earlier relays stepped attended => ?_
    exact attended.step (.of_run earlier) relays (.of_step stepped)
  exact attended.rests

end Session

/-! A loop that uses up its attempts. -/

namespace Sample

/-- The first reader fails, and the one attempt to open the transport again fails as well. -/
def exhausting : List Action :=
  .connect retrying :: List.replicate 4 (.resume (.connect 0) .resumes) ++ readFailing 0 ++
    List.replicate 5 (.resume (.loop 0) .resumes) ++ .resume (.loop 0) (.throws "gone") ::
    List.replicate 2 (.resume (.loop 0) .resumes)

end Sample

namespace Session

/-- The loop announces that it gives up, and the session stays in the state of its attempt. -/
theorem exhausting_stays_connecting :
    ¬∀ session, Transition.Run Session.step (fun _ _ => True) {} session → AtRest session := by
  intro always
  -- The last attempt fails, and nothing follows its Connecting.
  obtain ⟨session, run, test⟩ := Transition.Run.of_test
    (fun (session : Session) => !decide session.Operates && session.exhausted &&
      session.state.isTransitional)
    (show (Transition.execute Session.step (fun _ _ => True) {} Sample.exhausting).any _ = true by
      decide +kernel)
  simp only [Bool.and_eq_true, Bool.not_eq_true', decide_eq_false_iff_not] at test
  obtain ⟨⟨idle, -⟩, transitional⟩ := test
  have rests := always session run idle
  simp [transitional] at rests

/-- A session that has been opened again and disconnected is at rest. -/
theorem reopened_disconnected_rests :
    ∃ session, Transition.Run Session.step Relays {} session ∧ ¬session.Operates ∧
      session.loops.length = 1 ∧ session.disconnects.length = 1 ∧ AtRest session := by
  -- The loop succeeds, and the call of `disconnect` runs to its end.
  obtain ⟨session, run, test⟩ := Transition.Run.of_test
    (fun (session : Session) => !decide session.Operates && session.loops.length == 1 &&
      session.disconnects.length == 1)
    (show (Transition.execute Session.step Relays {}
      (Sample.reopened ++ Sample.succeeding 0 ++ Sample.disconnecting 0 ++
        [.resume (.disconnect 0) .resumes])).any _ = true by decide +kernel)
  simp only [Bool.and_eq_true, Bool.not_eq_true', decide_eq_false_iff_not, beq_iff_eq] at test
  obtain ⟨⟨idle, reopened⟩, disconnected⟩ := test
  exact ⟨session, run, idle, reopened, disconnected, transitional_rests run⟩

end Session

end SerialPort
