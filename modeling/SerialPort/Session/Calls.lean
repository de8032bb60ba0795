import SerialPort.Library.Transition
import SerialPort.Session.Attempt

/-! The calls of `disconnect` and `close`, the connections, and the steps aside of them. -/

namespace SerialPort

def LoopPoint.isOpening : LoopPoint → Bool
  | .opening _ => true
  | _ => false

namespace Session

/-- Whether the step is a successful `transport.open`. -/
def opensBy (session : Session) : Action → Bool
  | .resume (.connect index) .resumes =>
    (session.connects[index]?).any fun connect => connect.point == .opening
  | .resume (.loop index) .resumes => (session.loops[index]?).any fun loop => loop.point.isOpening
  | _ => false

/-- A successful open belongs to a call of `connect`, or to a reconnect loop. -/
theorem opensBy_cases {session : Session} {action : Action}
    (opens : session.opensBy action = true) :
    (∃ (index : Nat) (connect : Connect), action = .resume (.connect index) .resumes ∧
      session.connects[index]? = some connect ∧ connect.point = .opening) ∨
      ∃ (index attempt : Nat) (loop : Loop), action = .resume (.loop index) .resumes ∧
        session.loops[index]? = some loop ∧ loop.point = .opening attempt := by
  unfold opensBy at opens
  split at opens
  · -- A call of `connect` or a turn of the loop, each behind its own `open`.
    next index =>
    obtain ⟨connect, found, at_⟩ := (Option.any_eq_true _ _).mp opens
    exact .inl ⟨index, connect, rfl, found, by simpa using at_⟩
  · next index =>
    obtain ⟨loop, found, at_⟩ := (Option.any_eq_true _ _).mp opens
    cases point : loop.point <;> simp [point, LoopPoint.isOpening] at at_
    exact .inr ⟨index, _, loop, rfl, found, point⟩
  · cases opens

/-- No call is made or goes on, and nobody gets connected. -/
structure Aside (session next : Session) : Prop where
  disconnects : next.disconnects = session.disconnects
  shutdown : next.shutdown = session.shutdown
  terminal : next.terminal = session.terminal
  scopeActive : next.scopeActive = session.scopeActive
  state : next.state = session.state ∨ next.state.isConnected = false

/-- The steps of a call, and those that connect the session. -/
inductive Calling (session : Session) : Action → Session → Prop where
  | disconnect : Calling session .disconnect session.disconnectCall
  | close : Calling session .close session.closeCall
  | cancelDisconnect {index : Nat} {disconnect : Disconnect}
      (found : session.disconnects[index]? = some disconnect) :
      Calling session (.cancelDisconnect index)
        (session.setDisconnect index { disconnect with cancelled := true })
  | inDisconnect {index : Nat} {disconnect : Disconnect} {outcome : Outcome} {next : Session}
      (found : session.disconnects[index]? = some disconnect)
      (moved : DisconnectMoves session index disconnect outcome next) :
      Calling session (.resume (.disconnect index) outcome) next
  | inShutdown {point : ShutdownPoint} {outcome : Outcome} {next : Session}
      (found : session.shutdown = some point) (moved : ShutdownMoves session point outcome next) :
      Calling session (.resume .shutdown outcome) next
  | connectOpened {index : Nat} {connect : Connect}
      (found : session.connects[index]? = some connect) (at_ : connect.point = .opening) :
      Calling session (.resume (.connect index) .resumes) (session.connectOpened index connect)
  | loopOpened {index attempt : Nat} {loop : Loop} (found : session.loops[index]? = some loop)
      (at_ : loop.point = .opening attempt) :
      Calling session (.resume (.loop index) .resumes) (session.loopOpened index loop attempt)

variable {session middle next : Session} {index : Nat}

namespace Aside

/-- Two steps that leave the calls aside leave them aside together. -/
theorem trans (former : Aside session middle) (latter : Aside middle next) :
    Aside session next where
  disconnects := latter.disconnects.trans former.disconnects
  shutdown := latter.shutdown.trans former.shutdown
  terminal := latter.terminal.trans former.terminal
  scopeActive := latter.scopeActive.trans former.scopeActive
  state := by
    -- The latter step has the last word about the state.
    rcases latter.state with kept | other
    · rw [kept]
      exact former.state
    · exact .inr other

/-- The end of a failure leaves the calls aside. -/
theorem failSettle : Aside session session.failSettle := by
  unfold Session.failSettle
  repeat' split
  all_goals exact ⟨rfl, rfl, rfl, rfl, .inl rfl⟩

/-- So does the announcement of a failure. -/
theorem failRaise {error : SerialError} : Aside session (session.failRaise error) :=
  ⟨rfl, rfl, rfl, rfl, .inr rfl⟩

/-- So does the beginning of a connection. -/
theorem connectBegin {connect : Connect} : Aside session (session.connectBegin index connect) := by
  unfold Session.connectBegin
  split
  · exact ⟨rfl, rfl, rfl, rfl, .inl rfl⟩
  split
  · exact ⟨rfl, rfl, rfl, rfl, .inl rfl⟩
  · exact ⟨rfl, rfl, rfl, rfl, .inr rfl⟩

/-- So does an attempt of a reconnecting loop. -/
theorem loopAttempt {loop : Loop} {attempt : Nat} :
    Aside session (session.loopAttempt index loop attempt) := by
  unfold Session.loopAttempt
  repeat' split
  all_goals exact ⟨rfl, rfl, rfl, rfl, .inl rfl⟩

/-- So does every move of a writer. -/
theorem inWriter {writer : Writer} {outcome : Outcome}
    (moved : WriterMoves session index writer outcome next) : Aside session next := by
  have besides := moved.besides
  -- A writer that fails makes the session fail, which disconnects it.
  refine ⟨besides.disconnects, besides.shutdown, besides.terminal, besides.scopeActive, ?_⟩
  have turned {turned : Writer} (turned : Turned session index turned next) :
      next.state = session.state ∨ next.state.isConnected = false := by
    rcases turned.state with kept | ⟨queued, error, failed, -⟩
    · exact .inl kept
    · exact .inr (by rw [failed]; rfl)
  cases moved with
  | begin at_ entered live => exact turned beginWriting_turned
  | resumed at_ entered live => exact turned (attemptEnded_turned _)
  | attempted at_ entered missed ended => exact turned (attemptEnded_turned _)
  | retry at_ entered live => exact turned beginAttempt_turned
  | reported at_ entered =>
    unfold report
    simp only
    split <;> exact .inl rfl
  | failSettled at_ => exact failSettle.state
  | _ => exact .inl rfl

end Aside

/-- A step belongs to one of the calls, or connects the session, or is aside of both. -/
theorem Moves.aside_or_calling {action : Action} (moved : Moves session action next) :
    Aside session next ∨ Calling session action next := by
  cases moved with
  | connect => exact .inl ⟨rfl, rfl, rfl, rfl, .inl rfl⟩
  | @send command =>
    obtain ⟨queue, channels, shape⟩ := session.send_shape command
    rw [shape]
    exact .inl ⟨rfl, rfl, rfl, rfl, .inl rfl⟩
  | disconnect => exact .inr .disconnect
  | close => exact .inr .close
  | cancelConnect found => exact .inl ⟨rfl, rfl, rfl, rfl, .inl rfl⟩
  | cancelDisconnect found => exact .inr (.cancelDisconnect found)
  | inConnect found moved =>
    cases moved with
    | begin at_ live => exact .inl .connectBegin
    | opened at_ => exact .inr (.connectOpened found at_)
    -- A failure raises an error and moves the call of `connect` on.
    | failed at_ => exact .inl (Aside.failRaise.trans ⟨rfl, rfl, rfl, rfl, .inl rfl⟩)
    | caught at_ cancelled => exact .inl (Aside.failRaise.trans ⟨rfl, rfl, rfl, rfl, .inl rfl⟩)
    | failSettled at_ => exact .inl (Aside.failSettle.trans ⟨rfl, rfl, rfl, rfl, .inl rfl⟩)
    | _ => exact .inl ⟨rfl, rfl, rfl, rfl, .inl rfl⟩
  | inDisconnect found moved => exact .inr (.inDisconnect found moved)
  | inShutdown found moved => exact .inr (.inShutdown found moved)
  | @inReader index reader outcome next found moved =>
    cases moved with
    | @chunk length buffer link at_ positive =>
      rcases session.handleChunk_cases index reader (receivedData length buffer) link with
        shape | ⟨queued, -, -, -, -, shape⟩ <;> rw [shape] <;>
        exact .inl ⟨rfl, rfl, rfl, rfl, .inl rfl⟩
    | failed at_ => exact .inl (Aside.failRaise.trans ⟨rfl, rfl, rfl, rfl, .inl rfl⟩)
    | failSettled at_ => exact .inl (Aside.failSettle.trans ⟨rfl, rfl, rfl, rfl, .inl rfl⟩)
    | _ => exact .inl ⟨rfl, rfl, rfl, rfl, .inl rfl⟩
  | inWriter found moved => exact .inl (.inWriter moved)
  | @inTimer index timer outcome next found moved =>
    cases moved with
    | fired at_ live fits =>
      obtain ⟨queue, slot, shape⟩ := session.timerFired_shape index timer
      rw [shape]
      exact .inl ⟨rfl, rfl, rfl, rfl, .inl rfl⟩
    | _ => exact .inl ⟨rfl, rfl, rfl, rfl, .inl rfl⟩
  | inLoop found moved =>
    cases moved with
    | strike at_ live => exact .inl ⟨rfl, rfl, rfl, rfl, .inl rfl⟩
    | first at_ => exact .inl .loopAttempt
    | next at_ => exact .inl .loopAttempt
    | opened at_ => exact .inr (.loopOpened found at_)
    | connecting at_ live => exact .inl ⟨rfl, rfl, rfl, rfl, .inr rfl⟩
    | _ => exact .inl ⟨rfl, rfl, rfl, rfl, .inl rfl⟩

/-! The end of a session. -/

/-- A session shuts down only once it has been closed, and cancels its scope at the very end. -/
structure ShutsLast (session : Session) : Prop where
  closing : session.shutdown.isSome → session.terminal = true
  active : session.scopeActive = false → session.shutdown = some .finished

/-- Every move leaves the shutdown to a closed session, and the end of the scope to the shutdown. -/
theorem ShutsLast.step (last : ShutsLast session) {action : Action}
    (moved : Moves session action next) : ShutsLast next := by
  obtain ⟨closing, active⟩ := last
  rcases moved.aside_or_calling with aside | calling
  · -- A step aside touches neither the calls nor the scope.
    exact ⟨by rw [aside.shutdown, aside.terminal]; exact closing,
      by rw [aside.scopeActive, aside.shutdown]; exact active⟩
  cases calling with
  | disconnect => unfold disconnectCall; split <;> exact ⟨closing, active⟩
  | close =>
    unfold closeCall
    split
    · exact ⟨closing, active⟩
    · -- Closing sets the flag, and a session that is not closed has not shut down.
      next open_ =>
      refine ⟨fun _ => rfl, fun inactive => ?_⟩
      have finished := active inactive
      exact absurd (closing (by simp [finished])) open_
  | cancelDisconnect found => exact ⟨closing, active⟩
  | inDisconnect found moved =>
    cases moved with
    | strike at_ =>
      obtain ⟨queue, channels, shape⟩ := session.cancelWorkers.poll_shape
      unfold disconnectStrike
      rw [shape]
      exact ⟨closing, active⟩
    | _ => exact ⟨closing, active⟩
  | inShutdown found moved =>
    -- The shutdown has begun, and so the session is closed already.
    have terminal := closing (by simp [found])
    cases moved with
    | finished => exact ⟨fun _ => terminal, fun _ => rfl⟩
    | thrown => exact ⟨fun _ => terminal, fun _ => rfl⟩
    | _ =>
      refine ⟨fun _ => terminal, fun inactive => ?_⟩
      cases found.symm.trans (active inactive)
  | connectOpened found at_ => exact ⟨closing, active⟩
  | loopOpened found at_ => exact ⟨closing, active⟩

/-- In every run only a closed session shuts down, and cancels its scope at the very end. -/
theorem ShutsLast.of_run {allowed : Session → Action → Prop}
    (run : Transition.Run Session.step allowed {} session) : ShutsLast session :=
  run.invariant ⟨by simp, by simp⟩ fun _ _ stepped last => last.step (.of_step stepped)

/-! The connection. -/

/-- A successful open begins the next connection, and every other step keeps it or ends it. -/
theorem Moves.link {action : Action} (moved : Moves session action next) :
    (session.opensBy action = true ∧ next.opens = session.opens + 1 ∧
        next.link = some (session.opens + 1)) ∨
      (next.opens = session.opens ∧ (next.link = session.link ∨ next.link = none)) := by
  rcases moved.untouched_or_custodial with untouched | custodial
  · -- Only opening and closing the transport change the link.
    exact .inr ⟨untouched.opens, untouched.link⟩
  cases custodial with
  | send command =>
    obtain ⟨queue, channels, shape⟩ := session.send_shape command
    rw [shape]
    exact .inr ⟨rfl, .inl rfl⟩
  | disconnectStrike found at_ =>
    obtain ⟨queue, channels, shape⟩ := session.cancelWorkers.poll_shape
    unfold disconnectStrike
    rw [shape]
    exact .inr ⟨rfl, .inr rfl⟩
  | shutdownStrike at_ => exact .inr ⟨rfl, .inr rfl⟩
  | shutdownClosed at_ => exact .inr ⟨rfl, .inl rfl⟩
  | shutdownFinished at_ => exact .inr ⟨rfl, .inl rfl⟩
  | connectOpened found at_ => exact .inl ⟨by simp [opensBy, found, at_], rfl, rfl⟩
  | loopStrike found at_ live => exact .inr ⟨rfl, .inr rfl⟩
  | loopOpened found at_ =>
    exact .inl ⟨by simp [opensBy, found, at_, LoopPoint.isOpening], rfl, rfl⟩
  | @chunk index reader link length buffer found at_ positive =>
    rcases session.handleChunk_cases index reader (receivedData length buffer) link with
      shape | ⟨queued, -, -, -, -, shape⟩ <;> rw [shape] <;> exact .inr ⟨rfl, .inl rfl⟩
  | inWriter found moved => exact .inr ⟨moved.besides.opens, .inl moved.besides.link⟩
  | @inTimer index timer outcome next found moved =>
    cases moved with
    | fired at_ live fits =>
      obtain ⟨queue, slot, shape⟩ := session.timerFired_shape index timer
      rw [shape]
      exact .inr ⟨rfl, .inl rfl⟩
    | overflowed at_ live beyond => exact .inr ⟨rfl, .inl rfl⟩
    | cancelled at_ cancelled => exact .inr ⟨rfl, .inl rfl⟩

/-- The transport is closed, or open since the last successful open. -/
def OneLink (session : Session) : Prop :=
  session.link = none ∨ session.link = some session.opens

/-- Every move leaves the transport closed, or open since the latest successful open. -/
theorem OneLink.step (one : OneLink session) {action : Action}
    (moved : Moves session action next) : OneLink next := by
  unfold OneLink at one ⊢
  -- A connection that begins is the latest one, and an earlier one may only end.
  rcases moved.link with ⟨-, opens, link⟩ | ⟨opens, kept | closed⟩
  · exact .inr (by rw [opens, link])
  · rw [opens, kept]
    exact one
  · exact .inl closed

/-- In every run the transport is closed, or open since the latest successful open. -/
theorem OneLink.of_run {allowed : Session → Action → Prop}
    (run : Transition.Run Session.step allowed {} session) : OneLink session :=
  run.invariant (.inl rfl) fun _ _ stepped one => one.step (.of_step stepped)

end Session

end SerialPort
