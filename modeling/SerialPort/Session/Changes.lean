import SerialPort.Session.Coroutines

/-! Which steps change the state of a session, or call `transport.open`. -/

namespace SerialPort

/-- The state of a session that is not, and is not about to be, connected, and has not failed. -/
def SerialState.isCalm : SerialState → Bool
  | .idle => true
  | .closing _ => true
  | .closed => true
  | _ => false

namespace Session

/-- The writer is about to begin or to end an attempt. -/
inductive Tries (session : Session) (writer : Writer) : Prop where
  | begins {queued : Nat} {entry : QueuedCommand} (at_ : writer.point = .delaying queued)
      (entered : session.queue[queued]? = some entry)
      (live : writer.cancelled = false ∨ writer.delayFor entry.command ≤ 0)
  | ends {queued attempt : Nat} (at_ : writer.point.tries = some (queued, attempt))
  | retries {queued attempt : Nat} {entry : QueuedCommand}
      (at_ : writer.point = .retrying queued attempt)
      (entered : session.queue[queued]? = some entry)
      (live : writer.cancelled = false ∨ entry.command.retryDelay ≤ 0)

/-- What a step makes of the state, and whether it calls `transport.open`. -/
inductive Changes (session : Session) : Action → Session → Prop where
  | same {action : Action} {next : Session} (state : next.state = session.state)
      (calls : next.openCalls = session.openCalls) : Changes session action next
  | begins {index : Nat} {connect : Connect} {next : Session}
      (found : session.connects[index]? = some connect) (at_ : connect.point = .dispatch)
      (live : connect.cancelled = false) (open_ : session.terminal = false)
      (state : next.state = .connecting) :
      Changes session (.resume (.connect index) .resumes) next
  | connectCalls {index : Nat} {connect : Connect} {next : Session}
      (found : session.connects[index]? = some connect) (at_ : connect.point = .emitConnecting)
      (state : next.state = session.state) :
      Changes session (.resume (.connect index) .resumes) next
  | connects {index : Nat} {connect : Connect}
      (found : session.connects[index]? = some connect) (at_ : connect.point = .opening) :
      Changes session (.resume (.connect index) .resumes) (session.connectOpened index connect)
  | connectFails {index : Nat} {connect : Connect} {outcome : Outcome} {cause : Throwable}
      (found : session.connects[index]? = some connect)
      (at_ : connect.point = .opening ∨ connect.point = .emitConnected) :
      Changes session (.resume (.connect index) outcome) (session.connectFailed index connect cause)
  | disconnects (open_ : session.terminal = false) (connected : session.state.isConnected = true) :
      Changes session .disconnect session.disconnectCall
  | idles {index : Nat} {disconnect : Disconnect}
      (found : session.disconnects[index]? = some disconnect) (at_ : disconnect.point = .closing) :
      Changes session (.resume (.disconnect index) .resumes)
        (session.disconnectClosed index disconnect)
  | closes (at_ : session.shutdown = some .closing) :
      Changes session (.resume .shutdown .resumes) session.shutdownClosed
  | readFails {index : Nat} {reader : Reader} {link : Option Nat} {outcome : Outcome}
      {message : String} (found : session.readers[index]? = some reader)
      (at_ : reader.point = .reading link) :
      Changes session (.resume (.reader index) outcome) (session.readerFailed index reader message)
  | writeFails {index queued : Nat} {writer turned : Writer} {outcome : Outcome}
      {error : SerialError} {next : Session} (found : session.writers[index]? = some writer)
      (tries : session.Tries writer)
      (writers : next.writers = session.writers.set index turned)
      (at_ : turned.point = .failing queued error .raised)
      (state : next.state = .failed error true) :
      Changes session (.resume (.writer index) outcome) next
  | loopBegins {index attempt : Nat} {loop : Loop} {delayMillis : Int}
      (found : session.loops[index]? = some loop) (at_ : loop.point = .delaying attempt delayMillis)
      (live : loop.cancelled = false ∨ delayMillis ≤ 0) :
      Changes session (.resume (.loop index) .resumes) (session.loopConnecting index loop attempt)
  | loopCalls {index attempt : Nat} {loop : Loop} {next : Session}
      (found : session.loops[index]? = some loop) (at_ : loop.point = .emitConnecting attempt)
      (state : next.state = session.state) :
      Changes session (.resume (.loop index) .resumes) next
  | loopConnects {index attempt : Nat} {loop : Loop}
      (found : session.loops[index]? = some loop) (at_ : loop.point = .opening attempt) :
      Changes session (.resume (.loop index) .resumes) (session.loopOpened index loop attempt)

variable {session next : Session} {action : Action} {index : Nat}

/-- The end of a failure does not change the state. -/
theorem failSettle_state : session.failSettle.state = session.state := by
  obtain ⟨_, _, shape⟩ := session.failSettle_shape
  rw [shape]

/-- Nor does it open the transport. -/
theorem failSettle_openCalls : session.failSettle.openCalls = session.openCalls := by
  obtain ⟨_, _, shape⟩ := session.failSettle_shape
  rw [shape]

/-- A writer changes the state only when it fails. -/
theorem Changes.inWriter {writer : Writer} {outcome : Outcome}
    (found : session.writers[index]? = some writer)
    (moved : WriterMoves session index writer outcome next) :
    Changes session (.resume (.writer index) outcome) next := by
  have calls := moved.besides.openCalls
  have turned (tries : session.Tries writer) {turned : Writer}
      (turns : Turned session index turned next) :
      Changes session (.resume (.writer index) outcome) next := by
    -- Its attempt has failed if the state has changed at all.
    rcases turns.state with same | ⟨queued, error, failed, at_⟩
    · exact .same same calls
    · exact .writeFails found tries turns.writers at_ failed
  cases moved with
  | begin at_ entered live => exact turned (.begins at_ entered live) beginWriting_turned
  | resumed at_ entered live => exact turned (.ends (by rw [at_]; rfl)) (attemptEnded_turned _)
  | attempted at_ entered missed ended => exact turned (.ends at_) (attemptEnded_turned _)
  | retry at_ entered live => exact turned (.retries at_ entered live) beginAttempt_turned
  | reported at_ entered =>
    refine .same ?_ calls
    unfold report
    simp only
    split <;> rfl
  | failSettled at_ => exact .same failSettle_state calls
  | _ => exact .same rfl calls

/-- A step changes the state in one of these ways, or not at all. -/
theorem Moves.changes (moved : Moves session action next) : Changes session action next := by
  cases moved with
  | @send command =>
    obtain ⟨queue, channels, shape⟩ := session.send_shape command
    exact .same (by rw [shape]) (by rw [shape])
  | disconnect =>
    -- A call that is refused changes nothing.
    by_cases refused : session.terminal || !session.state.isConnected
    · refine .same ?_ ?_ <;> simp [disconnectCall, refused]
    · simp only [Bool.or_eq_true, Bool.not_eq_true', not_or, Bool.not_eq_true,
        Bool.not_eq_false] at refused
      exact .disconnects refused.1 refused.2
  | close =>
    obtain ⟨shutdown, shape⟩ := session.closeCall_shape
    exact .same (by rw [shape]) (by rw [shape])
  | @inConnect index connect outcome next found moved =>
    cases moved with
    | begin at_ live =>
      -- Only an open session that is not connected begins to connect.
      cases terminal : session.terminal with
      | true => refine .same ?_ ?_ <;> simp [connectBegin, terminal, setConnect]
      | false =>
        cases connected : session.state.isConnected with
        | true => refine .same ?_ ?_ <;> simp [connectBegin, terminal, connected, setConnect]
        | false =>
          refine .begins found at_ live terminal ?_
          simp [connectBegin, terminal, connected, setConnect, emit]
    | callOpen at_ => exact .connectCalls found at_ rfl
    | opened at_ => exact .connects found at_
    | failed at_ => exact .connectFails found (.inl at_)
    | caught at_ cancelled => exact .connectFails found at_
    | failSettled at_ => exact .same failSettle_state failSettle_openCalls
    | _ => exact .same rfl rfl
  | inDisconnect found moved =>
    cases moved with
    | strike at_ =>
      -- The workers, the channel and the transport change, and not the state.
      obtain ⟨queue, channels, shape⟩ := session.cancelWorkers.poll_shape
      refine .same ?_ ?_ <;> simp only [disconnectStrike, shape] <;> rfl
    | closed at_ => exact .idles found at_
    | _ => exact .same rfl rfl
  | inShutdown found moved =>
    cases moved with
    | closed => exact .closes found
    | _ => exact .same rfl rfl
  | @inReader index reader outcome next found moved =>
    cases moved with
    | @chunk length buffer link at_ positive =>
      rcases session.handleChunk_cases index reader (receivedData length buffer) link with
        shape | ⟨queued, -, -, -, -, shape⟩ <;> rw [shape] <;> exact .same rfl rfl
    | failed at_ => exact .readFails found at_
    | failSettled at_ => exact .same failSettle_state failSettle_openCalls
    | _ => exact .same rfl rfl
  | inWriter found moved => exact .inWriter found moved
  | inTimer found moved =>
    cases moved with
    | fired at_ live fits =>
      obtain ⟨queue, slot, shape⟩ := session.timerFired_shape _ _
      exact .same (by rw [shape]) (by rw [shape])
    | _ => exact .same rfl rfl
  | inLoop found moved =>
    cases moved with
    | first at_ =>
      -- The loop announces its next attempt, or gives up, without changing the state.
      obtain ⟨_, _, _, _, shape⟩ := session.loopAttempt_shape _ _
      exact .same (by rw [shape]; rfl) (by rw [shape]; rfl)
    | next at_ =>
      obtain ⟨_, _, _, _, shape⟩ := session.loopAttempt_shape _ _
      exact .same (by rw [shape]; rfl) (by rw [shape]; rfl)
    | connecting at_ live => exact .loopBegins found at_ live
    | callOpen at_ => exact .loopCalls found at_ rfl
    | opened at_ => exact .loopConnects found at_
    | _ => exact .same rfl rfl
  | _ => exact .same rfl rfl

end Session

end SerialPort
