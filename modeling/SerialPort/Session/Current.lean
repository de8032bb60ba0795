import SerialPort.Session.Dormant
import SerialPort.Session.Heeded

/-! With which configuration the reconnect loops open the transport. -/

namespace SerialPort

namespace Session

/-- The configuration of the `connect` call that passes its tests and starts to connect. -/
def beginsBy (session : Session) : Action → Option SerialConfig
  | .resume (.connect index) .resumes =>
    (session.connects[index]?).bind fun connect =>
      if connect.point = .dispatch ∧ connect.cancelled = false ∧ session.terminal = false ∧
          session.state.isConnected = false then some connect.config
      else none
  | _ => none

/-- The configuration that a loop passes to `transport.open`. -/
def reopensBy (session : Session) : Action → Option SerialConfig
  | .resume (.loop index) .resumes =>
    (session.loops[index]?).bind fun loop =>
      match loop.point with
      | .emitConnecting _ => some loop.config
      | _ => none
  | _ => none

end Session

/-- A session with the history of the configurations it was asked for and opened with. -/
structure Tracked where
  session : Session := {}
  -- The configuration of the last `connect` call that started to connect.
  latest : Option SerialConfig := none
  -- What the loops passed to `transport.open`, with the latest configuration at the call.
  reopens : List (SerialConfig × Option SerialConfig) := []
  -- The latest configuration at every launch of a loop.
  launches : List (Option SerialConfig) := []

namespace Tracked

/-- Enters a step of the session in the history. -/
def record (tracked : Tracked) (action : Action) (next : Session) : Tracked :=
  let reopened := (tracked.session.reopensBy action).map fun config => (config, tracked.latest)
  { session := next
    latest := (tracked.session.beginsBy action).or tracked.latest
    reopens := tracked.reopens ++ reopened.toList
    launches :=
      if tracked.session.loops.length < next.loops.length then
        tracked.launches ++ [tracked.latest]
      else tracked.launches }

def step (tracked : Tracked) (action : Action) : Option Tracked :=
  (tracked.session.step action).map (tracked.record action)

/-- Loops open the transport as asked for last, and are launched only where that is wanted. -/
structure Current (tracked : Tracked) : Prop where
  reopens : ∀ call ∈ tracked.reopens, call.2 = some call.1
  launches : ∀ latest ∈ tracked.launches,
    latest.any (fun config => config.reconnect.enabled) = true

/-- Nobody asks for another configuration while a loop has attempts ahead, and no failure launches
a loop for another configuration than the latest one. -/
structure Keeps (tracked : Tracked) (action : Action) : Prop where
  begins : ∀ config, tracked.session.beginsBy action = some config →
    ∀ loop ∈ tracked.session.loops, loop.config = config ∨ tracked.session.Quits loop
  settles : ∀ config, tracked.session.SettlesBy action → tracked.session.relaunches config →
    tracked.latest = some config ∨
      (tracked.latest.any (fun latest => latest.reconnect.enabled) = true ∧
        tracked.session.Stalls config 0)

/-- Every loop with attempts ahead makes them with the latest configuration. -/
structure Bound (tracked : Tracked) : Prop where
  last : tracked.session.ShutsLast
  loops : ∀ loop ∈ tracked.session.loops,
    tracked.latest = some loop.config ∨ tracked.session.Quits loop

end Tracked

namespace Session

variable {session next : Session} {action : Action}

/-- A call that fails has started to connect long before. -/
theorem SettlesBy.beginsBy (settles : session.SettlesBy action) :
    session.beginsBy action = none := by
  cases settles with
  | connect found at_ => simp [Session.beginsBy, found, at_]
  | _ => rfl

/-- A loop passes its own configuration to `transport.open`. -/
theorem reopensBy_cases {config : SerialConfig} (reopens : session.reopensBy action = some config) :
    ∃ (index attempt : Nat) (loop : Loop), action = .resume (.loop index) .resumes ∧
      session.loops[index]? = some loop ∧ loop.point = .emitConnecting attempt ∧
      config = loop.config := by
  unfold reopensBy at reopens
  split at reopens
  · next index =>
    obtain ⟨loop, found, reopens⟩ := Option.bind_eq_some_iff.mp reopens
    split at reopens
    · -- The loop calls `open` as it leaves the report that it is connecting.
      next attempt at_ =>
      exact ⟨index, attempt, loop, rfl, found, at_, (Option.some.inj reopens).symm⟩
    · cases reopens
  · cases reopens

/-- A loop calls `transport.open` exactly in the steps that are counted as such calls. -/
theorem Moves.reopens_iff {index : Nat} {outcome : Outcome}
    (moved : Moves session (.resume (.loop index) outcome) next) :
    (session.reopensBy (.resume (.loop index) outcome)).isSome = true ↔
      next.openCalls = session.openCalls + 1 := by
  cases moved with
  | inLoop found moved =>
    have attempts (loop : Loop) (attempt : Nat) :
        (session.loopAttempt index loop attempt).openCalls = session.openCalls := by
      obtain ⟨_, _, _, _, shape⟩ := session.loopAttempt_shape loop attempt
      rw [shape]
      rfl
    cases moved with
    -- The step that counts a call is the one the predicate names; no other point does either.
    | callOpen at_ => simp [reopensBy, found, at_, callOpen, setLoop]
    | first at_ => simp [reopensBy, found, at_, attempts]
    | next at_ => simp [reopensBy, found, at_, attempts]
    | finished at_ =>
      rcases at_ with at_ | at_ <;> simp [reopensBy, found, at_, loopFinished, setLoop]
    | _ =>
      simp_all [reopensBy, loopStrike, loopConnecting, loopOpened, loopFailed, loopSucceeded,
        loopFinished, opened, startWorkers, emit, callClose, cancelWorkers, setLoop]

/-- There is a new loop only after a failure that launches it. -/
theorem Moves.launches (moved : Moves session action next)
    (longer : session.loops.length < next.loops.length) :
    ∃ config, session.SettlesBy action ∧ session.relaunches config := by
  rcases moved.loop (List.getElem?_eq_getElem longer) with
    ⟨before, found, -⟩ | ⟨before, outcome, found, -⟩ | ⟨config, settles, relaunches, -⟩
  · exact absurd (List.getElem?_eq_some_iff.mp found).1 (Nat.lt_irrefl _)
  · exact absurd (List.getElem?_eq_some_iff.mp found).1 (Nat.lt_irrefl _)
  · exact ⟨config, settles, relaunches⟩

end Session

namespace Tracked

variable {tracked next : Tracked} {action : Action}

/-- Every step that keeps to the latest configuration binds the loops to it. -/
theorem Bound.step (bound : Bound tracked) (keeps : tracked.Keeps action)
    (stepped : tracked.step action = some next) : Bound next := by
  obtain ⟨session, taken, rfl⟩ := Option.map_eq_some_iff.mp stepped
  have moved := Session.Moves.of_step taken
  have terminal := moved.terminal
  -- Whoever asks for another configuration finds only loops that make no attempt with the old one.
  have left {loop : Loop} (listed : loop ∈ tracked.session.loops) :
      (tracked.session.beginsBy action).or tracked.latest = some loop.config ∨
        session.Quits loop := by
    cases begun : tracked.session.beginsBy action with
    | none => exact (bound.loops loop listed).imp_right (Session.Quits.later terminal)
    | some config =>
      rcases keeps.begins config begun loop listed with rfl | quits
      · exact .inl rfl
      · exact .inr (quits.later terminal)
  refine ⟨bound.last.step moved, fun after listed => ?_⟩
  obtain ⟨index, there⟩ := List.getElem?_of_mem listed
  rcases moved.loop there with
    ⟨before, found, rfl | ⟨rfl, closed⟩⟩ | ⟨before, outcome, found, rfl, resumed⟩ |
      ⟨config, settles, relaunches, rfl⟩
  · -- A loop that is left alone, or cancelled by the end of the shutdown, keeps what it has ahead.
    exact left (List.mem_of_getElem? found)
  · -- Only a shutdown cancels loops, and with the terminal flag set none makes another attempt.
    refine (left (List.mem_of_getElem? found)).imp_right fun quits => quits.cancel ?_
    exact terminal (bound.last.closing (by simp [closed]))
  · -- The loop keeps its configuration, and nobody asks for another one meanwhile.
    obtain ⟨point, loops⟩ := resumed.turned
    -- The loop that takes the turn may be one that has given up, which stays so.
    rcases bound.loops before (List.mem_of_getElem? found) with current | quits
    · obtain rfl := eq_of_set loops there
      exact .inl current
    · exact .inr (resumed.quits quits terminal there).quits
  · -- A new loop has the stored configuration, of which the guard speaks.
    rcases keeps.settles config settles relaunches with current | ⟨-, stalls⟩
    · exact .inl (by simp [record, settles.beginsBy, current])
    · exact .inr (.inr (stalls.later terminal))

/-- Every step that keeps to the latest configuration opens and launches as asked for last. -/
theorem Current.step (current : Current tracked) (bound : Bound tracked)
    (keeps : tracked.Keeps action) (stepped : tracked.step action = some next) : Current next := by
  obtain ⟨session, taken, rfl⟩ := Option.map_eq_some_iff.mp stepped
  refine ⟨fun call listed => ?_, fun latest listed => ?_⟩
  · -- The calls so far are kept, and at most one is added, with the latest configuration.
    rcases List.mem_append.mp listed with earlier | reopened
    · exact current.reopens call earlier
    · obtain ⟨config, reopens, rfl⟩ := Option.map_eq_some_iff.mp (Option.mem_toList.mp reopened)
      obtain ⟨index, attempt, loop, -, found, at_, rfl⟩ := Session.reopensBy_cases reopens
      rcases bound.loops loop (List.mem_of_getElem? found) with bound | quits
      · -- A loop whose attempts are over does not come to call `transport.open`.
        exact bound
      · simp [Session.Quits, Session.DormantLoop, at_] at quits
  · -- A launch makes the list of loops longer, and the history as well.
    simp only [record] at listed
    split at listed
    · next longer =>
      rcases List.mem_append.mp listed with earlier | launched
      · exact current.launches latest earlier
      · obtain rfl := List.mem_singleton.mp launched
        obtain ⟨config, settles, relaunches⟩ := (Session.Moves.of_step taken).launches longer
        -- A loop is launched for a configuration that asks for it.
        rcases keeps.settles config settles relaunches with same | ⟨enabled, -⟩
        · simp [same, relaunches.2.1]
        · exact enabled
    · exact current.launches latest listed

/-- In every run that keeps to it the loops are bound to the latest configuration. -/
theorem Bound.of_run (run : Transition.Run Tracked.step Keeps {} tracked) : Bound tracked :=
  run.invariant ⟨⟨by simp, by simp⟩, by simp⟩ fun _ keeps stepped bound => bound.step keeps stepped

/-- Where no loop is left with an outdated configuration, and no failure launches one for it, the
loops open the transport as it was asked for last. -/
theorem reconnects_current (run : Transition.Run Tracked.step Keeps {} tracked) :
    Current tracked :=
  run.invariant ⟨by simp, by simp⟩ fun earlier keeps stepped current =>
    current.step (.of_run earlier) keeps stepped

/-! A session that is only ever asked for one configuration. -/

end Tracked

/-- Whether the call has passed its tests, and not returned. -/
def ConnectPoint.hasBegun : ConnectPoint → Bool
  | .dispatch => false
  | .returned _ => false
  | _ => true

namespace Session

variable {session next : Session} {action : Action} {index : Nat}

/-- What a call begins with is the configuration it was made with. -/
theorem beginsBy_cases {config : SerialConfig} (begins : session.beginsBy action = some config) :
    ∃ connect ∈ session.connects, config = connect.config := by
  unfold beginsBy at begins
  split at begins
  · -- The configuration is the call's own argument.
    obtain ⟨connect, found, begins⟩ := Option.bind_eq_some_iff.mp begins
    split at begins
    · exact ⟨connect, List.mem_of_getElem? found, (Option.some.inj begins).symm⟩
    · cases begins
  · cases begins

/-- A call that is past its tests after a step was past them before, or begins by the step. -/
theorem ConnectMoves.begun {connect after : Connect} {outcome : Outcome}
    (found : session.connects[index]? = some connect)
    (moved : ConnectMoves session index connect outcome next)
    (there : next.connects[index]? = some after) (begun : after.point.hasBegun = true) :
    connect.point.hasBegun = true ∨
      session.beginsBy (.resume (.connect index) outcome) = some connect.config := by
  -- Only the first turn of a call passes the tests, and it returns where one of them fails.
  cases moved with
  | begin at_ live =>
    refine .inr ?_
    unfold connectBegin at there
    split at there
    · obtain rfl := eq_of_set rfl there
      cases begun
    split at there
    · obtain rfl := eq_of_set rfl there
      cases begun
    · next open_ unconnected =>
      simp_all [beginsBy]
  | caught at_ cancelled => rcases at_ with at_ | at_ <;> exact .inl (by rw [at_]; rfl)
  -- A call that throws has returned, and so it is past nothing.
  | thrown open_ outside cancelled =>
    obtain rfl := eq_of_set rfl there
    cases begun
  | _ at_ => exact .inl (by rw [at_]; rfl)

/-- The configuration is set by a call that opens the transport. -/
theorem Moves.configures (moved : Moves session action next) :
    next.config = session.config ∨ ∃ connect ∈ session.connects,
      connect.point = .opening ∧ next.config = some connect.config := by
  rcases moved.untouched_or_custodial with untouched | custodial
  · exact .inl untouched.config
  cases custodial with
  | send command =>
    obtain ⟨queue, channels, shape⟩ := session.send_shape command
    exact .inl (by rw [shape])
  | disconnectStrike found at_ =>
    obtain ⟨queue, channels, shape⟩ := session.cancelWorkers.poll_shape
    exact .inl (by simp only [disconnectStrike, shape]; rfl)
  -- The configuration is stored behind the `open` that has succeeded, and nowhere else.
  | connectOpened found at_ => exact .inr ⟨_, List.mem_of_getElem? found, at_, rfl⟩
  | @chunk index reader link length buffer found at_ positive =>
    rcases session.handleChunk_cases index reader (receivedData length buffer) link with
      shape | ⟨queued, -, -, -, -, shape⟩ <;> exact .inl (by rw [shape]; rfl)
  | inWriter found moved => exact .inl moved.besides.config
  | inTimer found moved =>
    cases moved with
    | fired at_ live fits =>
      obtain ⟨queue, slot, shape⟩ := session.timerFired_shape _ _
      exact .inl (by rw [shape])
    | _ => exact .inl rfl
  | _ => exact .inl rfl

end Session

namespace Tracked

variable {tracked next : Tracked} {action : Action} {config : SerialConfig}

/-- Whoever calls `connect` asks for this configuration. -/
def AsksFor (config : SerialConfig) (_ : Tracked) (action : Action) : Prop :=
  ∀ other, action = .connect other → other = config

/-- Nobody has ever asked for another configuration, and it has been asked for before it is used. -/
structure Uniform (config : SerialConfig) (tracked : Tracked) : Prop where
  connects : ∀ connect ∈ tracked.session.connects, connect.config = config
  begun : ∀ connect ∈ tracked.session.connects, connect.point.hasBegun = true →
    tracked.latest = some config
  stored : ∀ other, tracked.session.config = some other →
    other = config ∧ tracked.latest = some config
  loops : ∀ loop ∈ tracked.session.loops, loop.config = config

namespace Uniform

/-- A session that is asked for one configuration begins with no other. -/
theorem begins (uniform : Uniform config tracked) {other : SerialConfig}
    (begins : tracked.session.beginsBy action = some other) : other = config := by
  obtain ⟨connect, listed, rfl⟩ := Session.beginsBy_cases begins
  exact uniform.connects connect listed

/-- Once the configuration is the latest one it stays so. -/
theorem latest (uniform : Uniform config tracked) (latest : tracked.latest = some config) :
    (tracked.session.beginsBy action).or tracked.latest = some config := by
  -- Whoever starts to connect asks for the same configuration again.
  cases begun : tracked.session.beginsBy action with
  | none => exact latest
  | some other =>
    obtain rfl := uniform.begins begun
    rfl

/-- Every step that asks for no other configuration keeps it the only one. -/
theorem step (uniform : Uniform config tracked) (asks : AsksFor config tracked action)
    (stepped : tracked.step action = some next) : Uniform config next := by
  obtain ⟨session, taken, rfl⟩ := Option.map_eq_some_iff.mp stepped
  have moved := Session.Moves.of_step taken
  refine ⟨fun after listed => ?_, fun after listed begun => ?_, fun other configured => ?_,
    fun after listed => ?_⟩
  · -- The calls of `connect` keep their configurations, and a new one has the one asked for.
    obtain ⟨index, there⟩ := List.getElem?_of_mem listed
    rcases moved.connectCall there with
      ⟨before, found, same⟩ | ⟨before, outcome, found, -, resumed⟩ | ⟨other, asked, -, rfl⟩
    · have kept := uniform.connects before (List.mem_of_getElem? found)
      rcases same with rfl | rfl <;> exact kept
    · obtain ⟨point, connects⟩ := resumed.turned
      obtain rfl := eq_of_set connects there
      exact uniform.connects before (List.mem_of_getElem? found)
    · exact asks other asked
  · obtain ⟨index, there⟩ := List.getElem?_of_mem listed
    rcases moved.connectCall there with
      ⟨before, found, same⟩ | ⟨before, outcome, found, rfl, resumed⟩ | ⟨other, -, -, rfl⟩
    · -- The latest configuration does not change for a call that is left alone.
      refine uniform.latest (uniform.begun before (List.mem_of_getElem? found) ?_)
      rcases same with rfl | rfl <;> exact begun
    · have listed := List.mem_of_getElem? found
      rcases resumed.begun found there begun with earlier | begins
      · -- The call begins by this step, and so its configuration becomes the latest one.
        exact uniform.latest (uniform.begun before listed earlier)
      · simp [record, begins, uniform.connects before listed]
    · cases begun
  · -- What is stored stays so, until a call stores its own configuration.
    rcases moved.configures with same | ⟨connect, listed, at_, same⟩
    · obtain ⟨rfl, latest⟩ := uniform.stored other (same.symm.trans configured)
      exact ⟨rfl, uniform.latest latest⟩
    · -- Whoever is inside `transport.open` has begun.
      have latest := uniform.begun connect listed (by rw [at_]; rfl)
      obtain rfl := Option.some.inj (same.symm.trans configured)
      exact ⟨uniform.connects connect listed, uniform.latest latest⟩
  · obtain ⟨index, there⟩ := List.getElem?_of_mem listed
    rcases moved.loop there with
      ⟨before, found, same⟩ | ⟨before, outcome, found, -, resumed⟩ |
        ⟨other, settles, relaunches, rfl⟩
    · -- The loops keep their configurations, and a new one has the stored one.
      have kept := uniform.loops before (List.mem_of_getElem? found)
      rcases same with rfl | ⟨rfl, -⟩ <;> exact kept
    · obtain ⟨point, loops⟩ := resumed.turned
      obtain rfl := eq_of_set loops there
      exact uniform.loops before (List.mem_of_getElem? found)
    · exact (uniform.stored other relaunches.1).1

/-- In every run that asks for one configuration it is the only one. -/
theorem of_run (run : Transition.Run Tracked.step (AsksFor config) {} tracked) :
    Uniform config tracked :=
  run.invariant ⟨by simp, by simp, by simp, by simp⟩ fun _ asks stepped uniform =>
    uniform.step asks stepped

/-- Where there is one configuration only, it is the latest. -/
theorem keeps (uniform : Uniform config tracked) : tracked.Keeps action where
  begins other begun loop listed := by
    obtain rfl := uniform.begins begun
    exact .inl (uniform.loops loop listed)
  settles other _ relaunches := by
    obtain ⟨rfl, latest⟩ := uniform.stored other relaunches.1
    exact .inl latest

end Uniform

/-- Where only one configuration is asked for, nothing goes wrong. -/
theorem keeps_of_asksFor (run : Transition.Run Tracked.step (AsksFor config) {} tracked) :
    Transition.Run Tracked.step Keeps {} tracked :=
  run.invariant .refl fun earlier _ stepped kept =>
    kept.snoc (Uniform.of_run earlier).keeps stepped

end Tracked

/-! A loop that opens the device the caller has switched away from. -/

namespace Sample

/-- The session is switched to a device that cannot be opened. -/
def switching : List Action :=
  .connect reconnecting :: List.replicate 4 (.resume (.connect 0) .resumes) ++
    disconnecting 0 ++
    .connect other :: List.replicate 2 (.resume (.connect 1) .resumes) ++
    .resume (.connect 1) (.throws "busy") :: List.replicate 2 (.resume (.connect 1) .resumes)

end Sample

namespace Tracked

/-- The failure launches a loop, and the loop opens the first device again. -/
theorem switching_reopens_outdated :
    ¬∀ tracked, Transition.Run Tracked.step (fun _ _ => True) {} tracked → Current tracked := by
  intro always
  -- The other path's `open` throws, so `fail` still reads the configuration of the first.
  obtain ⟨tracked, run, test⟩ := Transition.Run.of_test
    (fun (tracked : Tracked) => tracked.reopens.any fun call =>
      call.2.any fun latest => latest.path != call.1.path)
    (show (Transition.execute Tracked.step (fun _ _ => True) {}
      (Sample.switching ++ Sample.reopening 0)).any _ = true by decide +kernel)
  obtain ⟨call, listed, differs⟩ := List.any_eq_true.mp test
  rw [(always tracked run).reopens call listed] at differs
  simp at differs

/-- A session that is only asked for one configuration is opened again with it. -/
theorem reopened_current :
    ∃ tracked, Transition.Run Tracked.step Keeps {} tracked ∧ tracked.reopens.length = 1 ∧
      tracked.launches.length = 1 ∧ Current tracked := by
  obtain ⟨tracked, executed, test⟩ := (Option.any_eq_true _ _).mp
    (show (Transition.execute Tracked.step (fun _ _ => True) {} Sample.reopened).any
      (fun tracked => tracked.reopens.length == 1 && tracked.launches.length == 1) = true by
        decide +kernel)
  -- One call of `connect` and the same configuration all along.
  have run : Transition.Run Tracked.step (AsksFor Sample.reconnecting) {} tracked := by
    refine (Transition.Run.of_listed executed).weaken fun ⟨_, listed⟩ other asked => ?_
    subst asked
    simpa [Sample.reopened, Sample.readFailing, Sample.reopening] using listed
  have keeps := keeps_of_asksFor run
  simp only [Bool.and_eq_true, beq_iff_eq] at test
  obtain ⟨reopened, launched⟩ := test
  exact ⟨tracked, keeps, reopened, launched, reconnects_current keeps⟩

end Tracked

end SerialPort
