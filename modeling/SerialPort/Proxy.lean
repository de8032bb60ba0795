import SerialPort.Session.Hauling

/-! A proxy that forwards to a session what its client sends. -/

namespace SerialPort

/-- The coroutine that reads from a client, and the session it sends the chunks to. -/
structure SerialProxy where
  session : Session := {}
  -- Whether the loop over the reads has ended.
  finished : Bool := false
  -- History: the bytes read, the commands sent for them, and those of them that are written.
  received : Bytes := []
  sent : List Nat := []
  written : List Nat := []

/-- How a read from the client ends, or what happens to the session meanwhile. -/
inductive ProxyAction where
  | reads (count : Int) (buffer : Bytes)
  | throws
  | session (action : Action)

/-- Whether no write fails in the step. -/
def ProxyAction.succeeds : ProxyAction → Bool
  | .session (.resume (.writer _) .timesOut) => false
  | .session (.resume (.writer _) (.throws _)) => false
  | _ => true

namespace SerialProxy

/-- What follows a read: the end of the stream ends the loop, and so does an invalid command. -/
def forward (proxy : SerialProxy) (count : Int) (buffer : Bytes) : SerialProxy :=
  if count < 0 then { proxy with finished := true }
  else if valid : receivedData count buffer ≠ [] then
    let command := SerialCommand.ofPayload (receivedData count buffer) valid
    { proxy with
      session := proxy.session.send command
      received := proxy.received ++ receivedData count buffer
      sent := proxy.sent ++ [proxy.session.queue.length] }
  else { proxy with finished := true }

/-- A step of the session, in which a chunk may be written. -/
def pass (proxy : SerialProxy) (action : Action) (next : Session) : SerialProxy :=
  let chunk := (proxy.session.writesBy action).filter (· ∈ proxy.sent)
  { proxy with session := next, written := proxy.written ++ chunk.toList }

/-- One step of the client's coroutine, or of the session. -/
def step (proxy : SerialProxy) : ProxyAction → Option SerialProxy
  | .reads count buffer =>
    -- A read returns at most as many bytes as fit the buffer.
    if proxy.finished = false ∧ count ≤ buffer.length then some (proxy.forward count buffer)
    else none
  | .throws => if proxy.finished then none else some { proxy with finished := true }
  | .session action => (proxy.session.step action).map (proxy.pass action)

/-- The chunks are written in the order in which they were read, and none is left out. -/
structure Unbroken (proxy : SerialProxy) : Prop where
  chunks : proxy.written <+: proxy.sent
  bytes : proxy.session.payloads proxy.written <+: proxy.received

/-- Whether the transport is opened, or a writer other than this one begins to run. -/
def disturbsBy (proxy : SerialProxy) (index : Nat) : ProxyAction → Bool
  | .session action => proxy.session.disturbsBy index action
  | _ => false

/-- The session is connected, its writer is the only one, and every write succeeds in time. -/
structure Steady (index : Nat) (proxy : SerialProxy) (action : ProxyAction) : Prop where
  connected : proxy.session.state.isConnected = true
  succeeds : action.succeeds = true
  undisturbed : proxy.disturbsBy index action = false

/-- A chunk enters the channel only after all those before it, and none of them makes room for it;
a chunk that makes room for the command of somebody else is the last one that waits. -/
def Spares (proxy : SerialProxy) : ProxyAction → Prop
  | .reads count _ => 0 < count → proxy.session.admits = true →
      (∀ queued ∈ proxy.sent, queued ∈ proxy.session.line) ∧
        (proxy.session.hasRoom = false → ∀ oldest ∈ proxy.session.oldest, oldest ∉ proxy.sent)
  | .session (.send command) => proxy.session.evictsBy (.send command) = true →
      ∀ oldest ∈ proxy.session.oldest, oldest ∈ proxy.sent →
        ∀ later ∈ (proxy.session.bufferOf proxy.session.commands).tail, later ∉ proxy.sent
  | _ => True

instance (index : Nat) (proxy : SerialProxy) (action : ProxyAction) :
    Decidable (Steady index proxy action) :=
  decidable_of_iff (proxy.session.state.isConnected = true ∧ action.succeeds = true ∧
      proxy.disturbsBy index action = false)
    ⟨fun ⟨connected, succeeds, undisturbed⟩ => ⟨connected, succeeds, undisturbed⟩,
      fun ⟨connected, succeeds, undisturbed⟩ => ⟨connected, succeeds, undisturbed⟩⟩

instance (proxy : SerialProxy) (action : ProxyAction) : Decidable (proxy.Spares action) := by
  unfold Spares
  split <;> infer_instance

/-- The chunks go to the transport through the line of one connection, and in order. -/
structure Conveys (index channel : Nat) (proxy : SerialProxy) : Prop where
  attached : proxy.session.Attached index channel proxy.sent
  received : proxy.session.payloads proxy.sent = proxy.received
  written : proxy.written <+: proxy.sent
  hauls : ∃ writer, proxy.session.writers[index]? = some writer ∧
    (proxy.session.state.isConnected = true → writer.cancelled = false →
      proxy.session.Hauls proxy.sent proxy.written channel writer)

/-- The loop over the reads sends a chunk or ends, or the session takes a step of its own. -/
theorem step_cases {proxy next : SerialProxy} {action : ProxyAction}
    (stepped : proxy.step action = some next) :
    (∃ count buffer, action = .reads count buffer ∧ proxy.finished = false ∧
        count ≤ buffer.length ∧ next = proxy.forward count buffer) ∨
      (action = .throws ∧ proxy.finished = false ∧ next = { proxy with finished := true }) ∨
      ∃ own session, action = .session own ∧ proxy.session.step own = some session ∧
        next = proxy.pass own session := by
  cases action with
  -- A read is only possible while the loop runs, and within its buffer.
  | reads count buffer =>
    simp only [step, Option.ite_none_right_eq_some] at stepped
    obtain ⟨⟨open_, fits⟩, stepped⟩ := stepped
    exact .inl ⟨count, buffer, rfl, open_, fits, (Option.some.inj stepped).symm⟩
  | throws =>
    simp only [step, Option.ite_none_left_eq_some, Bool.not_eq_true] at stepped
    obtain ⟨open_, stepped⟩ := stepped
    exact .inr (.inl ⟨rfl, open_, (Option.some.inj stepped).symm⟩)
  | session own =>
    obtain ⟨session, moved, rfl⟩ := Option.map_eq_some_iff.mp stepped
    exact .inr (.inr ⟨own, session, rfl, moved, rfl⟩)

namespace Conveys

variable {proxy next : SerialProxy} {action : ProxyAction} {index channel : Nat}

/-- What is conveyed is written in one piece. -/
theorem unbroken (conveys : Conveys index channel proxy) : Unbroken proxy where
  chunks := conveys.written
  bytes := by
    -- The bytes read are those of all chunks, and the chunks written come first among them.
    obtain ⟨rest, sent⟩ := conveys.written
    rw [← conveys.received, ← sent, Session.payloads_append]
    exact List.prefix_append _ _

/-- The line of the connection that the guard speaks of is that of its writer. -/
theorem line (conveys : Conveys index channel proxy) {writer : Writer}
    (found : proxy.session.writers[index]? = some writer) :
    proxy.session.line = writer.taken ++ proxy.session.bufferOf channel := by
  unfold Session.line
  rw [conveys.attached.current, conveys.attached.commands, Option.bind_some, found]
  rfl

/-- A chunk is read, and sent to the session. -/
theorem reads (conveys : Conveys index channel proxy) (custody : Session.Custody proxy.session)
    (connected : proxy.session.state.isConnected = true) {count : Int} {buffer : Bytes}
    (spares : proxy.Spares (.reads count buffer)) :
    Conveys index channel (proxy.forward count buffer) := by
  -- The end of the loop changes nothing of what the session has been sent.
  have ended : Conveys index channel { proxy with finished := true } :=
    ⟨conveys.attached, conveys.received, conveys.written, conveys.hauls⟩
  unfold forward
  split
  · exact ended
  next nonnegative =>
  split
  · next valid =>
    let command := SerialCommand.ofPayload (receivedData count buffer) valid
    -- A valid command has bytes in it, and so the read has returned some.
    have positive : 0 < count := by
      have different : count ≠ 0 := fun zero => valid (by simp [zero, receivedData])
      omega
    refine ⟨conveys.attached.forward custody command, ?_, ?_, ?_⟩
    · -- The earlier chunks keep their bytes, and the last command has those that were read.
      have evolves := Session.Evolves.of_moves (@Session.Moves.send proxy.session command)
      obtain ⟨entry, entered, same⟩ :=
        Option.map_eq_some_iff.mp (@Session.send_command proxy.session command)
      have new : (proxy.session.send command).payloads [proxy.session.queue.length] =
          receivedData count buffer := by
        have payload : command.payload = receivedData count buffer := rfl
        simp [Session.payloads, entered, same, payload]
      rw [Session.payloads_append, Session.payloads_kept evolves conveys.attached.known,
        conveys.received, new]
    · exact conveys.written.trans (List.prefix_append _ _)
    · obtain ⟨writer, found, hauls⟩ := conveys.hauls
      have there : (proxy.session.send command).writers[index]? = some writer := by
        obtain ⟨queue, channels, shape⟩ := proxy.session.send_shape command
        rw [shape]
        exact found
      refine ⟨writer, there, fun _ live => ?_⟩
      apply (hauls connected live).forward conveys.attached.commands conveys.attached.known
      · -- The guard asks for the whole line as soon as the session is ready to accept a command.
        intro admits queued listed
        rw [← conveys.line found]
        exact (spares positive admits).1 queued listed
      · -- Whoever throws the oldest command away finds the channel full, and room is made.
        intro evicts
        simp only [Session.evictsBy, Bool.and_eq_true, Bool.not_eq_true'] at evicts
        obtain ⟨⟨⟨⟨open_, connected⟩, full⟩, drops⟩, oldest⟩ := evicts
        have admits : proxy.session.admits = true := by
          simp [Session.admits, open_, connected, drops, oldest]
        exact (spares positive admits).2 full
  · exact ended

/-- The writer of the connection takes a turn, and may have written a chunk. -/
theorem turns (conveys : Conveys index channel proxy) {outcome : Outcome} {session : Session}
    {writer : Writer} (steady : Steady index proxy (.session (.resume (.writer index) outcome)))
    (found : proxy.session.writers[index]? = some writer)
    (moved : Session.WriterMoves proxy.session index writer outcome session) :
    ∃ turned, session.writers[index]? = some turned ∧
      (session.state.isConnected = true → turned.cancelled = false →
        session.Hauls proxy.sent (proxy.pass (.resume (.writer index) outcome) session).written
          channel turned) := by
  have inside := (List.getElem?_eq_some_iff.mp found).1
  obtain ⟨turned, writers, resumed⟩ := moved.turned
  refine ⟨turned, by rw [writers, List.getElem?_set_self inside], fun connected live => ?_⟩
  obtain ⟨writer', found', hauls⟩ := conveys.hauls
  obtain rfl := Option.some.inj (found.symm.trans found')
  -- A writer does not come back to life, so it was live and the line was in order before the turn.
  have succeeds : outcome ≠ .timesOut ∧ ∀ message, outcome ≠ .throws message := by
    have succeeds := steady.succeeds
    constructor
    · rintro rfl
      cases succeeds
    · rintro message rfl
      cases succeeds
  have hauls := hauls steady.connected (resumed.cancelled ▸ live)
  obtain ⟨turned', writers', hauls⟩ :=
    hauls.turn found conveys.attached.commands moved succeeds connected
  obtain rfl := eq_of_set writers' (by rw [writers, List.getElem?_set_self inside])
  exact hauls

/-- Nobody but the writer of the connection writes a chunk. -/
theorem chunk_written (conveys : Conveys index channel proxy)
    (custody : Session.Custody proxy.session) {action : Action} {queued : Nat}
    (chunk : (proxy.session.writesBy action).filter (· ∈ proxy.sent) = some queued) :
    queued ∈ proxy.sent ∧ ∃ (attempt : Nat) (writer : Writer) (link : Option Nat) (length : Int)
      (buffer : Bytes), action = .resume (.writer index) (.returns length buffer) ∧
        proxy.session.writers[index]? = some writer ∧
          writer.point = .writing queued attempt link := by
  obtain ⟨writes, listed⟩ := Option.filter_eq_some_iff.mp chunk
  have listed : queued ∈ proxy.sent := by simpa using listed
  obtain ⟨other, attempt, writer, link, length, buffer, rfl, found, at_⟩ :=
    Session.writesBy_cases writes
  -- Whoever writes it holds it, and chunks are in the hands of one writer only.
  obtain rfl := conveys.attached.held custody found (by rw [at_]; rfl) listed
  exact ⟨listed, attempt, writer, link, length, buffer, rfl, found, at_⟩

/-- Each chunk is written in its turn. -/
theorem written_step (conveys : Conveys index channel proxy)
    (custody : Session.Custody proxy.session) {action : Action} {session : Session}
    (steady : Steady index proxy (.session action))
    (moved : Session.Moves proxy.session action session) :
    (proxy.pass action session).written <+: proxy.sent := by
  unfold pass
  simp only
  cases chunk : (proxy.session.writesBy action).filter (· ∈ proxy.sent) with
  | none =>
    rw [Option.toList_none, List.append_nil]
    exact conveys.written
  | some queued =>
    obtain ⟨listed, attempt, writer, link, length, buffer, rfl, found, at_⟩ :=
      conveys.chunk_written custody chunk
    obtain ⟨writer', found', hauls⟩ := conveys.hauls
    obtain rfl := Option.some.inj (found.symm.trans found')
    rw [Option.toList_some]
    -- The write has returned to a writer that is still live, whose hands held the next chunk.
    cases moved with
    | inWriter there turns =>
      obtain rfl := Option.some.inj (found.symm.trans there)
      cases turns with
      | written at_' entered live => exact (hauls steady.connected live).writes at_ listed
      | attempted at_' entered missed ended =>
        rcases ended with ⟨message, throws, -⟩ | ⟨timesOut, -⟩
        · cases throws
        · cases timesOut

/-- A step of the session in which somebody else may send a command. -/
theorem passes (conveys : Conveys index channel proxy) (custody : Session.Custody proxy.session)
    (numbered : Session.Numbered proxy.session)
    {action : Action} {session : Session} (steady : Steady index proxy (.session action))
    (spares : proxy.Spares (.session action)) (moved : Session.Moves proxy.session action session) :
    Conveys index channel (proxy.pass action session) := by
  have undisturbed : proxy.session.disturbsBy index action = false := steady.undisturbed
  have attached := conveys.attached
  have received : session.payloads proxy.sent = proxy.received := by
    rw [Session.payloads_kept (.of_moves moved) attached.known, conveys.received]
  refine ⟨attached.step custody undisturbed moved, received,
    conveys.written_step custody steady moved, ?_⟩
  -- Only three kinds of steps concern the line: a turn of its writer, a command, a cancellation.
  obtain ⟨writer, found, hauls⟩ := conveys.hauls
  by_cases turns : ∃ outcome, action = .resume (.writer index) outcome
  · obtain ⟨outcome, rfl⟩ := turns
    cases moved with
    | inWriter there turns => exact conveys.turns steady there turns
  have unwritten : (proxy.pass action session).written = proxy.written := by
    unfold pass
    simp only
    cases chunk : (proxy.session.writesBy action).filter (· ∈ proxy.sent) with
    | none => rw [Option.toList_none, List.append_nil]
    | some queued =>
      obtain ⟨-, -, -, -, length, buffer, same, -⟩ := conveys.chunk_written custody chunk
      exact absurd ⟨_, same⟩ turns
  rw [unwritten]
  by_cases sends : ∃ command, action = .send command
  · obtain ⟨command, rfl⟩ := sends
    obtain rfl := moved.sent
    refine ⟨writer, ?_, fun _ live => ?_⟩
    · obtain ⟨queue, channels, shape⟩ := proxy.session.send_shape command
      show (proxy.session.send command).writers[index]? = some writer
      rw [shape]
      exact found
    · exact (hauls steady.connected live).send attached.commands attached.known
        (attached.commands ▸ spares)
  have silent : ∀ command, action ≠ .send command := fun command same => sends ⟨command, same⟩
  rcases moved.line undisturbed attached.current attached.apart found silent with
    ⟨writers, channels⟩ | writers | ⟨outcome, same, -⟩
  · refine ⟨writer, writers, fun _ live => ?_⟩
    -- The channel of the connection is the latest one there is.
    have inside : channel < proxy.session.channels.length := by
      rw [← attached.commands, numbered.commands, numbered.channels]
      exact Nat.lt_succ_self _
    refine (hauls steady.connected live).keep ⟨rfl, rfl, rfl, rfl, rfl⟩ (channels.bufferOf inside)
      (moved.length_kept silent) ?_
    by_cases finished : writer.point = .finished
    · exact .inr finished
    · exact .inl ⟨rfl, finished⟩
  · -- Whatever becomes of the line of a cancelled writer does not matter.
    exact ⟨writer.cancel, writers, fun _ => nofun⟩
  · exact absurd ⟨outcome, same⟩ turns

/-- Every step keeps that while the connection is steady and no chunk is refused. -/
theorem step (conveys : Conveys index channel proxy)
    (reached : Transition.Run Session.step (fun _ _ => True) {} proxy.session)
    {action : ProxyAction}
    (steady : Steady index proxy action) (spares : proxy.Spares action)
    (stepped : proxy.step action = some next) : Conveys index channel next := by
  have custody := Session.Custody.of_run reached
  rcases step_cases stepped with
    ⟨count, buffer, rfl, -, -, rfl⟩ | ⟨rfl, -, rfl⟩ | ⟨own, session, rfl, moved, rfl⟩
  · exact conveys.reads custody steady.connected spares
  · -- A client that is gone leaves its chunks in the line.
    exact ⟨conveys.attached, conveys.received, conveys.written, conveys.hauls⟩
  · exact conveys.passes custody (.of_run reached) steady spares (.of_step moved)

end Conveys

/-- What the proxy does to the session are steps of the session. -/
theorem step_session {proxy next : SerialProxy} {action : ProxyAction}
    (stepped : proxy.step action = some next) :
    Transition.Run Session.step (fun _ _ => True) proxy.session next.session := by
  rcases step_cases stepped with
    ⟨count, buffer, rfl, -, -, rfl⟩ | ⟨rfl, -, rfl⟩ | ⟨own, session, rfl, moved, rfl⟩
  · unfold forward
    split
    · exact .refl
    split
    · -- Only a chunk with bytes in it is sent.
      next valid =>
      let command := SerialCommand.ofPayload (receivedData count buffer) valid
      exact .snoc .refl trivial (show proxy.session.step (.send command) = some _ from rfl)
    · exact .refl
  · exact .refl
  · exact .snoc .refl trivial moved

/-- The session of a proxy takes the steps of a session. -/
theorem run_session {allowed : SerialProxy → ProxyAction → Prop} {start proxy : SerialProxy}
    (run : Transition.Run SerialProxy.step allowed start proxy) :
    Transition.Run Session.step (fun _ _ => True) start.session proxy.session := by
  refine run.simulates ?_
  intro before action after earlier permitted stepped
  exact step_session stepped

/-- While the session stays connected and every write succeeds in time, the chunks that are written
are the first ones that were read, unless the queue has thrown away or refused one of them and
accepts one that was read after it. -/
theorem chunks_unbroken {session opened : Session} {action : Action} {proxy : SerialProxy}
    (reached : Transition.Run Session.step (fun _ _ => True) {} session)
    (opens : session.opensBy action = true) (stepped : session.step action = some opened)
    (run : Transition.Run SerialProxy.step
      (fun proxy action => Steady session.writers.length proxy action ∧ proxy.Spares action)
      { session := opened } proxy) : Unbroken proxy := by
  have conveys : Conveys session.writers.length opened.commands proxy := by
    -- The invariant is that of the line, from the open on that made it.
    refine run.invariant ?_ ?_
    · obtain ⟨writer, found, hauls⟩ := Session.Hauls.opened opens stepped
      exact ⟨.opened (.of_run reached) opens stepped, rfl, List.prefix_refl _,
        writer, found, fun _ _ => hauls⟩
    · intro before action after earlier permitted stepped' conveys
      have reached := (reached.snoc trivial stepped).trans (run_session earlier)
      exact conveys.step reached permitted.1 permitted.2 stepped'
  exact conveys.unbroken

end SerialProxy

/-! A client that is faster than the writer. -/

namespace Sample

def chunk (byte : UInt8) : ProxyAction := .reads 1 [byte]

/-- Both places are taken when the third chunk is sent, and one of them is free for the fourth. -/
def flooding : List ProxyAction :=
  [chunk 1, chunk 2, chunk 3] ++
    List.replicate 2 (.session (.resume (.writer 0) .resumes)) ++ chunk 4 ::
    (writing 0 ++ writing 0 ++ writing 0).tail.map .session

/-- A client that waits until its first chunks are written. -/
def waiting : List ProxyAction :=
  [chunk 1, chunk 2, .session (.resume (.writer 0) .resumes)] ++
    (writing 0 ++ writing 0).map .session ++ chunk 3 :: (writing 0).map .session

end Sample

namespace SerialProxy

/-- The opening succeeds, and the test is passed after the client and the session took the steps. -/
def opensFor (allowed : Nat → SerialProxy → ProxyAction → Prop)
    [∀ index proxy action, Decidable (allowed index proxy action)] (actions : List ProxyAction)
    (test : SerialProxy → Bool) (session : Session) : Bool :=
  session.opensBy (.resume (.connect 0) .resumes) &&
    (session.step (.resume (.connect 0) .resumes)).any fun opened =>
      (Transition.execute SerialProxy.step (allowed session.writers.length) { session := opened }
        actions).any test

/-- Such steps are a run of the client and the session after an opening. -/
theorem of_opensFor {allowed : Nat → SerialProxy → ProxyAction → Prop}
    [∀ index proxy action, Decidable (allowed index proxy action)] {actions : List ProxyAction}
    {test : SerialProxy → Bool}
    (passed : (Transition.execute Session.step (fun _ _ => True) {} Sample.opening).any
      (opensFor allowed actions test) = true) :
    ∃ (session opened : Session) (action : Action) (proxy : SerialProxy),
      Transition.Run Session.step (fun _ _ => True) {} session ∧ session.opensBy action = true ∧
        session.step action = some opened ∧
        Transition.Run SerialProxy.step (allowed session.writers.length)
          { session := opened } proxy ∧
        test proxy = true := by
  -- The three stages of the run: up to the open, the open, and the proxy behind it.
  obtain ⟨session, reached, passed⟩ := Transition.Run.of_test _ passed
  simp only [opensFor, Bool.and_eq_true] at passed
  obtain ⟨opens, passed⟩ := passed
  obtain ⟨opened, stepped, passed⟩ := (Option.any_eq_true _ _).mp passed
  obtain ⟨proxy, run, passed⟩ := Transition.Run.of_test test passed
  exact ⟨session, opened, _, proxy, reached, opens, stepped, run, passed⟩

/-- The third chunk is refused, and the fourth is written. -/
theorem flooding_leaves_hole :
    ¬∀ (session opened : Session) (action : Action) (proxy : SerialProxy),
      Transition.Run Session.step (fun _ _ => True) {} session → session.opensBy action = true →
        session.step action = some opened →
        Transition.Run SerialProxy.step (Steady session.writers.length)
          { session := opened } proxy →
        Unbroken proxy := by
  intro always
  obtain ⟨session, opened, action, proxy, reached, opens, stepped, run, test⟩ := of_opensFor
    (show (Transition.execute Session.step (fun _ _ => True) {} Sample.opening).any
      (opensFor Steady Sample.flooding fun proxy =>
        !decide (proxy.session.payloads proxy.written <+: proxy.received)) = true by decide +kernel)
  have unbroken := always session opened action proxy reached opens stepped run
  -- The third chunk is refused, so what was written is no start of what came.
  simp [unbroken.bytes] at test

/-- Three chunks of a client that waits are read, and written in turn. -/
theorem waiting_is_unbroken :
    ∃ proxy : SerialProxy, proxy.written = [0, 1, 2] ∧ Unbroken proxy := by
  obtain ⟨session, opened, action, proxy, reached, opens, stepped, run, test⟩ := of_opensFor
    (show (Transition.execute Session.step (fun _ _ => True) {} Sample.opening).any
      (opensFor (fun index proxy action => Steady index proxy action ∧ proxy.Spares action)
        Sample.waiting fun proxy => proxy.written == [0, 1, 2]) = true by decide +kernel)
  exact ⟨proxy, by simpa using test, chunks_unbroken reached opens stepped run⟩

end SerialProxy

end SerialPort
