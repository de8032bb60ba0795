import SerialPort.Session.Pipeline
import SerialPort.Session.Calls

/-! The commands that are outstanding when the session is disconnected or closed. -/

namespace SerialPort

/-- Whether the disconnection has begun and not ended. -/
def Disconnect.inProgress (disconnect : Disconnect) : Bool :=
  disconnect.point == .emitClosing || disconnect.point == .closing || disconnect.point == .emitIdle

/-- Whether the disconnection has cancelled the workers and not ended. -/
def Disconnect.struck (disconnect : Disconnect) : Bool :=
  disconnect.point == .closing || disconnect.point == .emitIdle

/-- Whether the shutdown has cancelled the workers. -/
def ShutdownPoint.struck (point : ShutdownPoint) : Bool :=
  point != .dispatch

/-- Whether the pauses of the command can be measured. -/
def Writer.measures (writer : Writer) (command : SerialCommand) : Bool :=
  (writer.delayFor command).toMillis.isSome && command.retryDelay.toMillis.isSome

namespace Session

/-- Whether the step is the one in which `disconnect` or `close` cancels the workers. -/
def strikesBy (session : Session) : Action → Bool
  | .resume (.disconnect index) .resumes =>
    (session.disconnects[index]?).any fun disconnect => disconnect.point == .emitClosing
  | .resume .shutdown .resumes => session.shutdown == some .dispatch
  | _ => false

/-- The command in the writer's hands, or the one it is going to take. -/
def nextFor (session : Session) (writer : Writer) : Option QueuedCommand := do
  match writer.point with
  | .receiving =>
    let channel ← writer.channel
    let from_ ← session.channels[channel]?
    let queued ← from_.buffer.head?
    session.queue[queued]?
  | _ =>
    let queued ← writer.point.held
    session.queue[queued]?

/-- Whether a writer may end in the step with a command in its hands. -/
def abandonsBy (session : Session) : Action → Bool
  | .resume (.writer index) .cancels =>
    (session.writers[index]?).any fun writer => writer.point.held.isSome
  | .resume (.writer index) _ =>
    (session.writers[index]?).any fun writer =>
      (session.nextFor writer).any fun entry => !writer.measures entry.command
  | _ => false

/-- Whether the step cancels the timers. -/
def cancelsTimersBy (session : Session) : Action → Bool
  | .resume .shutdown .resumes => session.shutdown == some .emitClosed
  | _ => false

/-- No writer has a command in its hands. -/
def HandsFree (session : Session) : Prop :=
  ∀ writer ∈ session.writers, writer.point.held = none

/-- A `disconnect` call is in progress. -/
def Leaving (session : Session) : Prop :=
  ∃ disconnect ∈ session.disconnects, disconnect.inProgress = true

/-- The workers have been cancelled for good, or by a `disconnect` call in progress. -/
def Struck (session : Session) : Prop :=
  (∃ disconnect ∈ session.disconnects, disconnect.struck = true) ∨
    ∃ point, session.shutdown = some point ∧ point.struck = true

/-- A step that loses no command: what is cancelled, replaced, or overwritten is empty. -/
structure LosesNothing (session : Session) (action : Action) : Prop where
  arms : session.ArmsAlone action
  opens : session.opensBy action = true → session.oldest = none ∧ ¬session.Leaving
  strikes : session.strikesBy action = true → session.oldest = none ∧ session.HandsFree
  keeps : session.evictsBy action = false ∧ session.abandonsBy action = false
  timers : session.cancelsTimersBy action = true → session.pendingResponse = none

instance (session : Session) (action : Action) : Decidable (session.LosesNothing action) :=
  have : Decidable session.Leaving :=
    inferInstanceAs (Decidable (∃ disconnect ∈ session.disconnects, _))
  have : Decidable session.HandsFree := inferInstanceAs (Decidable (∀ writer ∈ session.writers, _))
  decidable_of_iff (session.ArmsAlone action ∧
    (session.opensBy action = true → session.oldest = none ∧ ¬session.Leaving) ∧
    (session.strikesBy action = true → session.oldest = none ∧ session.HandsFree) ∧
    (session.evictsBy action = false ∧ session.abandonsBy action = false) ∧
    (session.cancelsTimersBy action = true → session.pendingResponse = none))
    ⟨fun ⟨arms, opens, strikes, keeps, timers⟩ => ⟨arms, opens, strikes, keeps, timers⟩,
      fun guard => ⟨guard.arms, guard.opens, guard.strikes, guard.keeps, guard.timers⟩⟩

/-- Every command is complete, or a live timer is going to complete it. -/
def Settled (session : Session) : Prop :=
  ∀ queued < session.queue.length, session.Complete queued ∨ session.Awaited queued

/-- No channel and no writer has a command. -/
def Drained (session : Session) : Prop :=
  (∀ channel, session.bufferOf channel = []) ∧ ∀ writer, session.inHand writer = none

/-- Every command without a result is in a place where somebody is going to find it. -/
structure Placed (session : Session) : Prop where
  placed : ∀ (queued : Nat) (entry : QueuedCommand), session.queue[queued]? = some entry →
    entry.result = none → ∃ place, session.Holds place queued
  current : ∀ channel, channel ≠ session.commands → session.bufferOf channel = []
  slot : ∀ queued, session.pendingResponse = some queued → session.Awaited queued

/-- And once the workers have been cancelled the only such place is the slot. -/
structure Accounted (session : Session) : Prop extends Placed session where
  calm : session.Leaving → session.state.isConnected = false
  drained : session.Struck → session.Drained
  closing : session.shutdown.isSome → session.terminal = true
  active : session.scopeActive = false → session.shutdown = some .finished

/-- Once a call of `disconnect` has taken the queue, whoever is accounted for is settled. -/
theorem Accounted.settled {session : Session} (accounted : Accounted session)
    (struck : session.Struck) : session.Settled := by
  obtain ⟨buffers, hands⟩ := accounted.drained struck
  intro queued inside
  have entered : session.queue[queued]? = some session.queue[queued] := by simp [inside]
  -- A command without a result is in a place, and only the slot still has one.
  cases result : session.queue[queued].result with
  | some result => exact .inl ⟨_, entered, by simp [*]⟩
  | none =>
    obtain ⟨place, held⟩ := accounted.placed queued _ entered result
    cases place with
    | channel channel =>
      have held : queued ∈ session.bufferOf channel := held
      simp [buffers] at held
    | writer writer =>
      have held : session.inHand writer = some queued := held
      simp [hands] at held
    | response => exact .inr (accounted.slot queued held)
    | caller => exact held.elim
    | nobody => exact held.elim

variable {session next : Session} {index queued channel : Nat} {writer : Writer}

/-! A step keeps the commands placed. -/

namespace Placed

/-- What has no result yet had none before. -/
theorem waited (evolves : Evolves session next) (length : next.queue.length = session.queue.length)
    {after : QueuedCommand} (entered : next.queue[queued]? = some after)
    (waits : after.result = none) :
    ∃ before, session.queue[queued]? = some before ∧ before.result = none := by
  have inside : queued < session.queue.length :=
    length ▸ (List.getElem?_eq_some_iff.mp entered).1
  -- The entry was there before, and a result is never taken back.
  obtain ⟨after', entered', evolved⟩ := evolves queued _ (List.getElem?_eq_getElem inside)
  obtain rfl : after' = after := Option.some.inj (entered'.symm.trans entered)
  refine ⟨_, List.getElem?_eq_getElem inside, ?_⟩
  cases result : session.queue[queued].result with
  | none => rfl
  | some result' =>
    have kept := (evolved.settled (by simp [result])).1
    simp [waits, result] at kept

/-- The places still have the commands that still wait. -/
theorem keep (placed : Placed session) (evolves : Evolves session next)
    (length : next.queue.length = session.queue.length)
    (holds : ∀ place token, session.Holds place token → next.Complete token ∨
      ∃ place', next.Holds place' token)
    (current : ∀ channel, channel ≠ next.commands → next.bufferOf channel = [])
    (slot : ∀ token, next.pendingResponse = some token → next.Awaited token) : Placed next where
  placed := by
    intro token after entered waits
    obtain ⟨before, there, waited⟩ := waited evolves length entered waits
    -- Whoever had the command has completed it, or has handed it to somebody who has it now.
    obtain ⟨place, held⟩ := placed.placed token before there waited
    rcases holds place token held with ⟨after', entered', complete⟩ | found
    · obtain rfl : after' = after := Option.some.inj (entered'.symm.trans entered)
      simp [waits] at complete
    · exact found
  current := current
  slot := slot

/-- What the slot awaits it still awaits if neither the slot nor the timers change. -/
theorem awaited_of_slot (placed : Placed session)
    (slot : next.pendingResponse = session.pendingResponse) (timers : next.timers = session.timers)
    (token : Nat) (waits : next.pendingResponse = some token) : next.Awaited token := by
  obtain ⟨-, timer, launched, rest⟩ := placed.slot token (slot ▸ waits)
  exact ⟨waits, timer, timers ▸ launched, rest⟩

/-- Nothing but a writer has changed, and the writer still has what it had in its hands. -/
theorem turn (placed : Placed session) (evolves : Evolves session next)
    (length : next.queue.length = session.queue.length)
    (channels : next.channels = session.channels) (commands : next.commands = session.commands)
    (slot : next.pendingResponse = session.pendingResponse) (timers : next.timers = session.timers)
    (hands : ∀ index token, session.inHand index = some token → next.Complete token ∨
      next.inHand index = some token) : Placed next := by
  have buffers := bufferOf_congr channels
  -- The channels and the slot are the same, and the writers keep what they have.
  refine placed.keep evolves length (fun place token held => ?_) (fun channel different => ?_)
    (placed.awaited_of_slot slot timers)
  · cases place with
    | channel channel =>
      refine .inr ⟨.channel channel, ?_⟩
      show token ∈ next.bufferOf channel
      rw [buffers]
      exact held
    | writer writer =>
      rcases hands writer token held with complete | kept
      · exact .inl complete
      · exact .inr ⟨.writer writer, kept⟩
    | response => exact .inr ⟨.response, slot.trans held⟩
    | caller => exact held.elim
    | nobody => exact held.elim
  · rw [buffers]
    exact placed.current channel (commands ▸ different)

/-- What moves no command leaves every command in its place. -/
theorem same (placed : Placed session) (queue : next.queue = session.queue)
    (channels : next.channels = session.channels) (commands : next.commands = session.commands)
    (hands : ∀ index, next.inHand index = session.inHand index)
    (slot : next.pendingResponse = session.pendingResponse)
    (timers : next.timers = session.timers) : Placed next :=
  placed.turn (.of_queue queue) (by rw [queue]) channels commands slot timers
    fun index _ held => .inr (hands index ▸ held)

/-- An aside leaves every command in its place. -/
theorem untouched (placed : Placed session) (untouched : Untouched session next) : Placed next :=
  placed.same untouched.queue untouched.channels untouched.commands
    (inHand_congr untouched.writers) untouched.pendingResponse
    untouched.timers

/-- A writer keeps its command, or completes it. -/
theorem set (placed : Placed session) (evolves : Evolves session next)
    (length : next.queue.length = session.queue.length)
    (channels : next.channels = session.channels) (commands : next.commands = session.commands)
    (slot : next.pendingResponse = session.pendingResponse) (timers : next.timers = session.timers)
    (found : session.writers[index]? = some writer) {turned : Writer}
    (writers : next.writers = session.writers.set index turned)
    (hands : ∀ token, writer.point.held = some token →
      next.Complete token ∨ turned.point.held = some token) : Placed next := by
  refine placed.turn evolves length channels commands slot timers fun other token held => ?_
  -- Only the hands of the writer that takes the turn may change.
  rw [inHand_set found writers]
  split
  · next same =>
    subst same
    rw [inHand_of_found found] at held
    exact hands token held
  · exact .inr held

/-- A command that is sent without evicting another one keeps the commands placed. -/
theorem send (placed : Placed session) {command : SerialCommand}
    (keeps : session.evictsBy (.send command) = false) : Placed (session.send command) := by
  -- The new command is the last entry, and the old ones are as before.
  have entry_of {change : QueuedCommand → QueuedCommand} {token : Nat} {after : QueuedCommand}
      (entered : ((session.queue ++ [({ command := command } : QueuedCommand)]).modify
        session.queue.length change)[token]? = some after) :
      session.queue[token]? = some after ∨
        token = session.queue.length ∧
          after = change ({ command := command } : QueuedCommand) := by
    rw [List.getElem?_modify] at entered
    obtain ⟨before, there, rfl⟩ := Option.map_eq_some_iff.mp entered
    rw [List.getElem?_append] at there
    split at there
    · next inside =>
      rw [if_neg (by omega)]
      exact .inl there
    · obtain rfl := List.mem_singleton.mp (List.mem_of_getElem? there)
      have place := (List.getElem?_eq_some_iff.mp there).1
      have same : session.queue.length = token := by
        simp only [List.length_singleton] at place
        omega
      rw [if_pos same]
      exact .inr ⟨same.symm, rfl⟩
  rcases send_cases keeps with ⟨error, -, refused⟩ | ⟨terminal, connected, room, accepted⟩
  · -- A refused command has its result, and needs no place.
    rw [refused]
    refine ⟨fun token after entered waits => ?_, placed.current, placed.slot⟩
    rcases entry_of entered with there | ⟨-, rfl⟩
    · exact placed.placed token after there waits
    · simp [QueuedCommand.complete] at waits
  · -- An accepted one waits at the end of the channel of the session.
    rw [accepted]
    obtain ⟨from_, found, roomy⟩ := (Option.any_eq_true _ _).mp room
    have buffers (other : Nat) : (Session.enqueue { session with
        queue := session.queue ++ [{ command := command }] } session.queue.length).bufferOf other =
        if other = session.commands then session.bufferOf other ++ [session.queue.length]
        else session.bufferOf other := by
      unfold Session.enqueue
      rw [bufferOf_modify rfl]
      split
      · next same =>
        subst same
        simp [bufferOf, found]
      · rfl
    refine ⟨fun token after entered waits => ?_, fun channel different => ?_, placed.slot⟩
    · rcases entry_of entered with there | ⟨rfl, rfl⟩
      · obtain ⟨place, held⟩ := placed.placed token after there waits
        refine ⟨place, ?_⟩
        cases place with
        | channel other =>
          show token ∈ Session.bufferOf _ other
          rw [buffers]
          split
          · exact List.mem_append_left _ held
          · exact held
        | _ => exact held
      · refine ⟨.channel session.commands, ?_⟩
        show _ ∈ Session.bufferOf _ _
        rw [buffers, if_pos rfl]
        exact List.mem_append_right _ (List.mem_singleton_self _)
    · have different : channel ≠ session.commands := different
      rw [buffers, if_neg different]
      exact placed.current channel different

/-- A connection replaces an empty channel. -/
theorem opened (placed : Placed session) (empty : session.oldest = none)
    (config : SerialConfig) : Placed (session.opened config) := by
  -- The channel of the old connection is empty, and so is every other one.
  have buffers (channel : Nat) : session.bufferOf channel = [] := by
    by_cases same : channel = session.commands
    · rw [same]
      exact empty_of_oldest empty
    · exact placed.current channel same
  refine placed.keep (.of_queue rfl) rfl (fun place token held => ?_) (fun channel different => ?_)
    (placed.awaited_of_slot rfl rfl)
  · cases place with
    | channel channel =>
      have held : token ∈ session.bufferOf channel := held
      simp [buffers] at held
    | writer writer => exact .inr ⟨.writer writer, (inHand_opened config writer).trans held⟩
    | response => exact .inr ⟨.response, held⟩
    | caller => exact held.elim
    | nobody => exact held.elim
  · rw [bufferOf_opened, buffers]

/-- A chunk keeps the commands placed. -/
theorem handleChunk (placed : Placed session) (custody : Custody session) (reader : Reader)
    (data : Bytes) (link : Option Nat)
    (evolves : Evolves session (session.handleChunk index reader data link)) :
    Placed (session.handleChunk index reader data link) := by
  rcases session.handleChunk_cases index reader data link with
    shape | ⟨queued, entry, waits, entered, accepts, shape⟩ <;> rw [shape] at evolves ⊢
  · exact placed.same rfl rfl rfl (fun _ => rfl) rfl rfl
  · -- The chunk completes the command in the slot, and everybody else keeps what he has.
    refine placed.keep evolves (by simp) (fun place token held => ?_) placed.current nofun
    cases place with
    | response =>
      obtain rfl : queued = token := Option.some.inj (waits.symm.trans held)
      obtain ⟨entry', entered', result, -⟩ :=
        custodian_eq_some (custody.sound .response queued waits)
      exact .inl ⟨entry'.answer data session.chunks.length, by simp [entered'],
        by simp [QueuedCommand.answer, result]⟩
    | caller => exact held.elim
    | nobody => exact held.elim
    | channel channel => exact .inr ⟨.channel channel, held⟩
    | writer writer => exact .inr ⟨.writer writer, held⟩

/-- A timer that no longer ends the wait of the command in the slot. -/
theorem idle_timer (placed : Placed session) {timer turned : Timer}
    (found : session.timers[index]? = some timer)
    (idle : session.pendingResponse ≠ some timer.queued)
    (set : next = session.setTimer index turned) : Placed next := by
  subst set
  refine ⟨placed.placed, placed.current, fun token waits => ?_⟩
  -- The timer that is over is not the one that the command in the slot relies on.
  obtain ⟨-, other, launched, same, rest⟩ := placed.slot token waits
  rcases Pipeline.set_timer_mem found launched with rfl | there
  · exact absurd (same ▸ waits) idle
  · exact ⟨waits, other, there, same, rest⟩

/-- A timer that fires keeps the commands placed. -/
theorem timerFired (placed : Placed session) (custody : Custody session) {timer : Timer}
    (found : session.timers[index]? = some timer)
    (evolves : Evolves session (session.timerFired index timer)) :
    Placed (session.timerFired index timer) := by
  -- A timer that fires completes the command in the slot if that is its own.
  by_cases waits : session.pendingResponse = some timer.queued
  · have fired : session.timerFired index timer =
        ({ session with pendingResponse := none }.complete timer.queued
          (.timedOut timer.timeout)).setTimer index { timer with point := .fired } := by
      unfold Session.timerFired
      rw [if_pos waits]
    rw [fired] at evolves ⊢
    refine placed.keep evolves (by simp [setTimer, complete]) (fun place token held => ?_)
      placed.current nofun
    cases place with
    | response =>
      obtain rfl : timer.queued = token := Option.some.inj (waits.symm.trans held)
      obtain ⟨entry, entered, -⟩ := custodian_eq_some (custody.sound .response timer.queued waits)
      exact .inl (.of_complete entered rfl rfl)
    | caller => exact held.elim
    | nobody => exact held.elim
    | channel channel => exact .inr ⟨.channel channel, held⟩
    | writer writer => exact .inr ⟨.writer writer, held⟩
  · exact placed.idle_timer found waits (by unfold Session.timerFired; rw [if_neg waits])

/-- The retries of a command in the hands can be paused for. -/
theorem measured {outcome : Outcome} {entry : QueuedCommand}
    (keeps : session.abandonsBy (.resume (.writer index) outcome) = false)
    (found : session.writers[index]? = some writer) (held : writer.point.held = some queued)
    (entered : session.queue[queued]? = some entry) (goes : outcome ≠ .cancels) :
    entry.command.retryDelay.toMillis.isSome := by
  -- The guard measures the delay of the command that the writer has or is about to take.
  have next : session.nextFor writer = some entry := by
    unfold nextFor
    cases at_ : writer.point <;> simp [at_, WriterPoint.held] at held <;>
      simp [WriterPoint.held, held, entered]
  have measures : writer.measures entry.command = true := by
    cases outcome <;> simp_all [abandonsBy]
  unfold Writer.measures at measures
  simp only [Bool.and_eq_true] at measures
  exact measures.2

/-- A turn that keeps the command in hand leaves every command in its place. -/
theorem turned (placed : Placed session) {turned : Writer}
    (turns : Turned session index turned next) (found : session.writers[index]? = some writer)
    (held : writer.point.held = some queued) (holds : turned.point.held = some queued) :
    Placed next :=
  placed.set (.of_queue turns.queue) (by rw [turns.queue]) turns.channels turns.besides.commands
    turns.pendingResponse turns.timers found turns.writers fun token held' =>
      .inr (holds.trans (held.symm.trans held'))

/-- A command that is taken is placed in the hands of the writer. -/
theorem take (placed : Placed session) (evolves : Evolves session next)
    (found : session.writers[index]? = some writer) (at_ : writer.point = .receiving)
    {rest : List Nat} (buffered : session.bufferOf channel = queued :: rest)
    {command : SerialCommand} (measured : (writer.delayFor command).toMillis.isSome)
    (taken : next = session.take index writer channel queued command) : Placed next := by
  subst taken
  -- Only the channel from which the writer takes becomes shorter, by its first command.
  have tails (other : Nat) : (session.take index writer channel queued command).bufferOf other =
      if other = channel then rest else session.bufferOf other := by
    unfold Session.take
    rw [bufferOf_modify rfl]
    split
    · next same =>
      unfold bufferOf at buffered
      cases there : session.channels[channel]? with
      | none => simp [there] at buffered
      | some from_ =>
        simp only [there, Option.map_some, Option.getD_some] at buffered ⊢
        simp [buffered]
    · rfl
  -- The pause can be measured, and so the command gets into the hands of the writer.
  have point : writer.pausing queued command = .delaying queued := by
    obtain ⟨millis, measured⟩ := Option.isSome_iff_exists.mp measured
    unfold Writer.pausing
    rw [measured]
  refine placed.keep evolves (by simp [Session.take, own, setWriter])
    (fun place token holder => .inr ?_) (fun other different => ?_)
    (placed.awaited_of_slot rfl rfl)
  · cases place with
    | channel other =>
      have holder : token ∈ session.bufferOf other := holder
      by_cases first : other = channel ∧ token = queued
      · -- The command goes from the channel to the writer's hands.
        obtain ⟨rfl, rfl⟩ := first
        refine ⟨.writer index, ?_⟩
        show inHand _ index = some token
        rw [inHand_set found rfl, if_pos rfl, point]
        rfl
      · refine ⟨.channel other, ?_⟩
        show token ∈ bufferOf _ other
        rw [tails]
        split
        · next same =>
          subst same
          rw [buffered] at holder
          rcases List.mem_cons.mp holder with head | rest
          · exact absurd ⟨rfl, head⟩ first
          · exact rest
        · exact holder
    | writer other =>
      have holder : session.inHand other = some token := holder
      refine ⟨.writer other, ?_⟩
      show inHand _ other = some token
      rw [inHand_set found rfl]
      split
      · -- The writer had nothing in its hands, for it was receiving.
        next same =>
        subst same
        rw [inHand_of_found found] at holder
        simp [at_, WriterPoint.held] at holder
      · exact holder
    | response => exact ⟨.response, holder⟩
    | caller => exact holder.elim
    | nobody => exact holder.elim
  · -- Only the channel of the session has commands, before and after.
    rw [tails]
    split
    · next same =>
      subst same
      have empty := placed.current other different
      simp [buffered] at empty
    · exact placed.current other different

/-- What a writer reports goes from its hands to the empty slot, or is complete from now on. -/
theorem reported (placed : Placed session) (found : session.writers[index]? = some writer)
    {result : CommandResult} {entry : QueuedCommand}
    (evolves : Evolves session (session.report index writer queued entry.command result))
    (at_ : writer.point = .reporting queued result) (entered : session.queue[queued]? = some entry)
    (arms : session.ArmsAlone (.resume (.writer index) .resumes))
    (live : session.scopeActive = true) :
    Placed (session.report index writer queued entry.command result) := by
  have held : writer.point.held = some queued := by rw [at_]; rfl
  rcases session.report_cases index writer queued entry.command result with
    ⟨request, armed⟩ | completed
  · obtain ⟨empty, fits⟩ := arms.of_request found at_ entered request
    rw [armed] at evolves ⊢
    refine placed.keep evolves (by simp [arm, own, setWriter]) (fun place token holder => ?_)
      placed.current fun token waits => ?_
    · cases place with
      | channel channel => exact .inr ⟨.channel channel, holder⟩
      | writer other =>
        have holder : session.inHand other = some token := holder
        by_cases same : other = index
        · -- The command goes from the writer's hands to the slot.
          subst same
          rw [inHand_of_found found] at holder
          exact .inr ⟨.response, held.symm.trans holder⟩
        · refine .inr ⟨.writer other, ?_⟩
          show inHand _ other = some token
          rw [inHand_set found rfl, if_neg same]
          exact holder
      | response => exact absurd (empty.symm.trans holder) (by simp)
      | caller => exact holder.elim
      | nobody => exact holder.elim
    · obtain rfl : queued = token := Option.some.inj waits
      -- The timer is launched in a scope that is active, with a timeout that fits.
      exact ⟨rfl, _, List.mem_append_right _ (List.mem_singleton_self _), rfl, rfl,
        by simp [live], fits⟩
  · -- A command that waits for no response gets its result.
    rw [completed] at evolves ⊢
    refine placed.set evolves (by simp [complete, setWriter]) rfl rfl rfl rfl found rfl
      fun token held' => .inl ?_
    obtain rfl : queued = token := Option.some.inj (held.symm.trans held')
    exact .of_complete entered rfl rfl

/-- Every move of a writer that abandons nothing keeps the commands placed. -/
theorem inWriter (placed : Placed session) (custody : Custody session) {outcome : Outcome}
    (found : session.writers[index]? = some writer)
    (moved : WriterMoves session index writer outcome next)
    (arms : session.ArmsAlone (.resume (.writer index) outcome))
    (keeps : session.abandonsBy (.resume (.writer index) outcome) = false)
    (active : writer.point.held.isSome → session.scopeActive = true) : Placed next := by
  have evolves := Evolves.of_moves (.inWriter found moved)
  have besides := moved.besides
  cases moved with
  | start at_ live =>
    exact placed.set evolves rfl rfl rfl rfl rfl found rfl (by simp [at_, WriterPoint.held])
  | @take channel queued from_ rest entry at_ bound there buffered entered =>
    have head : session.bufferOf channel = queued :: rest := by simp [bufferOf, there, buffered]
    -- The guard says that the pause can be measured.
    refine placed.take evolves found at_ head ?_ rfl
    simp_all [abandonsBy, nextFor, Writer.measures]
  | drained at_ bound there buffered closed =>
    exact placed.set evolves rfl rfl rfl rfl rfl found rfl (by simp [at_, WriterPoint.held])
  | @begin queued entry at_ entered live =>
    have held : writer.point.held = some queued := by rw [at_]; rfl
    exact placed.turned beginWriting_turned found held
      (Writer.began_holds (measured keeps found held entered (by simp)))
  | @written queued attempt link entry length buffer at_ entered live =>
    -- The command stays in the hands while the writer is to be resumed.
    refine placed.set evolves (by simp [written, setWriter]) rfl rfl rfl rfl found rfl
      fun token held => .inr ?_
    rw [at_] at held
    exact held
  | @resumed queued attempt length entry at_ entered live =>
    have held : writer.point.held = some queued := by rw [at_]; rfl
    exact placed.turned (attemptEnded_turned _) found held
      (Writer.attempted_holds (measured keeps found held entered (by simp)) _)
  | @attempted queued attempt entry outcome result tries entered missed ended =>
    have held := Writer.held_of_tries tries
    have goes : outcome ≠ .cancels := by
      rcases ended with ⟨message, rfl, -⟩ | ⟨rfl, -⟩ <;> simp
    exact placed.turned (attemptEnded_turned _) found held
      (Writer.attempted_holds (measured keeps found held entered goes) _)
  | @retry queued attempt entry at_ entered live =>
    have held : writer.point.held = some queued := by rw [at_]; rfl
    exact placed.turned beginAttempt_turned found held
      (Writer.attempting_holds (measured keeps found held entered (by simp)))
  | @reported queued entry result at_ entered =>
    have held : writer.point.held = some queued := by rw [at_]; rfl
    exact placed.reported found evolves at_ entered arms (active (by rw [held]; rfl))
  | @failChanged queued error at_ =>
    refine placed.set evolves rfl rfl rfl rfl rfl found rfl fun token held => .inr ?_
    rw [at_] at held
    exact held
  | @failSettled queued error at_ =>
    have held : writer.point.held = some queued := by rw [at_]; rfl
    obtain ⟨entry, entered, waits⟩ := custody.held_entry found held
    have same := @Untouched.failSettle session
    refine placed.set evolves ?_ same.channels same.commands same.pendingResponse same.timers found
      (writerFailed_writers error) fun token held' => .inl ?_
    · simp [writerFailed, complete, setWriter, same.queue]
    · obtain rfl : queued = token := Option.some.inj (held.symm.trans held')
      have entered : session.failSettle.queue[queued]? = some entry := by
        rw [same.queue]
        exact entered
      exact Complete.of_complete entered rfl rfl
  | @cancelled open_ cancelled =>
    refine placed.set evolves rfl rfl rfl rfl rfl found rfl fun token held => ?_
    simp_all [abandonsBy]

/-- Every step that loses nothing keeps the commands placed. -/
theorem step (placed : Placed session) (custody : Custody session) {action : Action}
    (moved : Moves session action next) (guard : session.LosesNothing action)
    (active : ∀ writer, (session.inHand writer).isSome → session.scopeActive = true) :
    Placed next := by
  have evolves := Evolves.of_moves moved
  rcases moved.untouched_or_custodial with untouched | custodial
  · exact placed.untouched untouched
  cases custodial with
  -- Nobody makes room, for the guard lets no command be evicted.
  | send command => exact placed.send guard.keeps.1
  | @disconnectStrike index disconnect found at_ =>
    -- The guard has the workers cancelled only when there is nothing in the channel.
    obtain ⟨empty, -⟩ := guard.strikes (by simp [strikesBy, found, at_])
    have polled : session.cancelWorkers.poll = session.cancelWorkers := poll_nothing empty
    unfold disconnectStrike
    rw [polled]
    exact placed.same rfl rfl rfl inHand_cancelWorkers rfl rfl
  | shutdownStrike at_ => exact placed.same rfl rfl rfl inHand_cancelWorkers rfl rfl
  | shutdownClosed at_ =>
    refine placed.keep evolves rfl (fun place token held => .inr ⟨place, ?_⟩)
      (fun channel different => ?_) (placed.awaited_of_slot rfl rfl)
    · -- Closing the channel leaves its commands in it.
      cases place with
      | channel channel =>
        show token ∈ bufferOf _ channel
        rw [bufferOf_shutdownClosed]
        exact held
      | _ => exact held
    · rw [bufferOf_shutdownClosed]
      exact placed.current channel different
  | shutdownFinished at_ =>
    -- The timers are cancelled at the end of the shutdown, when no command waits for one.
    have empty := guard.timers (by simp [cancelsTimersBy, at_])
    refine placed.keep evolves rfl (fun place token held => .inr ⟨place, ?_⟩) placed.current
      fun token waits => absurd (empty.symm.trans waits) (by simp)
    cases place with
    | writer writer => exact (inHand_shutdownFinished writer).trans held
    | _ => exact held
  | @connectOpened index connect found at_ =>
    obtain ⟨empty, -⟩ := guard.opens (by simp [opensBy, found, at_])
    have configured : Placed { session with config := some connect.config } :=
      placed.same rfl rfl rfl (fun _ => rfl) rfl rfl
    exact (configured.opened empty connect.config).untouched (.setConnect _ _)
  | loopStrike found at_ live => exact placed.same rfl rfl rfl inHand_cancelWorkers rfl rfl
  | @loopOpened index attempt loop found at_ =>
    obtain ⟨empty, -⟩ := guard.opens (by simp [opensBy, found, at_, LoopPoint.isOpening])
    exact (placed.opened empty loop.config).untouched (.setLoop _ _)
  | chunk found at_ positive => exact placed.handleChunk custody _ _ _ evolves
  | @inWriter index writer outcome next found moved =>
    refine placed.inWriter custody found moved guard.arms guard.keeps.2 fun held => ?_
    refine active index ?_
    rw [inHand_of_found found]
    exact held
  | @inTimer index timer outcome next found moved =>
    -- The timer of the command in the slot can be measured, and is not cancelled.
    have alive (dead : timer.cancelled = true ∨ timer.timeout.toMillis = none) :
        session.pendingResponse ≠ some timer.queued := by
      intro waits
      obtain ⟨-, other, launched, same, -, live, fits⟩ := placed.slot _ waits
      obtain ⟨place, there⟩ := List.getElem?_of_mem launched
      obtain rfl := custody.requests.once_place there found same
      obtain rfl : other = timer := Option.some.inj (there.symm.trans found)
      rcases dead with cancelled | beyond <;> simp_all
    cases moved with
    | fired at_ live fits => exact placed.timerFired custody found evolves
    | overflowed at_ live beyond => exact placed.idle_timer found (alive (.inr beyond)) rfl
    | cancelled at_ cancelled => exact placed.idle_timer found (alive (.inl cancelled)) rfl

end Placed

/-! Once the workers have been cancelled there is nothing to find but the slot. -/

namespace Drained

/-- What takes nothing from the buffers and out of hands leaves them drained. -/
theorem same (drained : Drained session) (buffers : ∀ channel, next.bufferOf channel =
    session.bufferOf channel) (hands : ∀ writer, next.inHand writer = session.inHand writer) :
    Drained next :=
  ⟨fun channel => (buffers channel).trans (drained.1 channel),
    fun writer => (hands writer).trans (drained.2 writer)⟩

/-- A move of a writer leaves the buffers drained. -/
theorem inWriter (drained : Drained session) {outcome : Outcome}
    (found : session.writers[index]? = some writer)
    (moved : WriterMoves session index writer outcome next) : Drained next := by
  -- The hands of every writer are empty, and so it has nothing to work on.
  have empty : writer.point.held = none := (inHand_of_found found).symm.trans (drained.2 index)
  have set {turned : Writer} (held : turned.point.held = none) :
      Drained (session.setWriter index turned) := by
    refine ⟨drained.1, fun other => ?_⟩
    rw [inHand_set found rfl]
    split
    · exact held
    · exact drained.2 other
  cases moved with
  | start at_ live => exact set rfl
  | @take channel queued from_ rest entry at_ bound there buffered entered =>
    -- Every channel is empty, and there is nothing to take.
    have nothing := drained.1 channel
    simp [bufferOf, there, buffered] at nothing
  | drained at_ bound there buffered closed => exact set rfl
  | cancelled open_ cancelled => exact set rfl
  | begin at_ entered live => simp [at_, WriterPoint.held] at empty
  | written at_ entered live => simp [at_, WriterPoint.held] at empty
  | resumed at_ entered live => simp [at_, WriterPoint.held] at empty
  | attempted tries entered missed ended => simp [Writer.held_of_tries tries] at empty
  | retry at_ entered live => simp [at_, WriterPoint.held] at empty
  | reported at_ entered => simp [at_, WriterPoint.held] at empty
  | failChanged at_ => simp [at_, WriterPoint.held] at empty
  | failSettled at_ => simp [at_, WriterPoint.held] at empty

/-- Every step of a session that refuses commands keeps it drained. -/
theorem step (drained : Drained session) {action : Action} (moved : Moves session action next)
    (guard : session.LosesNothing action)
    (refuses : session.terminal = true ∨ session.state.isConnected = false) : Drained next := by
  rcases moved.untouched_or_custodial with untouched | custodial
  · exact drained.same (bufferOf_congr untouched.channels) (inHand_congr untouched.writers)
  cases custodial with
  -- A session that is being left accepts no command.
  | send command =>
    rcases send_cases guard.keeps.1 with ⟨error, -, refused⟩ | ⟨terminal, connected, -⟩
    · rw [refused]
      exact drained
    · rcases refuses with refuses | refuses <;> simp_all
  | @disconnectStrike index disconnect found at_ =>
    obtain ⟨empty, -⟩ := guard.strikes (by simp [strikesBy, found, at_])
    have polled : session.cancelWorkers.poll = session.cancelWorkers := poll_nothing empty
    unfold disconnectStrike
    rw [polled]
    exact drained.same (fun _ => rfl) inHand_cancelWorkers
  | shutdownStrike at_ => exact drained.same (fun _ => rfl) inHand_cancelWorkers
  | shutdownClosed at_ => exact drained.same bufferOf_shutdownClosed fun _ => rfl
  | shutdownFinished at_ => exact drained.same (fun _ => rfl) inHand_shutdownFinished
  | @connectOpened index connect found at_ =>
    exact drained.same (bufferOf_opened connect.config) (inHand_opened connect.config)
  | loopStrike found at_ live => exact drained.same (fun _ => rfl) inHand_cancelWorkers
  | @loopOpened index attempt loop found at_ =>
    exact drained.same (bufferOf_opened loop.config) (inHand_opened loop.config)
  | @chunk index reader link length buffer found at_ positive =>
    rcases session.handleChunk_cases index reader (receivedData length buffer) link with
      shape | ⟨queued, -, -, -, -, shape⟩ <;> rw [shape] <;> exact drained
  | inWriter found moved => exact drained.inWriter found moved
  | @inTimer index timer outcome next found moved =>
    cases moved with
    | fired at_ live fits =>
      obtain ⟨queue, slot, shape⟩ := session.timerFired_shape index timer
      rw [shape]
      exact drained
    | overflowed at_ live beyond => exact drained
    | cancelled at_ cancelled => exact drained

end Drained

/-! The calls of `disconnect` and `close`. -/

/-- Replacing a call by one that is not in progress, or one at the same point. -/
theorem leaving_set {disconnect turned : Disconnect}
    (found : session.disconnects[index]? = some disconnect)
    (progress : turned.inProgress = true → disconnect.inProgress = true)
    (leaving : ∃ call ∈ session.disconnects.set index turned, call.inProgress = true) :
    session.Leaving := by
  obtain ⟨call, listed, going⟩ := leaving
  rcases List.mem_or_eq_of_mem_set listed with earlier | rfl
  · exact ⟨call, earlier, going⟩
  · exact ⟨disconnect, List.mem_of_getElem? found, progress going⟩

/-- A call that does not take the queue leaves the session struck only if it was so before. -/
theorem struck_set {disconnect turned : Disconnect}
    (found : session.disconnects[index]? = some disconnect)
    (struck : turned.struck = true → disconnect.struck = true)
    (some_ : ∃ call ∈ session.disconnects.set index turned, call.struck = true) :
    session.Struck := by
  obtain ⟨call, listed, going⟩ := some_
  rcases List.mem_or_eq_of_mem_set listed with earlier | rfl
  · exact .inl ⟨call, earlier, going⟩
  · exact .inl ⟨disconnect, List.mem_of_getElem? found, struck going⟩

/-- The workers are cancelled for good by the step that strikes. -/
theorem Struck.of_step {action : Action} (moved : Moves session action next)
    (struck : next.Struck) : session.Struck ∨ session.strikesBy action = true := by
  rcases moved.aside_or_calling with aside | calling
  · -- Neither the calls nor the shutdown have moved.
    refine .inl ?_
    unfold Struck at struck ⊢
    rw [aside.disconnects, aside.shutdown] at struck
    exact struck
  cases calling with
  | disconnect =>
    -- A new call has struck nobody yet.
    refine .inl ?_
    rcases struck with ⟨call, listed, going⟩ | down
    · unfold disconnectCall at listed
      split at listed
      all_goals
        rcases List.mem_append.mp listed with earlier | new
        · exact .inl ⟨call, earlier, going⟩
        · obtain rfl := List.mem_singleton.mp new
          cases going
    · refine .inr ?_
      unfold disconnectCall at down
      split at down <;> exact down
  | close =>
    refine .inl ?_
    unfold closeCall at struck
    split at struck
    · exact struck
    · rcases struck with call | ⟨point, down, going⟩
      · exact .inl call
      · obtain rfl := Option.some.inj down
        cases going
  | cancelDisconnect found =>
    rcases struck with call | down
    · exact .inl (struck_set found (by exact id) call)
    · exact .inl (.inr down)
  | @inDisconnect index disconnect outcome next found moved =>
    cases moved with
    -- It is this step that strikes.
    | strike at_ => exact .inr (by simp [strikesBy, found, at_])
    | closed at_ =>
      -- A call that is at its end has struck before.
      rcases struck with call | down
      · exact .inl (struck_set found (fun _ => by simp [Disconnect.struck, at_]) call)
      · exact .inl (.inr down)
    | returned at_ =>
      rcases struck with call | down
      · exact .inl (struck_set found (by simp [Disconnect.struck]) call)
      · exact .inl (.inr down)
    | thrown open_ ends =>
      rcases struck with call | down
      · exact .inl (struck_set found (by simp [Disconnect.struck]) call)
      · exact .inl (.inr down)
  | inShutdown found moved =>
    cases moved with
    | strike => exact .inr (by simp [strikesBy, found])
    | closed => exact .inl (.inr ⟨_, found, rfl⟩)
    | thrown => exact .inl (.inr ⟨_, found, rfl⟩)
    | finished => exact .inl (.inr ⟨_, found, rfl⟩)
  | connectOpened found at_ => exact .inl struck
  | loopOpened found at_ => exact .inl struck

namespace Accounted

/-- Once the workers have been cancelled no command is accepted. -/
theorem refuses (accounted : Accounted session) (struck : session.Struck) :
    session.terminal = true ∨ session.state.isConnected = false := by
  rcases struck with ⟨call, listed, struck⟩ | ⟨point, down, -⟩
  · refine .inr (accounted.calm ⟨call, listed, ?_⟩)
    simp only [Disconnect.struck, Disconnect.inProgress, Bool.or_eq_true] at struck ⊢
    exact struck.imp_left .inr
  · exact .inl (accounted.closing (by rw [down]; rfl))

/-- A call can only take the queue of a session that is closed or not connected any more. -/
theorem refuses_strike (accounted : Accounted session) {action : Action}
    (strikes : session.strikesBy action = true) :
    session.terminal = true ∨ session.state.isConnected = false := by
  unfold strikesBy at strikes
  -- A `disconnect` under way has left Connected; a `close` has set the flag.
  split at strikes
  · next index =>
    obtain ⟨call, found, at_⟩ := (Option.any_eq_true _ _).mp strikes
    refine .inr (accounted.calm ⟨call, List.mem_of_getElem? found, ?_⟩)
    unfold Disconnect.inProgress
    rw [at_]
    rfl
  · exact .inl (accounted.closing (by rw [beq_iff_eq.mp strikes]; rfl))
  · cases strikes

/-- A step that cancels the workers finds everything empty. -/
theorem empty (accounted : Accounted session) {action : Action}
    (guard : session.LosesNothing action) (strikes : session.strikesBy action = true) :
    session.Drained := by
  obtain ⟨oldest, free⟩ := guard.strikes strikes
  refine ⟨fun channel => ?_, fun writer => ?_⟩
  · -- Older channels are drained already; the guard speaks of the current one.
    by_cases same : channel = session.commands
    · rw [same]
      exact empty_of_oldest oldest
    · exact accounted.current channel same
  · unfold inHand
    cases found : session.writers[writer]? with
    | none => rfl
    | some found' => exact free found' (List.mem_of_getElem? found)

/-- A step that loses nothing does not reconnect a session that is being left. -/
theorem calm_step (accounted : Accounted session) {action : Action}
    (moved : Moves session action next) (guard : session.LosesNothing action)
    (leaving : next.Leaving) : next.state.isConnected = false := by
  rcases moved.aside_or_calling with aside | calling
  · -- A step of another kind leaves the calls as they are and never sets Connected.
    have leaving : session.Leaving := by
      unfold Leaving at leaving ⊢
      rw [aside.disconnects] at leaving
      exact leaving
    rcases aside.state with kept | other
    · rw [kept]
      exact accounted.calm leaving
    · exact other
  cases calling with
  | disconnect =>
    unfold disconnectCall at leaving ⊢
    split at leaving
    · obtain ⟨call, listed, going⟩ := leaving
      rw [if_pos (by assumption)]
      rcases List.mem_append.mp listed with earlier | new
      · exact accounted.calm ⟨call, earlier, going⟩
      · obtain rfl := List.mem_singleton.mp new
        cases going
    · rw [if_neg (by assumption)]
      rfl
  | close =>
    unfold closeCall at leaving ⊢
    split at leaving
    · rw [if_pos (by assumption)]
      exact accounted.calm leaving
    · rw [if_neg (by assumption)]
      exact accounted.calm leaving
  | cancelDisconnect found => exact accounted.calm (leaving_set found (by exact id) leaving)
  | @inDisconnect index disconnect outcome next found moved =>
    -- While one of its three points lasts, the call was in progress before the step.
    have going {point : DisconnectPoint} (at_ : disconnect.point = point)
        (progress : point = .emitClosing ∨ point = .closing ∨ point = .emitIdle) :
        session.state.isConnected = false := by
      refine accounted.calm ⟨_, List.mem_of_getElem? found, ?_⟩
      rcases progress with rfl | rfl | rfl <;> simp [Disconnect.inProgress, at_]
    cases moved with
    | strike at_ =>
      obtain ⟨queue, channels, shape⟩ := session.cancelWorkers.poll_shape
      unfold disconnectStrike
      rw [shape]
      exact going at_ (.inl rfl)
    | closed at_ => rfl
    | returned at_ => exact going at_ (.inr (.inr rfl))
    | thrown open_ ends => exact going rfl open_
  | inShutdown found moved =>
    cases moved with
    | strike => exact accounted.calm leaving
    | closed => rfl
    | thrown => exact accounted.calm leaving
    | finished => exact accounted.calm leaving
  -- The opens set Connected, and the guard forbids them while a call is leaving.
  | connectOpened found at_ =>
    obtain ⟨-, here⟩ := guard.opens (by simp [opensBy, found, at_])
    exact absurd leaving here
  | loopOpened found at_ =>
    obtain ⟨-, here⟩ := guard.opens (by simp [opensBy, found, at_, LoopPoint.isOpening])
    exact absurd leaving here

/-- A session whose commands are accounted for shuts down last. -/
theorem last (accounted : Accounted session) : ShutsLast session where
  closing := accounted.closing
  active := accounted.active

/-- Every step that loses nothing keeps the commands accounted for. -/
theorem step (accounted : Accounted session) (custody : Custody session) {action : Action}
    (moved : Moves session action next) (guard : session.LosesNothing action) :
    Accounted next where
  toPlaced := by
    refine accounted.toPlaced.step custody moved guard fun writer held => ?_
    -- The scope is cancelled only once everything is drained.
    cases active : session.scopeActive with
    | true => rfl
    | false =>
      have drained := accounted.drained (.inr ⟨_, accounted.active active, rfl⟩)
      rw [drained.2 writer] at held
      cases held
  calm := accounted.calm_step moved guard
  drained := by
    intro struck
    rcases Struck.of_step moved struck with struck | strikes
    · exact (accounted.drained struck).step moved guard (accounted.refuses struck)
    · exact (accounted.empty guard strikes).step moved guard (accounted.refuses_strike strikes)
  closing := (accounted.last.step moved).closing
  active := (accounted.last.step moved).active

/-- Before the first command nothing is outstanding. -/
theorem initial : Accounted ({} : Session) where
  placed := by simp
  -- No channel but the first index, which is the current one.
  current := by
    intro channel different
    cases channel with
    | zero => exact absurd rfl different
    | succ channel => simp [bufferOf]
  slot := nofun
  calm := by simp [Leaving]
  drained := by simp [Struck]
  closing := nofun
  active := nofun

/-- In every run that loses nothing the commands are accounted for. -/
theorem of_run (run : Transition.Run Session.step LosesNothing {} session) : Accounted session :=
  run.invariant initial fun earlier guard stepped accounted =>
    accounted.step (.of_run earlier) (.of_step stepped) guard

end Accounted

end Session

namespace Sample

end Sample

namespace Session

end Session

end SerialPort
