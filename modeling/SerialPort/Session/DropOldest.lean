import SerialPort.Library.SlidingQueue
import SerialPort.Session.Hauling
import SerialPort.Session.Heeded
import SerialPort.Session.Dormant
import SerialPort.Session.Outstanding

/-! The commands of a connection that drops the oldest ones: what waits, and what is left behind. -/

namespace SerialPort

open Transition

/-- Whether the command has been served. -/
def CommandResult.isSuccess : CommandResult → Bool
  | .sent _ => true
  | .response _ => true
  | _ => false

/-- There is room for a command in an empty channel. -/
theorem SerialConfig.capacity_pos (config : SerialConfig) :
    0 < config.queue.capacity.toNatClampNeg := by
  have positive := Int32.lt_iff_toInt_lt.mp config.queue.capacity_valid
  rw [Int32.toInt_zero] at positive
  show 0 < config.queue.capacity.toInt.toNat
  omega

namespace Session

/-- A connection goes on: nothing is opened, and nobody cancels its workers by a call. -/
structure GoesOn (session : Session) (action : Action) : Prop where
  unopened : session.opensBy action = false
  unstruck : session.strikesBy action = false

instance (session : Session) (action : Action) : Decidable (session.GoesOn action) :=
  decidable_of_iff (session.opensBy action = false ∧ session.strikesBy action = false)
    ⟨fun ⟨unopened, unstruck⟩ => ⟨unopened, unstruck⟩,
      fun goesOn => ⟨goesOn.unopened, goesOn.unstruck⟩⟩

/-- In the course of these actions a command is sent on the connected session. -/
def SendsAmid (start : Session) (actions : List Action) (before after : Session) : Prop :=
  ∃ earlier command later, actions = earlier ++ .send command :: later ∧
    Path Session.step GoesOn start earlier before ∧ before.step (.send command) = some after ∧
    before.terminal = false ∧ before.state.isConnected = true

/-- The command waits in the channel, or a writer has taken it, or it is complete. -/
def Located (session : Session) (channel queued : Nat) : Prop :=
  -- A command that waits for its response is one that a writer has taken.
  queued ∈ session.bufferOf channel ∨ (∃ writer ∈ session.writers, queued ∈ writer.taken) ∨
    session.Complete queued

/-- The newest commands are kept, and no command is dropped without notice. -/
structure DropsOldest (capacity : Nat) (start : Session) (actions : List Action) : Prop where
  /-- What waits after a command has been sent, that command included. -/
  newest : ∀ before after, start.SendsAmid actions before after →
    after.bufferOf start.commands =
        (before.bufferOf start.commands ++ [before.queue.length]).rtake capacity ∧
      after.bufferOf start.commands <:+ after.acceptedSince start.queue.length
  /-- A command that had to make room is completed without success. -/
  evicted : ∀ before after, start.SendsAmid actions before after →
    ∀ queued ∈ before.bufferOf start.commands, queued ∉ after.bufferOf start.commands →
      ∃ entry result, after.queue[queued]? = some entry ∧ entry.result = some result ∧
        result.isSuccess = false
  /-- No command that has been sent on the connection is left to nobody. -/
  located : ∀ earlier later session, actions = earlier ++ later →
    Path Session.step GoesOn start earlier session →
    ∀ queued, start.queue.length ≤ queued → queued < session.queue.length →
      session.Located start.commands queued

/-- The channel of a connection that drops the oldest commands is a sliding queue. -/
structure Sliding (first channel capacity : Nat) (session : Session) : Prop where
  commands : session.commands = channel
  drops : session.config.any (fun config => config.queue.overflow == .dropOldest) = true
  since : first ≤ session.queue.length
  line : ∃ (from_ : Channel) (queue : SlidingQueue Nat capacity),
    session.channels[channel]? = some from_ ∧ from_.capacity = capacity ∧
      (from_.closed = true → session.terminal = true) ∧
      queue.offered = session.acceptedSince first ∧ queue.waiting = from_.buffer

variable {start session next : Session} {action : Action} {first channel capacity queued : Nat}
  {actions : List Action} {command : SerialCommand}

/-! What `send` does. -/

/-- The session with one command more, which nobody has accepted or refused yet. -/
def appended (session : Session) (command : SerialCommand) : Session :=
  { session with queue := session.queue ++ [{ command := command }] }

/-- With room for it a command is put behind the others. -/
theorem send_room (open_ : session.terminal = false)
    (connected : session.state.isConnected = true) (room : session.hasRoom = true) :
    session.send command = (session.appended command).enqueue session.queue.length := by
  have room : (session.appended command).hasRoom = true := room
  -- Neither `AlreadyClosed` nor `NotConnected`, and `trySend` succeeds at once.
  unfold send
  simp only
  rw [if_neg (by simp [open_]), if_neg (by simp [connected])]
  exact if_pos room

/-- Under `DropOldest` a full channel that is not closed gives up its oldest command. -/
theorem send_full (open_ : session.terminal = false)
    (connected : session.state.isConnected = true) (full : session.hasRoom = false)
    (drops : session.config.any (fun config => config.queue.overflow == .dropOldest) = true)
    (room : (session.appended command).poll.hasRoom = true) :
    session.send command = (session.appended command).poll.enqueue session.queue.length := by
  have full : ¬(session.appended command).hasRoom = true := Bool.not_eq_true _ ▸ full
  -- The first `trySend` fails, and the one behind `tryReceive` succeeds.
  unfold send
  simp only
  rw [if_neg (by simp [open_]), if_neg (by simp [connected])]
  exact ((if_neg full).trans (if_pos drops)).trans (if_pos room)

/-- A command enters a channel with room, and evicts the oldest one from a full channel. -/
theorem Sliding.send_cases (sliding : Sliding first channel capacity session) (some_ : 0 < capacity)
    (open_ : session.terminal = false) (connected : session.state.isConnected = true)
    (command : SerialCommand) :
    (session.hasRoom = true ∧ (session.bufferOf channel).length < capacity ∧
        session.send command = (session.appended command).enqueue session.queue.length) ∨
      (session.hasRoom = false ∧ (session.bufferOf channel).length = capacity ∧
        session.send command = (session.appended command).poll.enqueue session.queue.length) := by
  -- The channel in use is the sliding queue, which tells how full it is.
  obtain ⟨rfl, drops, -, from_, queue, found, full, closed, -, waits⟩ := sliding
  have buffer : session.bufferOf session.commands = from_.buffer := by simp [bufferOf, found]
  -- A channel is closed only together with its session.
  have unclosed : from_.closed = false := by
    cases shut : from_.closed with
    | false => rfl
    | true => exact absurd (closed shut) (by simp [open_])
  rw [buffer]
  rcases Nat.lt_or_ge from_.buffer.length capacity with short | long
  · have room : session.hasRoom = true := by
      simp [hasRoom, found, Channel.hasRoom, unclosed, full, short]
    exact .inl ⟨room, short, send_room open_ connected room⟩
  · have noRoom : session.hasRoom = false := by
      simp [hasRoom, found, Channel.hasRoom, full, Nat.not_lt.mpr long]
    have bounded := waits ▸ queue.bounded
    cases buffered : from_.buffer with
    | nil =>
      rw [buffered, List.length_nil] at long
      omega
    | cons oldest rest =>
      refine .inr ⟨noRoom, ?_, send_full open_ connected noRoom drops ?_⟩
      · rw [← buffered]
        exact Nat.le_antisymm bounded long
      · -- Without its oldest command the channel has room for one.
        rw [buffered, List.length_cons] at bounded
        have first : (session.appended command).oldest = some oldest := by
          simp [Session.oldest, appended, found, buffered]
        unfold poll
        rw [first]
        simp [hasRoom, own, appended, found, Channel.hasRoom, unclosed, full, buffered]
        omega

/-- The channel after its oldest command has been thrown away, if it had any. -/
theorem poll_channel {from_ : Channel} (found : session.channels[session.commands]? = some from_) :
    session.poll.channels[session.commands]? = some { from_ with buffer := from_.buffer.tail } := by
  -- The result of `tryReceive` is thrown away, so that only the channel changes.
  cases buffered : from_.buffer with
  | nil =>
    rw [poll_nothing (by simp [oldest, found, buffered]), found, List.tail_nil, ← buffered]
  | cons first rest =>
    have first : session.oldest = some first := by simp [oldest, found, buffered]
    unfold poll
    rw [first]
    simp [own, found, buffered]

/-- A command comes last in the buffer. -/
theorem enqueue_channel {from_ : Channel} (found : session.channels[session.commands]? = some from_)
    (queued : Nat) :
    (session.enqueue queued).channels[session.commands]? =
      some { from_ with
        buffer := from_.buffer ++ [queued]
        accepted := from_.accepted ++ [queued] } := by
  simp [enqueue, found]

/-- A command that is accepted is not refused. -/
theorem enqueue_entry {entry : QueuedCommand} (entered : session.queue[queued]? = some entry)
    (waits : entry.result = none) :
    ∃ after, (session.enqueue queued).queue[queued]? = some after ∧ after.isRefused = false :=
  ⟨{ entry with owner := .channel session.commands, acceptedOn := session.opens },
    by simp [enqueue, entered], by simp [QueuedCommand.isRefused, waits]⟩

/-- A command that is sent comes last in the queue. -/
theorem appended_entry (command : SerialCommand) :
    (session.appended command).queue[session.queue.length]? = some { command := command } := by
  simp [appended]

/-- What is accepted after a command has been sent. -/
theorem acceptedSince_send (since : first ≤ session.queue.length) (served : AllServed session)
    {entry : QueuedCommand}
    (new : (session.send command).queue[session.queue.length]? = some entry) :
    (session.send command).acceptedSince first =
      session.acceptedSince first ++ if entry.isRefused then [] else [session.queue.length] := by
  -- The new command adds itself unless it is refused.
  refine acceptedSince_sent since (length_send command) (fun token inside => ?_) new
  -- An old command may be evicted, and is no more refused for it than before.
  have entered := List.getElem?_eq_getElem inside
  obtain ⟨after, entered', moved⟩ := (EntriesMove.send command).old token _ entered
  rw [entered, entered', Option.any_some, Option.any_some, moved.isRefused served]

/-- A session that is closed or not connected refuses the command. -/
theorem send_refused (refused : ¬(session.terminal = false ∧ session.state.isConnected = true))
    (command : SerialCommand) :
    ∃ error, error.isRefusal = true ∧ session.send command =
      (session.appended command).complete session.queue.length (.failed error) := by
  -- Nothing is evicted before the session has been asked.
  have keeps : session.evictsBy (.send command) = false := by
    cases open_ : session.terminal with
    | true => simp [evictsBy, open_]
    | false =>
      cases connected : session.state.isConnected with
      | true => exact absurd ⟨open_, connected⟩ refused
      | false => simp [evictsBy, connected]
  rcases Session.send_cases keeps with shape | ⟨open_, connected, -⟩
  · exact shape
  · exact absurd ⟨open_, connected⟩ refused

namespace Sliding

/-- After a command has been sent the channel is a sliding queue as before. -/
theorem send (sliding : Sliding first channel capacity session) (some_ : 0 < capacity)
    (served : AllServed session) (command : SerialCommand) :
    Sliding first channel capacity (session.send command) ∧
      (session.terminal = false → session.state.isConnected = true →
        (session.send command).bufferOf channel =
          (session.bufferOf channel ++ [session.queue.length]).rtake capacity) := by
  have since : first ≤ (session.send command).queue.length := by
    rw [length_send]
    exact Nat.le_succ_of_le sliding.since
  obtain ⟨commands, drops, since', from_, line, found, full, closed, offered, waits⟩ := sliding
  have buffer : session.bufferOf channel = line.waiting := by simp [bufferOf, found, waits]
  -- Nothing changes but the line and what has been accepted.
  have build (line' : SlidingQueue Nat capacity) {from' : Channel}
      (there : (session.send command).channels[channel]? = some from')
      (full : from'.capacity = capacity) (closed : from'.closed = true → session.terminal = true)
      (offered : line'.offered = (session.send command).acceptedSince first)
      (waits : line'.waiting = from'.buffer) :
      Sliding first channel capacity (session.send command) := by
    obtain ⟨queue, channels, same⟩ := session.send_shape command
    refine ⟨by rw [same]; exact commands, by rw [same]; exact drops, since, from', line', there,
      full, ?_, offered, waits⟩
    rw [same]
    exact closed
  by_cases accepts : session.terminal = false ∧ session.state.isConnected = true
  · have sliding : Sliding first channel capacity session :=
      ⟨commands, drops, since', from_, line, found, full, closed, offered, waits⟩
    -- The command is accepted at the end of the line, and goes to the end of the channel.
    have accepted {entry : QueuedCommand} (fresh : entry.isRefused = false)
        (new : (session.send command).queue[session.queue.length]? = some entry) :
        (line.offer session.queue.length).offered =
          (session.send command).acceptedSince first := by
      rw [acceptedSince_send since' served new, fresh, ← offered]
      rfl
    suffices outcome : ∃ (from' : Channel) (entry : QueuedCommand),
        (session.send command).channels[channel]? = some from' ∧ from'.capacity = capacity ∧
          (from'.closed = true → session.terminal = true) ∧
          (line.offer session.queue.length).waiting = from'.buffer ∧
          (session.send command).queue[session.queue.length]? = some entry ∧
          entry.isRefused = false by
      obtain ⟨from', entry, there, full, closed, waits', new, fresh⟩ := outcome
      refine ⟨build _ there full closed (accepted fresh new) waits', fun _ _ => ?_⟩
      rw [buffer]
      simp only [bufferOf, there, Option.map_some, Option.getD_some, ← waits']
      rfl
    have there : (session.appended command).channels[session.commands]? = some from_ :=
      commands ▸ found
    have entered : (session.appended command).queue[session.queue.length]? =
        some { command := command } := appended_entry command
    rcases sliding.send_cases some_ accepts.1 accepts.2 command with
      ⟨-, room, shape⟩ | ⟨-, atLimit, shape⟩
    · -- There is room, and so nothing leaves the line.
      rw [buffer] at room
      obtain ⟨entry, new, fresh⟩ := enqueue_entry entered rfl
      have there := enqueue_channel there session.queue.length
      rw [← shape, show (session.appended command).commands = channel from commands] at there
      refine ⟨_, entry, there, full, closed, ?_, by rw [shape]; exact new, fresh⟩
      rw [← waits]
      exact SlidingQueue.rtake_concat_room _ room
    · -- The oldest command leaves the line, and does not count as refused for it.
      rw [buffer] at atLimit
      obtain ⟨queue, channels, same⟩ := (session.appended command).poll_shape
      have polled : (session.appended command).poll.commands = session.commands := by rw [same]; rfl
      have there := poll_channel there
      rw [show (session.appended command).commands = session.commands from rfl, ← polled] at there
      have there := enqueue_channel there session.queue.length
      rw [polled, ← shape, commands] at there
      obtain ⟨before, entered, waiting⟩ : ∃ before,
          (session.appended command).poll.queue[session.queue.length]? = some before ∧
            before.result = none := by
        rcases (session.appended command).poll_entry session.queue.length with
          kept | ⟨-, evicted⟩
        · exact ⟨_, kept.trans entered, rfl⟩
        · rw [entered] at evicted
          exact ⟨_, evicted, rfl⟩
      obtain ⟨entry, new, fresh⟩ := enqueue_entry entered waiting
      refine ⟨_, entry, there, full, closed, ?_, by rw [shape]; exact new, fresh⟩
      rw [← waits]
      exact SlidingQueue.rtake_concat_full _ atLimit some_
  · obtain ⟨error, refusal, shape⟩ := send_refused accepts command
    have new : (session.send command).queue[session.queue.length]? =
        some (QueuedCommand.complete { command := command } (.failed error)) := by
      rw [shape]
      simp [complete, appended]
    refine ⟨build line (by rw [shape]; exact found) full closed ?_ waits, ?_⟩
    · rw [acceptedSince_send since' served new, offered]
      simp [QueuedCommand.complete, QueuedCommand.isRefused, refusal]
    · intro open_ connected
      exact absurd ⟨open_, connected⟩ accepts

end Sliding

/-! What the writers take. -/

/-- A writer takes the first command of a channel, or leaves the channels alone. -/
inductive Takes (session : Session) (writer turned : Writer) (next : Session) : Prop where
  | nothing (channels : next.channels = session.channels) (taken : turned.taken = writer.taken) :
      Takes session writer turned next
  | first {source queued : Nat} {from_ : Channel} {rest : List Nat}
      (found : session.channels[source]? = some from_) (buffered : from_.buffer = queued :: rest)
      (channels : next.channels = session.channels.modify source fun from_ =>
        { from_ with buffer := from_.buffer.tail })
      (taken : turned.taken = writer.taken ++ [queued]) : Takes session writer turned next

variable {index : Nat} {writer : Writer}

/-- A writer that moves takes the first command of its channel, or none. -/
theorem WriterMoves.takes {outcome : Outcome}
    (moved : WriterMoves session index writer outcome next) :
    ∃ turned, next.writers = session.writers.set index turned ∧
      Takes session writer turned next := by
  -- Whatever belongs to an attempt leaves the channels and what has been taken.
  have attempted {turned : Writer} (turns : Turned session index turned next)
      (kept : Writer.Kept writer turned) :
      ∃ turned, next.writers = session.writers.set index turned ∧
        Takes session writer turned next :=
    ⟨turned, turns.writers, .nothing turns.channels kept.taken⟩
  cases moved with
  | take at_ bound there buffered entered => exact ⟨_, rfl, .first there buffered rfl rfl⟩
  | begin at_ entered live => exact attempted beginWriting_turned Writer.began_kept
  | resumed at_ entered live =>
    exact attempted (attemptEnded_turned _) (Writer.attempted_kept _)
  | attempted at_ entered missed ended =>
    exact attempted (attemptEnded_turned _) (Writer.attempted_kept _)
  | retry at_ entered live => exact attempted beginAttempt_turned Writer.attempting_kept
  | reported at_ entered =>
    refine ⟨_, report_writers _, .nothing ?_ rfl⟩
    unfold report
    simp only
    split <;> rfl
  | failSettled at_ =>
    refine ⟨_, writerFailed_writers _, .nothing ?_ rfl⟩
    show session.failSettle.channels = session.channels
    rw [Untouched.failSettle.channels]
  | _ => exact ⟨_, rfl, .nothing rfl rfl⟩

/-- A step that sends nothing leaves a channel its commands, or a writer takes the first of them. -/
inductive Drains (session : Session) (channel : Nat) (next : Session) : Prop where
  | keeps (same : next.channels[channel]? = session.channels[channel]?) :
      Drains session channel next
  | closes (closed : session.terminal = true)
      (same : next.channels[channel]? = (session.channels[channel]?).map fun from_ =>
        { from_ with closed := true }) : Drains session channel next
  | takes {queued : Nat} {from_ : Channel} {rest : List Nat} {turned : Writer}
      (found : session.channels[channel]? = some from_) (buffered : from_.buffer = queued :: rest)
      (there : next.channels[channel]? = some { from_ with buffer := rest })
      (listed : turned ∈ next.writers) (taken : queued ∈ turned.taken) : Drains session channel next

/-- A step that sends nothing takes the first command out of a buffer, or none. -/
theorem Moves.drains (moved : Moves session action next) (last : ShutsLast session)
    (goesOn : session.GoesOn action) (silent : ∀ command, action ≠ .send command)
    (inside : channel < session.channels.length) : Drains session channel next := by
  obtain ⟨unopened, unstruck⟩ := goesOn
  -- Most steps do not touch the channels at all.
  rcases moved.untouched_or_custodial with untouched | custodial
  · exact .keeps (by rw [untouched.channels])
  cases custodial with
  | send command => exact absurd rfl (silent command)
  | disconnectStrike found at_ => simp [strikesBy, found, at_] at unstruck
  | shutdownStrike at_ => exact .keeps rfl
  | shutdownClosed at_ =>
    -- A shutdown closes the channel in use and keeps what is in it.
    by_cases current : session.commands = channel
    · refine .closes (last.closing (by simp [at_])) ?_
      simp [shutdownClosed, emit, current]
    · exact .keeps (by simp [shutdownClosed, emit, current])
  | shutdownFinished at_ => exact .keeps rfl
  | connectOpened found at_ => simp [opensBy, found, at_] at unopened
  | loopStrike struck at_ live => exact .keeps rfl
  | loopOpened found at_ => simp [opensBy, found, at_, LoopPoint.isOpening] at unopened
  | @chunk number reader link length buffer reads at_ positive =>
    rcases session.handleChunk_cases number reader (receivedData length buffer) link with
      shape | ⟨queued, -, -, -, -, shape⟩ <;> exact .keeps (by rw [shape]; rfl)
  | @inWriter index writer outcome next found moved =>
    obtain ⟨turned, writers, takes⟩ := moved.takes
    have there : turned ∈ next.writers := by
      rw [writers]
      exact List.mem_set (List.getElem?_eq_some_iff.mp found).1 turned
    cases takes with
    | nothing channels taken => exact .keeps (by rw [channels])
    | @first source queued from_ rest found buffered channels taken =>
      by_cases same : source = channel
      · subst same
        refine .takes found buffered ?_ there (by simp [taken])
        simp [channels, found, buffered]
      · exact .keeps (by simp [channels, same])
  | @inTimer number timer outcome next found turns =>
    cases turns with
    | fired at_ live fits =>
      obtain ⟨queue, slot, shape⟩ := session.timerFired_shape number timer
      exact .keeps (by rw [shape])
    | _ => exact .keeps rfl

/-- What a writer has taken it does not give back. -/
theorem Moves.taken (moved : Moves session action next)
    (taken : ∃ writer ∈ session.writers, queued ∈ writer.taken) :
    ∃ writer ∈ next.writers, queued ∈ writer.taken := by
  obtain ⟨before, listed, taken⟩ := taken
  obtain ⟨index, found⟩ := List.getElem?_of_mem listed
  -- A writer keeps its place in the list, and what it has taken is only appended to.
  obtain ⟨after, there, same | ⟨outcome, rfl, turns⟩⟩ := moved.writerLater found
  · refine ⟨after, List.mem_of_getElem? there, ?_⟩
    rcases same with rfl | rfl <;> exact taken
  · refine ⟨after, List.mem_of_getElem? there, ?_⟩
    obtain ⟨turned, writers, takes⟩ := turns.takes
    rw [eq_of_set writers there]
    cases takes with
    | nothing channels same => rw [same]; exact taken
    | first there buffered channels same => rw [same]; exact List.mem_append_left _ taken

/-- The channel in use is a sliding queue after every step. -/
theorem Sliding.step (sliding : Sliding first channel capacity session) (some_ : 0 < capacity)
    (served : AllServed session) (last : ShutsLast session) (goesOn : session.GoesOn action)
    (moved : Moves session action next) : Sliding first channel capacity next := by
  -- Sending is the operation of the queue that lets its oldest command slide out.
  by_cases sends : ∃ command, action = .send command
  · obtain ⟨command, rfl⟩ := sends
    rw [moved.sent]
    exact (sliding.send some_ served command).1
  have silent : ∀ command, action ≠ .send command := fun command same => sends ⟨command, same⟩
  -- Besides, nothing is accepted, and so all that can happen is that the line gets shorter.
  have accepted := @acceptedSince_kept _ _ _ first served moved (moved.length_kept silent)
  obtain ⟨config, commands, -⟩ := moved.unopened goesOn.unopened
  obtain ⟨current, drops, since, from_, line, found, full, closed, offered, waits⟩ := sliding
  have since : first ≤ next.queue.length := Nat.le_trans since (EntriesMove.of_moves moved).grows
  have closes (shut : from_.closed = true) : next.terminal = true := moved.terminal (closed shut)
  have inside := (List.getElem?_eq_some_iff.mp found).1
  cases moved.drains last goesOn silent inside with
  | keeps same =>
    exact ⟨commands.trans current, config ▸ drops, since, from_, line, same.trans found, full,
      closes, offered.trans accepted.symm, waits⟩
  | closes terminal same =>
    rw [found, Option.map_some] at same
    exact ⟨commands.trans current, config ▸ drops, since, _, line, same, full,
      fun _ => moved.terminal terminal, offered.trans accepted.symm, waits⟩
  | takes found' buffered there listed taken =>
    -- What the writer takes leaves the line at its front.
    obtain rfl := Option.some.inj (found.symm.trans found')
    refine ⟨commands.trans current, config ▸ drops, since, _, line.take, there, full, closes,
      offered.trans accepted.symm, ?_⟩
    show line.waiting.tail = _
    rw [waits, buffered, List.tail_cons]

/-! The commands that are left to nobody. -/

/-- What has been taken or completed stays so, and what waits is looked for. -/
theorem Located.keep (located : session.Located channel queued) (moved : Moves session action next)
    (waiting : queued ∈ session.bufferOf channel → next.Located channel queued) :
    next.Located channel queued := by
  rcases located with waits | taken | complete
  · exact waiting waits
  · exact .inr (.inl (moved.taken taken))
  · exact .inr (.inr (complete.evolves (.of_moves moved)))

/-- As long as there is room, every command stays where it is or goes on to the next place. -/
theorem Located.step (sliding : Sliding first channel capacity session) (some_ : 0 < capacity)
    (served : AllServed session) (last : ShutsLast session) (goesOn : session.GoesOn action)
    (moved : Moves session action next)
    (room : ∀ command, action = .send command → session.terminal = false →
      session.state.isConnected = true → session.hasRoom = true)
    (located : queued < session.queue.length → session.Located channel queued)
    (inside : queued < next.queue.length) : next.Located channel queued := by
  -- A new command has to find its place, and an old one must not lose it.
  by_cases sends : ∃ command, action = .send command
  · obtain ⟨command, rfl⟩ := sends
    obtain rfl := moved.sent
    rw [length_send] at inside
    by_cases accepts : session.terminal = false ∧ session.state.isConnected = true
    · have roomy := room command rfl accepts.1 accepts.2
      rcases sliding.send_cases some_ accepts.1 accepts.2 command with
        ⟨-, short, shape⟩ | ⟨noRoom, -⟩
      · -- The new command is behind the old ones in the channel.
        have buffer := (sliding.send some_ served command).2 accepts.1 accepts.2
        rw [SlidingQueue.rtake_concat_room _ short] at buffer
        rcases Nat.lt_succ_iff_lt_or_eq.mp inside with old | rfl
        · refine (located old).keep moved fun waits => .inl ?_
          rw [buffer]
          exact List.mem_append_left _ waits
        · exact .inl (by rw [buffer]; simp)
      · simp [roomy] at noRoom
    · obtain ⟨error, -, shape⟩ := send_refused accepts command
      rcases Nat.lt_succ_iff_lt_or_eq.mp inside with old | rfl
      · refine (located old).keep moved fun waits => .inl ?_
        rw [shape]
        exact waits
      · exact .inr (.inr ⟨_, by rw [shape]; simp [Session.complete, appended]; rfl, rfl⟩)
  have silent : ∀ command, action ≠ .send command := fun command same => sends ⟨command, same⟩
  rw [moved.length_kept silent] at inside
  refine (located inside).keep moved fun waits => ?_
  obtain ⟨-, -, -, from_, line, found, -⟩ := sliding
  have buffer : session.bufferOf channel = from_.buffer := by simp [bufferOf, found]
  cases moved.drains last goesOn silent (List.getElem?_eq_some_iff.mp found).1 with
  | keeps same => exact .inl (by rw [bufferOf, same]; exact waits)
  | closes terminal same =>
    refine .inl ?_
    simpa [bufferOf, same, found] using buffer ▸ waits
  | @takes token from' rest turned found' buffered there listed taken =>
    obtain rfl := Option.some.inj (found.symm.trans found')
    rw [buffer, buffered] at waits
    -- The command is the one that is taken, or stays behind it in the channel.
    rcases List.mem_cons.mp waits with rfl | waits
    · exact .inr (.inl ⟨turned, listed, taken⟩)
    · exact .inl (by simpa [bufferOf, there] using waits)

/-- A command that is evicted is in nobody's hands any more, and not complete. -/
theorem Sliding.evicts (sliding : Sliding first channel capacity session) (some_ : 0 < capacity)
    (served : AllServed session) (custody : Custody session) (open_ : session.terminal = false)
    (connected : session.state.isConnected = true) (full : session.hasRoom = false)
    (command : SerialCommand) :
    ∃ queued entry, queued ∈ session.bufferOf channel ∧
      queued ∉ (session.send command).bufferOf channel ∧
      (session.send command).queue[queued]? = some entry ∧ entry.result = none := by
  -- The command that slides out of the queue is the first one of the full channel.
  rcases sliding.send_cases some_ open_ connected command with ⟨room, -⟩ | ⟨-, atLimit, shape⟩
  · simp [full] at room
  have buffer := (sliding.send some_ served command).2 open_ connected
  rw [SlidingQueue.rtake_concat_full _ atLimit some_] at buffer
  cases buffered : session.bufferOf channel with
  | nil =>
    rw [buffered, List.length_nil] at atLimit
    omega
  | cons queued rest =>
    -- It has been in the custody of the channel, and so has not been completed.
    have holds : session.Holds (.channel channel) queued := by
      show queued ∈ session.bufferOf channel
      simp [buffered]
    obtain ⟨entry, entered, waits, -⟩ := custodian_eq_some (custody.sound _ _ holds)
    have inside := (List.getElem?_eq_some_iff.mp entered).1
    have distinct := custody.distinct channel
    rw [buffered, List.nodup_cons] at distinct
    have older : session.queue.length ≠ queued := by omega
    -- Polling has changed the owner at most, and the new command is another one.
    obtain ⟨after, polled, waits⟩ : ∃ after,
        (session.appended command).poll.queue[queued]? = some after ∧ after.result = none := by
      have entered : (session.appended command).queue[queued]? = some entry := by
        simp [appended, List.getElem?_append_left inside, entered]
      rcases (session.appended command).poll_entry queued with kept | ⟨-, evicted⟩
      · exact ⟨entry, kept.trans entered, waits⟩
      · rw [entered] at evicted
        exact ⟨_, evicted, waits⟩
    refine ⟨queued, after, List.mem_cons_self, ?_, ?_, waits⟩
    · rw [buffer, buffered, List.tail_cons, List.mem_append, List.mem_singleton]
      rintro (again | same)
      · exact distinct.1 again
      · exact older same.symm
    · rw [shape]
      simp [enqueue, older, polled]

/-! The whole connection. -/

/-- A connection begins with an empty channel of the configured capacity. -/
theorem Sliding.opened {config : SerialConfig} (opens : session.opensBy action = true)
    (stepped : session.step action = some start) (connected : start.state = .connected config)
    (drops : start.config.any (fun config => config.queue.overflow == .dropOldest) = true) :
    Sliding start.queue.length start.commands config.queue.capacity.toNatClampNeg start := by
  have accepted : start.acceptedSince start.queue.length = [] := by
    refine List.filter_eq_nil_iff.mpr fun queued listed => ?_
    simp [Nat.not_le.mpr (List.mem_range.mp listed)]
  suffices there : start.channels[start.commands]? =
      some { capacity := config.queue.capacity.toNatClampNeg } from
    ⟨rfl, drops, Nat.le_refl _, _, .empty, there, rfl, nofun, accepted.symm, rfl⟩
  -- The state and the channel come from one configuration.
  rcases opensBy_cases opens with
    ⟨index, connect, rfl, found, at_⟩ | ⟨index, attempt, loop, rfl, found, at_⟩
  · simp only [Session.step, resume, found, resumeConnect, at_, Option.bind_eq_bind,
      Option.bind_some] at stepped
    obtain rfl := Option.some.inj stepped
    obtain rfl := SerialState.connected.inj connected
    exact List.getElem?_concat_length
  · simp only [Session.step, resume, found, resumeLoop, at_, Option.bind_eq_bind, Option.bind_some]
      at stepped
    obtain rfl := Option.some.inj stepped
    obtain rfl := SerialState.connected.inj connected
    exact List.getElem?_concat_length

/-- Over a whole path of a connection the window keeps sliding. -/
theorem Sliding.of_path (sliding : Sliding first channel capacity start) (some_ : 0 < capacity)
    (reached : Run Session.step (fun _ _ => True) {} start)
    (path : Path Session.step GoesOn start actions session) :
    Sliding first channel capacity session := by
  -- The queue is kept from step to step, behind the run that led to the connection.
  refine path.run.invariant sliding fun earlier goesOn stepped held => ?_
  have whole := reached.trans (earlier.weaken fun _ => trivial)
  exact held.step some_ (.of_run whole) (.of_run whole) goesOn (.of_step stepped)

/-- The commands sent on a connection are located as long as each of them finds room. -/
theorem Located.of_path (sliding : Sliding start.queue.length channel capacity start)
    (some_ : 0 < capacity) (reached : Run Session.step (fun _ _ => True) {} start)
    (path : Path Session.step GoesOn start actions session)
    (room : ∀ before after, start.SendsAmid actions before after → before.hasRoom = true)
    (since : start.queue.length ≤ queued) (inside : queued < session.queue.length) :
    session.Located channel queued := by
  -- The path grows at its end, and what has found room before still has.
  induction path with
  | nil => omega
  | @snoc earlier before after action path goesOn stepped held =>
    have whole := reached.trans (path.run.weaken fun _ => trivial)
    refine Located.step (sliding.of_path some_ reached path) some_ (.of_run whole) (.of_run whole)
      goesOn (.of_step stepped) ?_ (held ?_) inside
    · rintro command rfl open_ connected
      exact room before after ⟨earlier, command, [], rfl, path, stepped, open_, connected⟩
    · rintro before after ⟨first, command, later, rfl, sends⟩
      exact room before after ⟨first, command, later ++ [action], by simp, sends⟩

/-- What waits are the last commands that were accepted. -/
theorem Sliding.latest (sliding : Sliding first channel capacity session) :
    session.bufferOf channel <:+ session.acceptedSince first := by
  -- This is what a sliding queue is for.
  obtain ⟨-, -, -, from_, line, found, -, -, offered, waits⟩ := sliding
  have buffer : session.bufferOf channel = line.waiting := by simp [bufferOf, found, waits]
  rw [buffer, ← offered]
  exact line.latest

/-- Nobody completes a command that is evicted, so none may be. -/
theorem DropsOldest.room (promised : DropsOldest capacity start actions)
    (sliding : Sliding start.queue.length start.commands capacity start) (some_ : 0 < capacity)
    (reached : Run Session.step (fun _ _ => True) {} start) :
    ∀ before after, start.SendsAmid actions before after → before.hasRoom = true := by
  intro before after sends
  obtain ⟨earlier, command, later, rfl, path, stepped, open_, connected⟩ := id sends
  have whole := reached.trans (path.run.weaken fun _ => trivial)
  have sliding := sliding.of_path some_ reached path
  cases room : before.hasRoom with
  | true => rfl
  | false =>
    obtain ⟨queued, entry, waits, gone, entered, waiting⟩ :=
      sliding.evicts some_ (.of_run whole) (.of_run whole) open_ connected room command
    obtain rfl : before.send command = after := Option.some.inj stepped
    obtain ⟨entry', result, entered', completed, -⟩ :=
      promised.evicted before _ sends queued waits gone
    -- The one entry would be complete and incomplete.
    obtain rfl := Option.some.inj (entered.symm.trans entered')
    rw [waiting] at completed
    cases completed

/-- While there is room nothing has to be dropped. -/
theorem DropsOldest.of_room
    (sliding : Sliding start.queue.length start.commands capacity start) (some_ : 0 < capacity)
    (reached : Run Session.step (fun _ _ => True) {} start)
    (room : ∀ before after, start.SendsAmid actions before after → before.hasRoom = true) :
    DropsOldest capacity start actions := by
  have all {earlier : List Action} {before : Session}
      (path : Path Session.step GoesOn start earlier before) :
      Run Session.step (fun _ _ => True) {} before :=
    reached.trans (path.run.weaken fun _ => trivial)
  -- The order of the channel is that of the queue, and nothing is evicted from it.
  refine ⟨fun before after sends => ?_, fun before after sends queued waits gone => ?_, ?_⟩
  · obtain ⟨earlier, command, later, rfl, path, stepped, open_, connected⟩ := sends
    obtain rfl : before.send command = after := Option.some.inj stepped
    obtain ⟨sliding, buffer⟩ :=
      (sliding.of_path some_ reached path).send some_ (.of_run (all path)) command
    exact ⟨buffer open_ connected, sliding.latest⟩
  · have roomy := room before after sends
    obtain ⟨earlier, command, later, rfl, path, stepped, open_, connected⟩ := sends
    obtain rfl : before.send command = after := Option.some.inj stepped
    have sliding := sliding.of_path some_ reached path
    -- With room in the channel no command has to leave it.
    rcases sliding.send_cases some_ open_ connected command with ⟨-, short, -⟩ | ⟨noRoom, -⟩
    · have buffer := (sliding.send some_ (.of_run (all path)) command).2 open_ connected
      rw [SlidingQueue.rtake_concat_room _ short] at buffer
      rw [buffer] at gone
      exact absurd (List.mem_append_left _ waits) gone
    · simp [roomy] at noRoom
  · rintro earlier later session rfl path queued since inside
    refine Located.of_path sliding some_ reached path ?_ since inside
    rintro before after ⟨first, command, rest, rfl, sends⟩
    exact room before after ⟨first, command, rest ++ later, by simp, sends⟩

/--
The newest commands of a connection are kept, and none of them is dropped without notice.

This is so whatever is sent and taken in the course of it, exactly when every command that is sent
on the connected session finds room in the channel.
-/
theorem drops_oldest_iff {config : SerialConfig}
    (reached : Run Session.step (fun _ _ => True) {} session)
    (opens : session.opensBy action = true)
    (stepped : session.step action = some start) (connected : start.state = .connected config)
    (drops : start.config.any (fun config => config.queue.overflow == .dropOldest) = true)
    (actions : List Action) :
    DropsOldest config.queue.capacity.toNatClampNeg start actions ↔
      ∀ before after, start.SendsAmid actions before after → before.hasRoom = true := by
  have some_ := config.capacity_pos
  have started := reached.snoc trivial stepped
  have sliding := Sliding.opened opens stepped connected drops
  exact ⟨fun promised => promised.room sliding some_ started, .of_room sliding some_ started⟩

end Session

/-! A channel with room for one command, and a second command. -/

namespace Sample

/-- A call of `connect` that is just opening the transport. -/
def openingDropping : List Action :=
  .connect dropping :: List.replicate 2 (.resume (.connect 0) .resumes)

end Sample

namespace Session

variable {session : Session}

/-- The opening succeeds on a session that drops the oldest commands, and this holds afterwards. -/
def opensThen (session : Session) (holds : Session → Bool) : Bool :=
  session.opensBy (.resume (.connect 0) .resumes) &&
    (session.step (.resume (.connect 0) .resumes)).any fun start =>
      start.config.any (fun config => config.queue.overflow == .dropOldest) &&
        (start.state.isConnected && holds start)

/-- The test finds what comes behind a successful open. -/
theorem opensThen_iff {holds : Session → Bool} (test : session.opensThen holds = true) :
    session.opensBy (.resume (.connect 0) .resumes) = true ∧ ∃ start config,
      session.step (.resume (.connect 0) .resumes) = some start ∧
        start.state = .connected config ∧
        start.config.any (fun config => config.queue.overflow == .dropOldest) = true ∧
        holds start = true := by
  simp only [opensThen, Bool.and_eq_true] at test
  obtain ⟨opens, test⟩ := test
  obtain ⟨start, stepped, test⟩ := (Option.any_eq_true _ _).mp test
  simp only [Bool.and_eq_true] at test
  obtain ⟨drops, connected, holds⟩ := test
  -- The test asks for a connected session, so the other states do not pass it.
  cases state : start.state with
  | connected config => exact ⟨opens, start, config, stepped, state, drops, holds⟩
  | _ =>
    rw [state] at connected
    cases connected

/-- The first of two commands is evicted before the writer takes it, and nobody completes it. -/
theorem evicted_unnoticed :
    ¬∀ (session start finish : Session) (action : Action) (config : SerialConfig)
      (actions : List Action), Run Session.step (fun _ _ => True) {} session →
      session.opensBy action = true → session.step action = some start →
      start.state = .connected config →
      start.config.any (fun config => config.queue.overflow == .dropOldest) = true →
      Path Session.step GoesOn start actions finish →
      DropsOldest config.queue.capacity.toNatClampNeg start actions := by
  intro always
  obtain ⟨session, reached, test⟩ := Run.of_test
    (fun session => session.opensThen fun start =>
      let sent := start.send (Sample.command 1)
      !sent.terminal && sent.state.isConnected && !sent.hasRoom)
    (show (execute Session.step (fun _ _ => True) {} Sample.openingDropping).any _ = true by
      decide +kernel)
  obtain ⟨opens, start, config, stepped, connected, drops, test⟩ := opensThen_iff test
  simp only [Bool.and_eq_true, Bool.not_eq_true'] at test
  obtain ⟨⟨open_, connected'⟩, full⟩ := test
  -- The first command takes the only place, which the second one needs.
  have first : Path Session.step GoesOn start [.send (Sample.command 1)]
      (start.send (Sample.command 1)) := Path.nil.snoc ⟨rfl, rfl⟩ rfl
  have both : Path Session.step GoesOn start
      [.send (Sample.command 1), .send (Sample.command 2)]
      ((start.send (Sample.command 1)).send (Sample.command 2)) := first.snoc ⟨rfl, rfl⟩ rfl
  have promised := always session start _ _ config _ reached opens stepped connected drops both
  have room := promised.room (Sliding.opened opens stepped connected drops) config.capacity_pos
    (reached.snoc trivial stepped) _ _ ⟨_, _, [], rfl, first, rfl, open_, connected'⟩
  simp [full] at room

/-- A command that finds room is not dropped while the writer takes it. -/
theorem sent_undropped :
    ∃ (start : Session) (config : SerialConfig), start.state = .connected config ∧
      start.config.any (fun config => config.queue.overflow == .dropOldest) = true ∧
      DropsOldest config.queue.capacity.toNatClampNeg start
        (.send (Sample.command 1) :: Sample.writing 0) := by
  obtain ⟨session, reached, test⟩ := Run.of_test (fun session => session.opensThen hasRoom)
    (show (execute Session.step (fun _ _ => True) {} Sample.openingDropping).any _ = true by
      decide +kernel)
  obtain ⟨opens, start, config, stepped, connected, drops, room⟩ := opensThen_iff test
  refine ⟨start, config, connected, drops,
    (drops_oldest_iff reached opens stepped connected drops _).mpr ?_⟩
  rintro before after ⟨earlier, command, later, whole, path, -⟩
  -- The one command is sent at the very beginning.
  cases earlier with
  | nil =>
    rw [path.start_of_nil]
    exact room
  | cons action earlier =>
    have sends : Action.send command ∈ Sample.writing 0 := by
      rw [(List.cons.inj whole).2]
      simp
    simp [Sample.writing] at sends

end Session

end SerialPort
