import SerialPort.Session.Attempt
import SerialPort.Library.Custody
import SerialPort.Library.Transition

/-! Every command that waits is in one place: a channel, the hands of a writer, or the slot. -/

namespace SerialPort

/-- Who is going to complete the command, unless it is complete. -/
def QueuedCommand.custodian (entry : QueuedCommand) : Option Owner :=
  if entry.result.isNone then some entry.owner else none

namespace QueuedCommand

variable (entry : QueuedCommand)

@[simp]
theorem complete_command (result : CommandResult) :
    (entry.complete result).command = entry.command := by
  unfold complete
  split <;> rfl

@[simp]
theorem complete_owner (result : CommandResult) :
    (entry.complete result).owner = entry.owner := by
  unfold complete
  split <;> rfl

@[simp]
theorem complete_writtenOn (result : CommandResult) :
    (entry.complete result).writtenOn = entry.writtenOn := by
  unfold complete
  split <;> rfl

@[simp]
theorem complete_acceptedOn (result : CommandResult) :
    (entry.complete result).acceptedOn = entry.acceptedOn := by
  unfold complete
  split <;> rfl

@[simp]
theorem answer_command (data : Bytes) (chunk : Nat) :
    (entry.answer data chunk).command = entry.command := by
  unfold answer
  split <;> rfl

@[simp]
theorem answer_owner (data : Bytes) (chunk : Nat) :
    (entry.answer data chunk).owner = entry.owner := by
  unfold answer
  split <;> rfl

@[simp]
theorem answer_writtenOn (data : Bytes) (chunk : Nat) :
    (entry.answer data chunk).writtenOn = entry.writtenOn := by
  unfold answer
  split <;> rfl

@[simp]
theorem answer_acceptedOn (data : Bytes) (chunk : Nat) :
    (entry.answer data chunk).acceptedOn = entry.acceptedOn := by
  unfold answer
  split <;> rfl

end QueuedCommand

namespace Session

def custodian (session : Session) (queued : Nat) : Option Owner :=
  (session.queue[queued]?).bind QueuedCommand.custodian

/-- The commands waiting in a channel. -/
def bufferOf (session : Session) (channel : Nat) : List Nat :=
  ((session.channels[channel]?).map Channel.buffer).getD []

/-- The command in the hands of a writer. -/
def inHand (session : Session) (writer : Nat) : Option Nat :=
  (session.writers[writer]?).bind fun writer => writer.point.held

/-- The places that refer to a command. -/
def Holds (session : Session) : Owner → Nat → Prop
  | .channel channel, queued => queued ∈ session.bufferOf channel
  | .writer writer, queued => session.inHand writer = some queued
  | .response, queued => session.pendingResponse = some queued
  | _, _ => False

/-- Only requests wait for responses, and a timer is launched for each of them once. -/
structure Requests (session : Session) : Prop where
  matched : ∀ (queued : Nat) (entry : QueuedCommand), session.queue[queued]? = some entry →
    entry.owner = .response → entry.command.responseMatcher.isSome
  armed : ∀ timer ∈ session.timers,
    ∃ entry, session.queue[timer.queued]? = some entry ∧ entry.owner = .response
  once : (session.timers.map Timer.queued).Nodup

/-- A command that waits is in the place its owner says, and in no other. -/
structure Custody (session : Session) : Prop where
  sound : Custody.Sound session.Holds session.custodian
  distinct : ∀ channel, (session.bufferOf channel).Nodup
  requests : Requests session

variable {session next : Session} {index queued channel : Nat} {writer : Writer}

/-! The places after an update. -/

/-- The custodian of a command that waits is its owner. -/
theorem custodian_eq_some {owner : Owner} (waits : session.custodian queued = some owner) :
    ∃ entry, session.queue[queued]? = some entry ∧ entry.result = none ∧ entry.owner = owner := by
  -- A complete command has no custodian.
  obtain ⟨entry, entered, custodian⟩ := Option.bind_eq_some_iff.mp waits
  unfold QueuedCommand.custodian at custodian
  split at custodian
  · next waiting =>
    exact ⟨entry, entered, by simpa using waiting, Option.some.inj custodian⟩
  · cases custodian

/-- A change of one entry changes the custodian of no other command. -/
theorem custodian_modify {change : QueuedCommand → QueuedCommand}
    (changed : next.queue = session.queue.modify queued change) (other : Nat) :
    next.custodian other =
      if other = queued then
        (session.queue[queued]?).bind fun entry => (change entry).custodian
      else session.custodian other := by
  unfold custodian
  rw [changed, List.getElem?_modify]
  -- Only the entry that changed may have passed into other hands.
  by_cases same : other = queued
  · subst same
    simp
    cases session.queue[other]? <;> rfl
  · simp [same, Ne.symm same]

/-- A change of one channel changes no other buffer. -/
theorem bufferOf_modify {change : Channel → Channel}
    (changed : next.channels = session.channels.modify channel change) (other : Nat) :
    next.bufferOf other =
      if other = channel then
        ((session.channels[channel]?).map fun found => (change found).buffer).getD []
      else session.bufferOf other := by
  unfold bufferOf
  rw [changed, List.getElem?_modify]
  -- The other channels keep what they buffer.
  by_cases same : other = channel
  · subst same
    simp
    cases session.channels[other]? <;> rfl
  · simp [same, Ne.symm same]

/-- Without an oldest command nothing is in the buffer. -/
theorem empty_of_oldest (empty : session.oldest = none) :
    session.bufferOf session.commands = [] := by
  unfold bufferOf
  cases found : session.channels[session.commands]? with
  | none => rfl
  | some from_ => simpa [oldest, found] using empty

/-- A turn of one writer changes the hands of no other. -/
theorem inHand_set (found : session.writers[index]? = some writer) {turned : Writer}
    (changed : next.writers = session.writers.set index turned) (other : Nat) :
    next.inHand other = if other = index then turned.point.held else session.inHand other := by
  have inside : index < session.writers.length := (List.getElem?_eq_some_iff.mp found).1
  unfold inHand
  rw [changed, List.getElem?_set]
  -- Only the writer that was set may hold another command.
  by_cases same : other = index
  · subst same
    simp [inside]
  · simp [same, Ne.symm same]

/-- A writer has in hand what its point says. -/
theorem inHand_of_found (found : session.writers[index]? = some writer) :
    session.inHand index = writer.point.held := by
  unfold inHand
  rw [found]
  rfl

/-- The same writers have the same in hand. -/
theorem inHand_congr (writers : next.writers = session.writers) (other : Nat) :
    next.inHand other = session.inHand other := by
  unfold inHand
  rw [writers]

/-- The same channels have the same buffers. -/
theorem bufferOf_congr (channels : next.channels = session.channels) (other : Nat) :
    next.bufferOf other = session.bufferOf other := by
  unfold bufferOf
  rw [channels]

/-- Cancelling writers leaves their hands as they are. -/
theorem inHand_cancelWorkers (other : Nat) :
    session.cancelWorkers.inHand other = session.inHand other := by
  unfold inHand cancelWorkers cancelJob
  cases session.writer with
  | none => rfl
  -- A cancelled writer keeps its point and with it the command it holds.
  | some index =>
    simp only [List.getElem?_modify]
    by_cases same : index = other
    · subst same
      simp only [if_true]
      cases session.writers[index]? <;> rfl
    · simp [same]

/-- The end of the shutdown takes nothing out of any hand. -/
theorem inHand_shutdownFinished (other : Nat) :
    session.shutdownFinished.inHand other = session.inHand other := by
  simp only [inHand, shutdownFinished, List.getElem?_map]
  cases session.writers[other]? <;> rfl

/-- The transport that is closed takes nothing out of any buffer. -/
theorem bufferOf_shutdownClosed (other : Nat) :
    session.shutdownClosed.bufferOf other = session.bufferOf other := by
  rw [bufferOf_modify rfl]
  -- Closing a channel leaves what is buffered in it.
  split
  · next same =>
    subst same
    unfold bufferOf
    cases session.channels[session.commands]? <;> rfl
  · rfl

/-- A new connection has a new buffer and keeps the others. -/
theorem bufferOf_opened (config : SerialConfig) (other : Nat) :
    (session.opened config).bufferOf other = session.bufferOf other := by
  simp only [bufferOf, opened, startWorkers, emit, List.getElem?_append]
  -- The channel of a new connection is empty, and the ones before it stay where they are.
  split
  · rfl
  · next outside =>
    rw [List.getElem?_eq_none (by omega : session.channels.length ≤ other)]
    cases other - session.channels.length <;> simp

/-- A new writer has nothing in hand. -/
theorem inHand_opened (config : SerialConfig) (other : Nat) :
    (session.opened config).inHand other = session.inHand other := by
  simp only [inHand, opened, startWorkers, emit, List.getElem?_append]
  -- A new writer has nothing in its hands.
  split
  · rfl
  · next outside =>
    rw [List.getElem?_eq_none (by omega : session.writers.length ≤ other)]
    cases other - session.writers.length <;> simp [WriterPoint.held]

/-! The requests after an update of the queue. -/

namespace Requests

/-- A timer waits for a request, whatever becomes of the timers themselves. -/
theorem armed_of_map (requests : Requests session)
    (timers : next.timers.map Timer.queued = session.timers.map Timer.queued) (timer : Timer)
    (launched : timer ∈ next.timers) :
    ∃ entry, session.queue[timer.queued]? = some entry ∧ entry.owner = .response := by
  have launched : timer.queued ∈ session.timers.map Timer.queued :=
    timers ▸ List.mem_map_of_mem launched
  obtain ⟨timer', launched', same⟩ := List.mem_map.mp launched
  rw [← same]
  exact requests.armed timer' launched'

/-- A command has one timer at most. -/
theorem once_place (requests : Requests session) {place place' : Nat} {timer timer' : Timer}
    (found : session.timers[place]? = some timer) (found' : session.timers[place']? = some timer')
    (same : timer.queued = timer'.queued) : place = place' := by
  have inside : place < (session.timers.map Timer.queued).length := by
    rw [List.length_map]
    exact (List.getElem?_eq_some_iff.mp found).1
  -- The timers are different ones exactly when their commands are.
  refine (List.getElem?_inj inside requests.once).mp ?_
  rw [List.getElem?_map, List.getElem?_map, found, found', Option.map_some, Option.map_some, same]

/-- Where the queue and what the timers are for stay, the requests stay. -/
theorem congr (requests : Requests session) (queue : next.queue = session.queue)
    (timers : next.timers.map Timer.queued = session.timers.map Timer.queued) :
    Requests next where
  matched := by
    rw [queue]
    exact requests.matched
  armed := by
    rw [queue]
    exact requests.armed_of_map timers
  once := timers ▸ requests.once

/-- A change of one command that leaves its owner, or one that gives it to somebody else. -/
theorem modify (requests : Requests session) {change : QueuedCommand → QueuedCommand}
    (queue : next.queue = session.queue.modify queued change)
    (timers : next.timers.map Timer.queued = session.timers.map Timer.queued)
    (command : ∀ entry, (change entry).command = entry.command)
    (owner : ∀ entry, session.queue[queued]? = some entry →
      (change entry).owner = entry.owner ∨
        entry.owner ≠ .response ∧ (change entry).owner ≠ .response) :
    Requests next where
  matched := by
    -- Only the entry that changes may have become a request, and it has not.
    intro other entry entered waits
    rw [queue, List.getElem?_modify] at entered
    obtain ⟨before, found, rfl⟩ := Option.map_eq_some_iff.mp entered
    by_cases same : queued = other
    · subst same
      simp only [if_true] at waits ⊢
      rw [command]
      rcases owner before found with kept | ⟨-, given⟩
      · exact requests.matched queued before found (kept ▸ waits)
      · exact absurd waits given
    · simp only [same, if_false] at waits ⊢
      exact requests.matched other before found waits
  armed := by
    intro timer launched
    obtain ⟨entry, entered, waits⟩ := requests.armed_of_map timers timer launched
    rw [queue, List.getElem?_modify, entered]
    -- The entry of a timer is a request, and a request keeps its owner here.
    by_cases same : queued = timer.queued
    · subst same
      refine ⟨change entry, by simp, ?_⟩
      rcases owner entry entered with kept | ⟨other, -⟩
      · exact kept.trans waits
      · exact absurd waits other
    · exact ⟨entry, by simp [same], waits⟩
  once := timers ▸ requests.once

/-- A new command is no request yet. -/
theorem append (requests : Requests session) {entry : QueuedCommand}
    (queue : next.queue = session.queue ++ [entry]) (timers : next.timers = session.timers)
    (owner : entry.owner ≠ .response) : Requests next where
  matched := by
    intro other found entered waits
    rw [queue, List.getElem?_append] at entered
    split at entered
    · exact requests.matched other found entered waits
    · -- The new entry is in no response's hands yet.
      next outside =>
      obtain rfl : found = entry := List.mem_singleton.mp (List.mem_of_getElem? entered)
      exact absurd waits owner
  armed := by
    intro timer launched
    rw [timers] at launched
    obtain ⟨found, entered, waits⟩ := requests.armed timer launched
    have inside := (List.getElem?_eq_some_iff.mp entered).1
    exact ⟨found, by rw [queue, List.getElem?_append_left inside, entered], waits⟩
  once := timers ▸ requests.once

/-- A command is armed: from now on it is a request, and was none before. -/
theorem arm (requests : Requests session) {entry : QueuedCommand} {timeout : Duration}
    (entered : session.queue[queued]? = some entry)
    (matcher : entry.command.responseMatcher.isSome) (owner : entry.owner ≠ .response) :
    Requests (session.arm queued timeout) where
  matched := by
    -- The armed command has a matcher, and the others are as they were.
    intro other found entered' waits
    simp only [Session.arm, own, List.getElem?_modify] at entered'
    obtain ⟨before, there, rfl⟩ := Option.map_eq_some_iff.mp entered'
    by_cases same : queued = other
    · subst same
      obtain rfl : entry = before := Option.some.inj (entered.symm.trans there)
      simpa using matcher
    · simp only [same, if_false] at waits ⊢
      exact requests.matched other before there waits
  armed := by
    intro timer launched
    simp only [Session.arm, own, List.mem_append, List.mem_singleton] at launched ⊢
    rcases launched with launched | rfl
    · obtain ⟨found, entered', waits⟩ := requests.armed timer launched
      rw [List.getElem?_modify, entered']
      by_cases same : queued = timer.queued
      · exact ⟨{ found with owner := .response }, by simp [same], rfl⟩
      · exact ⟨found, by simp [same], waits⟩
    · rw [List.getElem?_modify, entered]
      exact ⟨{ entry with owner := .response }, by simp, rfl⟩
  once := by
    simp only [Session.arm, own, List.map_append, List.map_cons, List.map_nil]
    -- Whoever has a timer is a request already, and the armed command was none.
    refine List.nodup_append.mpr ⟨requests.once, by simp, ?_⟩
    intro first launched second new same
    subst same
    obtain ⟨timer, earlier, rfl⟩ := List.mem_map.mp launched
    obtain ⟨found, entered', waits⟩ := requests.armed timer earlier
    rw [List.mem_singleton.mp new, entered] at entered'
    cases entered'
    exact owner waits

end Requests

/-! The custody after an update. -/

/-- What is held in fewer places is held where it was held before. -/
theorem holds_of_fewer
    (buffers : ∀ channel, (next.bufferOf channel).Sublist (session.bufferOf channel))
    (hands : ∀ writer queued, next.inHand writer = some queued →
      session.inHand writer = some queued)
    (slot : ∀ queued, next.pendingResponse = some queued →
      session.pendingResponse = some queued) (place : Owner) (queued : Nat)
    (held : next.Holds place queued) : session.Holds place queued := by
  cases place with
  | channel channel => exact (buffers channel).subset held
  | writer writer => exact hands writer queued held
  | response => exact slot queued held
  | caller => exact held.elim
  | nobody => exact held.elim

/-- A writer holds the command in its hands. -/
theorem holds_of_hand (found : session.writers[index]? = some writer)
    (held : writer.point.held = some queued) : session.Holds (.writer index) queued :=
  (inHand_of_found found).trans held

namespace Custody

/-- Commands may leave their places. -/
theorem keep (custody : Custody session) (queue : next.queue = session.queue)
    (timers : next.timers.map Timer.queued = session.timers.map Timer.queued)
    (buffers : ∀ channel, (next.bufferOf channel).Sublist (session.bufferOf channel))
    (hands : ∀ writer queued, next.inHand writer = some queued →
      session.inHand writer = some queued)
    (slot : ∀ queued, next.pendingResponse = some queued →
      session.pendingResponse = some queued) : Custody next where
  sound := by
    -- The queue is the same, and so is everybody's custodian.
    refine custody.sound.keep (holds_of_fewer buffers hands slot) fun place token held => ?_
    unfold custodian
    rw [queue]
  distinct := fun channel => (buffers channel).nodup (custody.distinct channel)
  requests := custody.requests.congr queue timers

/-- The place that let go of a command was the only one that had it. -/
theorem free (custody : Custody session) {source : Owner} (held : session.Holds source queued)
    (fewer : ∀ place token, next.Holds place token → session.Holds place token)
    (gone : ¬next.Holds source queued) (place : Owner) : ¬next.Holds place queued := by
  -- Whoever refers to the command now did so before, and only one place could.
  intro kept
  obtain rfl := custody.sound.unique (fewer place queued kept) held
  exact gone kept

/-- A command that nobody refers to may change. -/
theorem touch (custody : Custody session) (free : ∀ place, ¬session.Holds place queued)
    {change : QueuedCommand → QueuedCommand}
    (queue : next.queue = session.queue.modify queued change)
    (channels : next.channels = session.channels) (writers : next.writers = session.writers)
    (timers : next.timers.map Timer.queued = session.timers.map Timer.queued)
    (slot : next.pendingResponse = session.pendingResponse)
    (command : ∀ entry, (change entry).command = entry.command)
    (owner : ∀ entry, session.queue[queued]? = some entry →
      (change entry).owner = entry.owner ∨
        entry.owner ≠ .response ∧ (change entry).owner ≠ .response) :
    Custody next := by
  have same (place : Owner) (token : Nat) (held : next.Holds place token) :
      session.Holds place token := by
    -- No place is touched, so the same places refer to the same commands.
    refine holds_of_fewer (fun channel => ?_) (fun writer token => ?_) (fun token => ?_)
      place token held
    · exact bufferOf_congr channels channel ▸ List.Sublist.refl _
    · rw [inHand_congr writers]
      exact id
    · rw [slot]
      exact id
  constructor
  case sound =>
    refine custody.sound.keep same fun place token held => ?_
    have different : token ≠ queued := fun moved => free place (moved ▸ same place token held)
    rw [custodian_modify queue, if_neg different]
  case distinct =>
    intro channel
    rw [bufferOf_congr channels]
    exact custody.distinct channel
  case requests => exact custody.requests.modify queue timers command owner

/-- A place takes a command that nobody refers to. -/
theorem gain (custody : Custody session) (free : ∀ place, ¬session.Holds place queued)
    {entry : QueuedCommand} (entered : session.queue[queued]? = some entry)
    {change : QueuedCommand → QueuedCommand}
    (queue : next.queue = session.queue.modify queued change)
    (waits : (change entry).result = none)
    (more : ∀ place token, next.Holds place token →
      session.Holds place token ∨ place = (change entry).owner ∧ token = queued)
    (distinct : ∀ channel, (next.bufferOf channel).Nodup) (requests : Requests next) :
    Custody next := by
  refine ⟨custody.sound.gain free more (funext fun token => ?_), distinct, requests⟩
  rw [custodian_modify queue]
  -- The record of the token that changed is the new one, and no other record changed.
  by_cases same : token = queued
  · subst same
    rw [if_pos rfl, entered, Function.update_self]
    simp [QueuedCommand.custodian, waits]
  · rw [if_neg same, Function.update_of_ne same]

/-- Nothing that refers to a command has changed. -/
theorem same (custody : Custody session) (queue : next.queue = session.queue)
    (channels : next.channels = session.channels) (writers : next.writers = session.writers)
    (timers : next.timers.map Timer.queued = session.timers.map Timer.queued)
    (slot : next.pendingResponse = session.pendingResponse) : Custody next := by
  refine custody.keep queue timers (fun channel => ?_) (fun writer token => ?_) (fun token => ?_)
  · exact bufferOf_congr channels channel ▸ List.Sublist.refl _
  · rw [inHand_congr writers]
    exact id
  · rw [slot]
    exact id

/-- A step that touches no command keeps the custody. -/
theorem untouched (custody : Custody session) (untouched : Untouched session next) :
    Custody next :=
  custody.same untouched.queue untouched.channels untouched.writers (by rw [untouched.timers])
    untouched.pendingResponse

/-- Cancelling the workers keeps the custody. -/
theorem cancelWorkers (custody : Custody session) : Custody session.cancelWorkers := by
  refine custody.keep rfl rfl (fun _ => List.Sublist.refl _) (fun writer token held => ?_)
    (fun _ => id)
  rw [← inHand_cancelWorkers]
  exact held

/-- A writer that goes on with its command, or gives it up. -/
theorem turned (custody : Custody session) (found : session.writers[index]? = some writer)
    {turned : Writer} (next_eq : Turned session index turned next)
    (hands : ∀ token, turned.point.held = some token → writer.point.held = some token) :
    Custody next := by
  obtain ⟨⟨state, events, rfl⟩, -⟩ := next_eq
  refine custody.keep rfl rfl (fun _ => List.Sublist.refl _) (fun other token held => ?_)
    (fun _ => id)
  rw [inHand_set found rfl] at held
  -- What the writer holds now it held before; nobody else has turned.
  split at held
  · next same =>
    subst same
    rw [inHand_of_found found]
    exact hands token held
  · exact held

/-- A command leaves the hands of its writer, and then nobody refers to it. -/
theorem release (custody : Custody session) (found : session.writers[index]? = some writer)
    (held : writer.point.held = some queued) {turned : Writer} (empty : turned.point.held = none) :
    Custody (session.setWriter index turned) ∧
      (∀ place, ¬(session.setWriter index turned).Holds place queued) ∧
      ∃ entry, session.queue[queued]? = some entry ∧ entry.result = none ∧
        entry.owner = .writer index := by
  have holder := holds_of_hand found held
  -- The turn puts the command down and picks nothing up.
  have fewer : ∀ place token,
      (session.setWriter index turned).Holds place token → session.Holds place token := by
    refine holds_of_fewer (fun _ => List.Sublist.refl _) (fun other token held => ?_) fun _ => id
    rw [inHand_set found rfl] at held
    split at held
    · simp [empty] at held
    · exact held
  -- Its only holder was the writer, whose hands are empty now.
  have gone : ¬(session.setWriter index turned).Holds (.writer index) queued := by
    intro kept
    have kept : (session.setWriter index turned).inHand index = some queued := kept
    rw [inHand_set found rfl, if_pos rfl, empty] at kept
    cases kept
  exact ⟨custody.turned found ⟨⟨session.state, session.events, rfl⟩, .inl rfl⟩ (by simp [empty]),
    custody.free holder fewer gone, custodian_eq_some (custody.sound _ _ holder)⟩

/-- The command in the hands of a writer is not complete. -/
theorem held_entry (custody : Custody session) (found : session.writers[index]? = some writer)
    (held : writer.point.held = some queued) :
    ∃ entry, session.queue[queued]? = some entry ∧ entry.result = none := by
  have holder := holds_of_hand found held
  obtain ⟨entry, entered, waits, -⟩ := custodian_eq_some (custody.sound _ _ holder)
  exact ⟨entry, entered, waits⟩

/-- A command in the hands of a writer has no result yet. -/
theorem held_waits (custody : Custody session) (found : session.writers[index]? = some writer)
    (held : writer.point.held = some queued) {entry : QueuedCommand}
    (entered : session.queue[queued]? = some entry) : entry.result = none := by
  obtain ⟨entry', entered', waits⟩ := custody.held_entry found held
  obtain rfl : entry' = entry := Option.some.inj (entered'.symm.trans entered)
  exact waits

/-- A writer completes its command and goes on without it. -/
theorem settled (custody : Custody session) (found : session.writers[index]? = some writer)
    (held : writer.point.held = some queued) {turned : Writer} (empty : turned.point.held = none)
    (result : CommandResult) :
    Custody ((session.complete queued result).setWriter index turned) := by
  obtain ⟨released, free, -⟩ := custody.release found held empty
  exact released.touch free rfl rfl rfl rfl rfl (by simp) fun entry _ => .inl (by simp)

/-- The command of a writer waits for its response, in the place of any other. -/
theorem armed (custody : Custody session) (found : session.writers[index]? = some writer)
    (held : writer.point.held = some queued) {turned : Writer} (empty : turned.point.held = none)
    {entry : QueuedCommand} (entered : session.queue[queued]? = some entry)
    (matcher : entry.command.responseMatcher.isSome) (timeout : Duration) :
    Custody ((session.arm queued timeout).setWriter index turned) := by
  -- The writer lets go of the command first, and then the slot takes it.
  obtain ⟨released, free, entry', entered', waits, owner⟩ := custody.release found held empty
  obtain rfl : entry' = entry := Option.some.inj (entered'.symm.trans entered)
  refine released.gain free entered' rfl waits (fun place token held => ?_) released.distinct
    (released.requests.arm entered' matcher (by simp [owner]))
  cases place with
  | channel channel => exact .inl held
  | writer other => exact .inl held
  | response => exact .inr ⟨rfl, (Option.some.inj held).symm⟩
  | caller => exact held.elim
  | nobody => exact held.elim

/-- The slot is emptied, and then nobody refers to the command that waited in it. -/
theorem vacate (custody : Custody session) (waits : session.pendingResponse = some queued) :
    Custody { session with pendingResponse := none } ∧
      ∀ place, ¬Session.Holds { session with pendingResponse := none } place queued := by
  have fewer : ∀ place token, Session.Holds { session with pendingResponse := none } place token →
      session.Holds place token :=
    holds_of_fewer (fun _ => List.Sublist.refl _) (fun _ _ => id) fun _ filled => by cases filled
  -- The slot was its only holder, and the slot is empty.
  have gone : ¬Session.Holds { session with pendingResponse := none } .response queued := by
    intro kept
    cases kept
  have holder : session.Holds .response queued := waits
  exact ⟨custody.keep rfl rfl (fun _ => List.Sublist.refl _) (fun _ _ => id)
    (fun _ filled => by cases filled), custody.free holder fewer gone⟩

/-- The first command leaves its channel, and then nobody refers to it. -/
theorem pull (custody : Custody session) {rest : List Nat}
    (buffered : session.bufferOf channel = queued :: rest)
    (pulled : next = { session with
      channels := session.channels.modify channel fun from_ =>
        { from_ with buffer := from_.buffer.tail } }) :
    Custody next ∧ (∀ place, ¬next.Holds place queued) ∧
      ∃ entry, next.queue[queued]? = some entry ∧ entry.result = none ∧
        entry.owner = .channel channel := by
  have tails (other : Nat) : next.bufferOf other =
      if other = channel then (session.bufferOf channel).tail else session.bufferOf other := by
    subst pulled
    rw [bufferOf_modify rfl]
    by_cases same : other = channel
    · simp only [same, if_true, bufferOf]
      cases session.channels[channel]? <;> rfl
    · simp [same]
  have shorter (other : Nat) : (next.bufferOf other).Sublist (session.bufferOf other) := by
    rw [tails]
    split
    · next same => exact same ▸ List.tail_sublist _
    · exact List.Sublist.refl _
  have holder : session.Holds (.channel channel) queued := by
    show queued ∈ session.bufferOf channel
    simp [buffered]
  have gone : ¬next.Holds (.channel channel) queued := by
    intro kept
    have kept : queued ∈ next.bufferOf channel := kept
    -- The commands in a channel are distinct: what has been taken is not in the rest of it.
    have distinct := custody.distinct channel
    rw [tails, if_pos rfl, buffered, List.tail_cons] at kept
    rw [buffered] at distinct
    exact (List.nodup_cons.mp distinct).1 kept
  have fewer : ∀ place token, next.Holds place token → session.Holds place token := by
    subst pulled
    exact holds_of_fewer shorter (fun _ _ => id) fun _ => id
  refine ⟨?_, custody.free holder fewer gone, ?_⟩
  · subst pulled
    exact custody.keep rfl rfl shorter (fun _ _ => id) fun _ => id
  · subst pulled
    exact custodian_eq_some (custody.sound _ _ holder)

/-- Refusing the oldest command keeps the custody. -/
theorem poll (custody : Custody session) : Custody session.poll := by
  unfold Session.poll
  cases oldest : session.oldest with
  | none => exact custody
  | some queued =>
    obtain ⟨from_, found, head⟩ := Option.bind_eq_some_iff.mp oldest
    obtain ⟨rest, buffered⟩ := List.head?_eq_some_iff.mp head
    have bufferOf : session.bufferOf session.commands = queued :: rest := by
      simp [Session.bufferOf, found, buffered]
    -- The evicted command is out of every place, and so its owner may change.
    obtain ⟨pulled, free, entry, entered, -, owner⟩ := custody.pull bufferOf rfl
    refine pulled.touch free rfl rfl rfl rfl rfl (fun _ => rfl) fun other entered' => .inr ?_
    obtain rfl : entry = other := Option.some.inj (entered.symm.trans entered')
    simp [owner]

/-- What is held behind a refusal was held before it. -/
theorem poll_holds (place : Owner) (token : Nat) :
    session.poll.Holds place token → session.Holds place token := by
  unfold Session.poll
  cases oldest : session.oldest with
  | none => exact id
  | some queued =>
    revert place token
    refine holds_of_fewer (fun channel => ?_) (fun _ _ => id) fun _ => id
    rw [bufferOf_modify rfl]
    split
    · -- The channel loses its oldest command and gains none.
      next same =>
      subst same
      unfold bufferOf
      cases session.channels[session.commands]? with
      | none => exact List.Sublist.refl _
      | some found => exact List.tail_sublist _
    · exact List.Sublist.refl _

/-- A command that nobody refers to stays as it is. -/
theorem poll_queue (free : ∀ place, ¬session.Holds place queued) :
    session.poll.queue[queued]? = session.queue[queued]? := by
  unfold Session.poll
  cases oldest : session.oldest with
  | none => rfl
  | some other =>
    obtain ⟨from_, found, head⟩ := Option.bind_eq_some_iff.mp oldest
    -- A free command is not the oldest one, which is in a channel.
    have different : other ≠ queued := by
      intro same
      refine free (.channel session.commands) ?_
      show queued ∈ session.bufferOf session.commands
      simp [bufferOf, found, ← same, List.mem_of_head? head]
    simp [own, different]

/-- Nobody refers to a command that is not there yet. -/
theorem free_new (custody : Custody session) (place : Owner) :
    ¬session.Holds place session.queue.length := by
  -- A place refers only to commands that are in the queue.
  intro held
  obtain ⟨entry, entered, -⟩ := custodian_eq_some (custody.sound _ _ held)
  simp at entered

/-- A new entry that waits for nothing keeps the custody. -/
theorem append (custody : Custody session) (entry : QueuedCommand)
    (owner : entry.owner ≠ .response) :
    Custody { session with queue := session.queue ++ [entry] } where
  sound := by
    refine custody.sound.keep
      (holds_of_fewer (fun _ => List.Sublist.refl _) (fun _ _ => id) fun _ => id) ?_
    intro place token held
    -- The commands that are referred to stay where they are in the queue.
    obtain ⟨before, entered, -⟩ := custodian_eq_some (custody.sound _ _ held)
    have inside := (List.getElem?_eq_some_iff.mp entered).1
    simp [custodian, List.getElem?_append_left inside]
  distinct := custody.distinct
  requests := custody.requests.append rfl rfl owner

/-- A command that is put into the buffer is held there. -/
theorem enqueue (custody : Custody session) (free : ∀ place, ¬session.Holds place queued)
    {entry : QueuedCommand} (entered : session.queue[queued]? = some entry)
    (waits : entry.result = none) (owner : entry.owner ≠ .response) :
    Custody (session.enqueue queued) := by
  have buffers (other : Nat) : (session.enqueue queued).bufferOf other =
      if other = session.commands ∧ other < session.channels.length then
        session.bufferOf other ++ [queued]
      else session.bufferOf other := by
    unfold Session.enqueue
    rw [bufferOf_modify rfl]
    -- Without a channel of the session nothing is buffered.
    by_cases same : other = session.commands
    · subst same
      by_cases inside : session.commands < session.channels.length
      · simp [Session.bufferOf, inside]
      · simp [Session.bufferOf, inside]
    · simp [same]
  -- The new command joins its channel as the last one, and was in none before.
  refine custody.gain free entered rfl waits (fun place token held => ?_) (fun other => ?_) ?_
  · cases place with
    | channel other =>
      have held : token ∈ (session.enqueue queued).bufferOf other := held
      rw [buffers] at held
      split at held
      · next same =>
        rcases List.mem_append.mp held with before | new
        · exact .inl before
        · exact .inr ⟨by rw [same.1], List.mem_singleton.mp new⟩
      · exact .inl held
    | writer other => exact .inl held
    | response => exact .inl held
    | caller => exact held.elim
    | nobody => exact held.elim
  · rw [buffers]
    split
    · refine List.nodup_append.mpr ⟨custody.distinct other, by simp, ?_⟩
      intro before there new added
      rw [List.mem_singleton.mp added]
      intro moved
      exact free (.channel other) (moved ▸ there)
    · exact custody.distinct other
  · refine custody.requests.modify rfl rfl (fun _ => rfl) fun other entered' => .inr ?_
    obtain rfl : entry = other := Option.some.inj (entered.symm.trans entered')
    exact ⟨owner, by simp⟩

/-- Sending keeps the custody. -/
theorem send (custody : Custody session) (command : SerialCommand) :
    Custody (session.send command) := by
  have appended := custody.append { command := command } (by simp)
  have free (place : Owner) :
      ¬Session.Holds { session with queue := session.queue ++ [{ command := command }] } place
        session.queue.length := custody.free_new place
  have entered : (session.queue ++ [{ command := command }])[session.queue.length]? =
      some { command := command } := by simp
  have refused (error : SerialError) (before : Session) (refusing : Custody before)
      (free : ∀ place, ¬before.Holds place session.queue.length) :
      Custody (before.complete session.queue.length (.failed error)) :=
    refusing.touch free rfl rfl rfl rfl rfl (by simp) fun _ _ => .inl (by simp)
  unfold Session.send
  simp only
  split
  · exact refused _ _ appended free
  split
  · exact refused _ _ appended free
  split
  · exact appended.enqueue free entered rfl (by simp)
  split
  · -- The evicted command is another one, so nobody refers to the new one still.
    have free_poll (place : Owner) := fun held => free place (poll_holds place _ held)
    split
    · exact appended.poll.enqueue free_poll ((poll_queue free).trans entered) rfl (by simp)
    · exact refused _ _ appended.poll free_poll
  · exact refused _ _ appended free

/-- A new connection has an empty channel and new workers, which hold nothing yet. -/
theorem opened (custody : Custody session) (config : SerialConfig) :
    Custody (session.opened config) := by
  refine custody.keep rfl rfl (fun channel => ?_) (fun writer token held => ?_) fun _ => id
  · exact session.bufferOf_opened config channel ▸ List.Sublist.refl _
  · rw [inHand_opened] at held
    exact held

/-- A command that a writer takes moves from the buffer to its hands. -/
theorem take (custody : Custody session) (found : session.writers[index]? = some writer)
    {rest : List Nat}
    (buffered : session.bufferOf channel = queued :: rest) (command : SerialCommand) :
    Custody (session.take index writer channel queued command) := by
  obtain ⟨pulled, free, entry, entered, waits, owner⟩ := custody.pull buffered rfl
  -- A command that comes out of a channel is no request.
  have notRequest (other : QueuedCommand) (entered' : session.queue[queued]? = some other) :
      other.owner ≠ .response := by
    obtain rfl : entry = other := Option.some.inj (entered.symm.trans entered')
    simp [owner]
  refine pulled.gain free entered rfl waits (fun place token held => ?_) pulled.distinct
    (pulled.requests.modify rfl rfl (fun _ => rfl) fun other entered' =>
      .inr ⟨notRequest other entered', by simp⟩)
  cases place with
  | channel other => exact .inl held
  | writer other =>
    have held : Session.inHand _ other = some token := held
    rw [inHand_set found rfl] at held
    split at held
    · next same =>
      -- A writer whose delay is too long to measure ends, and has the command no more.
      refine .inr ⟨by rw [same], ?_⟩
      unfold Writer.pausing at held
      cases millis : (writer.delayFor command).toMillis with
      | some millis => simpa [millis, WriterPoint.held, eq_comm] using held
      | none => simp [millis, WriterPoint.held] at held
    · exact .inl held
  | response => exact .inl held
  | caller => exact held.elim
  | nobody => exact held.elim

/-- A chunk keeps the custody: it takes a request out of the slot, or nothing. -/
theorem handleChunk (custody : Custody session) (reader : Reader) (data : Bytes)
    (link : Option Nat) : Custody (session.handleChunk index reader data link) := by
  rcases session.handleChunk_cases index reader data link with
    shape | ⟨queued, entry, waits, entered, accepts, shape⟩ <;> rw [shape]
  · -- Without a pending response, or without a match, the chunk is handed to nobody.
    exact custody.same rfl rfl rfl rfl rfl
  · obtain ⟨vacated, free⟩ := custody.vacate waits
    exact vacated.touch free rfl rfl rfl rfl rfl (by simp) fun entry _ => .inl (by simp)

/-- A timer stays a timer for its request. -/
theorem timers_set {timer : Timer} (found : session.timers[index]? = some timer) {turned : Timer}
    (same : turned.queued = timer.queued) :
    (session.timers.set index turned).map Timer.queued = session.timers.map Timer.queued := by
  obtain ⟨inside, rfl⟩ := List.getElem?_eq_some_iff.mp found
  rw [List.map_set, same, ← List.getElem_map Timer.queued, List.set_getElem_self]
  simpa using inside

/-- A timer that fires keeps the custody. -/
theorem timerFired (custody : Custody session) {timer : Timer}
    (found : session.timers[index]? = some timer) : Custody (session.timerFired index timer) := by
  unfold Session.timerFired
  split
  · -- The timer of the pending response times it out; any other one finds the slot taken.
    next waits =>
    obtain ⟨vacated, free⟩ := custody.vacate waits
    exact vacated.touch free rfl rfl rfl (timers_set found rfl) rfl (by simp)
      fun entry _ => .inl (by simp)
  · exact custody.same rfl rfl rfl (timers_set found rfl) rfl

/-- The end of the shutdown keeps the custody. -/
theorem shutdownFinished (custody : Custody session) : Custody session.shutdownFinished := by
  refine custody.keep rfl ?_ (fun _ => List.Sublist.refl _)
    (fun writer token held => ?_) fun _ => id
  · -- Cancelling a timer leaves the command it was launched for.
    show (session.timers.map Timer.cancel).map Timer.queued = session.timers.map Timer.queued
    rw [List.map_map]
    rfl
  · rw [inHand_shutdownFinished] at held
    exact held

/-- The transport that is closed keeps the custody. -/
theorem shutdownClosed (custody : Custody session) : Custody session.shutdownClosed := by
  refine custody.keep rfl rfl (fun channel => ?_) (fun _ _ => id) fun _ => id
  exact session.bufferOf_shutdownClosed channel ▸ List.Sublist.refl _

/-- What is only noted about a command does not move it. -/
theorem relabel (custody : Custody session) {change : QueuedCommand → QueuedCommand}
    (command : ∀ entry, (change entry).command = entry.command)
    (owner : ∀ entry, (change entry).owner = entry.owner)
    (result : ∀ entry, (change entry).result = entry.result) :
    Custody { session with queue := session.queue.modify queued change } where
  sound := by
    -- Neither the owner nor the result of the command changes, and so neither does its custodian.
    refine custody.sound.keep (fun _ _ => id) fun place token held => ?_
    rw [custodian_modify rfl]
    split
    · next same =>
      subst same
      unfold custodian
      cases session.queue[token]? with
      | none => rfl
      | some entry => simp [QueuedCommand.custodian, owner, result]
    · rfl
  distinct := custody.distinct
  requests := custody.requests.modify rfl rfl command fun entry _ => .inl (owner entry)

/-- Every move of a writer keeps the custody. -/
theorem inWriter (custody : Custody session) {outcome : Outcome}
    (found : session.writers[index]? = some writer)
    (moved : WriterMoves session index writer outcome next) : Custody next := by
  cases moved with
  | start at_ live =>
    -- A writer that has just started has nothing in its hands yet.
    exact custody.turned found ⟨⟨session.state, session.events, rfl⟩, .inl rfl⟩
      (by simp [WriterPoint.held])
  | take at_ bound there buffered entered =>
    exact custody.take found (by simp [bufferOf, there, buffered]; rfl) _
  | drained at_ bound there buffered closed =>
    exact custody.turned found ⟨⟨session.state, session.events, rfl⟩, .inl rfl⟩
      (by simp [WriterPoint.held])
  | begin at_ entered live =>
    exact custody.turned found beginWriting_turned fun token held => by
      rw [at_, ← Writer.began_held held]
      rfl
  | @written queued attempt link entry length buffer at_ entered live =>
    -- Noting the link does not move the command, which stays in its writer's hands.
    have relabeled : Custody { session with
        queue := session.queue.modify queued fun entry =>
          { entry with writtenOn := if link = session.link then link else none } } :=
      custody.relabel (fun _ => rfl) (fun _ => rfl) fun _ => rfl
    exact relabeled.turned found ⟨⟨session.state, session.events, rfl⟩, .inl rfl⟩
      fun token held => by
        rw [at_]
        exact held
  | resumed at_ entered live =>
    exact custody.turned found (attemptEnded_turned _) fun token held => by
      rw [at_, ← Writer.attempted_held _ held]
      rfl
  | attempted at_ entered missed ended =>
    exact custody.turned found (attemptEnded_turned _) fun token held => by
      rw [Writer.held_of_tries at_, Writer.attempted_held _ held]
  | retry at_ entered live =>
    exact custody.turned found beginAttempt_turned fun token held => by
      rw [at_, ← Writer.attempting_held held]
      rfl
  | @reported queued entry result at_ entered =>
    have held : writer.point.held = some queued := by
      rw [at_]
      rfl
    unfold report
    simp only
    split
    · next request =>
      -- A request that was written goes from the writer's hands to the slot.
      simp only [Bool.and_eq_true] at request
      exact custody.armed found held rfl entered request.2 _
    · exact custody.settled found held rfl result
  | failChanged at_ =>
    -- The failure is announced with the command still in hand, and settled in the next turn.
    exact custody.turned found ⟨⟨session.state, _, rfl⟩, .inl rfl⟩ fun token held => by
      rw [at_]
      exact held
  | @failSettled queued error at_ =>
    have held : writer.point.held = some queued := by
      rw [at_]
      rfl
    have settled := custody.untouched .failSettle
    have found : session.failSettle.writers[index]? = some writer := by
      rw [Untouched.failSettle.writers]
      exact found
    exact settled.settled found held rfl _
  | cancelled open_ cancelled =>
    -- Cancelled at its suspension, the writer drops its command without completing it.
    exact custody.turned found ⟨⟨session.state, session.events, rfl⟩, .inl rfl⟩
      (by simp [WriterPoint.held])

/-- Every step keeps the commands in their places. -/
theorem step (custody : Custody session) {action : Action} (moved : Moves session action next) :
    Custody next := by
  rcases moved.untouched_or_custodial with untouched | custodial
  · exact custody.untouched untouched
  cases custodial with
  | send command => exact custody.send command
  | disconnectStrike found at_ =>
    -- `callClose` and the point of the call move no command.
    exact custody.cancelWorkers.poll.untouched (.trans .callClose (.setDisconnect _ _))
  | shutdownStrike at_ => exact custody.cancelWorkers.same rfl rfl rfl rfl rfl
  | shutdownClosed at_ => exact custody.shutdownClosed
  | shutdownFinished at_ => exact custody.shutdownFinished
  | @connectOpened index connect found at_ =>
    have configured : Custody { session with config := some connect.config } :=
      custody.same rfl rfl rfl rfl rfl
    exact (configured.opened connect.config).untouched (.setConnect _ _)
  | loopStrike found at_ live =>
    exact custody.cancelWorkers.untouched (.trans .callClose (.setLoop _ _))
  | loopOpened found at_ => exact (custody.opened _).untouched (.setLoop _ _)
  | chunk found at_ positive => exact custody.handleChunk _ _ _
  | inWriter found moved => exact custody.inWriter found moved
  | inTimer found moved =>
    cases moved with
    | fired at_ live fits => exact custody.timerFired found
    | overflowed at_ live beyond => exact custody.same rfl rfl rfl (timers_set found rfl) rfl
    | cancelled at_ cancelled => exact custody.same rfl rfl rfl (timers_set found rfl) rfl

/-- Before the first command there is nothing to hold. -/
theorem initial : Custody ({} : Session) where
  -- There is no channel, writer or slot yet that could hold a command.
  sound := by
    intro place token held
    cases place with
    | channel channel => cases channel <;> simp [Holds, bufferOf] at held
    | writer writer => simp [Holds, inHand] at held
    | response => cases held
    | caller => exact held.elim
    | nobody => exact held.elim
  distinct := by
    intro channel
    cases channel <;> simp [bufferOf]
  requests := ⟨by simp, by simp, by simp⟩

/-- In every reachable state each waiting command is where its owner says. -/
theorem of_run {allowed : Session → Action → Prop}
    (run : Transition.Run Session.step allowed {} session) : Custody session :=
  run.invariant initial fun _ _ stepped custody => custody.step (.of_step stepped)

end Custody

end Session

end SerialPort
