import SerialPort.Session.Coroutines
import SerialPort.Session.History
import SerialPort.Session.Orderly

/-! What has become of the commands a writer took. -/

namespace SerialPort

/-- The commands the writer is done with. -/
def Writer.done (writer : Writer) : List Nat :=
  match writer.point with
  | .dispatch => writer.taken
  | .receiving => writer.taken
  | _ => writer.taken.dropLast

namespace Writer

variable {writer turned : Writer} {queued other : Nat}

/-- What a writer is done with it has taken. -/
theorem done_taken (finished : queued ∈ writer.done) : queued ∈ writer.taken := by
  unfold done at finished
  split at finished
  · exact finished
  · exact finished
  · exact List.dropLast_subset _ finished

/-- It is not done with what it holds. -/
theorem done_of_held (held : writer.point.held = some queued) :
    writer.done = writer.taken.dropLast := by
  unfold done
  cases at_ : writer.point <;> simp [at_, WriterPoint.held] at held <;> rfl

/-- Nor with what it is engaged in. -/
theorem done_of_engaged (engaged : writer.point ≠ .dispatch ∧ writer.point ≠ .receiving) :
    writer.done = writer.taken.dropLast := by
  unfold done
  cases at_ : writer.point <;> simp [at_] at engaged <;> rfl

/-- The writer is not done with the command in its hands. -/
theorem Orderly.held_not_done (orderly : Orderly writer) (held : writer.point.held = some queued) :
    queued ∉ writer.taken.dropLast := by
  -- The command in the hands is the last one taken, and all others were done before.
  obtain ⟨earlier, taken⟩ := List.getLast?_eq_some_iff.mp (orderly.last queued held)
  have distinct := orderly.distinct
  rw [taken] at distinct ⊢
  rw [List.dropLast_concat]
  exact fun listed => (List.nodup_append.mp distinct).2.2 queued listed queued (by simp) rfl

/-- An attempt for one command leaves the outcome of every other as it is. -/
theorem outcome_other (different : queued ≠ other)
    (attempts : turned.attempts = writer.attempts ∨
      ∃ result, turned.attempts = writer.attempts ++ [(queued, result)]) :
    turned.outcome other = writer.outcome other := by
  unfold outcome results
  rcases attempts with same | ⟨result, added⟩
  · rw [same]
  · rw [added, Grouped.entries_append_other different]

end Writer

/-- A command that has left the channels never returns to one. -/
structure QueuedCommand.Handed (before after : QueuedCommand) : Prop where
  writer : ∀ {index : Nat}, before.owner = .writer index →
    after.owner = .writer index ∨ after.owner = .response
  response : before.owner = .response → after.owner = .response

/-- A command that keeps its owner returns to no channel. -/
theorem QueuedCommand.Handed.of_owner {before after : QueuedCommand}
    (owner : after.owner = before.owner) : QueuedCommand.Handed before after :=
  ⟨fun held => .inl (owner.trans held), fun waits => owner.trans waits⟩

namespace Session

/-- Every command of the one session is in the other, with an owner it can have by then. -/
def Handed (session next : Session) : Prop :=
  ∀ (queued : Nat) (before : QueuedCommand), session.queue[queued]? = some before →
    ∃ after, next.queue[queued]? = some after ∧ QueuedCommand.Handed before after

variable {session next : Session} {index queued : Nat} {writer : Writer}

/-- A command is handed on from where it waits. -/
theorem EntryMoves.handed (custody : Custody session) {before after : QueuedCommand}
    (entered : session.queue[queued]? = some before)
    (moved : EntryMoves session next queued before after) : QueuedCommand.Handed before after := by
  -- Whoever holds a command is recorded as its owner.
  have owner {place : Owner} (held : session.Holds place queued) : before.owner = place := by
    obtain ⟨entry, there, -, owner⟩ := custodian_eq_some (custody.sound place queued held)
    obtain rfl : entry = before := Option.some.inj (there.symm.trans entered)
    exact owner
  cases moved with
  | discarded held =>
    have waits := owner (show session.Holds (.channel session.commands) queued from held)
    exact ⟨fun other => by simp [waits] at other, fun other => by simp [waits] at other⟩
  | @taken index channel writer found bound held =>
    have waits := owner (show session.Holds (.channel channel) queued from held)
    exact ⟨fun other => by simp [waits] at other, fun other => by simp [waits] at other⟩
  | armed found at_ => exact ⟨fun _ => .inr rfl, fun _ => rfl⟩
  | same => exact .of_owner rfl
  | written found at_ => exact .of_owner rfl
  | reported found at_ => exact .of_owner (by simp)
  | failed found at_ => exact .of_owner (by simp)
  | timedOut timeout => exact .of_owner (by simp)
  | answered found at_ waits chunk => exact .of_owner (by simp)

namespace Handed

/-- Every step hands the commands on in the direction they can go. -/
theorem of_moves (custody : Custody session) {action : Action}
    (moved : Moves session action next) : Handed session next := by
  intro queued before entered
  obtain ⟨after, entered', moved⟩ := (EntriesMove.of_moves moved).old queued before entered
  exact ⟨after, entered', moved.handed custody entered⟩

end Handed

/-- What a writer took stays with it, or waits for a response, and what it is done with has the
outcome of its own attempts. -/
structure Served (session : Session) (index : Nat) (writer : Writer) : Prop where
  orderly : writer.Orderly
  taken : ∀ queued ∈ writer.taken, ∃ entry, session.queue[queued]? = some entry ∧
    (entry.owner = .writer index ∨ entry.owner = .response)
  settled : ∀ queued ∈ writer.done, ∀ entry, session.queue[queued]? = some entry →
    entry.command.responseMatcher = none → entry.result = some (writer.outcome queued)

namespace Served

variable {turned : Writer}

/-- A turn of the writer that adds nothing to what it is done with. -/
theorem turn (served : Served session index writer) (handed : Handed session next)
    (evolves : Evolves session next) (orderly : turned.Orderly)
    (taken : turned.taken = writer.taken)
    (done : ∀ queued ∈ turned.done,
      queued ∈ writer.done ∧ turned.outcome queued = writer.outcome queued) :
    Served next index turned where
  orderly := orderly
  taken := by
    intro queued listed
    -- A command of the writer stays with it or goes to the slot, and from there nowhere else.
    obtain ⟨before, entered, owner⟩ := served.taken queued (taken ▸ listed)
    obtain ⟨after, entered', handed⟩ := handed queued before entered
    refine ⟨after, entered', ?_⟩
    rcases owner with held | waits
    · exact handed.writer held
    · exact .inr (handed.response waits)
  settled := by
    intro queued finished after entered' matcher
    -- A result that is there stays the same, and so does the outcome of the attempts.
    obtain ⟨finished, outcome⟩ := done queued finished
    obtain ⟨before, entered, -⟩ := served.taken queued (Writer.done_taken finished)
    obtain ⟨after', entered'', evolved⟩ := evolves queued before entered
    obtain rfl : after' = after := Option.some.inj (entered''.symm.trans entered')
    have settled := served.settled queued finished before entered (evolved.command ▸ matcher)
    rw [outcome, ← settled]
    exact (evolved.settled (by rw [settled]; rfl)).1

/-- What was served stays served. -/
theorem keep (served : Served session index writer) (handed : Handed session next)
    (evolves : Evolves session next) : Served next index writer :=
  served.turn handed evolves served.orderly rfl fun _ finished => ⟨finished, rfl⟩

/-- A writer that is cancelled has served what it has served. -/
theorem cancel (served : Served session index writer) : Served session index writer.cancel where
  orderly := served.orderly.cancel
  taken := served.taken
  settled := served.settled

/-- The attempts for the command in the writer's hands go on. -/
theorem attempt (served : Served session index writer) (handed : Handed session next)
    (evolves : Evolves session next) (orderly : turned.Orderly) (kept : Writer.Kept writer turned)
    (held : writer.point.held = some queued)
    (engaged : turned.point ≠ .dispatch ∧ turned.point ≠ .receiving)
    (attempts : turned.attempts = writer.attempts ∨
      ∃ result, turned.attempts = writer.attempts ++ [(queued, result)]) :
    Served next index turned := by
  refine served.turn handed evolves orderly kept.taken fun other finished => ?_
  rw [Writer.done_of_engaged engaged, kept.taken] at finished
  rw [Writer.done_of_held held]
  -- The attempts concern the command in the hands, with which the writer is not done.
  have different : queued ≠ other := fun same =>
    served.orderly.held_not_done held (same ▸ finished)
  exact ⟨finished, Writer.outcome_other different attempts⟩

/-- The writer is done with the command in its hands, which has the outcome of the attempts. -/
theorem conclude (served : Served session index writer) (handed : Handed session next)
    (evolves : Evolves session next) (held : writer.point.held = some queued)
    (settled : ∀ entry, next.queue[queued]? = some entry →
      entry.command.responseMatcher = none → entry.result = some (writer.outcome queued)) :
    Served next index { writer with point := .receiving } := by
  have kept := served.keep handed evolves
  refine ⟨served.orderly.idle rfl, kept.taken, fun other finished entry entered matcher => ?_⟩
  obtain ⟨earlier, taken⟩ := List.getLast?_eq_some_iff.mp (served.orderly.last queued held)
  have finished : other ∈ writer.taken := finished
  rw [taken] at finished
  -- Taken earlier and done before, or the one that this step concludes.
  rcases List.mem_append.mp finished with before | last
  · have done : other ∈ writer.done := by
      rw [Writer.done_of_held held, taken, List.dropLast_concat]
      exact before
    exact kept.settled other done entry entered matcher
  · obtain rfl := List.mem_singleton.mp last
    exact settled entry entered matcher

/-- A writer that starts has taken nothing more, and waits for its first command. -/
theorem start (served : Served session index writer) (handed : Handed session next)
    (evolves : Evolves session next) (at_ : writer.point = .dispatch) (channel : Option Nat) :
    Served next index { writer with point := .receiving, channel := channel } := by
  have orderly : Writer.Orderly { writer with point := .receiving, channel := channel } :=
    ⟨served.orderly.distinct, served.orderly.inOrder, served.orderly.ofAttempt,
      by simp [WriterPoint.held], trivial⟩
  refine served.turn handed evolves orderly rfl fun queued finished => ⟨?_, rfl⟩
  simpa [Writer.done, at_] using finished

/-- A writer that ends is done with nothing more than before. -/
theorem finish (served : Served session index writer) (handed : Handed session next)
    (evolves : Evolves session next) : Served next index { writer with point := .finished } := by
  refine served.turn handed evolves (served.orderly.idle rfl) rfl fun queued finished => ⟨?_, rfl⟩
  have finished : queued ∈ writer.taken.dropLast := finished
  -- A writer without a command is done with all it took, and any other with all but the last.
  unfold Writer.done
  split
  · exact List.dropLast_subset _ finished
  · exact List.dropLast_subset _ finished
  · exact finished

/-- The command a writer takes is its own from then on, and it has not taken it before. -/
theorem take (served : Served session index writer) (custody : Custody session) {channel : Nat}
    {command : SerialCommand}
    (handed : Handed session (session.take index writer channel queued command))
    (evolves : Evolves session (session.take index writer channel queued command))
    (at_ : writer.point = .receiving) (buffered : queued ∈ session.bufferOf channel) :
    Served (session.take index writer channel queued command) index
      { writer with
        point := writer.pausing queued command
        taken := writer.taken ++ [queued] } := by
  -- The command comes from a channel, so no writer owns it yet.
  have holder : session.Holds (.channel channel) queued := buffered
  obtain ⟨before, entered, -, owner⟩ := custodian_eq_some (custody.sound _ _ holder)
  have fresh : queued ∉ writer.taken := by
    intro listed
    obtain ⟨before', entered', owner'⟩ := served.taken queued listed
    obtain rfl : before = before' := Option.some.inj (entered.symm.trans entered')
    rcases owner' with held | waits <;> simp_all
  refine ⟨served.orderly.take fresh, fun other listed => ?_, fun other finished => ?_⟩
  · rcases List.mem_append.mp listed with earlier | new
    · exact (served.keep handed evolves).taken other earlier
    · obtain rfl := List.mem_singleton.mp new
      refine ⟨{ before with owner := .writer index }, ?_, .inl rfl⟩
      simp [Session.take, own, setWriter, entered]
  · -- The writer is not done with the command it has just taken.
    have engaged : writer.pausing queued command ≠ .dispatch ∧
        writer.pausing queued command ≠ .receiving := by
      unfold Writer.pausing
      cases (writer.delayFor command).toMillis <;> exact ⟨by simp, by simp⟩
    rw [Writer.done_of_engaged engaged, List.dropLast_concat] at finished
    exact (served.keep handed evolves).settled other (by simpa [Writer.done, at_] using finished)

/-- The pause before the attempts is over, and the first one begins. -/
theorem begin (served : Served session index writer) (handed : Handed session next)
    (evolves : Evolves session next) {command : SerialCommand} {link : Option Nat}
    (at_ : writer.point = .delaying queued) :
    Served next index (writer.began queued command link) := by
  have held : writer.point.held = some queued := by rw [at_]; rfl
  have progress := served.orderly.progress
  rw [at_] at progress
  refine served.attempt handed evolves ((served.orderly.engaged held).began progress)
    Writer.began_kept held Writer.began_engaged ?_
  -- Beginning logs nothing, or the one failure that comes before a write.
  rcases Writer.began_attempts with same | ⟨error, added⟩
  · exact .inl same
  · exact .inr ⟨_, added⟩

/-- An attempt ends, and its outcome is logged. -/
theorem attempted (served : Served session index writer) (handed : Handed session next)
    (evolves : Evolves session next) {command : SerialCommand} {attempt : Nat}
    {result : CommandResult} (tries : writer.point.tries = some (queued, attempt))
    (ofAttempt : result.OfAttempt) :
    Served next index (writer.attempted queued command attempt result) := by
  have held := Writer.held_of_tries tries
  exact served.attempt handed evolves
    ((served.orderly.engaged held).attempted (served.orderly.tries tries) ofAttempt)
    (Writer.attempted_kept _) held (Writer.attempted_engaged _)
    (.inr ⟨_, Writer.attempted_attempts _⟩)

/-- The pause between two attempts is over, and the next one begins. -/
theorem retry (served : Served session index writer) (handed : Handed session next)
    (evolves : Evolves session next) {command : SerialCommand} {attempt : Nat} {link : Option Nat}
    (at_ : writer.point = .retrying queued attempt) :
    Served next index (writer.attempting queued command attempt link) := by
  have held : writer.point.held = some queued := by rw [at_]; rfl
  have progress := served.orderly.progress
  rw [at_] at progress
  refine served.attempt handed evolves ((served.orderly.engaged held).attempting progress)
    Writer.attempting_kept held Writer.attempting_engaged ?_
  -- As at the beginning, the call may fail before it writes.
  rcases Writer.attempting_attempts with same | ⟨error, added⟩
  · exact .inl same
  · exact .inr ⟨_, added⟩

/-- The writer goes on with the command in its hands, and logs no attempt. -/
theorem proceed (served : Served session index writer) (handed : Handed session next)
    (evolves : Evolves session next) {point : WriterPoint}
    (held : writer.point.held = some queued) (holds : point.held = some queued)
    (progress : writer.Progress point) : Served next index { writer with point := point } := by
  have orderly : Writer.Orderly { writer with point := point } :=
    (served.orderly.engaged held).point
      (fun _ there => (Option.some.inj (holds.symm.trans there)).symm) progress
  have engaged : point ≠ .dispatch ∧ point ≠ .receiving := by
    constructor <;> rintro rfl <;> cases holds
  exact served.attempt handed evolves orderly ⟨rfl, rfl, rfl, rfl, rfl⟩ held engaged (.inl rfl)

/-- A report completes the command with the outcome of its attempts, unless it is a request. -/
theorem reported (served : Served session index writer) (custody : Custody session)
    (found : session.writers[index]? = some writer) {entry : QueuedCommand} {result : CommandResult}
    (at_ : writer.point = .reporting queued result)
    (entered : session.queue[queued]? = some entry)
    (handed : Handed session (session.report index writer queued entry.command result))
    (evolves : Evolves session (session.report index writer queued entry.command result)) :
    Served (session.report index writer queued entry.command result) index
      { writer with point := .receiving } := by
  have held : writer.point.held = some queued := by rw [at_]; rfl
  have progress := served.orderly.progress
  rw [at_] at progress
  have waits := custody.held_waits found held entered
  refine served.conclude handed evolves held fun other there matcher => ?_
  -- A command that is armed has a matcher.
  unfold report at there
  simp only at there
  split at there
  · next request =>
    simp only [setWriter, arm, own, List.getElem?_modify, entered] at there
    obtain rfl := Option.some.inj there
    simp_all
  · simp only [setWriter, complete, List.getElem?_modify, entered] at there
    obtain rfl := Option.some.inj there
    simp [QueuedCommand.complete, waits, progress.1]

/-- A command that has failed is completed with the failure of its last attempt. -/
theorem failed (served : Served session index writer) (custody : Custody session)
    (found : session.writers[index]? = some writer) {error : SerialError}
    (at_ : writer.point = .failing queued error .changed)
    (handed : Handed session (session.writerFailed index writer queued error))
    (evolves : Evolves session (session.writerFailed index writer queued error)) :
    Served (session.writerFailed index writer queued error) index
      { writer with point := .receiving } := by
  have held : writer.point.held = some queued := by rw [at_]; rfl
  have progress := served.orderly.progress
  rw [at_] at progress
  obtain ⟨entry, entered, waits⟩ := custody.held_entry found held
  refine served.conclude handed evolves held fun other there matcher => ?_
  -- The command fails with the result that the writer has logged last.
  simp only [writerFailed, setWriter, complete, List.getElem?_modify,
    Untouched.failSettle.queue, entered] at there
  obtain rfl := Option.some.inj there
  simp [QueuedCommand.complete, waits]
  exact progress

end Served

/-- Every writer has served the commands it took. -/
def AllServed (session : Session) : Prop :=
  ∀ (index : Nat) (writer : Writer), session.writers[index]? = some writer →
    Served session index writer

namespace AllServed

/-- One writer has taken a turn. -/
theorem set (served : AllServed session) (handed : Handed session next)
    (evolves : Evolves session next) {turned : Writer}
    (writers : next.writers = session.writers.set index turned)
    (turns : Served next index turned) : AllServed next := by
  intro other writer found
  rw [writers, List.getElem?_set] at found
  split at found
  · -- The writer that turned; the others only see what has evolved.
    next same =>
    subst same
    split at found
    · obtain rfl := Option.some.inj found
      exact turns
    · cases found
  · exact (served other writer found).keep handed evolves

/-- A turn of a writer keeps all of them serving their commands. -/
theorem inWriter (served : AllServed session) (custody : Custody session) {outcome : Outcome}
    (found : session.writers[index]? = some writer)
    (moved : WriterMoves session index writer outcome next) : AllServed next := by
  have handed := Handed.of_moves custody (.inWriter found moved)
  have evolves := Evolves.of_moves (.inWriter found moved)
  have mine := served index writer found
  cases moved with
  | start at_ live => exact served.set handed evolves rfl (mine.start handed evolves at_ _)
  | take at_ bound there buffered entered =>
    exact served.set handed evolves rfl
      (mine.take custody handed evolves at_ (by simp [bufferOf, there, buffered]))
  | drained at_ bound there buffered closed =>
    exact served.set handed evolves rfl (mine.finish handed evolves)
  | begin at_ entered live =>
    exact served.set handed evolves (Turned.writers beginWriting_turned)
      (mine.begin handed evolves at_)
  | written at_ entered live =>
    -- The attempt is not over before the writer is resumed.
    refine served.set handed evolves rfl (mine.proceed handed evolves (by rw [at_]; rfl) rfl ?_)
    exact mine.orderly.tries (by rw [at_]; rfl)
  | resumed at_ entered live =>
    exact served.set handed evolves (Turned.writers (attemptEnded_turned _))
      (mine.attempted handed evolves (by rw [at_]; rfl) trivial)
  | attempted tries entered missed ended =>
    refine served.set handed evolves (Turned.writers (attemptEnded_turned _))
      (mine.attempted handed evolves tries ?_)
    rcases ended with ⟨message, -, rfl⟩ | ⟨-, rfl⟩ <;> trivial
  | retry at_ entered live =>
    exact served.set handed evolves (Turned.writers beginAttempt_turned)
      (mine.retry handed evolves at_)
  | reported at_ entered =>
    exact served.set handed evolves (report_writers _)
      (mine.reported custody found at_ entered handed evolves)
  | failChanged at_ =>
    have progress := mine.orderly.progress
    rw [at_] at progress
    exact served.set handed evolves rfl
      (mine.proceed handed evolves (by rw [at_]; rfl) rfl progress)
  | failSettled at_ =>
    exact served.set handed evolves (writerFailed_writers _)
      (mine.failed custody found at_ handed evolves)
  | cancelled open_ cancelled => exact served.set handed evolves rfl (mine.finish handed evolves)

/-- Every step keeps the writers serving their commands. -/
theorem step (served : AllServed session) (custody : Custody session) {action : Action}
    (moved : Moves session action next) : AllServed next := by
  have handed := Handed.of_moves custody moved
  have evolves := Evolves.of_moves moved
  intro index after there
  rcases moved.writer there with
    ⟨before, found, rfl | rfl⟩ | ⟨before, outcome, found, rfl, turns⟩ | ⟨-, -, config, rfl⟩
  · exact (served index after found).keep handed evolves
  · exact ((served index before found).keep handed evolves).cancel
  · exact served.inWriter custody found turns index after there
  · -- A new writer has not taken anything yet.
    exact ⟨.initial, by simp, by simp [Writer.done]⟩

/-- In every reachable state each writer has served the commands it took. -/
theorem of_run {allowed : Session → Action → Prop}
    (run : Transition.Run Session.step allowed {} session) : AllServed session :=
  run.invariant (by simp [AllServed]) fun earlier _ stepped served =>
    served.step (.of_run earlier) (.of_step stepped)

end AllServed

end Session

end SerialPort
