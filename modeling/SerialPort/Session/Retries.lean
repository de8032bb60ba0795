import SerialPort.Session.Served
import SerialPort.Library.Retry

/-! How often a writer tries to write a command, and which outcome it is completed with. -/

namespace SerialPort

open Retry

/-- What is logged for an attempt whose timeout cannot be measured, so that nothing is written. -/
def CommandResult.unmeasured : CommandResult :=
  .failed (.writeFailed (some .arithmeticException))

/-- A command is completed with the result, or armed if it was sent and asks for a response. -/
def QueuedCommand.Settles (entry : QueuedCommand) (result : CommandResult) : Prop :=
  -- Of the results only a success with a matcher is put off until the response.
  if result.isSent && entry.command.responseMatcher.isSome then entry.owner = .response
  else entry.result = some result

/-- Whether the attempts are over and their outcome is being announced. -/
def WriterPoint.isClosing : WriterPoint → Bool
  | .reporting _ _ => true
  | .failing _ _ _ => true
  | _ => false

/-- A bound on the turns until the command is let go, given the number of its attempts. -/
def WriterPoint.remaining (limit : Nat) : WriterPoint → Nat
  -- An attempt takes two turns to write and one to pause, and the announcement up to two.
  | .delaying _ => 3 * limit + 4
  | .writing _ attempt _ => 3 * (limit - attempt) + 2
  | .resuming _ attempt _ => 3 * (limit - attempt) + 1
  | .retrying _ attempt => 3 * (limit - attempt) + 3
  | .reporting _ _ => 1
  | .failing _ _ .raised => 2
  | .failing _ _ .changed => 1
  | _ => 0

namespace Writer

/-- The outcomes of the attempts for a command in which `transport.write` was called. -/
def writes (writer : Writer) (queued : Nat) : List CommandResult :=
  -- An attempt that could not be timed has thrown before `transport.write` was called.
  (writer.results queued).filter fun result => result != .unmeasured

/-- The attempts for a command can be counted, timed and spaced. -/
structure Measures (writer : Writer) (command : SerialCommand) (first : Option CommandResult) :
    Prop where
  /-- One more than the retries is a 32-bit integer. -/
  counted : command.maxRetries ≠ 2147483647
  paused : (writer.delayFor command).toMillis.isSome
  timed : (writer.timeoutFor command).toMillis.isSome
  /-- The pause between two attempts is measured, unless no second attempt is due. -/
  spaced : command.retryDelay.toMillis.isSome ∨ command.maxRetries = 0 ∨
    first.any CommandResult.isSent = true

instance (writer : Writer) (command : SerialCommand) (first : Option CommandResult) :
    Decidable (Measures writer command first) :=
  decidable_of_iff (command.maxRetries ≠ 2147483647 ∧
      (writer.delayFor command).toMillis.isSome ∧ (writer.timeoutFor command).toMillis.isSome ∧
      (command.retryDelay.toMillis.isSome ∨ command.maxRetries = 0 ∨
        first.any CommandResult.isSent = true))
    ⟨fun ⟨counted, paused, timed, spaced⟩ => ⟨counted, paused, timed, spaced⟩,
      fun measures => ⟨measures.counted, measures.paused, measures.timed, measures.spaced⟩⟩

/-- The attempts for a command are as many as they should be, and the right outcome counts. -/
structure Accounted (writer : Writer) (entry : QueuedCommand) (queued : Nat) : Prop where
  attempted : writer.writes queued ≠ []
  /-- The smaller of the index of the first success and of one more than the retries. -/
  exactly : ∀ tape, Follows (writer.writes queued) tape →
    IsLeast (stops CommandResult.isSent (entry.command.maxRetries.toInt.toNat + 1) tape)
      (writer.writes queued).length
  /-- No attempt follows a successful one. -/
  once : ∀ index result, (writer.writes queued)[index]? = some result → result.isSent = true →
    index + 1 = (writer.writes queued).length
  /-- The last outcome counts, which is the first success if there is one. -/
  settled : ∃ result, (writer.writes queued).getLast? = some result ∧ entry.Settles result

/-- What is known in the middle of the attempts for a command. -/
structure Trying (writer : Writer) (command : SerialCommand) (queued attempt : Nat) : Prop where
  paused : (writer.delayFor command).toMillis.isSome
  continues : Continues CommandResult.isSent command.attempts (writer.results queued)
  count : (writer.results queued).length = attempt
  spaced : 0 < attempt → command.retryDelay.toMillis.isSome
  marked : ∀ result ∈ writer.results queued,
    result = .unmeasured ↔ (writer.timeoutFor command).toMillis = none

/-- How far a writer has come with a command it took, unless it has been cancelled. -/
inductive Stage (writer : Writer) (entry : QueuedCommand) (queued : Nat) : Prop where
  /-- The delay cannot be measured, which ended the writer. -/
  | unpaused (gone : writer.point.held ≠ some queued)
      (beyond : (writer.delayFor entry.command).toMillis = none)
      (untried : writer.results queued = [])
  /-- The pause between two attempts cannot be measured, which ended the writer. -/
  | stalled (gone : writer.point.held ≠ some queued)
      (beyond : entry.command.retryDelay.toMillis = none)
      (continues : Continues CommandResult.isSent entry.command.attempts (writer.results queued))
      (tried : writer.results queued ≠ [])
      (marked : ∀ result ∈ writer.results queued,
        result = .unmeasured ↔ (writer.timeoutFor entry.command).toMillis = none)
  | delaying (at_ : writer.point = .delaying queued)
      (paused : (writer.delayFor entry.command).toMillis.isSome)
      (untried : writer.results queued = [])
  | attempting {attempt : Nat} (tries : writer.point.tries = some (queued, attempt))
      (trying : writer.Trying entry.command queued attempt)
      (timed : (writer.timeoutFor entry.command).toMillis.isSome)
  | retrying {attempt : Nat} (at_ : writer.point = .retrying queued attempt)
      (trying : writer.Trying entry.command queued attempt)
      (spaced : entry.command.retryDelay.toMillis.isSome)
  /-- The attempts are over, and once the command is let go it has its result. -/
  | concluded (closing : writer.point.held = some queued → writer.point.isClosing = true)
      (paused : (writer.delayFor entry.command).toMillis.isSome)
      (finished : Over CommandResult.isSent entry.command.attempts (writer.results queued))
      (spaced : 1 < (writer.results queued).length → entry.command.retryDelay.toMillis.isSome)
      (marked : ∀ result ∈ writer.results queued,
        result = .unmeasured ↔ (writer.timeoutFor entry.command).toMillis = none)
      (settled : writer.point.held ≠ some queued → entry.Settles (writer.outcome queued))

variable {writer turned : Writer} {entry before after : QueuedCommand} {command : SerialCommand}
  {queued attempt : Nat} {link : Option Nat}

/-- The delays and timeouts of a command depend on nothing but the writer's configuration. -/
theorem delayFor_congr (config : turned.config = writer.config) :
    turned.delayFor command = writer.delayFor command := by
  rw [delayFor, delayFor, config]

/-- The timeout depends on the configuration only. -/
theorem timeoutFor_congr (config : turned.config = writer.config) :
    turned.timeoutFor command = writer.timeoutFor command := by
  rw [timeoutFor, timeoutFor, config]

/-- The conclusion of a command adds nothing to the results of the attempts. -/
theorem concluded_results (result : CommandResult) (token : Nat) :
    (writer.concluded queued result).results token = writer.results token := by
  rw [results, concluded_attempts, results]

/-- A trial goes on while its results and the configuration are the same. -/
theorem Trying.congr (trying : writer.Trying command queued attempt)
    (results : turned.results queued = writer.results queued)
    (config : turned.config = writer.config) : turned.Trying command queued attempt where
  paused := by rw [delayFor_congr config]; exact trying.paused
  continues := by rw [results]; exact trying.continues
  count := by rw [results]; exact trying.count
  spaced := trying.spaced
  marked := by rw [results, timeoutFor_congr config]; exact trying.marked

/-- A settled command stays settled. -/
theorem settles_keep {result : CommandResult} (settles : before.Settles result)
    (evolves : QueuedCommand.Evolves before after) (handed : QueuedCommand.Handed before after) :
    after.Settles result := by
  -- An armed command keeps its owner, and a completed one its result.
  unfold QueuedCommand.Settles at settles ⊢
  rw [evolves.command]
  split at settles
  · next armed =>
    rw [if_pos armed]
    exact handed.response settles
  · next completed =>
    rw [if_neg completed, (evolves.settled (by rw [settles]; rfl)).1, settles]

/-- Nothing changes for a command that the writer does not turn to. -/
theorem Stage.keep (stage : Stage writer before queued)
    (results : turned.results queued = writer.results queued)
    (config : turned.config = writer.config)
    (point : turned.point = writer.point ∨
      writer.point.held ≠ some queued ∧ turned.point.held ≠ some queued)
    (evolves : QueuedCommand.Evolves before after) (handed : QueuedCommand.Handed before after) :
    Stage turned after queued := by
  -- Only what the stage says about the point may change, and only away from the command.
  have command := evolves.command
  have gone (away : writer.point.held ≠ some queued) : turned.point.held ≠ some queued := by
    rcases point with same | both
    · rwa [same]
    · exact both.2
  have back (away : turned.point.held ≠ some queued) : writer.point.held ≠ some queued := by
    rcases point with same | both
    · rwa [← same]
    · exact both.1
  -- A command in the writer's hands is still where it was.
  have same (held : writer.point.held = some queued) : turned.point = writer.point := by
    rcases point with same | both
    · exact same
    · exact absurd held both.1
  cases stage with
  | unpaused away beyond untried =>
    refine .unpaused (gone away) ?_ (results.trans untried)
    rwa [command, delayFor_congr config]
  | stalled away beyond continues tried marked =>
    rw [← results] at continues tried marked
    rw [← command] at beyond continues marked
    refine .stalled (gone away) beyond continues tried ?_
    rwa [timeoutFor_congr config]
  | delaying at_ paused untried =>
    refine .delaying ((same (by rw [at_]; rfl)).trans at_) ?_ (results.trans untried)
    rwa [command, delayFor_congr config]
  | attempting tries trying timed =>
    rw [← command] at trying timed
    refine .attempting (by rw [same (held_of_tries tries), tries]) (trying.congr results config) ?_
    rwa [timeoutFor_congr config]
  | retrying at_ trying spaced =>
    rw [← command] at trying spaced
    exact .retrying ((same (by rw [at_]; rfl)).trans at_) (trying.congr results config) spaced
  | concluded closing paused finished spaced marked settled =>
    have outcome : turned.outcome queued = writer.outcome queued := by
      rw [Writer.outcome, results, Writer.outcome]
    rw [← results] at finished spaced marked
    rw [← command] at finished spaced marked paused
    refine .concluded (fun held => ?_) ?_ finished spaced ?_ fun away => ?_
    · -- A command that is still in the hands was there before the step.
      have before : writer.point.held = some queued := by
        by_contra away
        exact gone away held
      rw [same before]
      exact closing before
    · rwa [delayFor_congr config]
    · rwa [timeoutFor_congr config]
    · rw [outcome]
      exact settles_keep (settled (back away)) evolves handed

/-- The attempts have come to an end, and the command is still in the writer's hands. -/
theorem Stage.of_over {result : CommandResult}
    (paused : (writer.delayFor entry.command).toMillis.isSome)
    (finished : Over CommandResult.isSent entry.command.attempts (writer.results queued))
    (spaced : 1 < (writer.results queued).length → entry.command.retryDelay.toMillis.isSome)
    (marked : ∀ result ∈ writer.results queued,
      result = .unmeasured ↔ (writer.timeoutFor entry.command).toMillis = none) :
    Stage (writer.concluded queued result) entry queued := by
  -- The conclusion sets the point only, so the log and the configuration stay.
  have config : (writer.concluded queued result).config = writer.config :=
    (concluded_kept result).config
  rw [← concluded_results result queued] at finished spaced marked
  refine .concluded (fun _ => ?_) ?_ finished spaced ?_ fun away =>
    absurd (concluded_held result) away
  · cases result <;> rfl
  · rwa [delayFor_congr config]
  · rwa [timeoutFor_congr config]

/-- What follows an attempt: the next one, the end of all attempts, or the end of the writer. -/
theorem Trying.attempted (trying : writer.Trying entry.command queued attempt)
    {result : CommandResult}
    (mark : result = .unmeasured ↔ (writer.timeoutFor entry.command).toMillis = none) :
    Stage (writer.attempted queued entry.command attempt result) entry queued := by
  -- The log with the new outcome comes first, whatever follows from it.
  obtain ⟨logging, logs⟩ : ∃ logging : Writer, logging =
      { writer with attempts := writer.attempts ++ [(queued, result)] } := ⟨_, rfl⟩
  have results : logging.results queued = writer.results queued ++ [result] := by
    rw [logs, Writer.results, Grouped.entries_append_self]
    rfl
  have config : logging.config = writer.config := by rw [logs]
  have count : (logging.results queued).length = attempt + 1 := by
    rw [results, List.length_append, trying.count]
    rfl
  have marked : ∀ result ∈ logging.results queued,
      result = .unmeasured ↔ (logging.timeoutFor entry.command).toMillis = none := by
    rw [results, timeoutFor_congr config]
    intro earlier made
    rcases List.mem_append.mp made with before | last
    · exact trying.marked earlier before
    · rwa [List.mem_singleton.mp last]
  have paused : (logging.delayFor entry.command).toMillis.isSome := by
    rw [delayFor_congr config]
    exact trying.paused
  subst logs
  unfold Writer.attempted
  simp only
  split
  · next again =>
    -- The attempt has failed, and another one is left.
    simp only [Bool.and_eq_true, Bool.not_eq_true', decide_eq_true_eq] at again
    have continues : Continues CommandResult.isSent entry.command.attempts
        (writer.results queued ++ [result]) :=
      trying.continues.again again.1 (by rw [trying.count]; exact again.2)
    rw [← results] at continues
    cases spaced : entry.command.retryDelay.toMillis with
    | some millis =>
      have measured : entry.command.retryDelay.toMillis.isSome := by rw [spaced]; rfl
      exact .retrying rfl ⟨paused, continues, count, fun _ => measured, marked⟩ measured
    | none =>
      have tried : writer.results queued ++ [result] ≠ [] := by simp
      rw [← results] at tried
      exact .stalled (by simp [WriterPoint.held]) spaced continues tried marked
  · next ends =>
    -- A success or the last attempt ends the loop.
    refine .of_over paused ?_ (fun several => trying.spaced (by omega)) marked
    rw [results]
    refine trying.continues.isOver ?_
    rw [trying.count]
    cases sent : result.isSent with
    | true => exact .inl rfl
    | false => exact .inr (by simpa [sent] using ends)

/-- An attempt is in progress, unless its timeout cannot be measured. -/
theorem Trying.attempting (trying : writer.Trying entry.command queued attempt) :
    Stage (writer.attempting queued entry.command attempt link) entry queued := by
  unfold Writer.attempting
  -- `toMillis` throws inside of `try`, which counts as a failure of the attempt.
  cases timed : (writer.timeoutFor entry.command).toMillis with
  | some millis =>
    exact .attempting rfl (trying.congr rfl rfl) (by
      rw [show (Writer.timeoutFor { writer with point := .writing queued attempt link }
        entry.command) = writer.timeoutFor entry.command from rfl, timed]
      rfl)
  | none => exact trying.attempted ⟨fun _ => timed, fun _ => rfl⟩

/-- The pause is over, and the first attempt is in progress if there is one. -/
theorem Stage.of_began (paused : (writer.delayFor entry.command).toMillis.isSome)
    (untried : writer.results queued = []) :
    Stage (writer.began queued entry.command link) entry queued := by
  unfold began
  split
  · -- The sum has wrapped around, and `repeat` makes no iteration.
    next never =>
    refine .of_over paused ?_ (by rw [untried]; nofun) (by rw [untried]; nofun)
    rw [untried, never]
    exact .start
  · next some_ =>
    refine Trying.attempting ⟨paused, ?_, by rw [untried]; rfl, nofun, by rw [untried]; nofun⟩
    rw [untried]
    exact .start (Nat.pos_of_ne_zero some_)

/-- Nothing changes for the other commands while the writer turns to one. -/
theorem Stage.other {token : Nat} (stage : Stage writer before token) (different : queued ≠ token)
    (results : turned.results token = writer.results token)
    (config : turned.config = writer.config)
    (held : ∀ other, writer.point.held = some other → queued = other)
    (holds : ∀ other, turned.point.held = some other → queued = other)
    (evolves : QueuedCommand.Evolves before after) (handed : QueuedCommand.Handed before after) :
    Stage turned after token :=
  stage.keep results config
    (.inr ⟨fun same => different (held token same), fun same => different (holds token same)⟩)
    evolves handed

/-- A command whose delay has not passed yet has not been tried. -/
theorem Stage.of_delaying (stage : Stage writer entry queued)
    (at_ : writer.point = .delaying queued) :
    (writer.delayFor entry.command).toMillis.isSome ∧ writer.results queued = [] := by
  have held : writer.point.held = some queued := by rw [at_]; rfl
  -- All other stages either are at another point, or have let the command go.
  cases stage with
  | unpaused gone => exact absurd held gone
  | stalled gone => exact absurd held gone
  | delaying _ paused untried => exact ⟨paused, untried⟩
  | attempting other => rw [at_] at other; cases other
  | retrying other => rw [at_] at other; cases other
  | concluded closing => have closes := closing held; rw [at_] at closes; cases closes

/-- A command whose attempt is in progress can be timed. -/
theorem Stage.of_tries (stage : Stage writer entry queued)
    (tries : writer.point.tries = some (queued, attempt)) :
    writer.Trying entry.command queued attempt ∧
      (writer.timeoutFor entry.command).toMillis.isSome := by
  have held := held_of_tries tries
  -- All other stages either are at another point, or have let the command go.
  cases stage with
  | unpaused gone => exact absurd held gone
  | stalled gone => exact absurd held gone
  | delaying other => rw [other] at tries; cases tries
  | attempting same trying timed =>
    obtain ⟨-, rfl⟩ := Prod.mk.inj (Option.some.inj (same.symm.trans tries))
    exact ⟨trying, timed⟩
  | retrying other => rw [other] at tries; cases tries
  | concluded closing =>
    have closes := closing held
    rcases tries_cases tries with ⟨link, at_⟩ | ⟨bytes, at_⟩ <;> rw [at_] at closes <;> cases closes

/-- A command that waits for its next attempt can be spaced. -/
theorem Stage.of_retrying (stage : Stage writer entry queued)
    (at_ : writer.point = .retrying queued attempt) :
    writer.Trying entry.command queued attempt := by
  have held : writer.point.held = some queued := by rw [at_]; rfl
  -- All other stages either are at another point, or have let the command go.
  cases stage with
  | unpaused gone => exact absurd held gone
  | stalled gone => exact absurd held gone
  | delaying other => rw [at_] at other; cases other
  | attempting other => rw [at_] at other; cases other
  | retrying same trying spaced => rw [at_] at same; cases same; exact trying
  | concluded closing => have closes := closing held; rw [at_] at closes; cases closes

/-- A command whose outcome is being announced moves on, and has its result once it is let go. -/
theorem Stage.announce (stage : Stage writer before queued)
    (held : writer.point.held = some queued) (closes : writer.point.isClosing = true)
    (results : turned.results queued = writer.results queued)
    (config : turned.config = writer.config) (command : after.command = before.command)
    (closing : turned.point.held = some queued → turned.point.isClosing = true)
    (settled : turned.point.held ≠ some queued → after.Settles (writer.outcome queued)) :
    Stage turned after queued := by
  -- Only at the end of all attempts is an outcome announced.
  cases stage with
  | unpaused gone => exact absurd held gone
  | stalled gone => exact absurd held gone
  | delaying at_ => rw [at_] at closes; cases closes
  | attempting tries =>
    rcases tries_cases tries with ⟨link, at_⟩ | ⟨bytes, at_⟩ <;> rw [at_] at closes <;> cases closes
  | retrying at_ => rw [at_] at closes; cases closes
  | concluded _ paused finished spaced marked _ =>
    rw [← results] at finished spaced marked
    rw [← command] at finished spaced marked paused
    refine .concluded closing ?_ finished spaced ?_ fun away => ?_
    · rwa [delayFor_congr config]
    · rwa [timeoutFor_congr config]
    · rw [Writer.outcome, results]
      exact settled away

/-- What is logged for one command is not logged for another. -/
theorem results_other {token : Nat} (different : queued ≠ token)
    (attempts : turned.attempts = writer.attempts ∨
      ∃ result, turned.attempts = writer.attempts ++ [(queued, result)]) :
    turned.results token = writer.results token := by
  unfold results
  rcases attempts with same | ⟨result, added⟩
  · rw [same]
  · rw [added, Grouped.entries_append_other different]

end Writer

namespace Session

variable {session next : Session} {index queued : Nat} {writer turned : Writer}
  {outcome : Outcome} {action : Action}

/-- Every command a writer took is in the stage that the writer has come to with it. -/
def Staged (session : Session) (writer : Writer) : Prop :=
  ∀ queued ∈ writer.taken, ∀ entry, session.queue[queued]? = some entry →
    writer.Stage entry queued

/-- A command that was taken before the step has evolved in it. -/
theorem Served.entry_before (served : Served session index writer) (evolves : Evolves session next)
    (handed : Handed session next) (taken : queued ∈ writer.taken) {after : QueuedCommand}
    (there : next.queue[queued]? = some after) :
    ∃ before, session.queue[queued]? = some before ∧ QueuedCommand.Evolves before after ∧
      QueuedCommand.Handed before after := by
  -- The step changes a command in two ways, which are about the same entry.
  obtain ⟨before, entered, -⟩ := served.taken queued taken
  obtain ⟨one, found, evolved⟩ := evolves queued before entered
  obtain ⟨other, found', handedOn⟩ := handed queued before entered
  obtain rfl : one = after := Option.some.inj (found.symm.trans there)
  obtain rfl : other = one := Option.some.inj (found'.symm.trans there)
  exact ⟨before, entered, evolved, handedOn⟩

/-- A writer that turns to no command stays in its stages. -/
theorem Staged.keep (staged : Staged session writer) (served : Served session index writer)
    (evolves : Evolves session next) (handed : Handed session next)
    (taken : turned.taken = writer.taken) (attempts : turned.attempts = writer.attempts)
    (config : turned.config = writer.config)
    (point : turned.point = writer.point ∨
      writer.point.held = none ∧ turned.point.held = none) : Staged next turned := by
  intro queued listed after there
  rw [taken] at listed
  obtain ⟨before, entered, evolved, handedOn⟩ := served.entry_before evolves handed listed there
  have results : turned.results queued = writer.results queued := by
    rw [Writer.results, attempts, Writer.results]
  refine (staged queued listed before entered).keep results config ?_ evolved handedOn
  rcases point with same | ⟨empty, empty'⟩
  · exact .inl same
  · -- There is nothing in the hands that could be this command.
    exact .inr ⟨by simp [empty], by simp [empty']⟩

/-- A writer turns to the command in its hands, and stays in its stages with all others. -/
theorem Staged.turn (staged : Staged session writer) (served : Served session index writer)
    (evolves : Evolves session next) (handed : Handed session next)
    (taken : turned.taken = writer.taken) (config : turned.config = writer.config)
    (attempts : turned.attempts = writer.attempts ∨
      ∃ result, turned.attempts = writer.attempts ++ [(queued, result)])
    (held : ∀ other, writer.point.held = some other → queued = other)
    (holds : ∀ other, turned.point.held = some other → queued = other)
    (mine : queued ∈ writer.taken → ∀ before after, session.queue[queued]? = some before →
      next.queue[queued]? = some after → QueuedCommand.Evolves before after →
      QueuedCommand.Handed before after → writer.Stage before queued →
      turned.Stage after queued) : Staged next turned := by
  intro token listed after there
  rw [taken] at listed
  obtain ⟨before, entered, evolved, handedOn⟩ := served.entry_before evolves handed listed there
  have stage := staged token listed before entered
  -- The other commands have been let go, and the turn does not touch them.
  by_cases same : queued = token
  · subst same
    exact mine listed before after entered there evolved handedOn stage
  · exact stage.other same (Writer.results_other same attempts) config held holds evolved handedOn

/-- A writer goes on with the command in its hands, which comes to its next stage. -/
theorem Staged.advance (staged : Staged session writer) (served : Served session index writer)
    (evolves : Evolves session next) (handed : Handed session next)
    (kept : Writer.Kept writer turned)
    (attempts : turned.attempts = writer.attempts ∨
      ∃ result, turned.attempts = writer.attempts ++ [(queued, result)])
    (held : writer.point.held = some queued)
    (holds : ∀ other, turned.point.held = some other → queued = other) {entry : QueuedCommand}
    (entered : session.queue[queued]? = some entry)
    (mine : ∀ after : QueuedCommand, after.command = entry.command → writer.Stage entry queued →
      turned.Stage after queued) : Staged next turned := by
  refine staged.turn served evolves handed kept.taken kept.config attempts
    (fun other same => Option.some.inj (held.symm.trans same)) holds ?_
  intro listed before after entered' there evolved handedOn stage
  obtain rfl : before = entry := Option.some.inj (entered'.symm.trans entered)
  exact mine after evolved.command stage

/-- The command a writer takes has its delay ahead, unless that cannot be measured. -/
theorem Staged.take (staged : Staged session writer) (served : Served session index writer)
    {channel : Nat} {entry : QueuedCommand}
    (evolves : Evolves session (session.take index writer channel queued entry.command))
    (handed : Handed session (session.take index writer channel queued entry.command))
    (at_ : writer.point = .receiving) (entered : session.queue[queued]? = some entry)
    (fresh : queued ∉ writer.taken) :
    Staged (session.take index writer channel queued entry.command)
      { writer with
        point := writer.pausing queued entry.command
        taken := writer.taken ++ [queued] } := by
  have holds : ∀ other, (writer.pausing queued entry.command).held = some other →
      queued = other := by
    intro other held
    unfold Writer.pausing at held
    cases paused : (writer.delayFor entry.command).toMillis with
    | some millis => rw [paused] at held; exact Option.some.inj held
    | none => rw [paused] at held; cases held
  intro token listed after entered'
  rcases List.mem_append.mp listed with earlier | last
  · -- What was taken before is another command.
    obtain ⟨before, entered'', evolved, handedOn⟩ :=
      served.entry_before evolves handed earlier entered'
    have different : queued ≠ token := fun same => fresh (same ▸ earlier)
    exact (staged token earlier before entered'').other different rfl rfl
      (by rw [at_]; nofun) holds evolved handedOn
  · obtain rfl := List.mem_singleton.mp last
    obtain ⟨one, found', evolved⟩ := evolves token entry entered
    obtain rfl : one = after := Option.some.inj (found'.symm.trans entered')
    have untried := served.orderly.inOrder.entries_fresh fresh
    cases paused : (writer.delayFor entry.command).toMillis with
    | some millis =>
      refine .delaying ?_ ?_ untried
      · simp only [Writer.pausing, paused]
      · rw [evolved.command]
        exact Option.isSome_iff_exists.mpr ⟨millis, paused⟩
    | none =>
      refine .unpaused ?_ ?_ untried
      · simp only [Writer.pausing, paused]
        nofun
      · rw [evolved.command]
        exact paused

/-- The delay is over, and the attempts begin. -/
theorem Staged.begin (staged : Staged session writer) (served : Served session index writer)
    (evolves : Evolves session next) (handed : Handed session next) {entry : QueuedCommand}
    {link : Option Nat} (at_ : writer.point = .delaying queued)
    (entered : session.queue[queued]? = some entry) :
    Staged next (writer.began queued entry.command link) := by
  refine staged.advance served evolves handed Writer.began_kept ?_ (by rw [at_]; rfl)
    (fun other held => Writer.began_held held) entered fun after same stage => ?_
  · rcases Writer.began_attempts with same | ⟨error, added⟩
    · exact .inl same
    · exact .inr ⟨_, added⟩
  · -- Behind the pause nothing has been tried yet.
    obtain ⟨paused, untried⟩ := stage.of_delaying at_
    rw [← same] at paused ⊢
    exact .of_began paused untried

/-- An attempt ends with an outcome that is not the one of a timeout that cannot be measured. -/
theorem Staged.attempted (staged : Staged session writer) (served : Served session index writer)
    (evolves : Evolves session next) (handed : Handed session next) {entry : QueuedCommand}
    {attempt : Nat} {result : CommandResult} (tries : writer.point.tries = some (queued, attempt))
    (entered : session.queue[queued]? = some entry) (measured : result ≠ .unmeasured) :
    Staged next (writer.attempted queued entry.command attempt result) := by
  refine staged.advance served evolves handed (Writer.attempted_kept _)
    (.inr ⟨_, Writer.attempted_attempts _⟩) (Writer.held_of_tries tries)
    (fun other held => Writer.attempted_held _ held) entered fun after same stage => ?_
  obtain ⟨trying, timed⟩ := stage.of_tries tries
  rw [← same] at trying timed ⊢
  refine trying.attempted ⟨fun unmeasured => absurd unmeasured measured, fun beyond => ?_⟩
  -- A timeout too long to measure leaves no point from which an attempt could end.
  rw [beyond] at timed
  cases timed

/-- The pause between two attempts is over. -/
theorem Staged.retry (staged : Staged session writer) (served : Served session index writer)
    (evolves : Evolves session next) (handed : Handed session next) {entry : QueuedCommand}
    {attempt : Nat} {link : Option Nat} (at_ : writer.point = .retrying queued attempt)
    (entered : session.queue[queued]? = some entry) :
    Staged next (writer.attempting queued entry.command attempt link) := by
  refine staged.advance served evolves handed Writer.attempting_kept ?_ (by rw [at_]; rfl)
    (fun other held => Writer.attempting_held held) entered fun after same stage => ?_
  · rcases Writer.attempting_attempts with same | ⟨error, added⟩
    · exact .inl same
    · exact .inr ⟨_, added⟩
  · -- The count goes on from the attempt before.
    have trying := stage.of_retrying at_
    rw [← same] at trying ⊢
    exact trying.attempting

/-- A report arms a request that was sent, and completes any other command. -/
theorem report_settles {writer : Writer} {entry after : QueuedCommand} {result : CommandResult}
    (entered : session.queue[queued]? = some entry) (waits : entry.result = none)
    (there : (session.report index writer queued entry.command result).queue[queued]? =
      some after) : after.Settles result := by
  unfold QueuedCommand.Settles
  unfold report at there
  simp only at there
  split at there
  · next armed =>
    simp only [setWriter, arm, own, List.getElem?_modify, entered] at there
    obtain rfl := Option.some.inj there
    simp [armed]
  · -- Completed: the result is set, because the command was still waiting for one.
    next completed =>
    simp only [setWriter, complete, List.getElem?_modify, entered] at there
    obtain rfl := Option.some.inj there
    have same : (entry.complete result).command = entry.command := by simp
    simp only [if_true]
    rw [same, if_neg completed]
    simp [QueuedCommand.complete, waits]

/-- The outcome of the attempts has been reported, and the command is let go. -/
theorem Staged.reported (staged : Staged session writer) (custody : Custody session)
    (served : Served session index writer) (found : session.writers[index]? = some writer)
    {entry : QueuedCommand} {result : CommandResult}
    (evolves : Evolves session (session.report index writer queued entry.command result))
    (handed : Handed session (session.report index writer queued entry.command result))
    (at_ : writer.point = .reporting queued result)
    (entered : session.queue[queued]? = some entry) :
    Staged (session.report index writer queued entry.command result)
      { writer with point := .receiving } := by
  have held : writer.point.held = some queued := by rw [at_]; rfl
  have waits := custody.held_waits found held entered
  have progress := served.orderly.progress
  rw [at_] at progress
  refine staged.turn served evolves handed rfl rfl (.inl rfl)
    (fun other same => Option.some.inj (held.symm.trans same)) nofun ?_
  intro listed before after entered' there evolved handedOn stage
  -- The last result becomes the command's, or the slot takes it over.
  refine stage.announce held (by rw [at_]; rfl) rfl rfl evolved.command nofun fun _ => ?_
  rw [← progress.1]
  exact report_settles entered waits there

/-- The failure of the attempts has been raised, and the command is let go. -/
theorem Staged.failed (staged : Staged session writer) (custody : Custody session)
    (served : Served session index writer) (found : session.writers[index]? = some writer)
    {error : SerialError}
    (evolves : Evolves session (session.writerFailed index writer queued error))
    (handed : Handed session (session.writerFailed index writer queued error))
    (at_ : writer.point = .failing queued error .changed) :
    Staged (session.writerFailed index writer queued error)
      { writer with point := .receiving } := by
  have held : writer.point.held = some queued := by rw [at_]; rfl
  have progress := served.orderly.progress
  rw [at_] at progress
  refine staged.turn served evolves handed rfl rfl (.inl rfl)
    (fun other same => Option.some.inj (held.symm.trans same)) nofun ?_
  intro listed before after entered' there evolved handedOn stage
  have waits := custody.held_waits found held entered'
  refine stage.announce held (by rw [at_]; rfl) rfl rfl evolved.command nofun fun _ => ?_
  -- A failure is never a request that was sent.
  rw [← progress]
  simp only [writerFailed, setWriter, complete, List.getElem?_modify,
    Untouched.failSettle.queue, entered'] at there
  obtain rfl := Option.some.inj there
  simp [QueuedCommand.Settles, QueuedCommand.complete, waits, CommandResult.isSent]

/-- Each turn of a writer brings the command in its hands to the next stage. -/
theorem Staged.inWriter (staged : Staged session writer) (custody : Custody session)
    (served : Served session index writer) (serves : Served next index turned)
    (found : session.writers[index]? = some writer) (live : writer.cancelled = false)
    (moved : WriterMoves session index writer outcome next)
    (there : next.writers[index]? = some turned) : Staged next turned := by
  have handed := Handed.of_moves custody (.inWriter found moved)
  have evolves := Evolves.of_moves (.inWriter found moved)
  -- Every stretch of code of the writer is about the command in its hands.
  cases moved with
  | start at_ live =>
    obtain rfl := eq_of_set rfl there
    exact staged.keep served evolves handed rfl rfl rfl (.inr ⟨by rw [at_]; rfl, rfl⟩)
  | drained at_ bound there' buffered closed =>
    obtain rfl := eq_of_set rfl there
    exact staged.keep served evolves handed rfl rfl rfl (.inr ⟨by rw [at_]; rfl, rfl⟩)
  | @take channel queued from_ rest entry at_ bound there' buffered entered =>
    obtain rfl := eq_of_set rfl there
    -- The command is one the writer has not taken before.
    have distinct : (writer.taken ++ [queued]).Nodup := serves.orderly.distinct
    have fresh : queued ∉ writer.taken := fun listed =>
      (List.nodup_append.mp distinct).2.2 queued listed queued (by simp) rfl
    exact staged.take served evolves handed at_ entered fresh
  | begin at_ entered live =>
    obtain rfl := eq_of_set (Turned.writers beginWriting_turned) there
    exact staged.begin served evolves handed at_ entered
  | @written queued attempt link entry length buffer at_ entered live =>
    obtain rfl := eq_of_set rfl there
    -- The attempt goes on until the writer is resumed.
    refine staged.advance served evolves handed ⟨rfl, rfl, rfl, rfl, rfl⟩ (.inl rfl)
      (by rw [at_]; rfl) (fun other held => Option.some.inj held) entered
      fun after same stage => ?_
    obtain ⟨trying, timed⟩ := stage.of_tries (by rw [at_]; rfl)
    rw [← same] at trying timed
    exact .attempting rfl (trying.congr rfl rfl) timed
  | resumed at_ entered live =>
    obtain rfl := eq_of_set (Turned.writers (attemptEnded_turned _)) there
    exact staged.attempted served evolves handed (by rw [at_]; rfl) entered nofun
  | attempted tries entered missed ended =>
    obtain rfl := eq_of_set (Turned.writers (attemptEnded_turned _)) there
    -- An exception of the attempt is none of the measuring, and neither is a timeout.
    refine staged.attempted served evolves handed tries entered ?_
    rcases ended with ⟨message, -, rfl⟩ | ⟨-, rfl⟩ <;> exact nofun
  | retry at_ entered live =>
    obtain rfl := eq_of_set (Turned.writers beginAttempt_turned) there
    exact staged.retry served evolves handed at_ entered
  | reported at_ entered =>
    obtain rfl := eq_of_set (report_writers _) there
    exact staged.reported custody served found evolves handed at_ entered
  | @failChanged queued error at_ =>
    obtain rfl := eq_of_set rfl there
    have held : writer.point.held = some queued := by rw [at_]; rfl
    refine staged.turn served evolves handed rfl rfl (.inl rfl)
      (fun other same => Option.some.inj (held.symm.trans same))
      (fun other same => Option.some.inj same) ?_
    intro listed before after entered' there' evolved handedOn stage
    exact stage.announce held (by rw [at_]; rfl) rfl rfl evolved.command (fun _ => rfl)
      fun away => absurd rfl away
  | failSettled at_ =>
    obtain rfl := eq_of_set (writerFailed_writers _) there
    exact staged.failed custody served found evolves handed at_
  | cancelled open_ cancelled =>
    rw [live] at cancelled
    cases cancelled

/-- Every writer that has not been cancelled is in its stages. -/
def AllStaged (session : Session) : Prop :=
  ∀ (index : Nat) (writer : Writer), session.writers[index]? = some writer →
    writer.cancelled = false → Staged session writer

/-- Every step keeps the writers in their stages. -/
theorem AllStaged.step (staged : AllStaged session) (custody : Custody session)
    (served : AllServed session) (moved : Moves session action next) : AllStaged next := by
  have handed := Handed.of_moves custody moved
  have evolves := Evolves.of_moves moved
  have serves := served.step custody moved
  -- A writer is left alone, cancelled, resumed, or started with nothing taken.
  intro index after there live
  rcases moved.writer there with
    ⟨before, found, rfl | rfl⟩ | ⟨before, outcome, found, rfl, turns⟩ | ⟨-, -, config, rfl⟩
  · exact (staged index after found live).keep (served index after found) evolves handed
      rfl rfl rfl (.inl rfl)
  · cases live
  · -- A turn does not uncancel the writer.
    obtain ⟨turned, writers, resumed⟩ := turns.turned
    obtain rfl := eq_of_set writers there
    have alive : before.cancelled = false := resumed.cancelled.symm.trans live
    exact (staged index before found alive).inWriter custody (served index before found)
      (serves index after there) found alive turns there
  · nofun

/-- In every reachable state the writers are in their stages. -/
theorem AllStaged.of_run {allowed : Session → Action → Prop}
    (run : Transition.Run Session.step allowed {} session) : AllStaged session :=
  run.invariant (by simp [AllStaged]) fun earlier _ stepped staged =>
    staged.step (.of_run earlier) (.of_run earlier) (.of_step stepped)

end Session

/-- One more than the retries is the number of attempts, unless it is no 32-bit integer. -/
theorem SerialCommand.attempts_eq (command : SerialCommand) :
    command.attempts =
      if command.maxRetries = 2147483647 then 0 else command.maxRetries.toInt.toNat + 1 := by
  unfold attempts
  split
  · next largest =>
    rw [largest]
    rfl
  · next smaller =>
    have nonneg := Int32.le_iff_toInt_le.mp command.retries_valid
    rw [Int32.toInt_zero] at nonneg
    have below := Int32.toInt_lt command.maxRetries
    have different : command.maxRetries.toInt ≠ 2147483647 := fun same =>
      smaller (Int32.toInt_inj.mp same)
    -- Below the largest integer the sum does not wrap around.
    have sum : (command.maxRetries + 1).toInt = command.maxRetries.toInt + 1 :=
      toInt_add_of_fits (by rw [Int32.toInt_one]; omega) (by rw [Int32.toInt_one]; omega)
    rw [← Int32.toNat_toInt, sum]
    omega

namespace Writer

variable {writer : Writer} {entry : QueuedCommand} {queued : Nat}

/-- A command that can be timed is written in each of its attempts. -/
theorem writes_timed (timed : (writer.timeoutFor entry.command).toMillis.isSome)
    (marked : ∀ result ∈ writer.results queued,
      result = .unmeasured ↔ (writer.timeoutFor entry.command).toMillis = none) :
    writer.writes queued = writer.results queued := by
  -- No outcome in the log is that of a timeout that cannot be measured.
  refine List.filter_eq_self.mpr fun result made => ?_
  rw [bne_iff_ne]
  intro same
  rw [(marked result made).mp same] at timed
  cases timed

/-- A command that cannot be timed is never written. -/
theorem writes_untimed (beyond : (writer.timeoutFor entry.command).toMillis = none)
    (marked : ∀ result ∈ writer.results queued,
      result = .unmeasured ↔ (writer.timeoutFor entry.command).toMillis = none) :
    writer.writes queued = [] := by
  -- Every outcome in the log is that of a timeout that cannot be measured.
  refine List.filter_eq_nil_iff.mpr fun result made => ?_
  rw [(marked result made).mpr beyond]
  decide

/-- Whatever has been written at all can be timed. -/
theorem timed_of_writes (marked : ∀ result ∈ writer.results queued,
      result = .unmeasured ↔ (writer.timeoutFor entry.command).toMillis = none)
    (written : writer.writes queued ≠ []) :
    (writer.timeoutFor entry.command).toMillis.isSome := by
  rw [Option.isSome_iff_ne_none]
  exact fun beyond => written (writes_untimed beyond marked)

/-- A writer that has ended between two attempts has made fewer than it should have. -/
theorem stalled_unaccounted (beyond : entry.command.retryDelay.toMillis = none)
    (continues : Continues CommandResult.isSent entry.command.attempts (writer.results queued))
    (tried : writer.results queued ≠ [])
    (marked : ∀ result ∈ writer.results queued,
      result = .unmeasured ↔ (writer.timeoutFor entry.command).toMillis = none) :
    writer.Accounted entry queued ↔ writer.Measures entry.command (writer.writes queued).head? := by
  have count := entry.command.attempts_eq
  have left := continues.left
  constructor
  · intro accounted
    have timed := timed_of_writes marked accounted.attempted
    have same := writes_timed timed marked
    obtain ⟨tape, follows⟩ := exists_follows (writer.writes queued) .cancelled
    have least := accounted.exactly tape follows
    have counted : entry.command.maxRetries ≠ 2147483647 := by
      intro largest
      rw [count, if_pos largest] at left
      omega
    rw [if_neg counted] at count
    rw [← count, same] at least
    rw [same] at follows
    -- The loop would have gone on, so its attempts are fewer than they should be.
    exact absurd least (continues.not_isLeast follows)
  · intro measures
    have same := writes_timed measures.timed marked
    rw [count, if_neg measures.counted] at left
    rcases measures.spaced with spaced | never | first
    · rw [beyond] at spaced
      cases spaced
    · -- Without a retry the one attempt would have been the last.
      rw [never, Int32.toInt_zero] at left
      have some_ := List.length_pos_iff.mpr tried
      omega
    · -- The first attempt would have ended the loop with its success.
      rw [same] at first
      obtain ⟨result, head, sent⟩ := (Option.any_eq_true _ _).mp first
      rw [continues.missed result (List.mem_of_mem_head? head)] at sent
      cases sent

/-- Attempts that are accounted for could be counted, timed and spaced. -/
theorem Accounted.measures (accounted : writer.Accounted entry queued)
    (paused : (writer.delayFor entry.command).toMillis.isSome)
    (finished : Over CommandResult.isSent entry.command.attempts (writer.results queued))
    (spaced : 1 < (writer.results queued).length → entry.command.retryDelay.toMillis.isSome)
    (marked : ∀ result ∈ writer.results queued,
      result = .unmeasured ↔ (writer.timeoutFor entry.command).toMillis = none) :
    writer.Measures entry.command (writer.writes queued).head? := by
  have count := entry.command.attempts_eq
  have timed := timed_of_writes marked accounted.attempted
  have same := writes_timed timed marked
  have tried : writer.results queued ≠ [] := same ▸ accounted.attempted
  have some_ := List.length_pos_iff.mpr tried
  have counted : entry.command.maxRetries ≠ 2147483647 := by
    intro largest
    have within := finished.within
    rw [count, if_pos largest] at within
    omega
  refine ⟨counted, paused, timed, ?_⟩
  by_cases several : 1 < (writer.results queued).length
  · exact .inl (spaced several)
  · -- The single attempt was the only one, or a success.
    obtain ⟨result, single⟩ := List.length_eq_one_iff.mp
      (show (writer.results queued).length = 1 by omega)
    rcases finished.ended with used | ⟨last, isLast, sent⟩
    · rw [count, if_neg counted] at used
      have nonneg := Int32.le_iff_toInt_le.mp entry.command.retries_valid
      rw [Int32.toInt_zero] at nonneg
      exact .inr (.inl (Int32.toInt_inj.mp (by rw [Int32.toInt_zero]; omega)))
    · rw [single, List.getLast?_singleton, Option.some.injEq] at isLast
      rw [same, single]
      subst isLast
      exact .inr (.inr (by simpa using sent))

/-- A loop that came to its end is accounted for if there was an attempt to count and to time. -/
theorem Measures.accounted
    (measures : writer.Measures entry.command (writer.writes queued).head?)
    (finished : Over CommandResult.isSent entry.command.attempts (writer.results queued))
    (marked : ∀ result ∈ writer.results queued,
      result = .unmeasured ↔ (writer.timeoutFor entry.command).toMillis = none)
    (settled : entry.Settles (writer.outcome queued)) : writer.Accounted entry queued := by
  have count := entry.command.attempts_eq
  have same := writes_timed measures.timed marked
  rw [if_neg measures.counted] at count
  -- There is at least one attempt, so the loop has not ended without one.
  have tried : writer.results queued ≠ [] := by
    intro none
    rcases finished.ended with used | ⟨last, isLast, -⟩
    · rw [none, count] at used
      exact absurd used (Nat.succ_ne_zero _).symm
    · rw [none] at isLast
      cases isLast
  obtain ⟨last, isLast⟩ := Option.isSome_iff_exists.mp (List.getLast?_isSome.mpr tried)
  refine ⟨by rwa [same], fun tape follows => ?_, fun index result made sent => ?_,
    last, by rwa [same], ?_⟩
  · rw [same] at follows ⊢
    rw [← count]
    exact finished.isLeast follows
  · rw [same] at made ⊢
    exact finished.once made sent
  · have outcome : writer.outcome queued = last := by
      rw [Writer.outcome, isLast, Option.getD_some]
    rw [← outcome]
    exact settled

/-- A command that has been let go is accounted for exactly when all its spans can be measured. -/
theorem Stage.accounted_iff (stage : Stage writer entry queued)
    (gone : writer.point.held ≠ some queued) :
    writer.Accounted entry queued ↔ writer.Measures entry.command (writer.writes queued).head? := by
  cases stage with
  | delaying at_ => rw [at_] at gone; exact absurd rfl gone
  | attempting tries => exact absurd (held_of_tries tries) gone
  | retrying at_ => rw [at_] at gone; exact absurd rfl gone
  | unpaused _ beyond untried =>
    -- The writer has ended before the first attempt.
    constructor
    · intro accounted
      refine absurd ?_ accounted.attempted
      rw [writes, untried]
      rfl
    · intro measures
      have paused := measures.paused
      rw [beyond] at paused
      cases paused
  | stalled _ beyond continues tried marked =>
    exact stalled_unaccounted beyond continues tried marked
  | concluded _ paused finished spaced marked settled =>
    exact ⟨fun accounted => accounted.measures paused finished spaced marked,
      fun measures => measures.accounted finished marked (settled gone)⟩

/-! How much is left to do for the command in a writer's hands. -/

variable {command : SerialCommand} {attempt : Nat} {link : Option Nat}

/-- The end of an attempt brings the writer closer to the end. -/
theorem attempted_remaining (below : attempt < command.attempts) (result : CommandResult) :
    (writer.attempted queued command attempt result).point.remaining command.attempts <
      3 * (command.attempts - attempt) + 1 := by
  -- Either another attempt is left, which lowers the count, or the announcement follows.
  unfold attempted
  split
  · next again =>
    simp only [Bool.and_eq_true, decide_eq_true_eq] at again
    cases command.retryDelay.toMillis with
    | some millis => simp only [WriterPoint.remaining]; omega
    | none => simp only [WriterPoint.remaining]; omega
  · cases result <;> simp only [concluded, WriterPoint.remaining] <;> omega

/-- The beginning of an attempt brings the writer closer to the end. -/
theorem attempting_remaining (below : attempt < command.attempts) :
    (writer.attempting queued command attempt link).point.remaining command.attempts <
      3 * (command.attempts - attempt) + 3 := by
  unfold attempting
  cases (writer.timeoutFor command).toMillis with
  | some millis => simp only [WriterPoint.remaining]; omega
  | none => exact Nat.lt_add_right 2 (attempted_remaining below _)

/-- The end of the first pause brings the writer closer to the end. -/
theorem began_remaining :
    (writer.began queued command link).point.remaining command.attempts <
      3 * command.attempts + 4 := by
  unfold began
  split
  · simp only [concluded, WriterPoint.remaining]
    omega
  · -- With attempts to make, the first one starts with all of them remaining.
    next some_ =>
    have begins : (writer.attempting queued command 0 link).point.remaining command.attempts <
        3 * (command.attempts - 0) + 3 := attempting_remaining (Nat.pos_of_ne_zero some_)
    omega

end Writer

namespace Session

variable {session next : Session} {index queued : Nat} {writer turned : Writer}
  {outcome : Outcome} {entry : QueuedCommand}

/-- A writer with a command in its hands is never stuck, unless it has been cancelled. -/
theorem writer_goes_on (custody : Custody session) (found : session.writers[index]? = some writer)
    (live : writer.cancelled = false) (held : writer.point.held = some queued) :
    ∃ outcome next, session.step (.resume (.writer index) outcome) = some next := by
  obtain ⟨entry, entered, -⟩ := custody.held_entry found held
  -- Only a write in progress ends with something else than a plain resumption.
  cases at_ : writer.point with
  | writing token attempt link =>
    rw [at_] at held
    obtain rfl := Option.some.inj held
    exact ⟨.timesOut, _,
      by simp [step, resume, found, resumeWriter, at_, entered, resumeWrite]; rfl⟩
  | resuming token attempt bytes =>
    rw [at_] at held
    obtain rfl := Option.some.inj held
    exact ⟨.resumes, _,
      by simp [step, resume, found, resumeWriter, at_, entered, resumeWritten, live]; rfl⟩
  | failing token error point =>
    cases point with
    | raised => exact ⟨.resumes, _, by simp [step, resume, found, resumeWriter, at_]; rfl⟩
    | changed => exact ⟨.resumes, _, by simp [step, resume, found, resumeWriter, at_]; rfl⟩
  | delaying token =>
    rw [at_] at held
    obtain rfl := Option.some.inj held
    exact ⟨.resumes, _, by simp [step, resume, found, resumeWriter, at_, entered, live]; rfl⟩
  | retrying token attempt =>
    rw [at_] at held
    obtain rfl := Option.some.inj held
    exact ⟨.resumes, _, by simp [step, resume, found, resumeWriter, at_, entered, live]; rfl⟩
  | reporting token result =>
    rw [at_] at held
    obtain rfl := Option.some.inj held
    exact ⟨.resumes, _, by simp [step, resume, found, resumeWriter, at_, entered]; rfl⟩
  | _ => rw [at_] at held; cases held

/-- Each turn of a writer brings it closer to letting go of the command in its hands. -/
theorem WriterMoves.closer (staged : Staged session writer)
    (taken : queued ∈ writer.taken) (entered : session.queue[queued]? = some entry)
    (live : writer.cancelled = false) (held : writer.point.held = some queued)
    (moved : WriterMoves session index writer outcome next)
    (there : next.writers[index]? = some turned) :
    turned.point.remaining entry.command.attempts <
      writer.point.remaining entry.command.attempts := by
  have stage := staged queued taken entry entered
  -- The turn starts from the command in the hands, so its point is known in each case.
  cases moved with
  | start at_ => rw [at_] at held; cases held
  | take at_ => rw [at_] at held; cases held
  | drained at_ => rw [at_] at held; cases held
  | @begin token before at_ entered' live =>
    rw [at_] at held
    obtain rfl := Option.some.inj held
    obtain rfl : before = entry := Option.some.inj (entered'.symm.trans entered)
    obtain rfl := eq_of_set (Turned.writers beginWriting_turned) there
    rw [at_]
    exact Writer.began_remaining
  | written at_ =>
    obtain rfl := eq_of_set rfl there
    rw [at_]
    exact Nat.lt_succ_self _
  | @resumed token attempt length before at_ entered' live =>
    rw [at_] at held
    obtain rfl := Option.some.inj held
    obtain rfl : before = entry := Option.some.inj (entered'.symm.trans entered)
    obtain rfl := eq_of_set (Turned.writers (attemptEnded_turned _)) there
    obtain ⟨trying, -⟩ := stage.of_tries (by rw [at_]; rfl)
    rw [at_]
    exact Writer.attempted_remaining (trying.count ▸ trying.continues.left) _
  | @attempted token attempt before outcome result tries entered' missed ended =>
    obtain rfl := Option.some.inj ((Writer.held_of_tries tries).symm.trans held)
    obtain rfl : before = entry := Option.some.inj (entered'.symm.trans entered)
    obtain rfl := eq_of_set (Turned.writers (attemptEnded_turned _)) there
    obtain ⟨trying, -⟩ := stage.of_tries tries
    have ends : (writer.attempted token before.command attempt result).point.remaining
        before.command.attempts < 3 * (before.command.attempts - attempt) + 1 :=
      Writer.attempted_remaining (trying.count ▸ trying.continues.left) result
    -- The attempt is over at once, or after its write has completed.
    rcases Writer.tries_cases tries with ⟨link, at_⟩ | ⟨bytes, at_⟩ <;> rw [at_]
    · exact Nat.lt_succ_of_lt ends
    · exact ends
  | @retry token attempt before at_ entered' live =>
    rw [at_] at held
    obtain rfl := Option.some.inj held
    obtain rfl : before = entry := Option.some.inj (entered'.symm.trans entered)
    obtain rfl := eq_of_set (Turned.writers beginAttempt_turned) there
    have trying := stage.of_retrying at_
    rw [at_]
    exact Writer.attempting_remaining (trying.count ▸ trying.continues.left)
  | reported at_ =>
    obtain rfl := eq_of_set (report_writers _) there
    rw [at_]
    exact Nat.zero_lt_one
  | failChanged at_ =>
    obtain rfl := eq_of_set rfl there
    rw [at_]
    exact Nat.one_lt_two
  | failSettled at_ =>
    obtain rfl := eq_of_set (writerFailed_writers _) there
    rw [at_]
    exact Nat.zero_lt_one
  | cancelled open_ cancelled =>
    rw [live] at cancelled
    cases cancelled

/--
Retry accounting, for every command a writer has taken without having been cancelled.

While it has the command in its hands the writer can always go on.
Each of its turns brings it closer to letting go of the command.
When it has let go, the attempts are as many as they should be, with the right outcome, exactly when
all the spans of the command can be measured.
-/
theorem retries_accounted (run : Transition.Run Session.step (fun _ _ => True) {} session)
    (found : session.writers[index]? = some writer) (live : writer.cancelled = false)
    (taken : queued ∈ writer.taken) (entered : session.queue[queued]? = some entry) :
    (writer.point.held = some queued →
      (∃ outcome next, session.step (.resume (.writer index) outcome) = some next) ∧
        ∀ outcome next turned, session.step (.resume (.writer index) outcome) = some next →
          next.writers[index]? = some turned →
          turned.point.remaining entry.command.attempts <
            writer.point.remaining entry.command.attempts) ∧
    (writer.point.held ≠ some queued →
      (writer.Accounted entry queued ↔
        writer.Measures entry.command (writer.writes queued).head?)) := by
  -- The stage is an invariant of the run, and says all there is to say about the command.
  have staged := AllStaged.of_run run index writer found live
  refine ⟨fun held => ⟨writer_goes_on (.of_run run) found live held, ?_⟩,
    fun gone => (staged queued taken entry entered).accounted_iff gone⟩
  intro outcome next turned stepped there
  -- The turn is one of this writer.
  cases Moves.of_step stepped with
  | inWriter found' moved =>
    obtain rfl := Option.some.inj (found'.symm.trans found)
    exact moved.closer staged taken entered live held there

end Session

/-! One command that is written in its second attempt, and one that is never written. -/

namespace Sample

/-- The first write of the command times out, and the second one succeeds. -/
def retried : List Action :=
  connecting 0 ++ [.resume (.writer 0) .resumes, .send repeated,
    .resume (.writer 0) .resumes, .resume (.writer 0) .resumes, .resume (.writer 0) .timesOut,
    .resume (.writer 0) .resumes, .resume (.writer 0) (.returns 1 []),
    .resume (.writer 0) .resumes, .resume (.writer 0) .resumes]

/-- The command asks for as many retries as there are, and its handling ends at once. -/
def insisting : List Action :=
  connecting 0 ++ [.resume (.writer 0) .resumes, .send (insistent 2147483647 (by decide)),
    .resume (.writer 0) .resumes, .resume (.writer 0) .resumes, .resume (.writer 0) .resumes,
    .resume (.writer 0) .resumes]

end Sample

namespace Session

/-- The first writer has let go of the first command, and this holds of the two. -/
def letGoWith (session : Session) (holds : Writer → QueuedCommand → Bool) : Bool :=
  (session.writers[0]?).any fun writer => (session.queue[0]?).any fun entry =>
    !writer.cancelled && decide (0 ∈ writer.taken) && decide (writer.point.held ≠ some 0) &&
      holds writer entry

/-- A test of a session finds the writer and the command that it is about. -/
theorem letGoWith_iff {session : Session} {holds : Writer → QueuedCommand → Bool}
    (test : session.letGoWith holds = true) :
    ∃ writer entry, session.writers[0]? = some writer ∧ session.queue[0]? = some entry ∧
      writer.cancelled = false ∧ 0 ∈ writer.taken ∧ writer.point.held ≠ some 0 ∧
      holds writer entry = true := by
  obtain ⟨writer, found, test⟩ := (Option.any_eq_true _ _).mp test
  obtain ⟨entry, entered, test⟩ := (Option.any_eq_true _ _).mp test
  -- The test is the conjunction of the conditions, each of which is decided.
  simp only [Bool.and_eq_true, Bool.not_eq_true', decide_eq_true_eq] at test
  obtain ⟨⟨⟨live, taken⟩, gone⟩, held⟩ := test
  exact ⟨writer, entry, found, entered, live, taken, gone, held⟩

/-- With the largest number of retries the command fails without having been written. -/
theorem insisting_unaccounted :
    ¬∀ (session : Session) (index queued : Nat) (writer : Writer) (entry : QueuedCommand),
      Transition.Run Session.step (fun _ _ => True) {} session →
      session.writers[index]? = some writer → writer.cancelled = false → queued ∈ writer.taken →
      session.queue[queued]? = some entry → writer.point.held ≠ some queued →
      writer.Accounted entry queued := by
  intro always
  obtain ⟨session, run, test⟩ := Transition.Run.of_test
    (fun session => session.letGoWith fun writer entry =>
      entry.result == some (.failed (.writeFailed none)) && (writer.writes 0).isEmpty)
    (show (Transition.execute Session.step (fun _ _ => True) {} Sample.insisting).any _ = true by
      decide +kernel)
  obtain ⟨writer, entry, found, entered, live, taken, gone, unwritten⟩ := letGoWith_iff test
  -- Nothing has been written, although one attempt should have been made.
  rw [Bool.and_eq_true, List.isEmpty_iff] at unwritten
  exact (always session 0 0 writer entry run found live taken entered gone).attempted unwritten.2

/-- A command that is written in its second attempt is accounted for. -/
theorem retried_accounted :
    ∃ (session : Session) (writer : Writer) (entry : QueuedCommand),
      Transition.Run Session.step (fun _ _ => True) {} session ∧
      session.writers[0]? = some writer ∧ session.queue[0]? = some entry ∧
      writer.writes 0 = [.timedOut 500, .sent 1] ∧ writer.Accounted entry 0 := by
  obtain ⟨session, run, test⟩ := Transition.Run.of_test
    (fun session => session.letGoWith fun writer entry =>
      writer.writes 0 == [.timedOut 500, .sent 1] &&
        decide (writer.Measures entry.command (writer.writes 0).head?))
    (show (Transition.execute Session.step (fun _ _ => True) {} Sample.retried).any _ = true by
      decide +kernel)
  obtain ⟨writer, entry, found, entered, live, taken, gone, holds⟩ := letGoWith_iff test
  -- All the spans of the command can be measured, which is all there is to check.
  rw [Bool.and_eq_true, beq_iff_eq, decide_eq_true_eq] at holds
  exact ⟨session, writer, entry, run, found, entered, holds.1,
    ((retries_accounted run found live taken entered).2 gone).mpr holds.2⟩

end Session

end SerialPort
