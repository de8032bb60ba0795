import SerialPort.Session.Attempt
import SerialPort.Library.Grouped

/-! A writer finishes the attempts for one command before it takes the next. -/

namespace SerialPort

namespace CommandResult

/-- The outcomes an attempt can have. -/
def OfAttempt : CommandResult → Prop
  | .sent _ => True
  | .timedOut _ => True
  | .failed (.writeFailed _) => True
  | _ => False

def isFailed : CommandResult → Bool
  | .failed _ => true
  | _ => false

end CommandResult

namespace Writer

/-- The outcomes of the attempts for a command. -/
def results (writer : Writer) (queued : Nat) : List CommandResult :=
  Grouped.entries writer.attempts queued

/-- The outcome of the last attempt for a command, or what stands in for it before the first. -/
def outcome (writer : Writer) (queued : Nat) : CommandResult :=
  (writer.results queued).getLast?.getD (.failed (.writeFailed none))

/-- How far the attempts for the command in the writer's hands have come. -/
def Progress (writer : Writer) : WriterPoint → Prop
  | .delaying queued => writer.results queued = []
  | .writing queued attempt _ => (writer.results queued).length = attempt
  | .resuming queued attempt _ => (writer.results queued).length = attempt
  | .retrying queued attempt => (writer.results queued).length = attempt
  | .reporting queued result => result = writer.outcome queued ∧ result.isFailed = false
  | .failing queued error _ => .failed error = writer.outcome queued
  | _ => True

/-- No command is taken twice, and the attempts are made in the order of the commands. -/
structure Orderly (writer : Writer) : Prop where
  distinct : writer.taken.Nodup
  inOrder : Grouped.InOrder writer.taken writer.attempts
  ofAttempt : ∀ attempt ∈ writer.attempts, attempt.2.OfAttempt
  last : ∀ queued, writer.point.held = some queued → writer.taken.getLast? = some queued
  progress : writer.Progress writer.point

variable {writer : Writer} {queued attempt : Nat} {command : SerialCommand} {link : Option Nat}

/-- What stays true of the writer in the middle of the attempts for its last command. -/
structure Engaged (writer : Writer) (queued : Nat) : Prop where
  distinct : writer.taken.Nodup
  inOrder : Grouped.InOrder writer.taken writer.attempts
  ofAttempt : ∀ attempt ∈ writer.attempts, attempt.2.OfAttempt
  last : writer.taken.getLast? = some queued

/-- An orderly writer is engaged in what it holds. -/
theorem Orderly.engaged (orderly : Orderly writer) (held : writer.point.held = some queued) :
    Engaged writer queued :=
  ⟨orderly.distinct, orderly.inOrder, orderly.ofAttempt, orderly.last queued held⟩

/-- An attempt that is in progress is the one after those that are logged. -/
theorem Orderly.tries (orderly : Orderly writer)
    (tries : writer.point.tries = some (queued, attempt)) :
    (writer.results queued).length = attempt := by
  have progress := orderly.progress
  cases at_ : writer.point <;> simp_all [Progress, WriterPoint.tries]

/-- The writer without a command in its hands. -/
theorem Orderly.idle (orderly : Orderly writer) {point : WriterPoint} (empty : point.held = none) :
    Orderly { writer with point := point } where
  distinct := orderly.distinct
  inOrder := orderly.inOrder
  ofAttempt := orderly.ofAttempt
  last := by simp [empty]
  progress := by
    cases point <;> trivial

namespace Engaged

/-- A writer that is engaged in one command may go to any point of it. -/
theorem point (engaged : Engaged writer queued) {point : WriterPoint}
    (held : ∀ token, point.held = some token → token = queued)
    (progress : writer.Progress point) : Orderly { writer with point := point } where
  distinct := engaged.distinct
  inOrder := engaged.inOrder
  ofAttempt := engaged.ofAttempt
  last := fun token there => held token there ▸ engaged.last
  progress := by cases point <;> exact progress

/-- The result of the command is the outcome of its last attempt. -/
theorem concluded (engaged : Engaged writer queued) {result : CommandResult}
    (outcome : result = writer.outcome queued) : Orderly (writer.concluded queued result) := by
  cases result with
  | failed error => exact engaged.point (fun _ held => (Option.some.inj held).symm) outcome
  | _ => exact engaged.point (fun _ held => (Option.some.inj held).symm) ⟨outcome, rfl⟩

/-- One more attempt is logged. -/
theorem logged (engaged : Engaged writer queued) {result : CommandResult}
    (ofAttempt : result.OfAttempt) :
    Engaged { writer with attempts := writer.attempts ++ [(queued, result)] } queued where
  distinct := engaged.distinct
  inOrder := engaged.inOrder.addEntry engaged.distinct engaged.last
  ofAttempt := by
    intro attempt made
    -- Only the last entry is new, and it is the attempt's own result.
    rcases List.mem_append.mp made with earlier | new
    · exact engaged.ofAttempt attempt earlier
    · rw [List.mem_singleton.mp new]
      exact ofAttempt
  last := engaged.last

/-- A writer is orderly behind an attempt. -/
theorem attempted (engaged : Engaged writer queued)
    (count : (writer.results queued).length = attempt) {result : CommandResult}
    (ofAttempt : result.OfAttempt) :
    Orderly (writer.attempted queued command attempt result) := by
  have logged := engaged.logged ofAttempt
  unfold Writer.attempted
  split
  · cases command.retryDelay.toMillis with
    -- The next attempt is the one after those that are logged.
    | some millis =>
      refine logged.point (fun _ held => (Option.some.inj held).symm) ?_
      simpa [Progress, results] using count
    | none => exact logged.point (fun _ held => by cases held) trivial
  · -- The last attempt is the one just logged, and its result is reported.
    exact logged.concluded (by simp [outcome, results])

/-- A writer is orderly while an attempt begins. -/
theorem attempting (engaged : Engaged writer queued)
    (count : (writer.results queued).length = attempt) :
    Orderly (writer.attempting queued command attempt link) := by
  unfold Writer.attempting
  cases (writer.timeoutFor command).toMillis with
  | some millis => exact engaged.point (fun _ held => (Option.some.inj held).symm) count
  | none => exact engaged.attempted count trivial

/-- A writer is orderly from the first attempt on. -/
theorem began (engaged : Engaged writer queued) (fresh : writer.results queued = []) :
    Orderly (writer.began queued command link) := by
  unfold Writer.began
  split
  · -- Without an attempt the outcome is the one that stands in for it.
    exact engaged.concluded (by simp [outcome, fresh])
  · exact engaged.attempting (by simp [fresh])

end Engaged

/-- A command is taken that the writer has not taken before. -/
theorem Orderly.take (orderly : Orderly writer) (fresh : queued ∉ writer.taken) :
    Orderly { writer with
      point := writer.pausing queued command
      taken := writer.taken ++ [queued] } := by
  have engaged : Engaged { writer with taken := writer.taken ++ [queued] } queued :=
    { distinct := List.nodup_append.mpr ⟨orderly.distinct, by simp, by
        intro token taken other new same
        exact fresh (List.mem_singleton.mp new ▸ same ▸ taken)⟩
      inOrder := orderly.inOrder.addKey fresh
      ofAttempt := orderly.ofAttempt
      last := by simp }
  -- Nothing has been tried for the new command yet, whether the writer pauses or ends.
  unfold pausing
  cases (writer.delayFor command).toMillis with
  | some millis =>
    exact engaged.point (fun _ held => (Option.some.inj held).symm)
      (orderly.inOrder.entries_fresh fresh)
  | none => exact engaged.point (fun _ held => by cases held) trivial

/-- The outcome of an orderly writer is one of a whole attempt. -/
theorem Orderly.outcome_ofAttempt (orderly : Orderly writer) (queued : Nat) :
    (writer.outcome queued).OfAttempt := by
  -- The outcome belongs to an attempt, or is the failure without a cause.
  unfold outcome
  cases last : (writer.results queued).getLast? with
  | none => trivial
  | some latest =>
    obtain ⟨attempt, made, rfl⟩ := List.mem_map.mp (List.mem_of_getLast? last)
    exact orderly.ofAttempt attempt (List.mem_filter.mp made).1

/-- What a writer reports is the outcome of an attempt that has not failed. -/
theorem Orderly.reported (orderly : Orderly writer) {result : CommandResult}
    (at_ : writer.point = .reporting queued result) :
    result.OfAttempt ∧ result.isFailed = false := by
  have progress := orderly.progress
  rw [at_] at progress
  exact ⟨progress.1 ▸ orderly.outcome_ofAttempt queued, progress.2⟩

/-- A writer fails for no other reason than a failed write. -/
theorem Orderly.failing (orderly : Orderly writer) {error : SerialError} {point : FailPoint}
    (at_ : writer.point = .failing queued error point) : ∃ cause, error = .writeFailed cause := by
  have progress := orderly.progress
  rw [at_] at progress
  -- An attempt fails with `WriteFailed` and with no other error.
  have ofAttempt := orderly.outcome_ofAttempt queued
  rw [← show CommandResult.failed error = writer.outcome queued from progress] at ofAttempt
  cases error with
  | writeFailed cause => exact ⟨cause, rfl⟩
  | _ => exact ofAttempt.elim

/-- A new writer is orderly. -/
theorem Orderly.initial {config : SerialConfig} {cancelled : Bool} {connection : Nat} :
    Orderly { config := config, cancelled := cancelled, connection := connection } where
  distinct := by simp
  inOrder := .nil
  ofAttempt := by simp
  last := by simp [WriterPoint.held]
  progress := trivial

/-- A writer that is cancelled is as orderly as before. -/
theorem Orderly.cancel (orderly : Orderly writer) : Orderly writer.cancel where
  distinct := orderly.distinct
  inOrder := orderly.inOrder
  ofAttempt := orderly.ofAttempt
  last := orderly.last
  -- Cancelling moves no writer: what a point promises it promised before.
  progress := by
    have progress := orderly.progress
    unfold Writer.cancel
    cases at_ : writer.point <;> rw [at_] at progress <;> exact progress

end Writer

end SerialPort
