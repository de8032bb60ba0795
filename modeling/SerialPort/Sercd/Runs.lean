import SerialPort.Library.Rounds
import SerialPort.Sercd.Turns

/-! Runs of the program: the states it comes to, and what holds of all of them. -/

namespace SerialPort.Sercd

open Relation (ReflTransGen)

/-- The states that the program comes to if in each turn the world does what is allowed. -/
def Reached (platform : Platform) (allowed : Round → Prop) (s : Server) : Prop :=
  Transition.Run (Server.step platform) (fun _ round => allowed round) startServer s

variable {platform : Platform} {round : Round} {flow : Bool} {allowed : Round → Prop}
  {s next : Server}

/-- What each move keeps is kept by any number of them. -/
theorem Well.moves_keep {holds : Server → Prop} (well : Well s) (held : holds s)
    (kept : ∀ {s next}, Well s → holds s → Move platform round flow s next → holds next)
    (moved : ReflTransGen (Move platform round flow) s next) : holds next := by
  -- The state before each move is a good one as well.
  induction moved with
  | refl => exact held
  | tail earlier last ih => exact kept (well.moves earlier) ih last

/-- A step keeps what its moves keep, even if it ends the program. -/
theorem Well.step_keeps {holds : Server → Prop} (well : Well s) (held : holds s)
    (stops : ∀ {s} status, holds s → holds { s with status := status })
    (kept : ∀ {flow s next}, Well s → holds s → Move platform round flow s next → holds next)
    (stepped : s.step platform round = some next) : holds next := by
  have observed : ReflTransGen (Move platform round s.redirector.inputFlow) s (s.observe round) :=
    Server.observe_moves s round
  -- A step is a run of moves; one that ends the program only sets the status after them.
  cases Server.step_stepped well stepped with
  | goesOn moved => exact well.moves_keep held kept moved
  | exits => exact stops _ (well.moves_keep held kept observed)
  | aborts => exact stops _ (well.moves_keep held kept observed)

namespace Reached

/-- Every state that is reached is a good one. -/
theorem well (reached : Reached platform allowed s) : Well s :=
  Transition.Run.invariant reached startServer_well fun _ _ stepped well =>
    well.step_keeps well (fun _ ⟨sound, sockets, device, listening, enabled⟩ =>
      ⟨sound, sockets, device, listening, enabled⟩) (fun well _ moved => well.move moved) stepped

/-- What is reached in some rounds is reached in more of them. -/
theorem weaken {allowed' : Round → Prop} (reached : Reached platform allowed s)
    (weaker : ∀ {round}, allowed round → allowed' round) : Reached platform allowed' s :=
  Transition.Run.weaken weaker reached

/-- What holds at first, and is kept by each move and at the end of the program, always holds. -/
theorem keeps {holds : Server → Prop} (reached : Reached platform allowed s)
    (first : holds startServer) (stops : ∀ {s} status, holds s → holds { s with status := status })
    (kept : ∀ {round flow s next}, allowed round → Well s → holds s →
      Move platform round flow s next → holds next) : holds s :=
  Transition.Run.invariant reached first fun earlier permitted stepped held =>
    (well earlier).step_keeps held stops (kept permitted) stepped

/-- Between two turns nobody is connected, or the device is open. -/
theorem settled (reached : Reached platform allowed s) : s.Settled := by
  refine Transition.Run.invariant reached ⟨rfl, rfl⟩ ?_
  intro s round next earlier _ stepped settled
  cases Server.step_stepped (well earlier) stepped with
  | goesOn _ still => exact still settled
  | exits => exact Server.observe_settled settled
  | aborts => exact Server.observe_settled settled

end Reached

/-! Rounds of some short runs. -/

namespace Sample

/-- A device that does what it is told, with a `long` of 32 bits. -/
def board : Platform where
  longSize := .four
  deviceName := [100]
  driver := { tcsetattr := fun _ settings => settings, tiocmset := fun _ lines => lines }

/-- A client connects, and the device can be opened. -/
def connecting : Round :=
  { ready := some { socketConnect := true }, accepts := true, opens := some (⟨0, 0⟩, 0) }

/-- The client sends some bytes. -/
def hearing (bytes : Bytes) : Round :=
  { ready := some { socketIn := true }, readNet := .gives bytes }

/-- The device sends some bytes. -/
def reading (bytes : Bytes) : Round :=
  { ready := some { deviceIn := true }, readDev := .gives bytes }

/-- The client takes as many bytes as there are, or none and leaves. -/
def sending : Round :=
  { ready := some { socketOut := true }, writeNet := .gives 2048 }

def leaving : Round :=
  { ready := some { socketIn := true }, readNet := .gives [] }

/-- A client agrees to the control of the port, and asks for data of seven bits. -/
def setting : List Round :=
  [connecting, hearing [255, 251, 44], hearing [255, 250, 44], hearing [2, 7, 255], hearing [240]]

end Sample

/-- A run of some rounds that ends in a state of some kind. -/
theorem Reached.of_test [DecidablePred allowed] {rounds : List Round} (test : Server → Bool)
    (passed : (Transition.execute (Server.step platform) (fun _ round => allowed round) startServer
      rounds).any test = true) :
    ∃ s, Reached platform allowed s ∧ test s = true :=
  Transition.Run.of_test test passed

/-- A move leaves the process running. -/
theorem Move.status_eq (moved : Move platform round flow s next) : next.status = s.status := by
  cases moved with
  | dropped =>
    obtain ⟨port, dropped⟩ := Well.dropConnection_eq platform s
    rw [dropped]
  | _ => rfl

/-- No number of moves ends the program. -/
theorem moves_status (moved : ReflTransGen (Move platform round flow) s next) :
    next.status = s.status := by
  induction moved with
  | refl => rfl
  | tail _ last ih => exact last.status_eq.trans ih

/-- How the program can end, if it does. -/
def Server.Ending (platform : Platform) (s : Server) : Prop :=
  match s.status with
  | .running => True
  | .exited code => code = 1
  | .aborted .assertion => True
  | .aborted .outOfBounds => platform.longSize = .four
  | .aborted .nullPointer => False

/-- The program exits only when select fails, and never follows a pointer that is not set. -/
theorem Reached.ending (reached : Reached platform allowed s) : s.Ending platform := by
  refine Transition.Run.invariant reached trivial ?_
  intro s round next earlier _ stepped ending
  cases Server.step_stepped (well earlier) stepped with
  -- No move touches the status.
  | goesOn moved =>
    unfold Server.Ending
    rwa [moves_status moved]
  | exits => exact rfl
  -- The ways to abort are the two reads of -1 and the assertion of a poll.
  | aborts _ bad =>
    rcases bad with ⟨rfl | rfl, four, -⟩ | ⟨_, -, rfl, -, -⟩
    · exact four
    · trivial
    · trivial

/-- A client is only accepted when there is none, and then the device is closed. -/
theorem Well.free_closed (well : Well s) (free : (s.inSocketFd && s.outSocketFd) = false) :
    s.inSocketFd = false ∧ s.deviceFd = false := by
  have idle : s.inSocketFd = false := by
    rw [← well.sockets, Bool.and_self] at free
    exact free
  refine ⟨idle, ?_⟩
  -- An open device has its client, so without sockets it is closed.
  by_contra open_
  have connected := well.device ((Bool.not_eq_false _).mp open_)
  rw [idle] at connected
  cases connected

/-- What the service is told about one connection. -/
inductive Connection : List ProxyState → Prop where
  | served : Connection [.connected, .portOpened, .ready]
  | failed : Connection [.connected, .ready]

namespace Server

/-- What the service has been told about the connection that there is. -/
def current (s : Server) : List ProxyState :=
  if s.deviceFd then [.connected, .portOpened] else if s.inSocketFd then [.connected] else []

/-- What the service has been told: that the proxy is ready, and of one connection after another. -/
def Told (s : Server) : Prop :=
  ∃ history, s.states = .ready :: history ∧ Rounds.InRounds Connection history s.current

/-- Every move keeps to what the service expects to be told. -/
theorem Told.move (well : Well s) (told : s.Told) (moved : Move platform round flow s next) :
    next.Told := by
  obtain ⟨history, whole, inRounds⟩ := told
  cases moved with
  | accepted free =>
    obtain ⟨idle, closed⟩ := well.free_closed free
    refine ⟨history ++ [.connected], by rw [whole, List.cons_append], ?_⟩
    have extended : Rounds.InRounds _ (history ++ [.connected]) _ := inRounds.extend
    rw [current, closed, idle] at extended
    rwa [current, closed]
  | opened settings lines connected =>
    simp only [Bool.and_eq_true, Bool.not_eq_true'] at connected
    obtain ⟨⟨inSocket, -⟩, closed⟩ := connected
    refine ⟨history ++ [.portOpened], by rw [whole, List.cons_append], ?_⟩
    have extended : Rounds.InRounds _ (history ++ [.portOpened]) _ := inRounds.extend
    rwa [current, closed, inSocket] at extended
  | dropped connected =>
    obtain ⟨port, dropped⟩ := Well.dropConnection_eq platform s
    rw [dropped]
    refine ⟨history ++ [.ready], by rw [whole, List.cons_append], ?_⟩
    have extended : Rounds.InRounds _ (history ++ [.ready]) _ := inRounds.extend
    refine extended.complete ?_
    unfold current
    split
    · exact .served
    · next closed =>
      -- Without the device it is the sockets that are open.
      rw [if_pos (connected.resolve_left closed).1]
      exact .failed
  | _ => exact ⟨history, whole, inRounds⟩

end Server

/-- In every run all descriptors are open or none is, no pointer is followed that is not set, the
program does not run out of things to do, and the service is told of each connection in turn. -/
theorem Reached.lifecycle (reached : Reached platform allowed s) :
    s.inSocketFd = s.deviceFd ∧ s.outSocketFd = s.deviceFd ∧
      s.status ≠ .aborted .nullPointer ∧ s.status ≠ .exited 0 ∧
      ∃ history, s.states = .ready :: history ∧
        Rounds.InRounds Connection history
          (if s.deviceFd then [.connected, .portOpened] else []) := by
  obtain ⟨inSocket, outSocket⟩ := reached.settled
  have ending := reached.ending
  have first : startServer.Told := ⟨[], rfl, .nil⟩
  obtain ⟨history, whole, inRounds⟩ := reached.keeps first (fun _ told => told)
    fun _ well told moved => told.move well moved
  refine ⟨inSocket, outSocket, ?_, ?_, history, whole, ?_⟩
  · -- How the program can end is known of every reached state.
    intro aborted
    unfold Server.Ending at ending
    rwa [aborted] at ending
  · intro exited
    unfold Server.Ending at ending
    rw [exited] at ending
    cases ending
  · -- The open round is the one that the descriptors tell.
    have same : s.current = if s.deviceFd then [.connected, .portOpened] else [] := by
      unfold Server.current
      rw [inSocket]
      cases s.deviceFd <;> rfl
    rwa [← same]

/-- A client that has come and gone has been announced. -/
theorem left_lifecycle : ∃ s : Server, s.states = [.ready, .connected, .portOpened, .ready] ∧
    s.inSocketFd = s.deviceFd ∧ s.outSocketFd = s.deviceFd ∧
      s.status ≠ .aborted .nullPointer ∧ s.status ≠ .exited 0 ∧
      ∃ history, s.states = .ready :: history ∧
        Rounds.InRounds Connection history
          (if s.deviceFd then [.connected, .portOpened] else []) := by
  obtain ⟨s, reached, test⟩ := Reached.of_test
    (fun s => s.states == [.ready, .connected, .portOpened, .ready])
    (show (Transition.execute (Server.step Sample.board) (fun _ _ => True) startServer
      [Sample.connecting, Sample.leaving]).any _ = true by decide +kernel)
  exact ⟨s, beq_iff_eq.mp test, reached.lifecycle⟩

end SerialPort.Sercd
