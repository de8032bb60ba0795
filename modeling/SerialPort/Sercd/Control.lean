import SerialPort.Sercd.Clients

/-! Who may change the port, and how it is left behind. -/

namespace SerialPort.Sercd

open Telnet (Token)

variable {platform : Platform} {allowed : Round → Prop} {round : Round} {flow : Bool}
  {s next : Server}

/-- Whether the client has agreed to the control of the port, on either side of the option. -/
def Agreed (commands : List Bytes) : Prop :=
  ∃ side, .ask ∈ Side.demands side tncomPortOption commands

/-- Who has agreed once has agreed, whatever follows. -/
theorem Agreed.append {commands : List Bytes} (agreed : Agreed commands) (more : List Bytes) :
    Agreed (commands ++ more) := by
  obtain ⟨side, asked⟩ := agreed
  refine ⟨side, ?_⟩
  rw [Side.demands, List.filterMap_append]
  exact List.mem_append_left _ asked

/-- An option is only done if the client has asked for it. -/
def Redirector.Granted (r : Redirector) : Prop :=
  r.controlled = true → Agreed r.handled

/-- The port is controlled if the option is done on either side. -/
theorem controlled_iff (r : Redirector) :
    r.controlled = true ↔ ∃ side, (Side.party side (r.tnstate tncomPortOption)).active = true := by
  rw [Redirector.controlled, Bool.or_eq_true]
  constructor
  · rintro (server | client)
    · exact ⟨.server, server⟩
    · exact ⟨.client, client⟩
  · rintro ⟨side, active⟩
    cases side with
    | server => exact .inl active
    | client => exact .inr active

/-- A command that turns the option on asks for it. -/
theorem Handled.granted {r after : Redirector} {command : Bytes} {tokens : List Telnet.Token}
    (handled : Handled platform r command after tokens) (granted : r.Granted) : after.Granted := by
  intro controlled
  obtain ⟨side, active⟩ := (controlled_iff after).mp controlled
  rw [handled.handled]
  rw [handled.options, Side.partyAfter] at active
  cases demanded : side.demand tncomPortOption command with
  -- No word of the client's: the option was active before, so its demand is further back.
  | none =>
    rw [demanded] at active
    exact (granted ((controlled_iff r).mpr ⟨side, active⟩)).append _
  -- A word of the client's decides; only a demand that asks leaves the option active.
  | some demand =>
    rw [demanded] at active
    cases demand with
    | refuse => cases active
    | ask =>
      refine ⟨side, ?_⟩
      rw [Side.demands, List.filterMap_append]
      exact List.mem_append_right _ (by simp [demanded])

/-- The port is as it was opened, unless the client has agreed to its control. -/
structure Untouched (platform : Platform) (s : Server) : Prop where
  granted : s.redirector.Granted
  asOpened : s.deviceFd = true → ¬Agreed s.redirector.handled →
    ∃ settings, s.initialPortSettings = some settings ∧
      s.redirector.port.settings =
        (Port.openPort platform.driver { settings := settings, lines := 0 }).settings ∧
      s.redirector.port.calls = []

namespace Untouched

/-- What concerns neither the options nor the port leaves it untouched. -/
theorem same (untouched : Untouched platform s)
    (tnstate : next.redirector.tnstate = s.redirector.tnstate)
    (handled : next.redirector.handled = s.redirector.handled)
    (settings : next.redirector.port.settings = s.redirector.port.settings)
    (calls : next.redirector.port.calls = s.redirector.port.calls)
    (deviceFd : next.deviceFd = s.deviceFd)
    (initial : next.initialPortSettings = s.initialPortSettings) : Untouched platform next where
  granted := by
    unfold Redirector.Granted Redirector.controlled
    rw [tnstate, handled]
    exact untouched.granted
  asOpened := by
    rw [deviceFd, handled, initial, settings, calls]
    exact untouched.asOpened

/-- A command that is handled leaves the port as it is, unless the client has agreed. -/
theorem command (untouched : Untouched platform s) {receiver : Receiver} {after : Redirector}
    {command : Bytes} {tokens : List Telnet.Token}
    (handled : Handled platform { s.redirector with receiver := receiver } command after tokens)
    {buffer : BufferType} {fromNet : Bytes} :
    Untouched platform { s with redirector := after.withNet buffer, fromNet := fromNet } where
  granted := handled.granted (r := { s.redirector with receiver := receiver }) untouched.granted
  asOpened := by
    intro open_ silent
    -- Without an agreement the option is not done, and then no command reaches the port.
    have silent' : ¬Agreed s.redirector.handled := fun agreed => silent (by
      change Agreed after.handled
      rw [handled.handled]
      exact agreed.append [command])
    have closed : s.redirector.controlled = false := by
      by_contra controlled
      exact silent' (untouched.granted ((Bool.not_eq_false _).mp controlled))
    have port : after.port = s.redirector.port := (handled.samePort (.inr closed)).port
    change ∃ settings, s.initialPortSettings = some settings ∧ after.port.settings = _ ∧
      after.port.calls = []
    rw [port]
    exact untouched.asOpened open_ silent'

/-- Every move leaves the port untouched. -/
theorem move (well : Well s) (untouched : Untouched platform s)
    (moved : Move platform round flow s next) : Untouched platform next := by
  cases moved with
  | polled | stored | lines | toDevice | toDeviceBlocked | toNetwork | toNetworkBlocked =>
    exact untouched.same rfl rfl rfl rfl rfl rfl
  | deviceByte c open_ flows written =>
    obtain ⟨-, rfl⟩ := Redirector.escWriteChar_eq_ok written
    exact untouched.same rfl rfl rfl rfl rfl rfl
  | networkByte c open_ passed =>
    obtain ⟨receiver, received, -, -, redirected⟩ :=
      Redirector.escRedirectChar_cases well.sound passed
    -- Only a complete command can do more than to pass on a byte.
    cases redirected with
    | nothing | data => exact untouched.same rfl rfl rfl rfl rfl rfl
    | command complete handled room => exact untouched.command handled
  | accepted free written =>
    obtain ⟨-, rfl⟩ := Redirector.sendTelnetInitialOptions_eq_ok written
    -- A new client begins with all options off, whatever the one before it has agreed to.
    obtain ⟨-, closed⟩ := well.free_closed free
    exact ⟨fun controlled => absurd (show false = true from controlled) (by decide),
      fun open_ => absurd (closed.symm.trans open_) (by decide)⟩
  | opened settings lines waited =>
    exact ⟨untouched.granted, fun _ _ => ⟨settings, rfl, rfl, rfl⟩⟩
  | notified newstate open_ flows looked changed written =>
    obtain ⟨-, rfl⟩ := Redirector.sendCPCByteCommand_eq_ok (by decide) written
    exact untouched.same rfl rfl rfl rfl rfl rfl
  | dropped =>
    obtain ⟨port, dropped⟩ := Well.dropConnection_eq platform s
    rw [dropped]
    exact ⟨untouched.granted, fun open_ => by cases open_⟩

end Untouched

/-- A driver that sets what it is told to set. -/
def Driver.Obeys (driver : Driver) : Prop :=
  ∀ before settings, driver.tcsetattr before settings = settings

/-- A device that was opened and is closed again has the settings that it was found with. -/
structure Restored (s : Server) : Prop where
  known : s.deviceFd = true → s.initialPortSettings.isSome
  restored : s.deviceFd = false → ∀ settings, s.initialPortSettings = some settings →
    s.redirector.port.settings = settings

namespace Restored

/-- What leaves the settings of a closed device alone leaves it restored. -/
theorem same (restored : Restored s)
    (settings : s.deviceFd = false → next.redirector.port.settings = s.redirector.port.settings)
    (deviceFd : next.deviceFd = s.deviceFd)
    (initial : next.initialPortSettings = s.initialPortSettings) : Restored next where
  known := by
    rw [deviceFd, initial]
    exact restored.known
  restored := by
    rw [deviceFd, initial]
    intro closed
    rw [settings closed]
    exact restored.restored closed

/-- The end of a connection sets what was found when the device was opened. -/
theorem dropped (obeys : platform.driver.Obeys) (restored : Restored s) :
    Restored (s.dropConnection platform) := by
  constructor
  · intro open_
    cases open_
  · intro _ settings initial
    -- What was found is remembered while the connection lasts and behind its end.
    have found : s.initialPortSettings = some settings := by
      obtain ⟨port, same⟩ := Well.dropConnection_eq platform s
      rwa [same] at initial
    unfold Server.dropConnection
    by_cases open_ : s.deviceFd = true
    · dsimp only
      rw [if_pos open_, Server.closePort]
      dsimp only
      rw [found]
      exact obeys _ _
    · dsimp only
      rw [if_neg open_]
      exact restored.restored (Bool.eq_false_iff.mpr open_) settings found

/-- Every move leaves the device restored. -/
theorem move (obeys : platform.driver.Obeys) (restored : Restored s)
    (moved : Move platform round flow s next) : Restored next := by
  cases moved with
  | polled | stored | lines | toDevice | toDeviceBlocked | toNetwork | toNetworkBlocked =>
    exact restored.same (fun _ => rfl) rfl rfl
  | deviceByte c open_ flows written =>
    obtain ⟨-, rfl⟩ := Redirector.escWriteChar_eq_ok written
    exact restored.same (fun _ => rfl) rfl rfl
  | networkByte c open_ passed =>
    -- A client may set what it likes, as the device is open then.
    exact restored.same (fun closed => absurd (closed.symm.trans open_) (by decide)) rfl rfl
  | accepted free written =>
    obtain ⟨-, rfl⟩ := Redirector.sendTelnetInitialOptions_eq_ok written
    exact restored.same (fun _ => rfl) rfl rfl
  | opened settings lines waited =>
    exact ⟨fun _ => rfl, fun closed => by cases closed⟩
  | notified newstate open_ flows looked changed written =>
    obtain ⟨-, rfl⟩ := Redirector.sendCPCByteCommand_eq_ok (by decide) written
    exact restored.same (fun _ => rfl) rfl rfl
  | dropped => exact restored.dropped obeys

end Restored

/-- In every run with a driver that sets what it is told, a device that is closed again has the
settings it was found with, whatever clients have set and however their connections have ended. -/
theorem Reached.port_restored (obeys : platform.driver.Obeys) (reached : Reached platform allowed s)
    (closed : s.deviceFd = false) {settings : Termios}
    (found : s.initialPortSettings = some settings) : s.redirector.port.settings = settings := by
  have first : Restored startServer :=
    ⟨fun open_ => (by cases open_), fun _ settings found => (by cases found)⟩
  have restored : Restored s :=
    reached.keeps first (fun _ restored => restored.same (fun _ => rfl) rfl rfl)
      fun _ _ restored moved => restored.move obeys moved
  exact restored.restored closed settings found

/-- A client that has asked for seven bits leaves the device as it was. -/
theorem setting_port_restored : ∃ s : Server, s.redirector.handled ≠ [] ∧
    s.redirector.port.settings = ⟨0, 0⟩ := by
  -- The client sets the port and leaves, and the device is closed behind it.
  obtain ⟨s, reached, test⟩ := Reached.of_test
    (fun s => !s.deviceFd && s.initialPortSettings == some ⟨0, 0⟩ && s.redirector.handled != [])
    (show (Transition.execute (Server.step Sample.board) (fun _ _ => True) startServer
      (Sample.setting ++ [Sample.leaving])).any _ = true by decide +kernel)
  simp only [Bool.and_eq_true, Bool.not_eq_true', beq_iff_eq, bne_iff_ne] at test
  obtain ⟨⟨closed, found⟩, handled⟩ := test
  exact ⟨s, handled, Reached.port_restored (fun _ _ => rfl) reached closed found⟩

end SerialPort.Sercd
