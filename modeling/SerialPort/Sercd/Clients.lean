import SerialPort.Sercd.Speaking

/-! What clients come to that speak the protocol, or nearly do. -/

namespace SerialPort.Sercd

open Telnet (Token dataBytes decode stuff)
open Negotiation (Demand)

variable {platform : Platform} {s : Server} {tokens : List Token} {token : Token} {part : Bytes}

/-- The demand that a token of the client makes on an option. -/
def Side.request (side : Side) (option : UInt8) : Token → Option Demand
  | .option verb subject =>
    if subject = option then
      if verb = side.ask then some .ask
      else if verb = side.refuse then some .refuse
      else none
    else none
  | _ => none

/-- A command makes the demand that its token makes. -/
theorem Side.request_commandToken (side : Side) (option : UInt8) (command : Bytes) :
    side.request option (commandToken command) = side.demand option command := by
  unfold commandToken
  -- A subnegotiation demands nothing, and an option command is read in the same way.
  split
  · next sub =>
    have silent : side.demand option command = none := Side.demand_none fun side demand => by
      rw [sub]
      cases side <;> cases demand <;> decide
    rw [silent]
    rfl
  · rfl

end SerialPort.Sercd
