import BusProbe.Board.Basic
import BusProbe.Bus.Basic

/-!
# The interface of a probe

A bus and a board beside each other are what operations are carried out on. A request to one of the
two is a request to the probe. Waiting has its limits: one in time, which an operator sees, and one
in the number of attempts, which keeps every script finite.
-/

set_option autoImplicit false
set_option relaxedAutoImplicit false

namespace BusProbe

/-- A bus and a board beside each other. -/
abbrev Probe : Interface := Bus.beside Board

/-- The limits on waiting. -/
structure Limits where
  /-- How many milliseconds one read operation may wait for data. -/
  readMillis : Nat
  /-- How often something may be polled before the wait counts as endless. -/
  patience : Nat
  deriving DecidableEq, Repr

/-- The time limit of a read operation if no other is chosen. -/
def Limits.defaultReadMillis : Nat := 2000

namespace Probe

/-- A request to the bus. -/
def onBus (request : BusRequest) : Script Probe (BusRequest.Reply request) :=
  .ask (.inl request) .done

/-- A request to the board. -/
def onBoard (request : BoardRequest) : Script Probe (BoardRequest.Reply request) :=
  .ask (.inr request) .done

end Probe

end BusProbe
