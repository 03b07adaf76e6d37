import BusProbe.Operation.Perform
import BusProbe.Script.Handler

/-!
# Stations

A station is a bus and a board joined to their hardware, together with all that they remember from
one sequence of operations to the next. The hardware of the two is separate.
-/

set_option autoImplicit false
set_option relaxedAutoImplicit false

namespace BusProbe

/-- How a bus over the hardware `J` and a board over the hardware `K` work, and the limits on
waiting. The bus keeps a state of type `σ` and the board one of type `τ`. -/
structure Fixture (J K : Interface) (σ τ : Type) where
  bus : Handler Bus J σ
  board : Handler Board K τ
  limits : Limits

/-- What a station remembers: whether a transaction counts as open, and the states of its bus and
its board. -/
structure Station (σ τ : Type) where
  isOpen : Bool
  bus : σ
  board : τ
  deriving Repr

namespace Station

variable {J K : Interface} {σ τ α : Type}

/-- A station that has not been used. -/
def fresh (bus : σ) (board : τ) : Station σ τ := ⟨false, bus, board⟩

/-- Carries out a script of bus and board requests on the hardware of a station. -/
def onHardware (fixture : Fixture J K σ τ) (script : Script Probe α) (station : Station σ τ) :
    Script (J.beside K) (α × (σ × τ)) :=
  script.handle (fixture.bus.beside fixture.board) (station.bus, station.board)

/-- Carries out a sequence of operations. Gives the text that was read and the station after it. -/
def execute (fixture : Fixture J K σ τ) (ops : List Operation) (station : Station σ τ) :
    Script (J.beside K) (String × Station σ τ) := do
  let ((text, isOpen), (bus, board)) ←
    station.onHardware fixture (Operation.execute fixture.limits ops station.isOpen)
  return (text, ⟨isOpen, bus, board⟩)

/-- Carries out the groups of a line one after another. Gives the text that was read in each. -/
def executeGroups (fixture : Fixture J K σ τ) (groups : List Group) (station : Station σ τ) :
    Script (J.beside K) (List String × Station σ τ) :=
  match groups with
  | [] => return ([], station)
  | group :: rest => do
    let (text, station) ← station.execute fixture group.operations
    let (texts, station) ← executeGroups fixture rest station
    return (text :: texts, station)

/-- Carries out a line. What there is to record about the line as a whole comes before the first
operation. -/
def executeLine (fixture : Fixture J K σ τ) (line : String) (station : Station σ τ) :
    Script (J.beside K) (List String × Station σ τ) := do
  Script.recordAll (Notice.ofLine line)
  Script.recordAll ((Line.groups line).flatMap Notice.ofGroup)
  station.executeGroups fixture (Line.groups line)

/-- Whether the bus of a station has no transaction open. -/
def released (fixture : Fixture J K σ τ) (station : Station σ τ) :
    Script (J.beside K) (Bool × Station σ τ) := do
  let (released, (bus, board)) ← station.onHardware fixture (Probe.onBus .released)
  return (released, { station with bus, board })

end Station

end BusProbe
