import BusProbe.Bus.Clocked
import BusProbe.Bus.Led
import BusProbe.Bus.OneWire
import BusProbe.Bus.Spi
import BusProbe.Bus.Uart
import BusProbe.Proofs.Script.Courses
import BusProbe.Proofs.StationRuns

/-!
# Release of the buses that keep a flag

All buses but the I2C bus remember nothing except whether a transaction is open. They say whether
they are released by a look at this flag, and every stop clears the flag, also where the hardware
fails on the way (`FlaggedBus.keepsFlag`). So the closing of a sequence does on them what it is
there for: afterwards neither the station nor the bus has a transaction open, whatever failed and
however both of them were before (`execute_run_released`).
-/

set_option autoImplicit false
set_option relaxedAutoImplicit false

namespace BusProbe

open Script Operation Probe

/-! ### Flags -/

/-- A bus answers whether it is released by its flag, and a stop that comes to an end clears the
flag, whatever the hardware replies. -/
structure KeepsFlag {J : Interface} (handler : Handler Bus J Bool) : Prop where
  released : ∀ isOpen, handler .released isOpen = .done (!isOpen, isOpen)
  stop_ends : ∀ isOpen reply last events, (handler .stop isOpen).Ends (reply, last) events →
    last = false

/-- The kinds of bus that remember nothing but a flag, with their settings. -/
inductive FlaggedBus
  | spi (config : Spi.Config)
  | uart (config : Uart.Config) (patience : Nat)
  | oneWire
  | clocked (config : Clocked.Config)
  | led (config : Led.Config)

namespace FlaggedBus

/-- The hardware below a bus. -/
def Hardware : FlaggedBus → Interface
  | .spi _ => Spi.Peripheral
  | .uart _ _ => Uart.Link
  | .oneWire => Pins Unit
  | .clocked _ => Pins Clocked.WireLine
  | .led _ => Led.Shifter

/-- A bus over its hardware. -/
def handler : (bus : FlaggedBus) → Handler Bus bus.Hardware Bool
  | .spi config => Spi.handler config
  | .uart config patience => Uart.handler config patience
  | .oneWire => OneWire.handler
  | .clocked config => Clocked.handler config
  | .led config => Led.handler config

end FlaggedBus

/-- Something that sets the flag once it is through leaves it as it sets it. -/
theorem ends_then_flag {J : Interface} {α : Type} {script : Script J α} {isOpen last : Bool}
    {reply : α} {events : List (Event J)}
    (hends : (script >>= fun reply ↦ pure (reply, isOpen)).Ends (reply, last) events) :
    last = isOpen := by
  obtain ⟨_, _, _, -, hdone, -⟩ := ends_bind_iff.mp hends
  exact (Prod.mk.inj (ends_done_iff.mp hdone).1).2

theorem FlaggedBus.keepsFlag (bus : FlaggedBus) : KeepsFlag bus.handler where
  released isOpen := by cases bus <;> rfl
  stop_ends isOpen reply last events hends := by
    cases bus with
    | spi config =>
      obtain ⟨_, _, hdone, -⟩ := ends_ask_iff.mp hends
      exact (Prod.mk.inj (ends_done_iff.mp hdone).1).2
    | led config =>
      obtain ⟨_, _, hdone, -⟩ := ends_ask_iff.mp hends
      exact (Prod.mk.inj (ends_done_iff.mp hdone).1).2
    | uart config patience => exact ends_then_flag hends
    | oneWire => exact ends_then_flag hends
    | clocked config => exact ends_then_flag hends

/-! ### The closing -/

namespace KeepsFlag

variable {J K : Interface} {τ δ : Type} {handler : Handler Bus J Bool} {board : Handler Board K τ}
  {limits : Limits} {device : Device (J.beside K) δ} {hardware : δ}

theorem handle_released (hflag : KeepsFlag handler) (state : Bool × τ) :
    (handler.beside board) (.inl .released) state = .done (!state.1, state) := by
  rw [Handler.beside, hflag.released]
  rfl

/-- The closing stop clears the flag. -/
theorem close_run (hflag : KeepsFlag handler) {state : Bool × τ}
    {outcome : Outcome (J.beside K) δ (Unit × (Bool × τ))}
    (hrun : (close.handle (handler.beside board) state).run device hardware = some outcome) :
    outcome.value.2.1 = false := by
  obtain ⟨answer, hanswer, rfl⟩ := close_run_eq_some.mp hrun
  obtain ⟨reply, hreply, rfl⟩ := attempt_run_eq_some.mp hanswer
  rw [handle_onBus] at hreply
  obtain ⟨inner, hinner, rfl⟩ := Handler.beside_inl_run_eq_some.mp hreply
  exact hflag.stop_ends _ _ _ _ (ends_of_run hinner)

/-- After the closing the flag of the bus is clear, whether or not there was something to close. -/
theorem closeIfOpen_run (hflag : KeepsFlag handler) {isOpen : Bool} {state : Bool × τ}
    {outcome : Outcome (J.beside K) δ (Unit × (Bool × τ))}
    (hrun : ((closeIfOpen isOpen).handle (handler.beside board) state).run device hardware =
      some outcome) :
    outcome.value.2.1 = false := by
  rcases closeIfOpen_run_cases hflag.handle_released hrun with ⟨-, hclose⟩ | ⟨hclosed, rfl⟩
  · exact hflag.close_run hclose
  · exact (Bool.or_eq_false_iff.mp hclosed).2

/-- Whether the bus of a station is released is the reply of its flag. -/
theorem released_run (hflag : KeepsFlag handler) (station : Station Bool τ) :
    (station.released ⟨handler, board, limits⟩).run device hardware =
      some ⟨(!station.bus, station), hardware, []⟩ := by
  rw [Station.released, Station.onHardware, handle_onBus, hflag.handle_released]
  rfl

end KeepsFlag

/-! ### Sequences -/

section Sequences

variable (bus : FlaggedBus) {K : Interface} {τ δ : Type} {board : Handler Board K τ}
  {limits : Limits} {device : Device (bus.Hardware.beside K) δ} {station : Station Bool τ}
  {hardware : δ} {ops : List Operation}
  {outcome : Outcome (bus.Hardware.beside K) δ (String × Station Bool τ)}

/-- After a sequence the bus is released and no transaction counts as open for the station, whatever
the hardware replied and whatever the flags of both were before. -/
theorem execute_run_released
    (hrun : (station.execute ⟨bus.handler, board, limits⟩ ops).run device hardware = some outcome) :
    (outcome.value.2.released ⟨bus.handler, board, limits⟩).run device outcome.state =
        some ⟨(true, outcome.value.2), outcome.state, []⟩ ∧
      outcome.value.2.isOpen = false := by
  obtain ⟨inner, hinner, rfl⟩ := Station.execute_run_eq_some.mp hrun
  obtain ⟨first, last, -, hlast, rfl⟩ := execute_run_eq_some.mp hinner
  have hclear := bus.keepsFlag.closeIfOpen_run hlast
  refine ⟨?_, rfl⟩
  rw [bus.keepsFlag.released_run, hclear]
  rfl

end Sequences

/-- A serial link that takes bytes and never gets rid of them, beside a board without hardware. -/
def jammed : Device (Uart.Link.beside Board) Unit
  | .inl (.send _), _ => (.ready (), ())
  | .inl .flush, _ => (.failed ⟨"Fail"⟩, ())
  | .inl .receive, _ => (.failed ⟨"Fail"⟩, ())
  | .inr (.delayMicros _), _ | .inr (.delayMillis _), _ | .inr (.setAux _), _
  | .inr (.startTimer _), _ => ((), ())
  | .inr .measure, _ => (none, ())
  | .inr .timedOut, _ => (false, ())

/-- A serial bus on which the start, the write and the closing stop fail is released all the
same. -/
theorem jammed_link_released :
    ∃ outcome, ((Station.fresh false ()).execute
          ⟨(FlaggedBus.uart .halfDuplex 1).handler, Handler.passOn, ⟨2000, 1⟩⟩
          [ofKind .start, write 7]).run jammed () = some outcome ∧
      outcome.events.filterMap Event.left? =
        [.exchange .receive (.failed ⟨"Fail"⟩), .note (.startFailed (.receive ⟨"Fail"⟩)),
          .exchange (.send 7) (.ready ()), .exchange .flush (.failed ⟨"Fail"⟩),
          .note (.writeFailed 7 (.transmit ⟨"Fail"⟩)), .note .closing,
          .exchange .flush (.failed ⟨"Fail"⟩), .note (.stopFailed (.transmit ⟨"Fail"⟩))] ∧
      (outcome.value.2.released
          ⟨(FlaggedBus.uart .halfDuplex 1).handler, Handler.passOn, ⟨2000, 1⟩⟩).run jammed
          outcome.state = some ⟨(true, outcome.value.2), outcome.state, []⟩ ∧
      outcome.value.2.isOpen = false := by
  refine ⟨_, rfl, rfl, ?_⟩
  exact execute_run_released (.uart .halfDuplex 1)
    (show ((Station.fresh false ()).execute _ [ofKind .start, write 7]).run jammed () = some _
      from rfl)

end BusProbe
