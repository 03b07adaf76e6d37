import BusProbe.Proofs.Clocked.Framing
import BusProbe.Proofs.Word.Order

/-!
# Loopback on the clocked buses

A write puts the bits of a value on the data wire in the order of the bus, one for each pulse of the
clock (`exists_write_run`), and a read takes the samples of its pulses for such bits
(`exists_read_run`). So a read whose samples are the levels that a write drove gives the value that
was written, cut down to its width (`read_returns_written`). Nothing here depends on how
transactions are framed or on whether the wires are split.
-/

set_option autoImplicit false
set_option relaxedAutoImplicit false

namespace BusProbe.Clocked

variable (config : Config) {width : Nat} {δ : Type} {device : Device (Pins WireLine) δ}

/-- A write on pins that do not fail works, and drives the bits of the value in the order of the
bus. -/
theorem exists_write_run (hdevice : device.Answers PinRequest.Succeeds) (hpos : 1 ≤ width)
    (hwidth : width ≤ Word.maxWidth) (value : Word) (isOpen : Bool) (hardware : δ) :
    ∃ sent, (handler config (.write value width) isOpen).run device hardware = some sent ∧
      sent.value = (.ok (), isOpen) ∧
      driven wire? sent.events =
        (config.order.onWire (Word.bits value width)).flatMap bitDrives := by
  have hshows : Shows wire? (handler config (.write value width) isOpen) _ :=
    (takes_write value width).shows isOpen
  obtain ⟨sent, hrun, _, hvalue, hdriven⟩ := Script.Ensures.run hshows hdevice hardware
  rw [Word.bits_arrange config.order value hpos hwidth] at hdriven
  exact ⟨sent, hrun, hvalue, hdriven⟩

/-- A read on pins that do not fail gives the value that its samples denote in the order of the
bus, and takes one sample for each bit. -/
theorem exists_read_run (hdevice : device.Answers PinRequest.Succeeds) (width : Nat)
    (isOpen : Bool) (hardware : δ) :
    ∃ received, (handler config (.read width) isOpen).run device hardware = some received ∧
      received.value =
        (.ready (config.order.arrange (Word.ofBits (sampled received.events)) width), isOpen) ∧
      (sampled received.events).length = width := by
  have hshows : Shows wire? (handler config (.read width) isOpen) _ := shows_read isOpen width
  obtain ⟨received, hrun, hvalue, hlength, -⟩ := Script.Ensures.run hshows hdevice hardware
  exact ⟨received, hrun, hvalue, hlength⟩

/-- A write on pins that do not fail drives a level for each bit and gives one pulse of the clock
after each of them; the levels are the bits of the value from its highest place down to place zero,
or from place zero up. A read that samples these levels in the same order, whenever and in whatever
state it is made, gives the value cut down to its width. -/
theorem read_returns_written (hpos : 1 ≤ width) (hwidth : width ≤ 32)
    (value : Word) (hdevice : device.Answers PinRequest.Succeeds) (isOpen : Bool) (hardware : δ) :
    ∃ sent levels,
      (handler config (.write value width) isOpen).run device hardware = some sent ∧
      sent.value.1 = .ok () ∧
      driven wire? sent.events = levels.flatMap bitDrives ∧
      levels = (config.order.places width).map value.toNat.testBit ∧
      ∀ (nowOpen : Bool) (later : δ), ∃ received,
        (handler config (.read width) nowOpen).run device later = some received ∧
        (sampled received.events).length = width ∧
        (sampled received.events = levels →
          ∃ result, received.value.1 = .ready result ∧
            result.toNat = value.toNat % 2 ^ width) := by
  obtain ⟨sent, hsent, hvalue, hdriven⟩ :=
    exists_write_run config hdevice hpos hwidth value isOpen hardware
  refine ⟨sent, _, hsent, congrArg Prod.fst hvalue, hdriven,
    Word.onWire_bits config.order value width, fun nowOpen later ↦ ?_⟩
  obtain ⟨received, hreceived, hresult, hlength⟩ :=
    exists_read_run config hdevice width nowOpen later
  refine ⟨received, hreceived, hlength, fun hsamples ↦ ⟨value.low width, ?_, ?_⟩⟩
  · rw [hresult, hsamples, Word.arrange_ofBits_onWire config.order value hpos hwidth]
  · exact Word.toNat_low value width

/-- Twelve bits of a wider value on two wires with the lowest bit first: `0x678` is read back. -/
theorem low_twelve_bits_returned :
    ∃ sent received levels,
      (handler { Config.twoWire with order := .lowFirst } (.write 0x12345678 12) true).run listed
          [false] = some sent ∧
      driven wire? sent.events = levels.flatMap bitDrives ∧
      levels = [false, false, false, true, true, true, true, false, false, true, true, false] ∧
      (handler { Config.twoWire with order := .lowFirst } (.read 12) true).run listed levels =
          some received ∧
      received.value.1 = .ready 0x678 := by
  obtain ⟨sent, levels, hsent, -, hdriven, hlevels, hread⟩ :=
    read_returns_written { Config.twoWire with order := .lowFirst } (show 1 ≤ 12 by decide)
      (by decide) 0x12345678 listed_succeeds true [false]
  have hlevels : levels =
      [false, false, false, true, true, true, true, false, false, true, true, false] :=
    hlevels.trans (by decide)
  obtain ⟨received, hreceived, -, hresult⟩ := hread true levels
  have hsamples : sampled received.events = levels := by
    subst hlevels
    obtain rfl := Option.some.inj (hreceived.symm.trans rfl)
    rfl
  obtain ⟨result, hready, hnat⟩ := hresult hsamples
  have hword : result = 0x678 := UInt32.toNat_inj.mp (hnat.trans (by decide))
  exact ⟨sent, received, levels, hsent, hdriven, hlevels, hreceived, hword ▸ hready⟩

end BusProbe.Clocked
