import BusProbe.Bus.Spi
import BusProbe.Proofs.Clocked.Loopback
import BusProbe.Proofs.Word.Bytes

/-!
# The same bits on two buses

The SPI bus hands bytes to a peripheral, which shifts each of them out with the highest bit first;
a clocked bus drives the bits of a value by hand, as many as its width. In the same order of bits
the two say the same: what the peripheral shifts out is what the clocked bus drives, with zeros in
front that fill up the first byte, and what both make of the same received bits is the same value,
whatever the peripheral received before them (`spi_bits_eq_clocked_bits`).
-/

set_option autoImplicit false
set_option relaxedAutoImplicit false

namespace BusProbe

namespace Spi

/-- The bits that the peripheral shifts out during some events, of each byte the highest first. -/
def shiftedOut (events : List (Event Peripheral)) : List Bool :=
  events.flatMap fun
    | .exchange (.exchange bytes) _ => Word.bitsOfBytes bytes
    | _ => []

/-- The bits that the peripheral shifts in during some events. -/
def shiftedIn (events : List (Event Peripheral)) : List Bool :=
  events.flatMap fun
    | .exchange (.exchange _) (.ok bytes) => Word.bitsOfBytes bytes
    | _ => []

variable (config : Config) {width : Nat} {σ : Type} (device : Device Peripheral σ)

/-- A write shifts out the bits of the value in the order of the bus, after zeros that fill up the
first byte. -/
theorem exists_write_run (hpos : 1 ≤ width) (hwidth : width ≤ Word.maxWidth) {value : Word}
    (hvalue : value.toNat < 2 ^ width) (selected : Bool) (chip : σ) :
    ∃ sent, (handler config (.write value width) selected).run device chip = some sent ∧
      shiftedOut sent.events = List.replicate (8 * ((width + 7) / 8) - width) false ++
        config.order.onWire (Word.bits value width) := by
  have harranged := Word.toNat_arrange_lt config.order value hpos hwidth hvalue
  have hbits := Word.bitsOfBytes_bytes_of_lt harranged
  rw [Word.bits_arrange config.order value hpos hwidth] at hbits
  have hout : ∀ reply : Except Fault (List UInt8), shiftedOut
      [.exchange (.exchange ((config.order.arrange value width).bytes width)) reply] =
        List.replicate (8 * ((width + 7) / 8) - width) false ++
          config.order.onWire (Word.bits value width) :=
    fun _ ↦ (List.append_nil _).trans hbits
  simp only [handler, transfer, Script.ask_bind, Script.run_ask]
  cases (device (.exchange ((config.order.arrange value width).bytes width)) chip).1 with
  | ok bytes => exact ⟨_, rfl, hout (.ok bytes)⟩
  | error fault => exact ⟨_, rfl, hout (.error fault)⟩

/-- A read gives the value that the last bits shifted in denote in the order of the bus, whatever
comes before them. Where the exchange fails, there is no last bit. -/
theorem exists_read_run (hpos : 1 ≤ width) (hwidth : width ≤ Word.maxWidth) (selected : Bool)
    (chip : σ) :
    ∃ received, (handler config (.read width) selected).run device chip = some received ∧
      ∀ earlier last : List Bool, last.length = width →
        shiftedIn received.events = earlier ++ last →
          received.value.1 = .ready (config.order.arrange (Word.ofBits last) width) := by
  simp only [handler, transfer, Script.ask_bind, Script.run_ask]
  generalize hsent : (config.order.arrange (Word.ones width) width).bytes width = sent
  cases (device (.exchange sent) chip).1 with
  | ok bytes =>
    refine ⟨_, rfl, fun earlier last hlength hin ↦ ?_⟩
    have hbits : Word.bitsOfBytes bytes = earlier ++ last := (List.append_nil _).symm.trans hin
    have hlow := Word.low_ofBytes hbits (hlength.symm ▸ hwidth)
    rw [hlength] at hlow
    exact congrArg (fun value ↦ Poll.ready (config.order.arrange value width)) hlow
  | error fault =>
    refine ⟨_, rfl, fun earlier last hlength hin ↦ ?_⟩
    obtain ⟨-, rfl⟩ := List.append_eq_nil_iff.mp (Eq.symm hin)
    subst hlength
    exact absurd hpos (Nat.not_succ_le_zero 0)

end Spi

section SameBits

open Clocked (WireLine wire?)

variable (spi : Spi.Config) (wires : Clocked.Config) {width : Nat} {σ δ : Type}
  (peripheral : Device Spi.Peripheral σ) {pins : Device (Pins WireLine) δ}

/-- In the same order of bits, and on pins that do not fail, an SPI bus shifts out the levels that a
clocked bus drives for the same value, after zeros that fill up the first byte; and when the last
bits that it shifts in are those that the clocked bus samples, both read the same value. -/
theorem spi_bits_eq_clocked_bits (horder : spi.order = wires.order) (hpos : 1 ≤ width)
    (hwidth : width ≤ 32) (hpins : pins.Answers PinRequest.Succeeds) (selected isOpen : Bool)
    (chip : σ) (hardware : δ) :
    (∀ value : Word, value.toNat < 2 ^ width → ∃ shifted sent levels,
      (Spi.handler spi (.write value width) selected).run peripheral chip = some shifted ∧
      (Clocked.handler wires (.write value width) isOpen).run pins hardware = some sent ∧
      driven wire? sent.events = levels.flatMap bitDrives ∧ levels.length = width ∧
      Spi.shiftedOut shifted.events =
        List.replicate (8 * ((width + 7) / 8) - width) false ++ levels) ∧
    ∃ shifted received,
      (Spi.handler spi (.read width) selected).run peripheral chip = some shifted ∧
      (Clocked.handler wires (.read width) isOpen).run pins hardware = some received ∧
      ∀ earlier last : List Bool, last.length = width →
        Spi.shiftedIn shifted.events = earlier ++ last → sampled received.events = last →
          ∃ value, shifted.value.1 = .ready value ∧ received.value.1 = .ready value := by
  constructor
  · intro value hvalue
    obtain ⟨shifted, hshifted, hout⟩ :=
      Spi.exists_write_run spi peripheral hpos hwidth hvalue selected chip
    obtain ⟨sent, hsent, -, hdriven⟩ :=
      Clocked.exists_write_run wires hpins hpos hwidth value isOpen hardware
    rw [horder] at hout
    have hlength := Word.length_onWire_bits wires.order value width
    exact ⟨shifted, sent, _, hshifted, hsent, hdriven, hlength, hout⟩
  · obtain ⟨shifted, hshifted, hin⟩ :=
      Spi.exists_read_run spi peripheral hpos hwidth selected chip
    obtain ⟨received, hreceived, hvalue, -⟩ :=
      Clocked.exists_read_run wires hpins width isOpen hardware
    refine ⟨shifted, received, hshifted, hreceived, fun earlier last hlength hbits hsamples ↦ ?_⟩
    have hready := hin earlier last hlength hbits
    rw [horder] at hready
    refine ⟨_, hready, ?_⟩
    rw [hvalue, hsamples]

/-- A peripheral that always receives the same bytes. -/
def Spi.receiving (bytes : List UInt8) : Device Spi.Peripheral Unit
  | .setSelect _, _ => (.ok (), ())
  | .exchange _, _ => (.ok bytes, ())

/-- Twelve bits with the lowest bit first: `0xa53` leaves in two bytes after four zeros, and of two
bytes `0x5f` and `0xe1` the last twelve bits are `0x87f`. -/
theorem twelve_bits_in_two_bytes :
    ∃ shifted sent levels answered received value,
      (Spi.handler { Spi.Config.default with order := .lowFirst } (.write 0xa53 12) true).run
          (Spi.receiving [0x5f, 0xe1]) () = some shifted ∧
      (Clocked.handler { Clocked.Config.threeWire with order := .lowFirst } (.write 0xa53 12)
          true).run listed [] = some sent ∧
      driven wire? sent.events = levels.flatMap bitDrives ∧
      Spi.shiftedOut shifted.events = [false, false, false, false] ++ levels ∧
      (Spi.handler { Spi.Config.default with order := .lowFirst } (.read 12) true).run
          (Spi.receiving [0x5f, 0xe1]) () = some answered ∧
      (Clocked.handler { Clocked.Config.threeWire with order := .lowFirst } (.read 12) true).run
          listed [true, true, true, true, true, true, true, false, false, false, false, true] =
            some received ∧
      answered.value.1 = .ready value ∧ received.value.1 = .ready value ∧ value = 0x87f := by
  have hboth := spi_bits_eq_clocked_bits { Spi.Config.default with order := .lowFirst }
    { Clocked.Config.threeWire with order := .lowFirst } (Spi.receiving [0x5f, 0xe1]) rfl
    (show 1 ≤ 12 by decide) (by decide) listed_succeeds true true ()
  obtain ⟨shifted, sent, levels, hshifted, hsent, hdriven, -, hout⟩ :=
    (hboth []).1 0xa53 (by decide)
  obtain ⟨answered, received, hanswered, hreceived, hagree⟩ := (hboth
    [true, true, true, true, true, true, true, false, false, false, false, true]).2
  obtain rfl := Option.some.inj (hanswered.symm.trans rfl)
  obtain rfl := Option.some.inj (hreceived.symm.trans rfl)
  obtain ⟨value, hready, hsame⟩ := hagree [false, true, false, true]
    [true, true, true, true, true, true, true, false, false, false, false, true] rfl rfl rfl
  have hvalue : value = 0x87f := Poll.ready.inj (hready.symm.trans rfl)
  exact ⟨shifted, sent, levels, _, _, value, hshifted, hsent, hdriven, hout, hanswered, hreceived,
    hready, hsame, hvalue⟩

end SameBits

end BusProbe
