import BusProbe.Bus.OneWire
import BusProbe.Proofs.Pins.Steps
import BusProbe.Proofs.Word.Bits

/-!
# Slots on the 1-Wire line

Who watches the line sees stretches of time for which it is kept at one level, and when it is
sampled. A slot is two of them, a low pulse and the time after it for which the line is released,
and the length of the pulse tells a one from a zero. A write makes a slot for each bit, the lowest
bit first, and a read makes slots of a one and samples each of them once while the line is released
(`exists_write_run`, `exists_read_run`). Every slot takes the same time, whatever it carries, and
what a write sends a read gives back when it is sampled (`slots_carry_value`).
-/

set_option autoImplicit false
set_option relaxedAutoImplicit false

namespace BusProbe.OneWire

/-! ### What is seen on the line -/

/-- A stretch of time for which the line is kept at one level: how long it lasts, in microseconds,
and what is sampled meanwhile. -/
structure Stretch where
  level : Bool
  micros : Nat
  samples : List Bool
  deriving DecidableEq, Repr

/-- The stretches that some events make, of which the first has begun before them. A new one begins
whenever the line is driven. -/
def stretches (begun : Stretch) : List (Event (Pins Unit)) → List Stretch
  | [] => [begun]
  | .exchange (.drive () level) _ :: rest => begun :: stretches ⟨level, 0, []⟩ rest
  | .exchange (.wait micros) _ :: rest =>
    stretches { begun with micros := begun.micros + micros } rest
  | .exchange (.sample ()) (.ok level) :: rest =>
    stretches { begun with samples := begun.samples ++ [level] } rest
  | _ :: rest => stretches begun rest

/-- A slot: how long the line is low, how long it is released after that, and what is sampled while
it is released. -/
structure Slot where
  pulse : Nat
  recovery : Nat
  samples : List Bool
  deriving DecidableEq, Repr

namespace Slot

/-- A slot as it is seen on the line. -/
def stretches (slot : Slot) : List Stretch :=
  [⟨false, slot.pulse, []⟩, ⟨true, slot.recovery, slot.samples⟩]

/-- How long a slot takes, in microseconds. -/
def micros (slot : Slot) : Nat := slot.pulse + slot.recovery

/-- The bit that a slot carries: a one if its pulse is no longer than 15 microseconds. -/
def bit (slot : Slot) : Bool := decide (slot.pulse ≤ 15)

/-- A slot keeps time: it has a low pulse and a time of release, which together take as long as in
every other slot. -/
def InTime (slot : Slot) : Prop := 0 < slot.pulse ∧ 0 < slot.recovery ∧ slot.micros = 70

instance (slot : Slot) : Decidable slot.InTime :=
  inferInstanceAs (Decidable (0 < slot.pulse ∧ 0 < slot.recovery ∧ slot.micros = 70))

/-- The slot in which a bit is sent. -/
def sending (bit : Bool) : Slot :=
  if bit then ⟨slotStart, oneHigh, []⟩ else ⟨zeroLow, zeroHigh, []⟩

/-- The slot in which a bit is received. -/
def receiving (bit : Bool) : Slot := ⟨slotStart, sampleWait + readRecovery, [bit]⟩

theorem bit_sending (bit : Bool) : (sending bit).bit = bit := by
  cases bit <;> rfl

theorem samples_sending (bit : Bool) : (sending bit).samples = [] := by
  cases bit <;> rfl

theorem inTime_sending (bit : Bool) : (sending bit).InTime := by
  cases bit <;> decide

theorem inTime_receiving (bit : Bool) : (receiving bit).InTime := by
  cases bit <;> decide

theorem map_bit_sending (bits : List Bool) : (bits.map sending).map bit = bits := by
  rw [List.map_map]
  exact (List.map_congr_left fun bit _ ↦ bit_sending bit).trans (List.map_id bits)

theorem flatMap_samples_receiving (bits : List Bool) :
    (bits.map receiving).flatMap samples = bits := by
  rw [List.flatMap_map]
  exact List.flatMap_singleton' bits

end Slot

/-- Some events are slots: whatever the line was before, a low pulse and a time of release for each
of them is all that is seen of it. -/
def SeenAs (slots : List Slot) (events : List (Event (Pins Unit))) : Prop :=
  ∀ begun, stretches begun events = begun :: slots.flatMap Slot.stretches

/-- What is sampled in the stretches of some events is what is sampled in the events. -/
theorem flatMap_samples_stretches (begun : Stretch) (events : List (Event (Pins Unit))) :
    (stretches begun events).flatMap Stretch.samples = begun.samples ++ sampled events := by
  induction events generalizing begun with
  | nil => simp [stretches, sampled]
  | cons event rest ih =>
    cases event with
    | note notice => exact ih begun
    | exchange request reply =>
      cases request with
      | drive line level => exact congrArg (begun.samples ++ ·) (ih ⟨level, 0, []⟩)
      | wait micros => exact ih _
      | sample line =>
        cases reply with
        | ok level =>
          refine (ih _).trans ?_
          rw [List.append_assoc]
          rfl
        | error fault => exact ih begun

/-- What is sampled in slots is what is sampled in the events that are seen as these slots. -/
theorem SeenAs.flatMap_samples {slots : List Slot} {events : List (Event (Pins Unit))}
    (hseen : SeenAs slots events) : slots.flatMap Slot.samples = sampled events := by
  have hstretches : (slots.flatMap Slot.stretches).flatMap Stretch.samples =
      slots.flatMap Slot.samples := by
    rw [List.flatMap_assoc]
    simp [Slot.stretches]
  have hsamples := flatMap_samples_stretches ⟨true, 0, []⟩ events
  rwa [hseen, List.flatMap_cons, hstretches] at hsamples

/-- If the events for each bit are a slot before any others, those for some bits are their slots:
the stretch in which one slot ends is the one that has begun before the next. -/
theorem seenAs_flatMap {shape : Bool → List (Event (Pins Unit))} {slot : Bool → Slot}
    (hshape : ∀ bit begun rest, stretches begun (shape bit ++ rest) =
      begun :: ⟨false, (slot bit).pulse, []⟩ ::
        stretches ⟨true, (slot bit).recovery, (slot bit).samples⟩ rest)
    (bits : List Bool) : SeenAs (bits.map slot) (bits.flatMap shape) := by
  induction bits with
  | nil => exact fun begun ↦ rfl
  | cons bit rest ih =>
    intro begun
    rw [List.flatMap_cons, hshape, ih]
    rfl

/-! ### Steps -/

/-- What happens when a bit is sent. -/
def sendEvents (bit : Bool) : List (Event (Pins Unit)) :=
  [.exchange (.drive () false) (.ok ()), .exchange (.wait (Slot.sending bit).pulse) (),
    .exchange (.drive () true) (.ok ()), .exchange (.wait (Slot.sending bit).recovery) ()]

/-- What happens when a bit is received. -/
def receiveEvents (bit : Bool) : List (Event (Pins Unit)) :=
  [.exchange (.drive () false) (.ok ()), .exchange (.wait slotStart) (),
    .exchange (.drive () true) (.ok ()), .exchange (.wait sampleWait) (),
    .exchange (.sample ()) (.ok bit), .exchange (.wait readRecovery) ()]

theorem completes_writeBit (bit : Bool) :
    Completes (writeBit bit) fun _ events ↦ events = sendEvents bit := by
  cases bit <;> simp [writeBit, drive, completes_bind, sendEvents, Slot.sending]

theorem completes_readBit : Completes readBit fun bit events ↦ events = receiveEvents bit := by
  simp [readBit, drive, sample, completes_bind, receiveEvents, -bind_pure_comp]

theorem seenAs_sendEvents (bits : List Bool) :
    SeenAs (bits.map Slot.sending) (bits.flatMap sendEvents) := by
  refine seenAs_flatMap (fun bit begun rest ↦ ?_) bits
  simp only [sendEvents, List.cons_append, List.nil_append, stretches, Nat.zero_add,
    Slot.samples_sending]

theorem seenAs_receiveEvents (bits : List Bool) :
    SeenAs (bits.map Slot.receiving) (bits.flatMap receiveEvents) := by
  refine seenAs_flatMap (fun bit begun rest ↦ ?_) bits
  simp only [receiveEvents, List.cons_append, List.nil_append, stretches, Nat.zero_add,
    Slot.receiving]

/-! ### Requests -/

variable {δ : Type} {device : Device (Pins Unit) δ}

/-- A write on a pin that does not fail works, and is a slot for each bit, the lowest first. -/
theorem exists_write_run (hdevice : device.Answers PinRequest.Succeeds) (value : Word)
    (width : Nat) (isOpen : Bool) (hardware : δ) :
    ∃ sent, (handler (.write value width) isOpen).run device hardware = some sent ∧
      sent.value = (.ok (), isOpen) ∧
      SeenAs ((Word.bits value width).reverse.map Slot.sending) sent.events := by
  have hsteps := completes_eachBit completes_writeBit (Word.bits value width).reverse
  obtain ⟨sent, hrun, _, hvalue, hevents⟩ := (hsteps.ensures isOpen).run hdevice hardware
  exact ⟨sent, hrun, hvalue, hevents ▸ seenAs_sendEvents _⟩

/-- A read on a pin that does not fail gives the value of the bits that are sampled, the lowest
first, and is a slot for each of them. -/
theorem exists_read_run (hdevice : device.Answers PinRequest.Succeeds) (width : Nat)
    (isOpen : Bool) (hardware : δ) :
    ∃ received, ∃ bits : List Bool,
      (handler (.read width) isOpen).run device hardware = some received ∧
      received.value = (.ready (Word.ofBits bits.reverse), isOpen) ∧ bits.length = width ∧
      SeenAs (bits.map Slot.receiving) received.events := by
  have hsteps : Completes (read width) fun value events ↦
      ∃ bits : List Bool, bits.length = width ∧ value = Word.ofBits bits.reverse ∧
        events = bits.flatMap receiveEvents := by
    refine (completes_gather completes_readBit width).bind ?_
    rintro bits _ ⟨hlength, rfl⟩
    exact completes_pure.mpr ⟨bits, hlength, rfl, List.append_nil _⟩
  have hread : (handler (.read width) isOpen).Ensures PinRequest.Succeeds fun answer events ↦
      ∃ bits : List Bool, answer = (.ready (Word.ofBits bits.reverse), isOpen) ∧
        bits.length = width ∧ SeenAs (bits.map Slot.receiving) events := by
    refine Script.ensures_bind.mpr (Script.Ensures.mono hsteps ?_)
    rintro _ _ ⟨_, rfl, bits, hlength, rfl, rfl⟩
    refine Script.ensures_done.mpr ⟨bits, rfl, hlength, ?_⟩
    rw [List.append_nil]
    exact seenAs_receiveEvents bits
  obtain ⟨received, hrun, bits, hread⟩ := hread.run hdevice hardware
  exact ⟨received, bits, hrun, hread⟩

/-- On a pin that does not fail, a write is seen as one slot for each bit of its width, and the
pulses of the slots, read from the lowest bit on, are the value cut down to the width. A read is
seen as one slot for each bit as well, samples the line once in each while it is released, and gives
the value whose bits these samples are, from the lowest on; so if they are the bits that the write
sent, the value that it sent. All slots take the same time, and the line is released at the end of
each. -/
theorem slots_carry_value {width : Nat} (hwidth : width ≤ 32) (value : Word)
    (hdevice : device.Answers PinRequest.Succeeds) (isOpen : Bool) (hardware : δ) :
    ∃ sent slots, (handler (.write value width) isOpen).run device hardware = some sent ∧
      sent.value = (.ok (), isOpen) ∧ SeenAs slots sent.events ∧ slots.length = width ∧
      (∀ slot ∈ slots, slot.InTime ∧ slot.samples = []) ∧
      Word.lowFirst (slots.map Slot.bit) = value.toNat % 2 ^ width ∧
      ∀ (nowOpen : Bool) (later : δ), ∃ received answered result,
        (handler (.read width) nowOpen).run device later = some received ∧
        received.value = (.ready result, nowOpen) ∧ SeenAs answered received.events ∧
        answered.length = width ∧
        (∀ slot ∈ answered, slot.InTime ∧ slot.samples.length = 1) ∧
        (∀ i, result.toNat.testBit i = (answered.flatMap Slot.samples).getD i false) ∧
        (answered.flatMap Slot.samples = slots.map Slot.bit →
          result.toNat = value.toNat % 2 ^ width) := by
  obtain ⟨sent, hsent, hvalue, hslots⟩ := exists_write_run hdevice value width isOpen hardware
  have hsending : ∀ slot ∈ (Word.bits value width).reverse.map Slot.sending,
      slot.InTime ∧ slot.samples = [] :=
    List.forall_mem_map.mpr fun bit _ ↦ ⟨Slot.inTime_sending bit, Slot.samples_sending bit⟩
  refine ⟨sent, _, hsent, hvalue, hslots, by simp [Word.length_bits], hsending, ?_, ?_⟩
  · rw [Slot.map_bit_sending, Word.lowFirst_bits]
  intro nowOpen later
  obtain ⟨received, bits, hreceived, hresult, hlength, hanswered⟩ :=
    exists_read_run hdevice width nowOpen later
  have hnumber : (Word.ofBits bits.reverse).toNat = Word.lowFirst bits :=
    Word.toNat_ofBits_reverse (hlength.symm ▸ hwidth)
  have hreceiving : ∀ slot ∈ bits.map Slot.receiving,
      slot.InTime ∧ slot.samples.length = 1 :=
    List.forall_mem_map.mpr fun bit _ ↦ ⟨Slot.inTime_receiving bit, rfl⟩
  refine ⟨received, _, _, hreceived, hresult, hanswered, by simp [hlength], hreceiving, ?_, ?_⟩
  · intro i
    rw [hnumber, Slot.flatMap_samples_receiving, Word.testBit_lowFirst]
  · rw [Slot.flatMap_samples_receiving, Slot.map_bit_sending]
    rintro rfl
    rw [hnumber, Word.lowFirst_bits]

/-- Six bits of a wider value: `0x25` leaves with its lowest bit first, in slots from which the same
bits are read back. -/
theorem low_six_bits_in_slots :
    ∃ sent received slots answered,
      (handler (.write 0x12345665 6) true).run listed [] = some sent ∧
      SeenAs slots sent.events ∧ (∀ slot ∈ slots, slot.InTime) ∧
      slots.map Slot.bit = [true, false, true, false, false, true] ∧
      (handler (.read 6) true).run listed [true, false, true, false, false, true] =
        some received ∧
      SeenAs answered received.events ∧ (∀ slot ∈ answered, slot.InTime) ∧
      received.value.1 = .ready 0x25 := by
  obtain ⟨sent, slots, hsent, -, hseen, hlength, htime, hnumber, hread⟩ :=
    slots_carry_value (show 6 ≤ 32 by decide) 0x12345665 listed_succeeds true []
  have hbits : slots.map Slot.bit = [true, false, true, false, false, true] :=
    Word.lowFirst_inj ((List.length_map _).trans hlength) (hnumber.trans (by decide))
  obtain ⟨received, answered, result, hreceived, hresult, hanswered, -, hrecovered, -, hsame⟩ :=
    hread true [true, false, true, false, false, true]
  have hsamples : answered.flatMap Slot.samples = slots.map Slot.bit := by
    rw [hanswered.flatMap_samples, hbits]
    obtain rfl := Option.some.inj (hreceived.symm.trans rfl)
    rfl
  have hword : result = 0x25 := UInt32.toNat_inj.mp ((hsame hsamples).trans (by decide))
  exact ⟨sent, received, slots, answered, hsent, hseen, fun slot hmem ↦ (htime slot hmem).1, hbits,
    hreceived, hanswered, fun slot hmem ↦ (hrecovered slot hmem).1, by rw [hresult, hword]⟩

end BusProbe.OneWire
