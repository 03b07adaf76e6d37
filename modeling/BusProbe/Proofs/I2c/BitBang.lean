import BusProbe.Bus.I2c
import BusProbe.Bus.I2c.BitBang
import BusProbe.Proofs.Pins.Steps
import BusProbe.Proofs.Word.Bits

/-!
# The I2C bus on two pins

What each request to the controller on two pins, and from it what each request to the bus over that
controller, drives and samples when no pin fails. A start, a stop and a bit are driven as an
observer expects them; every bit is sampled once, whoever sets its level.
-/

set_option autoImplicit false
set_option relaxedAutoImplicit false

namespace BusProbe.I2c

/-- The wire that each of the two lines is. -/
def wire? : BusLine → Option Wire
  | .clock => some .clock
  | .data => some .data

/-- How a byte and the bit after it are driven. -/
def frameDrives (byte : UInt8) (ninth : Bool) : List Drive :=
  (Word.bits byte.toUInt32 8 ++ [ninth]).flatMap bitDrives

namespace BitBang

variable {speed : Speed}

theorem takes_clockBit (bit : Bool) :
    Takes wire? (clockBit speed bit) fun level drives samples ↦
      drives = bitDrives bit ∧ samples = [level] := by
  simp [clockBit, data, clock, wait, takes_bind, wire?, bitDrives, pulseDrives, -bind_pure_comp]

theorem takes_start :
    Takes wire? (start speed) fun _ drives samples ↦ drives = startDrives ∧ samples = [] := by
  simp [start, data, clock, wait, takes_bind, wire?, startDrives]

theorem takes_stop :
    Takes wire? (stop speed) fun _ drives samples ↦ drives = stopDrives ∧ samples = [] := by
  simp [stop, data, clock, wait, takes_bind, wire?, stopDrives]

/-- A byte is sent with its ninth bit released, and is accepted if that bit is sampled low. -/
theorem takes_writeByte (byte : UInt8) :
    Takes wire? (writeByte speed byte) fun accepted drives samples ↦
      drives = frameDrives byte true ∧ ∃ seen, seen.length = 8 ∧ samples = seen ++ [!accepted] := by
  have hbit : ∀ bit, Takes wire? (do let _ ← clockBit speed bit : Steps Unit)
      fun _ drives samples ↦ drives = bitDrives bit ∧ samples.length = 1 := by
    intro bit
    refine (takes_clockBit bit).bind ?_
    rintro level _ _ ⟨rfl, rfl⟩
    simp
  refine (takes_eachBit hbit _).bind ?_
  rintro _ _ seen ⟨rfl, hseen⟩
  refine (takes_clockBit true).bind ?_
  rintro level _ _ ⟨rfl, rfl⟩
  rw [Word.length_bits] at hseen
  refine takes_pure.mpr ⟨?_, seen, hseen, ?_⟩
  · simp [frameDrives]
  · simp

/-- A byte is received bit by bit while the data line is released. -/
theorem takes_readByte :
    Takes wire? (readByte speed) fun byte drives samples ↦
      drives = (List.replicate 8 true).flatMap bitDrives ∧ samples.length = 8 ∧
        byte = (Word.ofBits samples).toUInt8 := by
  refine (takes_gather (takes_clockBit true) 8).bind ?_
  rintro bits _ _ ⟨hcount, rfl, rfl⟩
  refine takes_pure.mpr ⟨?_, ?_, ?_⟩
  · rfl
  · simpa using hcount
  · simp

theorem takes_acknowledge (accept : Bool) :
    Takes wire? (acknowledge speed accept) fun _ drives samples ↦
      drives = bitDrives (!accept) ++ [(.data, true)] ∧ samples.length = 1 := by
  refine (takes_clockBit (!accept)).bind ?_
  rintro level _ _ ⟨rfl, rfl⟩
  simp [data, wire?]

theorem shows_readByte :
    Shows wire? (handler speed .readByte ()) fun answer drives samples ↦
      answer = (.ready (Word.ofBits samples).toUInt8, ()) ∧
        drives = (List.replicate 8 true).flatMap bitDrives ∧ samples.length = 8 := by
  refine shows_bind.mpr (Shows.mono takes_readByte ?_)
  rintro _ drives samples ⟨byte, rfl, rfl, hsamples, rfl⟩
  refine shows_done.mpr ?_
  rw [List.append_nil, List.append_nil]
  exact ⟨rfl, rfl, hsamples⟩

end BitBang

/-! ### The bus over the controller -/

/-- The I2C bus over a controller on two pins. -/
def onPins (speed : Speed) : Handler Bus (Pins BusLine) (State × Unit) :=
  handler.comp (BitBang.handler speed)

section OnPins

variable {speed : Speed} {state : State}

/-- How an acknowledgement is driven if one is owed. -/
def owedDrives (owed accept : Bool) : List Drive :=
  if owed then bitDrives (!accept) ++ [(.data, true)] else []

/-- What holds after the acknowledgement that is owed, if one is, for which one level is sampled. -/
def AfterOwed {α : Type} (owed accept : Bool) (post : α → List Drive → List Bool → Prop)
    (value : α) (drives : List Drive) (samples : List Bool) : Prop :=
  ∃ ninth own later, ninth.length = owed.toNat ∧ samples = ninth ++ own ∧
    drives = owedDrives owed accept ++ later ∧ post value later own

section AfterOwed

variable {α : Type} {owed accept : Bool} {post weaker : α → List Drive → List Bool → Prop}
  {value : α} {drives : List Drive} {samples : List Bool}

theorem AfterOwed.mono (hafter : AfterOwed owed accept post value drives samples)
    (hweaker : ∀ later own, post value later own → weaker value later own) :
    AfterOwed owed accept weaker value drives samples := by
  obtain ⟨ninth, own, later, hninth, hsamples, hdrives, hpost⟩ := hafter
  exact ⟨ninth, own, later, hninth, hsamples, hdrives, hweaker later own hpost⟩

theorem AfterOwed.of_not_owed (hafter : AfterOwed false accept post value drives samples) :
    post value drives samples := by
  obtain ⟨ninth, own, later, hninth, rfl, rfl, hpost⟩ := hafter
  obtain rfl := List.length_eq_zero_iff.mp hninth
  exact hpost

end AfterOwed

/-- A request to the bus that begins with the acknowledgement that is owed. -/
theorem shows_onPins (request : BusRequest) {accept : Bool}
    {next : Except Fault Unit × State → Script Controller (request.Reply × State)}
    (hrequest : handler request state = settle accept state >>= next)
    (post : request.Reply → State → List Drive → List Bool → Prop)
    (hnext : Shows wire? ((next (.ok (), ⟨state.held, false⟩)).handle (BitBang.handler speed) ())
      fun answer ↦ post answer.1.1 answer.1.2) :
    Shows wire? (onPins speed request (state, ()))
      (AfterOwed state.ackOwed accept fun answer ↦ post answer.1 answer.2.1) := by
  obtain ⟨held, owed⟩ := state
  refine shows_bind.mpr ?_
  rw [hrequest, Script.handle_bind, shows_bind]
  cases owed with
  | false =>
    rw [settle, if_neg Bool.false_ne_true, Script.handle_done, shows_done]
    refine hnext.mono fun answer drives samples hpost ↦ shows_done.mpr ?_
    rw [List.append_nil, List.append_nil]
    exact ⟨[], samples, drives, rfl, rfl, rfl, hpost⟩
  | true =>
    rw [settle, if_pos rfl, Script.handle_ask, shows_bind]
    refine ((BitBang.takes_acknowledge accept).shows ()).mono ?_
    rintro _ drives ninth ⟨value, rfl, rfl, hninth⟩
    rw [Script.handle_done, shows_done]
    refine hnext.mono fun answer later own hpost ↦ shows_done.mpr ?_
    simp only [List.append_nil]
    exact ⟨ninth, own, later, hninth, rfl, rfl, hpost⟩

/-- Going on with the reply to a request to the controller. -/
theorem shows_control_bind {α : Type} {request : ControllerRequest}
    {next : request.Reply → Script Controller α}
    {first : request.Reply × Unit → List Drive → List Bool → Prop}
    {post : α × Unit → List Drive → List Bool → Prop}
    (hfirst : Shows wire? (BitBang.handler speed request ()) first)
    (hnext : ∀ answer drives samples, first answer drives samples →
      Shows wire? ((next answer.1).handle (BitBang.handler speed) ()) fun value later more ↦
        post value (drives ++ later) (samples ++ more)) :
    Shows wire? ((control request >>= next).handle (BitBang.handler speed) ()) post := by
  rw [control, Script.ask_bind, Script.handle_ask, shows_bind]
  exact hfirst.mono hnext

/-- How bytes are driven when they are sent, with what is sampled meanwhile: each with its ninth bit
released, up to the first whose ninth bit is sampled high. -/
inductive Sends : List UInt8 → List Drive → List Bool → Prop
  | nil : Sends [] [] []
  | refused {byte : UInt8} {rest : List UInt8} {seen : List Bool} (hseen : seen.length = 8) :
    Sends (byte :: rest) (frameDrives byte true) (seen ++ [true])
  | accepted {byte : UInt8} {rest : List UInt8} {seen samples : List Bool} {drives : List Drive}
    (hseen : seen.length = 8) (hrest : Sends rest drives samples) :
    Sends (byte :: rest) (frameDrives byte true ++ drives) (seen ++ false :: samples)

/-- Whatever bytes are sent, bits are driven. -/
theorem Sends.exists_bits {bytes : List UInt8} {drives : List Drive} {samples : List Bool}
    (hsends : Sends bytes drives samples) :
    ∃ bits : List Bool, drives = bits.flatMap bitDrives := by
  induction hsends with
  | nil => exact ⟨[], rfl⟩
  | refused hseen => exact ⟨_, rfl⟩
  | accepted hseen hrest ih =>
    obtain ⟨bits, rfl⟩ := ih
    exact ⟨_, List.flatMap_append.symm⟩

theorem shows_sendBytes (bytes : List UInt8) :
    Shows wire? ((sendBytes bytes).handle (BitBang.handler speed) ()) fun _ drives samples ↦
      Sends bytes drives samples := by
  induction bytes with
  | nil => exact Sends.nil
  | cons byte rest ih =>
    refine shows_control_bind ((BitBang.takes_writeByte byte).shows ()) ?_
    rintro _ _ _ ⟨accepted, rfl, rfl, seen, hseen, rfl⟩
    cases accepted with
    | false =>
      refine shows_done.mpr ?_
      rw [List.append_nil, List.append_nil]
      exact .refused hseen
    | true =>
      refine ih.mono fun value drives samples hsends ↦ ?_
      rw [List.append_assoc]
      exact .accepted hseen hsends

theorem shows_start :
    Shows wire? (onPins speed .start (state, ()))
      (AfterOwed state.ackOwed false fun answer drives samples ↦
        answer.2.1 = ⟨true, false⟩ ∧ drives = startDrives ∧ samples = []) := by
  refine shows_onPins .start rfl
    (fun _ state drives samples ↦ state = ⟨true, false⟩ ∧ drives = startDrives ∧ samples = []) ?_
  refine shows_control_bind (BitBang.takes_start.shows ()) ?_
  rintro _ _ _ ⟨value, rfl, rfl, rfl⟩
  exact ⟨rfl, rfl, rfl⟩

theorem shows_stop :
    Shows wire? (onPins speed .stop (state, ()))
      (AfterOwed state.ackOwed false fun answer drives samples ↦
        answer.2.1 = ⟨false, false⟩ ∧ drives = stopDrives ∧ samples = []) := by
  refine shows_onPins .stop rfl
    (fun _ state drives samples ↦ state = ⟨false, false⟩ ∧ drives = stopDrives ∧ samples = []) ?_
  refine shows_control_bind (BitBang.takes_stop.shows ()) ?_
  rintro _ _ _ ⟨value, rfl, rfl, rfl⟩
  exact ⟨rfl, rfl, rfl⟩

theorem shows_write (value : Word) (width : Nat) :
    Shows wire? (onPins speed (.write value width) (state, ()))
      (AfterOwed state.ackOwed false fun answer drives samples ↦
        answer.2.1 = ⟨state.held, false⟩ ∧ Sends (value.bytes width) drives samples) := by
  refine shows_onPins (.write value width) rfl (fun _ after drives samples ↦
    after = ⟨state.held, false⟩ ∧ Sends (value.bytes width) drives samples) ?_
  rw [Script.handle_bind, shows_bind]
  refine (shows_sendBytes _).mono fun sent drives samples hsends ↦ shows_done.mpr ⟨rfl, ?_⟩
  rwa [List.append_nil, List.append_nil]

/-- A read gives the number whose bits are the eight levels that are sampled. -/
theorem shows_read (width : Nat) :
    Shows wire? (onPins speed (.read width) (state, ()))
      (AfterOwed state.ackOwed true fun answer drives samples ↦
        answer.1 = Poll.ready (Word.ofBits samples) ∧ answer.2.1 = ⟨state.held, true⟩ ∧
          drives = (List.replicate 8 true).flatMap bitDrives ∧ samples.length = 8) := by
  refine shows_onPins (.read width) rfl (fun reply after drives samples ↦
    reply = .ready (Word.ofBits samples) ∧ after = ⟨state.held, true⟩ ∧
      drives = (List.replicate 8 true).flatMap bitDrives ∧ samples.length = 8) ?_
  refine shows_control_bind BitBang.shows_readByte ?_
  rintro _ _ samples ⟨rfl, rfl, hsamples⟩
  refine shows_done.mpr ⟨?_, rfl, List.append_nil _, ?_⟩
  · rw [List.append_nil, Word.toUInt32_toUInt8_ofBits (Nat.le_of_eq hsamples)]
  · rwa [List.append_nil]

end OnPins

end BusProbe.I2c
