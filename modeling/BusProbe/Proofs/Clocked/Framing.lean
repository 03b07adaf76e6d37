import BusProbe.Bus.Clocked
import BusProbe.Proofs.Pins.Steps
import BusProbe.Proofs.Script.Calls

/-!
# Framing on two clocked wires

The clocked bus with two wires frames a transaction by a start and a stop condition. Each request
relies on the levels in which the one before left the wires: a low clock while a transaction is
open, and two high wires otherwise. As long as only starts are asked for outside transactions, each
request finds these levels and leaves those of the next (`inTransactions_framed`). So the data wire
changes under a high clock once in each start and once in each stop and at no other time, and the
clock gives one pulse for each bit that is written or read.
-/

set_option autoImplicit false
set_option relaxedAutoImplicit false

namespace BusProbe.Clocked

/-- The wire that each line of the bus is, if data goes both ways on one wire. -/
def wire? : WireLine → Option Wire
  | .clock => some .clock
  | .data => some .data
  | .incoming | .select => none

variable {config : Config}

/-! ### Steps -/

theorem takes_start (hframing : config.framing = .conditions) :
    Takes wire? (start config) fun _ drives _ ↦ drives = startDrives := by
  simp [start, hframing, drive, wait, takes_bind, wire?, startDrives]

theorem takes_stop (hframing : config.framing = .conditions) :
    Takes wire? (stop config) fun _ drives _ ↦ drives = stopDrives := by
  simp [stop, hframing, drive, wait, takes_bind, wire?, stopDrives]

theorem takes_writeBit (bit : Bool) :
    Takes wire? (writeBit config bit) fun _ drives samples ↦
      drives = bitDrives bit ∧ samples.length = 0 := by
  simp [writeBit, tick, drive, wait, takes_bind, wire?, bitDrives, pulseDrives]

theorem takes_write (value : Word) (width : Nat) :
    Takes wire? (write config value width) fun _ drives _ ↦
      drives = (Word.bits (config.order.arrange value width) width).flatMap bitDrives :=
  (takes_eachBit takes_writeBit _).mono fun _ _ _ htaken ↦ htaken.1

theorem takes_readBit :
    Takes wire? (readBit config) fun bit drives samples ↦
      drives = pulseDrives ∧ samples = [bit] := by
  simp [readBit, drive, sample, wait, takes_bind, wire?, pulseDrives, -bind_pure_comp]

/-- A value is received pulse by pulse after the data wire was released. It is the one that the
samples denote in the order of the bus. -/
theorem takes_read (width : Nat) :
    Takes wire? (read config width) fun value drives samples ↦
      samples.length = width ∧ value = config.order.arrange (Word.ofBits samples) width ∧
        drives = (.data, true) :: (List.replicate width pulseDrives).flatten := by
  refine takes_bind.mpr (takes_drive.mpr ((takes_gather takes_readBit width).bind ?_))
  rintro bits _ samples ⟨hcount, rfl, rfl⟩
  refine takes_pure.mpr ?_
  simp [wire?, hcount]

/-! ### Requests -/

/-- A request that is met by steps which drive the wires in a certain way. -/
theorem shows_of_takes {steps : Steps Unit} {shape : List Drive}
    (hsteps : Takes wire? steps fun _ drives _ ↦ drives = shape) (isOpen : Bool) :
    Shows wire? (do return (← steps.run, isOpen)) fun answer drives _ ↦
      answer.2 = isOpen ∧ drives = shape := by
  refine (hsteps.shows isOpen).mono ?_
  rintro _ drives _ ⟨_, rfl, hdrives⟩
  exact ⟨rfl, hdrives⟩

variable (isOpen : Bool)

theorem shows_start (hframing : config.framing = .conditions) :
    Shows wire? (handler config .start isOpen) fun answer drives _ ↦
      answer.2 = true ∧ drives = startDrives :=
  shows_of_takes (takes_start hframing) true

theorem shows_stop (hframing : config.framing = .conditions) :
    Shows wire? (handler config .stop isOpen) fun answer drives _ ↦
      answer.2 = false ∧ drives = stopDrives :=
  shows_of_takes (takes_stop hframing) false

theorem shows_write (value : Word) (width : Nat) :
    Shows wire? (handler config (.write value width) isOpen) fun answer drives _ ↦
      answer.2 = isOpen ∧
        drives = (Word.bits (config.order.arrange value width) width).flatMap bitDrives :=
  shows_of_takes (takes_write value width) isOpen

theorem shows_read (width : Nat) :
    Shows wire? (handler config (.read width) isOpen) fun answer drives samples ↦
      answer = (.ready (config.order.arrange (Word.ofBits samples) width), isOpen) ∧
        samples.length = width ∧
        drives = (.data, true) :: (List.replicate width pulseDrives).flatten := by
  refine shows_bind.mpr (Shows.mono (takes_read width) ?_)
  rintro _ drives samples ⟨value, rfl, hcount, rfl, hdrives⟩
  refine shows_done.mpr ?_
  rw [List.append_nil, List.append_nil]
  exact ⟨rfl, hcount, hdrives⟩

/-! ### Runs -/

/-- Of some requests, those that write, read or stop are made while a transaction is open, that is,
after a start since the last stop. -/
def InTransactions : Bool → List BusRequest → Prop
  | _, [] => True
  | _, .start :: rest => InTransactions true rest
  | isOpen, .stop :: rest => isOpen = true ∧ InTransactions false rest
  | isOpen, .write .. :: rest | isOpen, .read _ :: rest =>
    isOpen = true ∧ InTransactions isOpen rest
  | _, _ :: _ => False

/-- How a request looks on the wires: a start and a stop are one condition each, a write and a read
none, but a pulse for each bit. The clock is low after it, and after a stop both wires are high. -/
def Framed (levels : Levels) (drives : List Drive) : BusRequest → Prop
  | .start => conditions levels drives = [.start] ∧ (levels.after drives).Low
  | .stop => conditions levels drives = [.stop] ∧ (levels.after drives).High
  | .write _ width | .read width =>
    conditions levels drives = [] ∧ pulses levels drives = width ∧ (levels.after drives).Low
  | _ => False

/-- Each of some calls looks as its request should, from the levels that those before it leave. -/
def AllFramed (levels : Levels) : List (Call Bus (Pins WireLine)) → Prop
  | [] => True
  | call :: rest =>
    Framed levels (driven wire? call.events) call.request ∧
      AllFramed (levels.after (driven wire? call.events)) rest

section Framed

variable {levels : Levels}

theorem framed_start (hlevels : levels.Low ∨ levels.High) : Framed levels startDrives .start := by
  obtain ⟨hsignals, hlow⟩ := signals_startDrives hlevels
  exact ⟨by rw [conditions, hsignals]; rfl, hlow⟩

theorem framed_stop (hlevels : levels.Low) : Framed levels stopDrives .stop := by
  obtain ⟨hsignals, hhigh⟩ := signals_stopDrives hlevels
  exact ⟨by rw [conditions, hsignals]; rfl, hhigh⟩

/-- Bits are no conditions. -/
theorem conditions_bits {drives : List Drive} {bits : List Bool}
    (hsignals : signals levels drives = bits.map .bit) : conditions levels drives = [] := by
  rw [conditions, hsignals, List.filter_eq_nil_iff]
  rintro _ hmem
  obtain ⟨bit, -, rfl⟩ := List.mem_map.mp hmem
  exact Bool.false_ne_true

theorem framed_write (hlevels : levels.Low) (value sent : Word) (width : Nat) :
    Framed levels ((Word.bits sent width).flatMap bitDrives) (.write value width) := by
  obtain ⟨hsignals, hpulses, hlow⟩ := signals_flatMap_bitDrives hlevels (Word.bits sent width)
  exact ⟨conditions_bits hsignals, hpulses.trans (Word.length_bits sent width), hlow⟩

theorem framed_read (hlevels : levels.Low) (width : Nat) :
    Framed levels ((.data, true) :: (List.replicate width pulseDrives).flatten) (.read width) := by
  obtain ⟨hnone, hzero, hlow, hdata⟩ := signals_data hlevels true
  obtain ⟨hsignals, hpulses, hend⟩ := signals_flatten_pulseDrives hlow width
  rw [← List.singleton_append]
  refine ⟨?_, ?_, ?_⟩
  · have hbits : signals levels ([(.data, true)] ++ (List.replicate width pulseDrives).flatten) =
        (List.replicate width true).map .bit := by
      rw [signals_append, hnone, hsignals, hdata, List.map_replicate, List.nil_append]
    exact conditions_bits hbits
  · rw [pulses_append, hzero, hpulses, Nat.zero_add]
  · rwa [Levels.after_append]

end Framed

/-- A request is framed from wires that rest as they should, a start also from within a transaction,
where it finds the clock low. It leaves them as they should rest then, and what follows is still a
run in which only starts are asked for outside transactions. -/
theorem shows_framed (hframing : config.framing = .conditions) {request : BusRequest}
    {rest : List BusRequest} {isOpen : Bool} (hrequests : InTransactions isOpen (request :: rest))
    {levels : Levels} (hlevels : levels.Rests isOpen) :
    Shows wire? (handler config request isOpen) fun answer drives _ ↦
      Framed levels drives request ∧ (levels.after drives).Rests answer.2 ∧
        InTransactions answer.2 rest := by
  cases request with
  | start =>
    refine (shows_start isOpen hframing).mono ?_
    rintro ⟨reply, _⟩ _ _ ⟨rfl, rfl⟩
    have hframed := framed_start hlevels.low_or_high
    exact ⟨hframed, hframed.2, hrequests⟩
  | stop =>
    obtain ⟨rfl, hrest⟩ := hrequests
    refine (shows_stop true hframing).mono ?_
    rintro ⟨reply, _⟩ _ _ ⟨rfl, rfl⟩
    have hframed := framed_stop hlevels
    exact ⟨hframed, hframed.2, hrest⟩
  | write value width =>
    obtain ⟨rfl, hrest⟩ := hrequests
    refine (shows_write true value width).mono ?_
    rintro ⟨reply, _⟩ _ _ ⟨rfl, rfl⟩
    have hframed := framed_write hlevels value (config.order.arrange value width) width
    exact ⟨hframed, hframed.2.2, hrest⟩
  | read width =>
    obtain ⟨rfl, hrest⟩ := hrequests
    refine (shows_read true width).mono ?_
    rintro _ _ samples ⟨rfl, -, rfl⟩
    have hframed := framed_read hlevels width
    exact ⟨hframed, hframed.2.2, hrest⟩
  | startAlt => exact hrequests.elim
  | stopAlt => exact hrequests.elim
  | line action => exact hrequests.elim
  | released => exact hrequests.elim

variable {δ : Type} {device : Device (Pins WireLine) δ}

/-- Requests are framed one after another, by induction with the wires resting in between. -/
theorem exists_calls_framed (hframing : config.framing = .conditions)
    (hdevice : device.Answers PinRequest.Succeeds) {requests : List BusRequest} {isOpen : Bool}
    (hrequests : InTransactions isOpen requests) {levels : Levels}
    (hlevels : levels.Rests isOpen) (hardware : δ) :
    ∃ calls, (handler config).calls device requests isOpen hardware = some calls ∧
      AllFramed levels calls := by
  induction requests generalizing isOpen levels hardware with
  | nil => exact ⟨[], rfl, trivial⟩
  | cons request rest ih =>
    refine Handler.exists_calls_cons hdevice (shows_framed hframing hrequests hlevels) ?_
    rintro answer events ⟨hframed, hrests, hrest⟩ hardware
    obtain ⟨later, hlater, hall⟩ := ih hrest hrests hardware
    exact ⟨later, hlater, hframed, hall⟩

/-- On two wires that are high at first, with pins that do not fail, every request of a run in which
only starts are asked for outside transactions is framed: the data wire changes under a high clock
once in each start, where it falls, and once in each stop, where it rises; the clock is low between
requests of a transaction and both wires are high after each stop; and a write or a read gives as
many pulses as it has bits. -/
theorem inTransactions_framed (hframing : config.framing = .conditions)
    (hdevice : device.Answers PinRequest.Succeeds) {requests : List BusRequest}
    (hrequests : InTransactions false requests) (hardware : δ) :
    ∃ calls, (handler config).calls device requests false hardware = some calls ∧
      AllFramed .idle calls :=
  exists_calls_framed hframing hdevice hrequests Levels.high_idle hardware

/-- Two transactions with the lowest bit first: one with a repeated start and reads of some bits and
of none, and one that is empty. -/
theorem repeated_start_and_reads_framed :
    ∃ calls, (handler { Config.twoWire with order := .lowFirst }).calls listed
        [.start, .write 0xa5 8, .start, .read 5, .read 0, .stop, .start, .stop] false
        [true, false, false, true] = some calls ∧
      AllFramed .idle calls :=
  inTransactions_framed rfl listed_succeeds (by simp [InTransactions]) _

end BusProbe.Clocked
