import BusProbe.Proofs.I2c.BitBang
import BusProbe.Proofs.Script.Calls

/-!
# Transactions on the two wires of the I2C bus

An observer of the wires gathers the bits between conditions into frames of nine (`marks`). What it
should see of a transaction is given by the requests that were made and the levels that the bus
sampled meanwhile, nine in each frame (`transaction`): the conditions, the bytes that were sent up
to the first that was not acknowledged, and for each byte received a frame of released bits, of
which the ninth is driven low if another read follows. `observed_transaction` says that this is what
the observer makes of the levels driven, whatever the device on the bus answers, and that each read
gives the number that was sampled in its frame.

A byte that was read is acknowledged with the next request, so the ninth bit of its frame is driven
only then. What a single request makes is therefore stated for bits that are already gathered and
bits that are left over (`Decodes`, `Makes`), and the requests of a transaction are followed from
the last to the first (`Tells`).
-/

set_option autoImplicit false
set_option relaxedAutoImplicit false

namespace BusProbe.I2c

/-! ### What an observer sees -/

/-- A part of a transaction. -/
inductive Mark
  | start
  | stop
  /-- Nine bits: those of a byte, the highest first, and the one in which it is acknowledged. -/
  | frame (byte : UInt8) (ninth : Bool)
  deriving DecidableEq, Repr

/-- Gathers bits into frames, of which some bits may be there already. There is no frame of fewer
bits than nine, and no condition within a frame. -/
def marks (gathered : List Bool) : List Signal → Option (List Mark)
  | [] => if gathered = [] then some [] else none
  | .bit level :: rest =>
    if gathered.length = 8 then
      (marks [] rest).map (.frame (Word.ofBits gathered).toUInt8 level :: ·)
    else marks (gathered ++ [level]) rest
  | .start :: rest => if gathered = [] then (marks [] rest).map (.start :: ·) else none
  | .stop :: rest => if gathered = [] then (marks [] rest).map (.stop :: ·) else none

/-! ### What there is to be seen -/

/-- The frames of bytes that are sent while levels are sampled, nine in each frame: every ninth bit
is released, and a frame whose ninth bit is sampled high is the last. The levels that are left over
come with them. -/
def sentFrames : List UInt8 → List Bool → List Mark × List Bool
  | [], samples => ([], samples)
  | byte :: rest, samples =>
    if samples[8]? = some true then ([.frame byte true], samples.drop 9)
    else
      let later := sentFrames rest (samples.drop 9)
      (.frame byte true :: later.1, later.2)

/-- Whether the first of some requests is a read. -/
def readFollows : List BusRequest → Bool
  | .read _ :: _ => true
  | _ => false

/-- The marks of requests during which levels are sampled. -/
def transaction : List BusRequest → List Bool → List Mark
  | [], _ => []
  | .start :: rest, samples => .start :: transaction rest samples
  | .stop :: rest, samples => .stop :: transaction rest samples
  | .write value width :: rest, samples =>
    let sent := sentFrames (value.bytes width) samples
    sent.1 ++ transaction rest sent.2
  | .read _ :: rest, samples => .frame 0xff (!readFollows rest) :: transaction rest (samples.drop 9)
  | _ :: rest, samples => transaction rest samples

/-- The eight levels that are sampled in the frame of each read. -/
def readSamples : List BusRequest → List Bool → List (List Bool)
  | [], _ => []
  | .write value width :: rest, samples =>
    readSamples rest (sentFrames (value.bytes width) samples).2
  | .read _ :: rest, samples => samples.take 8 :: readSamples rest (samples.drop 9)
  | _ :: rest, samples => readSamples rest samples

/-- The value that a call gives, if it is a read that gives one. -/
def received? : Call Bus (Pins BusLine) → Option Word
  | ⟨.read _, .ready value, _⟩ => some value
  | _ => none

/-- A request within a transaction: a write, a read or a repeated start. -/
def IsInner : BusRequest → Prop
  | .write .. | .read _ | .start => True
  | _ => False

/-! ### Drives as marks -/

theorem marks_bits {gathered : List Bool} (bits : List Bool) (rest : List Signal)
    (hlength : gathered.length + bits.length ≤ 8) :
    marks gathered (bits.map .bit ++ rest) = marks (gathered ++ bits) rest := by
  induction bits generalizing gathered with
  | nil => simp
  | cons bit more ih =>
    rw [List.length_cons] at hlength
    have hne : gathered.length ≠ 8 := by omega
    have hmore : (gathered ++ [bit]).length + more.length ≤ 8 := by
      rw [List.length_append, List.length_singleton]
      omega
    rw [List.map_cons, List.cons_append, marks, if_neg hne, ih hmore, List.append_assoc,
      List.singleton_append]

/-- A ninth bit makes a frame. -/
theorem marks_ninth {bits : List Bool} (hlength : bits.length = 8) (ninth : Bool)
    (rest : List Signal) :
    marks bits (.bit ninth :: rest) =
      (marks [] rest).map ([.frame (Word.ofBits bits).toUInt8 ninth] ++ ·) := by
  rw [marks, if_pos hlength]
  rfl

/-- From a low clock, drives make some marks of the bits that are gathered before, leave some bits
over and the clock low. -/
structure Decodes (gathered : List Bool) (drives : List Drive) (made : List Mark)
    (left : List Bool) : Prop where
  low : ∀ levels : Levels, levels.Low → (levels.after drives).Low
  marks_eq : ∀ levels : Levels, levels.Low → ∀ rest,
    marks gathered (signals levels drives ++ rest) = (marks left rest).map (made ++ ·)

theorem Decodes.append {gathered between left : List Bool} {first second : List Drive}
    {made more : List Mark} (hfirst : Decodes gathered first made between)
    (hsecond : Decodes between second more left) :
    Decodes gathered (first ++ second) (made ++ more) left where
  low levels hlow := by
    rw [Levels.after_append]
    exact hsecond.low _ (hfirst.low _ hlow)
  marks_eq levels hlow rest := by
    rw [signals_append, List.append_assoc, hfirst.marks_eq levels hlow,
      hsecond.marks_eq _ (hfirst.low _ hlow), Option.map_map]
    congr 1
    funext marks
    exact (List.append_assoc made more marks).symm

theorem decodes_nil (gathered : List Bool) : Decodes gathered [] [] gathered where
  low _ hlow := hlow
  marks_eq _ _ rest := by simp [signals]

theorem decodes_start : Decodes [] startDrives [.start] [] where
  low _ hlow := (signals_startDrives (Or.inl hlow)).2
  marks_eq levels hlow rest := by
    rw [(signals_startDrives (Or.inl hlow)).1]
    rfl

theorem decodes_data (gathered : List Bool) (level : Bool) :
    Decodes gathered [(.data, level)] [] gathered where
  low _ hlow := (signals_data hlow level).2.2.1
  marks_eq levels hlow rest := by
    rw [(signals_data hlow level).1]
    simp

/-- Bits of a frame that is not finished are left over. -/
theorem decodes_bits {bits : List Bool} (hlength : bits.length ≤ 8) :
    Decodes [] (bits.flatMap bitDrives) [] bits where
  low _ hlow := (signals_flatMap_bitDrives hlow bits).2.2
  marks_eq levels hlow rest := by
    rw [(signals_flatMap_bitDrives hlow bits).1, marks_bits bits rest (by simpa using hlength)]
    simp

/-- A bit after eight others finishes their frame. -/
theorem decodes_ninth {bits : List Bool} (hlength : bits.length = 8) (ninth : Bool) :
    Decodes bits (bitDrives ninth) [.frame (Word.ofBits bits).toUInt8 ninth] [] where
  low _ hlow := (signals_bitDrives hlow ninth).2.2
  marks_eq levels hlow rest := by
    rw [(signals_bitDrives hlow ninth).1]
    exact marks_ninth hlength ninth rest

theorem decodes_frame (byte : UInt8) (ninth : Bool) :
    Decodes [] (frameDrives byte ninth) [.frame byte ninth] [] := by
  have hlength : (Word.bits byte.toUInt32 8).length = 8 := Word.length_bits _ _
  have hframe := (decodes_bits (Nat.le_of_eq hlength)).append (decodes_ninth hlength ninth)
  rw [Word.toUInt8_ofBits_bits] at hframe
  simpa [frameDrives] using hframe

/-- The bits that are gathered of the frame of a byte that was read and not yet acknowledged. -/
def owedBits (owed : Bool) : List Bool := if owed then List.replicate 8 true else []

/-- The frame of a byte that is acknowledged, if an acknowledgement is owed. -/
def owedMarks (owed accept : Bool) : List Mark := if owed then [.frame 0xff (!accept)] else []

theorem decodes_owed (owed accept : Bool) :
    Decodes (owedBits owed) (owedDrives owed accept) (owedMarks owed accept) [] := by
  cases owed with
  | false => exact decodes_nil []
  | true =>
    have hlength : (List.replicate 8 true).length = 8 := rfl
    exact (decodes_ninth hlength (!accept)).append (decodes_data [] true)

/-- The ninth of some levels, and what comes after it. -/
theorem ninth_eq {seen : List Bool} (hseen : seen.length = 8) (ninth : Bool) (more : List Bool) :
    (seen ++ ninth :: more)[8]? = some ninth ∧ (seen ++ ninth :: more).drop 9 = more := by
  constructor
  · simp [← hseen]
  · rw [List.append_cons]
    exact List.drop_left' (by simp [hseen])

/-- What comes after the levels of a frame. -/
theorem drop_frame {own ninth : List Bool} (hown : own.length = 8) (hninth : ninth.length = 1)
    (samples : List Bool) : (own ++ (ninth ++ samples)).drop 9 = samples := by
  rw [← List.append_assoc]
  exact List.drop_left' (by rw [List.length_append, hown, hninth])

/-- Bytes that are sent make their frames. -/
theorem Sends.decodes {bytes : List UInt8} {drives : List Drive} {samples : List Bool}
    (hsends : Sends bytes drives samples) :
    ∃ made, (∀ more, sentFrames bytes (samples ++ more) = (made, more)) ∧
      Decodes [] drives made [] := by
  induction hsends with
  | nil => exact ⟨[], fun more ↦ rfl, decodes_nil []⟩
  | @refused byte rest seen hseen =>
    refine ⟨[.frame byte true], fun more ↦ ?_, decodes_frame byte true⟩
    obtain ⟨hninth, hdrop⟩ := ninth_eq hseen true more
    rw [← List.append_cons, sentFrames, if_pos hninth, hdrop]
  | @accepted byte rest seen samples drives hseen hrest ih =>
    obtain ⟨made, hmade, hdecodes⟩ := ih
    refine ⟨.frame byte true :: made, fun more ↦ ?_, (decodes_frame byte true).append hdecodes⟩
    obtain ⟨hninth, hdrop⟩ := ninth_eq hseen false (samples ++ more)
    have hne : (seen ++ false :: (samples ++ more))[8]? ≠ some true := by
      rw [hninth]
      decide
    rw [List.append_assoc, List.cons_append, sentFrames, if_neg hne, hdrop, hmade]

/-! ### Calls of the bus -/

/-- What calls tell an observer of requests, if the bits of a frame are gathered of which the
acknowledgement is owed: the marks are those of the frame and of the requests, and the reads give
what was sampled. -/
def Tells (owed : Bool) (requests : List BusRequest) (calls : List (Call Bus (Pins BusLine))) :
    Prop :=
  ∃ ninth samples, ninth.length = owed.toNat ∧
    sampled (Call.allEvents calls) = ninth ++ samples ∧
    (∀ levels : Levels, levels.Low →
      marks (owedBits owed) (signals levels (driven wire? (Call.allEvents calls))) =
        some (owedMarks owed (readFollows requests) ++ transaction requests samples)) ∧
    (calls.filterMap received?).map (Word.bits · 8) = readSamples requests samples ∧
    ∀ value ∈ calls.filterMap received?, value.toNat < 256

/-- What a request within a transaction makes of its drives and of the levels sampled meanwhile,
apart from the acknowledgement that was owed before: some marks, and the value it gives, if it is a
read. A frame may be left open, whose acknowledgement is owed then. -/
structure Makes (owed : Bool) (request : BusRequest) (rest : List BusRequest)
    (value? : Option Word) (drives : List Drive) (own : List Bool) (made : List Mark) : Prop where
  decodes : Decodes [] drives made (owedBits owed)
  small : ∀ value ∈ value?, value.toNat < 256
  transaction_eq : ∀ ninth samples, ninth.length = owed.toNat →
    transaction (request :: rest) (own ++ (ninth ++ samples)) =
      made ++ (owedMarks owed (readFollows rest) ++ transaction rest samples)
  readSamples_eq : ∀ ninth samples, ninth.length = owed.toNat →
    readSamples (request :: rest) (own ++ (ninth ++ samples)) =
      value?.toList.map (Word.bits · 8) ++ readSamples rest samples

/-- The value that a call gives does not depend on what happened below. -/
theorem received?_eq (request : BusRequest) (reply : request.Reply)
    (events : List (Event (Pins BusLine))) :
    received? ⟨request, reply, events⟩ = received? ⟨request, reply, []⟩ := by
  cases request with
  | read width => cases reply <;> rfl
  | _ => rfl

/-- A call in front of others tells of its request, after the acknowledgement that was owed. -/
theorem Tells.cons {before owed : Bool} {request : BusRequest} {rest : List BusRequest}
    {reply : request.Reply} {events : List (Event (Pins BusLine))}
    {calls : List (Call Bus (Pins BusLine))} {ninth own : List Bool} {drives : List Drive}
    {made : List Mark} (hninth : ninth.length = before.toNat)
    (hsampled : sampled events = ninth ++ own)
    (hdriven : driven wire? events = owedDrives before (readFollows (request :: rest)) ++ drives)
    (hmakes : Makes owed request rest (received? ⟨request, reply, []⟩) drives own made)
    (hrest : Tells owed rest calls) :
    Tells before (request :: rest) (⟨request, reply, events⟩ :: calls) := by
  obtain ⟨next, samples, hnext, hmore, hmarks, hreads, hbelow⟩ := hrest
  have hfilter : ((⟨request, reply, events⟩ : Call Bus (Pins BusLine)) :: calls).filterMap
      received? = (received? ⟨request, reply, []⟩).toList ++ calls.filterMap received? := by
    rw [List.filterMap_cons, received?_eq]
    cases received? ⟨request, reply, []⟩ <;> rfl
  have hall := (decodes_owed before (readFollows (request :: rest))).append hmakes.decodes
  refine ⟨ninth, own ++ (next ++ samples), hninth, ?_, fun levels hlow ↦ ?_, ?_, ?_⟩
  · rw [Call.allEvents_cons, sampled_append, hsampled, hmore, List.append_assoc]
  · rw [Call.allEvents_cons, driven_append, hdriven, signals_append, hall.marks_eq levels hlow,
      hmarks _ (hall.low levels hlow), hmakes.transaction_eq next samples hnext, Option.map_some,
      List.append_assoc]
  · rw [hfilter, List.map_append, hreads, hmakes.readSamples_eq next samples hnext]
  · intro value hmem
    rw [hfilter] at hmem
    rcases List.mem_append.mp hmem with hmem | hmem
    · exact hmakes.small value (Option.mem_toList.mp hmem)
    · exact hbelow value hmem

/-- The call of the stop that ends a transaction tells of the stop. -/
theorem tells_stop {owed : Bool} {reply : Except BusFailure Unit}
    {events : List (Event (Pins BusLine))} {ninth : List Bool} (hninth : ninth.length = owed.toNat)
    (hsampled : sampled events = ninth)
    (hdriven : driven wire? events = owedDrives owed false ++ stopDrives) :
    Tells owed [.stop] [⟨.stop, reply, events⟩] := by
  have hevents : Call.allEvents [(⟨.stop, reply, events⟩ : Call Bus (Pins BusLine))] = events :=
    List.append_nil events
  refine ⟨ninth, [], hninth, ?_, fun levels hlow ↦ ?_, rfl, fun _ hmem ↦ ?_⟩
  · rw [hevents, hsampled, List.append_nil]
  · have howed := decodes_owed owed false
    rw [hevents, hdriven, signals_append, (signals_stopDrives (howed.low levels hlow)).1,
      howed.marks_eq levels hlow]
    rfl
  · exact absurd hmem List.not_mem_nil

theorem makes_start (rest : List BusRequest) :
    Makes false .start rest none startDrives [] [.start] where
  decodes := decodes_start
  small := nofun
  transaction_eq ninth samples hninth := by
    obtain rfl := List.length_eq_zero_iff.mp hninth
    rfl
  readSamples_eq ninth samples hninth := by
    obtain rfl := List.length_eq_zero_iff.mp hninth
    rfl

/-- A write makes the frames of the bytes that are sent. -/
theorem makes_write {value : Word} {width : Nat} {drives : List Drive} {own : List Bool}
    (hsends : Sends (value.bytes width) drives own) (rest : List BusRequest) :
    ∃ made, Makes false (.write value width) rest none drives own made := by
  obtain ⟨made, hmade, hdecodes⟩ := hsends.decodes
  refine ⟨made, hdecodes, nofun, fun ninth samples hninth ↦ ?_, fun ninth samples hninth ↦ ?_⟩
  · obtain rfl := List.length_eq_zero_iff.mp hninth
    rw [transaction, hmade]
    rfl
  · obtain rfl := List.length_eq_zero_iff.mp hninth
    rw [readSamples, hmade]
    rfl

/-- A read leaves eight released bits of a frame, and gives the number that was sampled in them. -/
theorem makes_read (width : Nat) {own : List Bool} (hown : own.length = 8)
    (rest : List BusRequest) :
    Makes true (.read width) rest (some (Word.ofBits own))
      ((List.replicate 8 true).flatMap bitDrives) own [] where
  decodes := decodes_bits (Nat.le_refl 8)
  small value hvalue := by
    have hmax : own.length ≤ Word.maxWidth := by rw [hown]; decide
    have hlt := Word.toNat_ofBits_lt hmax
    rwa [hown, Option.some.inj hvalue] at hlt
  transaction_eq ninth samples hninth := by
    rw [transaction, drop_frame hown hninth]
    rfl
  readSamples_eq ninth samples hninth := by
    have htake : (own ++ (ninth ++ samples)).take 8 = own := List.take_left' hown
    have hbits : (Word.ofBits own).bits 8 = own := by
      rw [← hown]
      exact Word.bits_ofBits (by rw [hown]; decide)
    rw [readSamples, drop_frame hown hninth, htake, Option.toList_some, List.map_singleton, hbits]
    rfl

section Calls

variable {speed : Speed} {δ : Type} {device : Device (Pins BusLine) δ}

/-- A request within a transaction makes its marks, after the acknowledgement that was owed. -/
theorem shows_makes {request : BusRequest} (hrequest : IsInner request)
    (rest : List BusRequest) (state : State) :
    Shows wire? (onPins speed request (state, ()))
      (AfterOwed state.ackOwed (readFollows (request :: rest)) fun answer drives own ↦
        ∃ made, Makes answer.2.1.ackOwed request rest (received? ⟨request, answer.1, []⟩) drives own
          made) := by
  cases request with
  | start =>
    refine shows_start.mono fun answer drives samples hafter ↦ hafter.mono ?_
    rintro _ _ ⟨hstate, rfl, rfl⟩
    rw [hstate]
    exact ⟨_, makes_start rest⟩
  | write value width =>
    refine (shows_write value width).mono fun answer drives samples hafter ↦ hafter.mono ?_
    rintro _ _ ⟨hstate, hsends⟩
    rw [hstate]
    exact makes_write hsends rest
  | read width =>
    refine (shows_read width).mono fun answer drives samples hafter ↦ hafter.mono ?_
    rintro _ own ⟨hreply, hstate, rfl, hown⟩
    rw [hreply, hstate]
    exact ⟨_, makes_read width hown rest⟩
  | stop => exact hrequest.elim
  | startAlt => exact hrequest.elim
  | stopAlt => exact hrequest.elim
  | line action => exact hrequest.elim
  | released => exact hrequest.elim

/-- The rest of a transaction can be carried out, and tells of its requests. -/
theorem exists_calls_tells (hdevice : device.Answers PinRequest.Succeeds) {body : List BusRequest}
    (hbody : ∀ request ∈ body, IsInner request) (state : State) (hardware : δ) :
    ∃ calls, (onPins speed).calls device (body ++ [.stop]) (state, ()) hardware = some calls ∧
      Tells state.ackOwed (body ++ [.stop]) calls := by
  induction body generalizing state hardware with
  | nil =>
    refine Handler.exists_calls_cons hdevice shows_stop ?_
    rintro answer events ⟨ninth, own, drives, hninth, hsampled, hdriven, -, rfl, rfl⟩ hardware
    rw [List.append_nil] at hsampled
    exact ⟨[], rfl, tells_stop hninth hsampled hdriven⟩
  | cons request rest ih =>
    have hrest : ∀ request ∈ rest, IsInner request :=
      fun other hmem ↦ hbody other (List.mem_cons_of_mem request hmem)
    have hrequest : IsInner request := hbody request List.mem_cons_self
    refine Handler.exists_calls_cons hdevice (shows_makes hrequest (rest ++ [.stop]) state) ?_
    rintro answer events ⟨ninth, own, drives, hninth, hsampled, hdriven, made, hmakes⟩ hardware
    obtain ⟨later, hlater, htells⟩ := ih hrest answer.2.1 hardware
    exact ⟨later, hlater, htells.cons hninth hsampled hdriven hmakes⟩

/-- Whatever the device on the bus answers, an observer of the wires recovers a transaction: what it
makes of the levels driven is the start, the bytes written up to the first refused, a frame for each
byte read, the repeated starts and the stop. Each read gives the number of the eight levels sampled
in its frame. -/
theorem observed_transaction (hdevice : device.Answers PinRequest.Succeeds)
    {body : List BusRequest} (hbody : ∀ request ∈ body, IsInner request) (hardware : δ) :
    ∃ calls, (onPins speed).calls device (.start :: (body ++ [.stop])) (.idle, ()) hardware =
        some calls ∧
      marks [] (signals .idle (driven wire? (Call.allEvents calls))) =
        some (transaction (.start :: (body ++ [.stop])) (sampled (Call.allEvents calls))) ∧
      (calls.filterMap received?).map (Word.bits · 8) =
        readSamples (.start :: (body ++ [.stop])) (sampled (Call.allEvents calls)) ∧
      ∀ value ∈ calls.filterMap received?, value.toNat < 256 := by
  refine Handler.exists_calls_cons hdevice shows_start ?_
  rintro answer events ⟨ninth, own, drives, hninth, hsampled, hdriven, hstate, rfl, rfl⟩ hardware
  obtain ⟨later, hlater, htells⟩ := exists_calls_tells hdevice hbody answer.2.1 hardware
  rw [hstate] at htells
  obtain rfl := List.length_eq_zero_iff.mp hninth
  obtain ⟨ninth, samples, hninth, hsamples, hmarks, hreads, hbelow⟩ := htells
  obtain rfl := List.length_eq_zero_iff.mp hninth
  obtain ⟨hstart, hlow⟩ := signals_startDrives (Or.inr Levels.high_idle)
  refine ⟨later, hlater, ?_, ?_, hbelow⟩
  · have hdrives : driven wire? events = startDrives := hdriven
    rw [Call.allEvents_cons, driven_append, sampled_append, hdrives, hsampled, hsamples,
      signals_append, hstart, List.singleton_append, marks, if_pos rfl]
    exact congrArg (Option.map _) (hmarks _ hlow)
  · rw [Call.allEvents_cons, sampled_append, hsampled, hsamples]
    exact hreads

end Calls

/-- Levels of a data wire while one byte is written and acknowledged, two are read, and after a
repeated start one is written that no device acknowledges. -/
def wireLevels : List Bool :=
  [true, false, true, false, false, true, false, true, false,
    false, true, false, true, true, false, true, false, false,
    false, false, false, false, true, true, true, true, true,
    false, false, false, true, false, false, true, false, true]

/-- Of the two bytes that are written after the repeated start, the second is not sent. -/
theorem observed_reads_and_refused_write :
    ∃ calls, (onPins .kHz100).calls listed (.start :: ([.write 0xa5 8, .read 8, .read 8, .start,
        .write 0x1234 16] ++ [.stop])) (.idle, ()) wireLevels = some calls ∧
      marks [] (signals .idle (driven wire? (Call.allEvents calls))) =
        some [.start, .frame 0xa5 true, .frame 0xff false, .frame 0xff true, .start,
          .frame 0x12 true, .stop] ∧
      (calls.filterMap received?).map (Word.bits · 8) =
        [[false, true, false, true, true, false, true, false],
          [false, false, false, false, true, true, true, true]] := by
  have hbody : ∀ request ∈ [BusRequest.write 0xa5 8, .read 8, .read 8, .start, .write 0x1234 16],
      IsInner request := by
    simp [IsInner]
  obtain ⟨calls, hcalls, hmarks, hreads, -⟩ :=
    @observed_transaction .kHz100 _ _ listed_succeeds _ hbody wireLevels
  have hsampled : some (sampled (Call.allEvents calls)) = some wireLevels := by
    rw [← Option.map_some (f := fun calls ↦ sampled (Call.allEvents calls)), ← hcalls]
    decide +kernel
  rw [Option.some.inj hsampled] at hmarks hreads
  exact ⟨calls, hcalls, hmarks, hreads⟩

end BusProbe.I2c
