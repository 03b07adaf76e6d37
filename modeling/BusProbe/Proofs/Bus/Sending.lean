import BusProbe.Bus.I2c
import BusProbe.Bus.Spi
import BusProbe.Bus.Uart
import BusProbe.Proofs.Script.Courses
import BusProbe.Proofs.Word.Bytes
import Mathlib.Data.List.Forall2

/-!
# Bytes sent one after another

The buses that carry whole bytes send the same bytes for a value, those that denote it with the
highest first. The I2C bus and the serial bus offer them one at a time. A byte passes or fails, and
after one that fails no further byte is offered; its failure is that of the write
(`OfferedInTurn`). What a byte has to go through is different on the two buses
(`I2c.Offered`, `Uart.Offered`). The SPI bus hands all bytes over at once. On none of them a write
changes whether a transaction is open (`write_sends_bigEndian`).

A serial link may keep the bus waiting. It is enough that a byte which is offered again and again is
taken or refused at some time, and that waiting for the link to be through comes to an end in the
same way (`Uart.NeverJams`); how long it takes does not matter.
-/

set_option autoImplicit false
set_option relaxedAutoImplicit false

namespace BusProbe

open Script

/-! ### One byte after another -/

section InTurn

variable {J : Interface} {offer : UInt8 → Except BusFailure Unit → List (Event J) → Prop}

/-- Bytes are offered one after another. Either all of them pass, or one fails; then it is the last
that is offered, and the result is its failure. What happens is made up of what happens with each
byte that is offered. -/
inductive OfferedInTurn (offer : UInt8 → Except BusFailure Unit → List (Event J) → Prop)
    (bytes : List UInt8) : Except BusFailure Unit → List (Event J) → Prop
  | all {parts : List (List (Event J))} (hparts : List.Forall₂ (offer · (.ok ())) bytes parts) :
      OfferedInTurn offer bytes (.ok ()) parts.flatten
  | upTo {before after : List UInt8} {byte : UInt8} {failure : BusFailure}
      {parts : List (List (Event J))} {last : List (Event J)}
      (hbytes : bytes = before ++ byte :: after)
      (hparts : List.Forall₂ (offer · (.ok ())) before parts)
      (hlast : offer byte (.error failure) last) :
      OfferedInTurn offer bytes (.error failure) (parts.flatten ++ last)

theorem offeredInTurn_nil : OfferedInTurn offer [] (.ok ()) [] := .all .nil

theorem offeredInTurn_failed {byte : UInt8} {rest : List UInt8} {failure : BusFailure}
    {events : List (Event J)} (hbyte : offer byte (.error failure) events) :
    OfferedInTurn offer (byte :: rest) (.error failure) events :=
  .upTo (show byte :: rest = [] ++ byte :: rest from rfl) .nil hbyte

/-- After a byte that passes the others are offered. -/
theorem OfferedInTurn.cons {byte : UInt8} {rest : List UInt8} {result : Except BusFailure Unit}
    {first later : List (Event J)} (hbyte : offer byte (.ok ()) first)
    (hrest : OfferedInTurn offer rest result later) :
    OfferedInTurn offer (byte :: rest) result (first ++ later) := by
  cases hrest with
  | all hparts => exact .all (.cons hbyte hparts)
  | upTo hbytes hparts hlast =>
    rw [← List.append_assoc]
    exact .upTo (congrArg (List.cons byte) hbytes) (.cons hbyte hparts) hlast

end InTurn

/-! ### The I2C bus -/

namespace I2c

/-- What comes of offering a byte to the controller: it is acknowledged, or nobody does, or the
controller fails. -/
inductive Offered (byte : UInt8) : Except BusFailure Unit → List (Event Controller) → Prop
  | acknowledged : Offered byte (.ok ()) [.exchange (.writeByte byte) (.ok true)]
  | refused :
      Offered byte (.error (.notAcknowledged byte)) [.exchange (.writeByte byte) (.ok false)]
  | failed (fault : Fault) :
      Offered byte (.error (.controller fault)) [.exchange (.writeByte byte) (.error fault)]

theorem sendBytes_ensures (bytes : List UInt8) :
    (sendBytes bytes).Ensures Controller.anyReply (OfferedInTurn Offered bytes) := by
  induction bytes with
  | nil => exact offeredInTurn_nil
  | cons byte rest ih =>
    intro reply _
    cases reply with
    | error fault => exact offeredInTurn_failed (.failed fault)
    | ok acknowledged =>
      cases acknowledged with
      | false => exact offeredInTurn_failed .refused
      | true => exact ih.mono fun _ _ hrest ↦ hrest.cons .acknowledged

/-- A write of a bus that owes no acknowledgement offers the bytes of the value and changes nothing
about the state of the bus. -/
theorem write_ensures (value : Word) (width : Nat) (held : Bool) :
    (handler (.write value width) ⟨held, false⟩).Ensures Controller.anyReply fun answer events ↦
      answer.2 = ⟨held, false⟩ ∧ OfferedInTurn Offered (value.bytes width) answer.1 events := by
  refine (sendBytes_ensures (value.bytes width)).bind fun reply events hsent ↦ ?_
  rw [pure_eq_done, ensures_done, List.append_nil]
  exact ⟨rfl, hsent⟩

end I2c

/-! ### Patience -/

section Patience

variable {I : Interface} {δ α β : Type} {device : Device I δ} {state : δ}

/-- With enough patience a script comes to one and the same outcome. -/
def RunsTo (device : Device I δ) (script : Nat → Script I α) (state : δ)
    (outcome : Outcome I δ α) : Prop :=
  ∃ enough, ∀ patience, enough ≤ patience → (script patience).run device state = some outcome

theorem RunsTo.of_run {script : Script I α} {outcome : Outcome I δ α}
    (hrun : script.run device state = some outcome) :
    RunsTo device (fun _ ↦ script) state outcome :=
  ⟨0, fun _ _ ↦ hrun⟩

theorem runsTo_done (value : α) :
    RunsTo device (fun _ ↦ .done value) state ⟨value, state, []⟩ :=
  .of_run rfl

theorem RunsTo.bind {script : Nat → Script I α} {next : Nat → α → Script I β}
    {first : Outcome I δ α} {second : Outcome I δ β} (hscript : RunsTo device script state first)
    (hnext : RunsTo device (next · first.value) first.state second) :
    RunsTo device (fun patience ↦ script patience >>= next patience) state
      (second.after first.events) := by
  obtain ⟨enough, hrun⟩ := hscript
  obtain ⟨more, hrunNext⟩ := hnext
  refine ⟨max enough more, fun patience hpatience ↦ ?_⟩
  refine run_bind_eq_some.mpr ⟨first, second, ?_, ?_, rfl⟩
  · exact hrun patience (Nat.le_trans (Nat.le_max_left ..) hpatience)
  · exact hrunNext patience (Nat.le_trans (Nat.le_max_right ..) hpatience)

/-- A device that was used in a run has been asked for some things. -/
theorem RunsTo.exists_after {script : Nat → Script I α} {outcome : Outcome I δ α}
    (hrun : RunsTo device script state outcome) :
    ∃ asked, outcome.state = device.after asked state := by
  obtain ⟨enough, hrun⟩ := hrun
  exact ⟨_, state_of_run (hrun enough (Nat.le_refl _))⟩

end Patience

/-! ### The serial bus -/

namespace Uart

variable {δ : Type} {link : Device Link δ} {state : δ} {config : Config}

/-- Something that is polled again and again is answered at some time. -/
inductive AnsweredLater (poll : δ → Poll Fault Unit × δ) : δ → Prop
  | now {state : δ} (hanswered : (poll state).1 ≠ .pending) : AnsweredLater poll state
  | later {state : δ} (hpending : (poll state).1 = .pending)
      (hlater : AnsweredLater poll (poll state).2) : AnsweredLater poll state

/-- Whatever was asked of the link before, it takes or refuses a byte at some time, and it is
through with what it took, or fails, at some time. -/
structure NeverJams (link : Device Link δ) (state : δ) : Prop where
  send : ∀ asked byte, AnsweredLater (link (.send byte)) (link.after asked state)
  flush : ∀ asked, AnsweredLater (link .flush) (link.after asked state)

theorem NeverJams.of_runsTo {α : Type} {script : Nat → Script Link α} {outcome : Outcome Link δ α}
    (hlink : NeverJams link state) (hrun : RunsTo link script state outcome) :
    NeverJams link outcome.state := by
  obtain ⟨asked, hafter⟩ := hrun.exists_after
  rw [hafter]
  constructor
  · intro more byte
    rw [← Device.after_append]
    exact hlink.send (asked ++ more) byte
  · intro more
    rw [← Device.after_append]
    exact hlink.flush (asked ++ more)

/-- The link is asked for something until it is done or fails; it may say before that it is not
ready. -/
inductive Insisted (exchange : Poll Fault Unit → Event Link) :
    Except BusFailure Unit → List (Event Link) → Prop
  | ready : Insisted exchange (.ok ()) [exchange (.ready ())]
  | failed (fault : Fault) :
      Insisted exchange (.error (.transmit fault)) [exchange (.failed fault)]
  | again {result : Except BusFailure Unit} {events : List (Event Link)}
      (hlater : Insisted exchange result events) :
      Insisted exchange result (exchange .pending :: events)

/-- What happens while the link is asked to take a byte. -/
def Insisted.send (byte : UInt8) : Except BusFailure Unit → List (Event Link) → Prop :=
  Insisted fun reply ↦ .exchange (.send byte) reply

/-- What happens while the link is asked whether it is through. -/
def Insisted.flush : Except BusFailure Unit → List (Event Link) → Prop :=
  Insisted fun reply ↦ .exchange .flush reply

/-- An echo is looked for a number of times at most. It is found and dropped, or the link fails, or
it does not come, which is recorded and no failure. -/
inductive EchoDropped : Nat → Except BusFailure Unit → List (Event Link) → Prop
  | found {polls : Nat} (byte : UInt8) :
      EchoDropped (polls + 1) (.ok ()) [.exchange .receive (.ready byte)]
  | failed {polls : Nat} (fault : Fault) :
      EchoDropped (polls + 1) (.error (.receive fault)) [.exchange .receive (.failed fault)]
  | again {polls : Nat} {result : Except BusFailure Unit} {events : List (Event Link)}
      (hlater : EchoDropped polls result events) :
      EchoDropped (polls + 1) result (.exchange .receive .pending :: events)
  | missing : EchoDropped 0 (.ok ()) [.note .noEcho]

/-- What comes of offering a byte to the link: the link fails to take it, or to be through with it,
or it is sent. On a shared wire its echo has to be dropped as well, which may fail. -/
inductive Offered (config : Config) (byte : UInt8) :
    Except BusFailure Unit → List (Event Link) → Prop
  | sendFailed {failure : BusFailure} {events : List (Event Link)}
      (hsend : Insisted.send byte (.error failure) events) :
      Offered config byte (.error failure) events
  | flushFailed {failure : BusFailure} {first second : List (Event Link)}
      (hsend : Insisted.send byte (.ok ()) first)
      (hflush : Insisted.flush (.error failure) second) :
      Offered config byte (.error failure) (first ++ second)
  | sent {first second : List (Event Link)} (hfull : config.duplex = .full)
      (hsend : Insisted.send byte (.ok ()) first) (hflush : Insisted.flush (.ok ()) second) :
      Offered config byte (.ok ()) (first ++ second)
  | echoed {result : Except BusFailure Unit} {first second third : List (Event Link)}
      (hhalf : config.duplex = .half) (hsend : Insisted.send byte (.ok ()) first)
      (hflush : Insisted.flush (.ok ()) second)
      (hecho : EchoDropped config.echoPolls result third) :
      Offered config byte result (first ++ (second ++ third))

/-! #### Insisting on an answer -/

/-- A script that polls until there is an answer comes to an end with enough patience, if there is
an answer at some time. One more attempt takes a patience that is one greater. -/
theorem exists_insisted {poll : δ → Poll Fault Unit × δ} {exchange : Poll Fault Unit → Event Link}
    {script : Nat → Script Link (Except BusFailure Unit)}
    (hscript : ∀ patience state, (script (patience + 1)).run link state =
      match poll state with
      | (.ready (), next) => some ⟨.ok (), next, [exchange (.ready ())]⟩
      | (.pending, next) => ((script patience).run link next).map (·.after [exchange .pending])
      | (.failed fault, next) => some ⟨.error (.transmit fault), next, [exchange (.failed fault)]⟩)
    (hlater : AnsweredLater poll state) :
    ∃ outcome, RunsTo link script state outcome ∧
      Insisted exchange outcome.value outcome.events := by
  have hmore : ∀ {patience enough}, enough + 1 ≤ patience →
      ∃ less, patience = less + 1 ∧ enough ≤ less := by
    intro patience enough hpatience
    exact ⟨patience - 1, by omega, by omega⟩
  induction hlater with
  | @now state hanswered =>
    rcases hpoll : poll state with ⟨_ | _ | fault, next⟩
    · refine ⟨⟨.ok (), next, [exchange (.ready ())]⟩, ⟨1, fun patience hpatience ↦ ?_⟩, .ready⟩
      obtain ⟨less, rfl, -⟩ := hmore hpatience
      rw [hscript, hpoll]
    · rw [hpoll] at hanswered
      exact absurd rfl hanswered
    · refine ⟨⟨.error (.transmit fault), next, [exchange (.failed fault)]⟩,
        ⟨1, fun patience hpatience ↦ ?_⟩, .failed fault⟩
      obtain ⟨less, rfl, -⟩ := hmore hpatience
      rw [hscript, hpoll]
  | @later state hpending _ ih =>
    obtain ⟨outcome, ⟨enough, hrun⟩, hinsisted⟩ := ih
    refine ⟨outcome.after [exchange .pending], ⟨enough + 1, fun patience hpatience ↦ ?_⟩,
      hinsisted.again⟩
    obtain ⟨less, rfl, hless⟩ := hmore hpatience
    have hpoll : poll state = (.pending, (poll state).2) := Prod.ext hpending rfl
    rw [hscript, hpoll]
    simp only
    rw [hrun less hless, Option.map_some]

theorem exists_sendWhenReady_run (hlink : NeverJams link state) (byte : UInt8) :
    ∃ outcome, RunsTo link (sendWhenReady byte) state outcome ∧
      Insisted.send byte outcome.value outcome.events := by
  refine exists_insisted (fun patience state ↦ ?_) (hlink.send [] byte)
  rw [sendWhenReady, run_ask]
  rcases link (.send byte) state with ⟨_ | _ | fault, next⟩ <;> rfl

theorem exists_flush_run (hlink : NeverJams link state) :
    ∃ outcome, RunsTo link flush state outcome ∧
      Insisted.flush outcome.value outcome.events := by
  refine exists_insisted (fun patience state ↦ ?_) (hlink.flush [])
  rw [flush, run_ask]
  rcases link .flush state with ⟨_ | _ | fault, next⟩ <;> rfl

theorem dropEcho_ensures (polls : Nat) :
    (dropEcho polls).Ensures Link.anyReply (EchoDropped polls) := by
  induction polls with
  | zero => exact .missing
  | succ polls ih =>
    intro reply _
    cases reply with
    | ready byte => exact .found byte
    | pending => exact ih.mono fun _ _ ↦ .again
    | failed fault => exact .failed fault

/-! #### Sending bytes -/

/-- A link that does not jam leads the sending of a byte to an end. -/
theorem exists_sendByte_run (hlink : NeverJams link state) (byte : UInt8) :
    ∃ outcome, RunsTo link (sendByte config · byte) state outcome ∧
      Offered config byte outcome.value outcome.events := by
  obtain ⟨⟨reply, taken, first⟩, hrun, hsend⟩ := exists_sendWhenReady_run hlink byte
  have hafter := hlink.of_runsTo hrun
  rcases reply with failure | _
  · refine ⟨_, hrun.bind (runsTo_done (Except.error failure)), ?_⟩
    rw [Outcome.after, List.append_nil]
    exact .sendFailed hsend
  obtain ⟨⟨reply, emptied, second⟩, hrunFlush, hflush⟩ := exists_flush_run hafter
  rcases reply with failure | _
  · refine ⟨_, hrun.bind (hrunFlush.bind (runsTo_done (Except.error failure))), ?_⟩
    rw [Outcome.after, Outcome.after, List.append_nil]
    exact .flushFailed hsend hflush
  rcases config with ⟨_ | _, polls⟩
  · refine ⟨_, hrun.bind (hrunFlush.bind (runsTo_done (Except.ok ()))), ?_⟩
    rw [Outcome.after, Outcome.after, List.append_nil]
    exact .sent rfl hsend hflush
  · obtain ⟨last, hrunLast, hecho⟩ := (dropEcho_ensures polls).run link.answers_any emptied
    exact ⟨_, hrun.bind (hrunFlush.bind (.of_run hrunLast)), .echoed rfl hsend hflush hecho⟩

/-- The same for bytes one after another. -/
theorem exists_sendBytes_run (hlink : NeverJams link state) (bytes : List UInt8) :
    ∃ outcome, RunsTo link (sendBytes config · bytes) state outcome ∧
      OfferedInTurn (Offered config) bytes outcome.value outcome.events := by
  induction bytes generalizing state with
  | nil => exact ⟨_, runsTo_done (Except.ok ()), offeredInTurn_nil⟩
  | cons byte rest ih =>
    obtain ⟨⟨reply, after, first⟩, hrun, hbyte⟩ := exists_sendByte_run hlink byte
    rcases reply with failure | _
    · refine ⟨_, hrun.bind (runsTo_done (Except.error failure)), ?_⟩
      rw [Outcome.after, List.append_nil]
      exact offeredInTurn_failed hbyte
    · obtain ⟨last, hrunRest, hrest⟩ := ih (hlink.of_runsTo hrun)
      exact ⟨_, hrun.bind hrunRest, hrest.cons hbyte⟩

/-- A write offers the bytes of the value and leaves the bus open or closed as it was. -/
theorem exists_write_run (hlink : NeverJams link state) (value : Word) (width : Nat)
    (isOpen : Bool) :
    ∃ outcome, RunsTo link (handler config · (.write value width) isOpen) state outcome ∧
      outcome.value.2 = isOpen ∧
        OfferedInTurn (Offered config) (value.bytes width) outcome.value.1 outcome.events := by
  obtain ⟨outcome, hrun, hsent⟩ := exists_sendBytes_run hlink (value.bytes width)
  refine ⟨_, hrun.bind (runsTo_done (outcome.value, isOpen)), rfl, ?_⟩
  rw [Outcome.after, List.append_nil]
  exact hsent

end Uart

/-! ### The SPI bus -/

namespace Spi

/-- What comes of handing bytes to the peripheral, all at once. -/
inductive Exchanged (bytes : List UInt8) : Except BusFailure Unit → List (Event Peripheral) → Prop
  | passed (received : List UInt8) :
      Exchanged bytes (.ok ()) [.exchange (.exchange bytes) (.ok received)]
  | failed (fault : Fault) :
      Exchanged bytes (.error (.transfer fault)) [.exchange (.exchange bytes) (.error fault)]

/-- A write with the highest bit first hands over the bytes of the value and leaves the device
selected or not as it was. -/
theorem write_ensures {config : Config} (horder : config.order = .highFirst) (value : Word)
    (width : Nat) (selected : Bool) :
    (handler config (.write value width) selected).Ensures Peripheral.anyReply fun answer events ↦
      answer.2 = selected ∧ Exchanged (value.bytes width) answer.1 events := by
  rw [handler, transfer, horder, BitOrder.arrange]
  intro reply _
  cases reply with
  | error fault => exact ⟨rfl, .failed fault⟩
  | ok received => exact ⟨rfl, .passed received⟩

end Spi

/-! ### All three -/

/-- For a value within its width there are bytes that denote it, the highest first, and no others of
their number do. A write offers them in turn on the I2C bus if no acknowledgement is owed there, and
in turn on the serial bus with wires of any kind if the link does not jam; on the SPI bus with the
highest bit first it hands all of them over. No write changes whether a transaction is open. -/
theorem write_sends_bigEndian {value : Word} {width : Nat} (hvalue : value.toNat < 2 ^ width) :
    ∃ bytes : List UInt8,
      (∀ other, other.length = (width + 7) / 8 ∧ Word.bigEndian other = value.toNat ↔
        other = bytes) ∧
      (∀ {δ : Type} (controller : Device I2c.Controller δ) (hardware : δ) (held : Bool),
        ∃ outcome,
          (I2c.handler (.write value width) ⟨held, false⟩).run controller hardware = some outcome ∧
            outcome.value.2 = ⟨held, false⟩ ∧
              OfferedInTurn I2c.Offered bytes outcome.value.1 outcome.events) ∧
      (∀ {δ : Type} (config : Uart.Config) (link : Device Uart.Link δ) (hardware : δ)
        (isOpen : Bool), Uart.NeverJams link hardware → ∃ outcome,
          RunsTo link (Uart.handler config · (.write value width) isOpen) hardware outcome ∧
            outcome.value.2 = isOpen ∧
              OfferedInTurn (Uart.Offered config) bytes outcome.value.1 outcome.events) ∧
      ∀ {δ : Type} (config : Spi.Config) (peripheral : Device Spi.Peripheral δ) (hardware : δ)
        (selected : Bool), config.order = .highFirst → ∃ outcome,
          (Spi.handler config (.write value width) selected).run peripheral hardware =
              some outcome ∧
            outcome.value.2 = selected ∧
              Spi.Exchanged bytes outcome.value.1 outcome.events := by
  refine ⟨value.bytes width, fun other ↦ ⟨?_, ?_⟩, ?_, ?_, ?_⟩
  · rintro ⟨hlength, hother⟩
    exact Word.eq_bytes_of_bigEndian hvalue hlength hother
  · rintro rfl
    exact ⟨Word.length_bytes value width, Word.bigEndian_bytes hvalue⟩
  · intro δ controller hardware held
    exact (I2c.write_ensures value width held).run controller.answers_any hardware
  · intro δ config link hardware isOpen hlink
    exact Uart.exists_write_run hlink value width isOpen
  · intro δ config peripheral hardware selected horder
    exact (Spi.write_ensures horder value width selected).run peripheral.answers_any hardware

/-- A controller that has one byte acknowledged. The state says whether that is still to come. -/
def I2c.acknowledgingOnce : Device I2c.Controller Bool
  | .start, fresh => (.ok (), fresh)
  | .stop, fresh => (.ok (), fresh)
  | .writeByte _, fresh => (.ok fresh, false)
  | .readByte, fresh => (.pending, fresh)
  | .acknowledge _, fresh => (.ok (), fresh)

/-- A link that takes a byte when it is asked again, and cannot receive. -/
def Uart.hesitant : Device Uart.Link Bool
  | .send _, true => (.ready (), false)
  | .send _, false => (.pending, true)
  | .flush, asked => (.ready (), asked)
  | .receive, asked => (.failed ⟨"parity"⟩, asked)

theorem Uart.hesitant_neverJams (asked : Bool) : Uart.NeverJams Uart.hesitant asked where
  send earlier byte := by
    cases Uart.hesitant.after earlier asked with
    | true => exact .now nofun
    | false => exact .later rfl (.now nofun)
  flush _ := .now nofun

/-- A peripheral that receives zeros. -/
def Spi.quiet : Device Spi.Peripheral Unit
  | .setSelect _, state => (.ok (), state)
  | .exchange bytes, state => (.ok (bytes.map fun _ ↦ 0), state)

/-- A value of three bytes: the second is not acknowledged on the I2C bus, the echo of the first
cannot be received on the serial bus, and all are sent on the SPI bus. -/
theorem three_bytes_offered :
    (0x1f0a55 : Word).toNat < 2 ^ 21 ∧
      OfferedInTurn I2c.Offered [0x1f, 0x0a, 0x55] (.error (.notAcknowledged 0x0a))
        [.exchange (.writeByte 0x1f) (.ok true), .exchange (.writeByte 0x0a) (.ok false)] ∧
      OfferedInTurn (Uart.Offered .halfDuplex) [0x1f, 0x0a, 0x55]
        (.error (.receive ⟨"parity"⟩))
        [.exchange (.send 0x1f) .pending, .exchange (.send 0x1f) (.ready ()),
          .exchange .flush (.ready ()), .exchange .receive (.failed ⟨"parity"⟩)] ∧
      Spi.Exchanged [0x1f, 0x0a, 0x55] (.ok ())
        [.exchange (.exchange [0x1f, 0x0a, 0x55]) (.ok [0, 0, 0])] := by
  have hvalue : (0x1f0a55 : Word).toNat < 2 ^ 21 := by decide
  obtain ⟨bytes, hbytes, hi2c, huart, hspi⟩ := write_sends_bigEndian hvalue
  obtain rfl : [0x1f, 0x0a, 0x55] = bytes := (hbytes _).mp (by decide)
  refine ⟨hvalue, ?_, ?_, ?_⟩
  · obtain ⟨outcome, hrun, -, hoffered⟩ := hi2c I2c.acknowledgingOnce true true
    obtain rfl := Option.some.inj hrun
    exact hoffered
  · obtain ⟨outcome, ⟨enough, hrun⟩, -, hoffered⟩ :=
      huart .halfDuplex Uart.hesitant false true (Uart.hesitant_neverJams false)
    obtain rfl := Option.some.inj (hrun (enough + 2) (Nat.le_add_right ..))
    exact hoffered
  · obtain ⟨outcome, hrun, -, hexchanged⟩ := hspi .default Spi.quiet () true rfl
    obtain rfl := Option.some.inj hrun
    exact hexchanged

end BusProbe
