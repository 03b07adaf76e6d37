import BusProbe.Board.Desktop
import BusProbe.Line.Operations
import BusProbe.Proofs.Clocked.Framing
import BusProbe.Proofs.I2c.BitBang
import BusProbe.Proofs.Operation.Runs
import BusProbe.Station

/-!
# Redundant framing on the wires

A group in square brackets begins with a start and ends with a stop whatever the operator typed, so
a start may find a transaction open and a stop may find none. On a bus that frames transactions by
conditions on two wires, an observer then sees every start as one start. A stop that finds a
transaction open is one stop, but one that finds none pulls the data wire low while the clock is
high and so begins with a start of its own. `showsStarts_performed_add_redundantStops` counts them:
an observer sees as many starts as were performed exactly if no stop was redundant.

The count is followed through the script of a group by `Leads`, which says what a script makes of a
transaction that is open or not and how many starts are seen meanwhile; counts add up along the
script.
-/

set_option autoImplicit false
set_option relaxedAutoImplicit false

namespace BusProbe

open Probe Operation

/-! ### Buses framed by conditions -/

/-- A bus on two wires that drives a start, a stop and the bits of a write as an observer expects
them. -/
structure ConditionedBus (L σ : Type) where
  handler : Handler Bus (Pins L) σ
  wire? : L → Option Wire
  /-- The state of the bus while a transaction is open or not. -/
  state : Bool → σ
  start : ∀ isOpen, Shows wire? (handler .start (state isOpen)) fun answer drives _ ↦
    answer.2 = state true ∧ drives = startDrives
  stop : ∀ isOpen, Shows wire? (handler .stop (state isOpen)) fun answer drives _ ↦
    answer.2 = state false ∧ drives = stopDrives
  write : ∀ value width isOpen,
    Shows wire? (handler (.write value width) (state isOpen)) fun answer drives _ ↦
      answer.2 = state isOpen ∧ ∃ bits : List Bool, drives = bits.flatMap bitDrives
  released : ∀ isOpen, handler .released (state isOpen) = .done (!isOpen, state isOpen)

namespace I2c

/-- The bus over a controller on two pins, with no acknowledgement owed. -/
def conditioned (speed : Speed) : ConditionedBus BusLine (State × Unit) where
  handler := onPins speed
  wire? := wire?
  state isOpen := (⟨isOpen, false⟩, ())
  start isOpen := shows_start.mono fun answer drives samples hafter ↦ by
    obtain ⟨hstate, hdrives, -⟩ := hafter.of_not_owed
    exact ⟨Prod.ext hstate rfl, hdrives⟩
  stop isOpen := shows_stop.mono fun answer drives samples hafter ↦ by
    obtain ⟨hstate, hdrives, -⟩ := hafter.of_not_owed
    exact ⟨Prod.ext hstate rfl, hdrives⟩
  write value width isOpen := (shows_write value width).mono fun answer drives samples hafter ↦ by
    obtain ⟨hstate, hsends⟩ := hafter.of_not_owed
    exact ⟨Prod.ext hstate rfl, hsends.exists_bits⟩
  released _ := rfl

end I2c

/-- The clocked bus with two wires. -/
def Clocked.conditioned (config : Config) (hframing : config.framing = .conditions) :
    ConditionedBus WireLine Bool where
  handler := handler config
  wire? := wire?
  state := id
  start isOpen := shows_start isOpen hframing
  stop isOpen := shows_stop isOpen hframing
  write value width isOpen := (shows_write isOpen value width).mono
    fun _ _ _ hwritten ↦ ⟨hwritten.1, _, hwritten.2⟩
  released _ := rfl

/-! ### Counting -/

namespace Operation

/-- How many starts an operation performs. -/
def starts (op : Operation) : Nat := if op.kind = .start then op.count else 0

/-- How many of the stops that an operation performs find no transaction open. -/
def redundantStops (isOpen : Bool) (op : Operation) : Nat :=
  if op.kind = .stop then op.count - isOpen.toNat else 0

theorem starts_add_redundantStops {op : Operation} (hkind : op.kind = .stop) (isOpen : Bool) :
    op.starts + op.redundantStops isOpen = op.count - isOpen.toNat := by
  simp [starts, redundantStops, hkind]

/-- How many starts a sequence performs. -/
def startsPerformed : List Operation → Nat
  | [] => 0
  | op :: rest => op.starts + startsPerformed rest

/-- How many of the stops that a sequence performs find no transaction open. -/
def redundantStopsPerformed : Bool → List Operation → Nat
  | _, [] => 0
  | isOpen, op :: rest =>
    op.redundantStops isOpen + redundantStopsPerformed (openAfter isOpen op) rest

/-- A start, a stop or a write. -/
def IsFramingOrWrite (op : Operation) : Prop :=
  op.kind = .start ∨ op.kind = .stop ∨ op.kind = .write

/-- The writes of a sequence stand where a transaction is open. -/
def WritesWithin : Bool → List Operation → Prop
  | _, [] => True
  | isOpen, op :: rest =>
    (op.kind = .write → isOpen = true) ∧ WritesWithin (openAfter isOpen op) rest

instance decidableWritesWithin : (isOpen : Bool) → (ops : List Operation) →
    Decidable (WritesWithin isOpen ops)
  | _, [] => inferInstanceAs (Decidable True)
  | isOpen, op :: rest =>
    haveI := decidableWritesWithin (openAfter isOpen op) rest
    inferInstanceAs (Decidable ((op.kind = .write → isOpen = true) ∧
      WritesWithin (openAfter isOpen op) rest))

end Operation

/-! ### Starts that are seen -/

/-- How the wires of a bus are driven during some events on it and on a board beside it. -/
def drivenBeside {L : Type} {K : Interface} (wire? : L → Option Wire)
    (events : List (Event ((Pins L).beside K))) : List Drive :=
  driven wire? (events.filterMap Event.left?)

section Leads

variable {L σ τ α β : Type} {K : Interface} {bus : ConditionedBus L σ} {board : Handler Board K τ}

/-- From wires that rest as a transaction that is open or not leaves them, a script that asks the
bus, and not the board, leads to one being open or not. An observer sees some number of starts
meanwhile. -/
def Leads (bus : ConditionedBus L σ) (board : Handler Board K τ) (script : Script Probe α)
    (before : Bool) (starts : Nat) (after : Bool) : Prop :=
  ∀ (other : τ) (levels : Levels), levels.Rests before →
    (script.handle (bus.handler.beside board) (bus.state before, other)).Ensures
      (PinRequest.Succeeds.leftOf K) fun answer events ↦
        answer.2 = (bus.state after, other) ∧
          (signals levels (drivenBeside bus.wire? events)).count .start = starts ∧
          (levels.after (drivenBeside bus.wire? events)).Rests after

variable {before between after : Bool} {starts more : Nat}

theorem leads_done (value : α) : Leads bus board (.done value) before 0 before :=
  fun _ _ hlevels ↦ ⟨rfl, rfl, hlevels⟩

theorem Leads.note {script : Script Probe α} (hscript : Leads bus board script before starts after)
    (notice : Notice) : Leads bus board (.note notice script) before starts after :=
  hscript

/-- The starts of two scripts one after the other add up, since the second finds the wires where the
first leaves them. -/
theorem Leads.bind {script : Script Probe α} {next : α → Script Probe β}
    (hscript : Leads bus board script before starts between)
    (hnext : ∀ value, Leads bus board (next value) between more after) :
    Leads bus board (script >>= next) before (starts + more) after := by
  intro other levels hlevels
  rw [Script.handle_bind]
  refine (hscript other levels hlevels).bind ?_
  rintro ⟨value, state⟩ events ⟨hstate, hcount, hrests⟩
  obtain rfl : state = (bus.state between, other) := hstate
  refine (hnext value other _ hrests).mono ?_
  rintro answer later ⟨hanswer, hlater, hend⟩
  have hdriven : drivenBeside bus.wire? (events ++ later) =
      drivenBeside bus.wire? events ++ drivenBeside bus.wire? later := by
    rw [drivenBeside, List.filterMap_append, driven_append]
    rfl
  rw [hdriven, signals_append, List.count_append, hcount, hlater, Levels.after_append]
  exact ⟨hanswer, rfl, hend⟩

/-- A request to the bus leads where its drives do. -/
theorem leads_onBus {request : BusRequest}
    (hrequest : Shows bus.wire? (bus.handler request (bus.state before)) fun answer drives _ ↦
      answer.2 = bus.state after ∧ ∀ levels : Levels, levels.Rests before →
        (signals levels drives).count .start = starts ∧ (levels.after drives).Rests after) :
    Leads bus board (onBus request) before starts after := by
  intro other levels hlevels
  rw [handle_onBus]
  refine hrequest.onLeft.bind ?_
  rintro answer _ ⟨inner, rfl, hstate, hdrives⟩
  have hdriven : drivenBeside bus.wire? (inner.map (Event.onLeft (J := K)) ++ []) =
      driven bus.wire? inner := by
    rw [List.append_nil, drivenBeside, Event.filterMap_left?_map_onLeft]
  obtain ⟨hcount, hrests⟩ := hdrives levels hlevels
  refine ⟨Prod.ext hstate rfl, ?_, ?_⟩
  · rwa [hdriven]
  · rwa [hdriven]

theorem leads_start : Leads bus board (onBus .start) before 1 true := by
  refine leads_onBus ((bus.start before).mono ?_)
  rintro answer _ _ ⟨hstate, rfl⟩
  refine ⟨hstate, fun levels hlevels ↦ ?_⟩
  obtain ⟨hsignals, hlow⟩ := signals_startDrives hlevels.low_or_high
  exact ⟨by rw [hsignals]; rfl, hlow⟩

/-- A stop that finds no transaction open is seen to begin with a start: both wires are high, so the
data wire falls under a high clock before it rises again. -/
theorem leads_stop : Leads bus board (onBus .stop) before (!before).toNat false := by
  refine leads_onBus ((bus.stop before).mono ?_)
  rintro answer _ _ ⟨hstate, rfl⟩
  refine ⟨hstate, fun levels hlevels ↦ ?_⟩
  cases before with
  | false =>
    obtain ⟨hsignals, hhigh⟩ := signals_stopDrives_of_high hlevels
    exact ⟨by rw [hsignals]; rfl, hhigh⟩
  | true =>
    obtain ⟨hsignals, hhigh⟩ := signals_stopDrives hlevels
    exact ⟨by rw [hsignals]; rfl, hhigh⟩

theorem leads_write (value : Word) (width : Nat) :
    Leads bus board (onBus (.write value width)) true 0 true := by
  refine leads_onBus ((bus.write value width true).mono ?_)
  rintro answer _ _ ⟨hstate, bits, rfl⟩
  refine ⟨hstate, fun levels hlevels ↦ ?_⟩
  obtain ⟨hsignals, -, hlow⟩ := signals_flatMap_bitDrives hlevels bits
  refine ⟨?_, hlow⟩
  rw [hsignals, List.count_eq_zero]
  intro hmem
  obtain ⟨bit, -, hbit⟩ := List.mem_map.mp hmem
  cases hbit

/-! ### Operations -/

theorem Leads.attempt {notice : BusFailure → Notice}
    {script : Script Probe (Except BusFailure Unit)}
    (hscript : Leads bus board script before starts after) :
    Leads bus board (attempt notice script) before starts after := by
  rw [← Nat.add_zero starts]
  refine hscript.bind fun reply ↦ ?_
  cases reply with
  | ok value => exact leads_done ()
  | error failure => exact (leads_done ()).note _

theorem Leads.quietly {script : Script Probe Unit}
    (hscript : Leads bus board script before starts after) :
    Leads bus board (quietly script) before starts after := by
  rw [← Nat.add_zero starts]
  exact hscript.bind fun _ ↦ leads_done ""

/-- What is done at least once leads first to `after` and then, each time, from there to there. -/
theorem Leads.times {script : Script Probe Unit}
    (hfirst : Leads bus board script before starts after)
    (hagain : Leads bus board script after more after) (count : Nat) :
    Leads bus board (Script.times (count + 1) script) before (starts + count * more) after := by
  induction count generalizing before starts with
  | zero =>
    rw [Nat.zero_mul]
    exact hfirst.bind fun _ ↦ leads_done ()
  | succ count ih =>
    rw [Nat.succ_mul, Nat.add_comm (count * more)]
    exact hfirst.bind fun _ ↦ ih hagain

theorem leads_starts (count : Nat) :
    Leads bus board (Script.times count (attempt .startFailed (onBus .start))) before count
      (before || count != 0) := by
  cases count with
  | zero =>
    have hafter : (before || 0 != 0) = before := Bool.or_false before
    rw [hafter]
    exact leads_done ()
  | succ count =>
    have hafter : (before || count + 1 != 0) = true := by simp
    have hcount : 1 + count * 1 = count + 1 := by omega
    have hfirst : Leads bus board (attempt .startFailed (onBus .start)) before 1 true :=
      leads_start.attempt
    have hleads := hfirst.times leads_start.attempt count
    rw [hcount] at hleads
    rwa [hafter]

/-- Of some stops in a row all but the first find no transaction open. -/
theorem leads_stops (count : Nat) :
    Leads bus board (Script.times count (attempt .stopFailed (onBus .stop))) before
      (count - before.toNat) (before && count == 0) := by
  cases count with
  | zero =>
    have hafter : (before && 0 == 0) = before := Bool.and_true before
    rw [hafter, Nat.zero_sub]
    exact leads_done ()
  | succ count =>
    have hafter : (before && count + 1 == 0) = false := by simp
    have hcount : (!before).toNat + count * (!false).toNat = count + 1 - before.toNat := by
      cases before with
      | false => simp only [Bool.not_false, Bool.toNat_true, Bool.toNat_false]; omega
      | true => simp only [Bool.not_true, Bool.not_false, Bool.toNat_true, Bool.toNat_false]; omega
    rw [hafter, ← hcount]
    exact leads_stop.attempt.times leads_stop.attempt count

theorem leads_writes (notice : BusFailure → Notice) (value : Word) (width count : Nat) :
    Leads bus board (Script.times count (attempt notice (onBus (.write value width)))) true 0
      true := by
  have hwrite : Leads bus board (attempt notice (onBus (.write value width))) true 0 true :=
    (leads_write value width).attempt
  cases count with
  | zero => exact leads_done ()
  | succ count => simpa using hwrite.times hwrite count

/-- An operation leads on as the flag says, and the starts that are seen are those it performs and
its redundant stops. -/
theorem leads_perform {limits : Limits} {op : Operation} (hop : op.IsFramingOrWrite)
    (hwrite : op.kind = .write → before = true) :
    Leads bus board (perform limits op) before (op.starts + op.redundantStops before)
      (openAfter before op) := by
  obtain ⟨kind, data, width, count, widthGiven, countGiven⟩ := op
  obtain rfl | rfl | rfl : kind = .start ∨ kind = .stop ∨ kind = .write := hop
  · exact (leads_starts count).quietly
  · rw [starts_add_redundantStops rfl]
    exact (leads_stops count).quietly
  · obtain rfl := hwrite rfl
    exact (leads_writes _ _ width count).quietly

theorem leads_performAll {limits : Limits} {ops : List Operation}
    (hops : ∀ op ∈ ops, op.IsFramingOrWrite) (hwrites : WritesWithin before ops) :
    Leads bus board (performAll limits ops) before
      (startsPerformed ops + redundantStopsPerformed before ops) (ops.foldl openAfter before) := by
  induction ops generalizing before with
  | nil => exact leads_done ""
  | cons op rest ih =>
    obtain ⟨hwrite, hrest⟩ := hwrites
    have hop : Leads bus board (perform limits op) before (op.starts + op.redundantStops before)
        (openAfter before op) :=
      leads_perform (hops op List.mem_cons_self) hwrite
    have hmore := ih (fun other hmem ↦ hops other (List.mem_cons_of_mem op hmem)) hrest
    have hcount : startsPerformed (op :: rest) + redundantStopsPerformed before (op :: rest) =
        op.starts + op.redundantStops before +
          (startsPerformed rest + redundantStopsPerformed (openAfter before op) rest + 0) := by
      simp only [startsPerformed, redundantStopsPerformed]
      omega
    rw [hcount]
    exact hop.bind fun _ ↦ hmore.bind fun _ ↦ leads_done _

/-- The bus is released if no transaction is open, so that nothing has to be closed. -/
theorem leads_closeIfOpen : Leads bus board (closeIfOpen false) false 0 false := by
  intro other levels hlevels
  rw [closeIfOpen, Script.handle_bind, handle_onBus, Handler.beside, bus.released]
  exact ⟨rfl, rfl, hlevels⟩

theorem leads_execute {limits : Limits} {ops : List Operation}
    (hops : ∀ op ∈ ops, op.IsFramingOrWrite) (hwrites : WritesWithin before ops)
    (hclosed : ops.foldl openAfter before = false) :
    Leads bus board (execute limits ops before) before
      (startsPerformed ops + redundantStopsPerformed before ops) false := by
  have hall : Leads bus board (performAll limits ops) before
      (startsPerformed ops + redundantStopsPerformed before ops) (ops.foldl openAfter before) :=
    leads_performAll hops hwrites
  rw [hclosed] at hall
  rw [execute, hclosed, ← Nat.add_zero (startsPerformed ops + _)]
  exact hall.bind fun _ ↦ leads_closeIfOpen.bind fun _ ↦ leads_done _

end Leads

/-! ### Groups -/

/-- A symbol for a start or a stop, alone, in a run or counted, or a number. -/
def Token.IsFramingOrNumber : Token → Prop
  | .number .. => True
  | .counted symbol _ | .run symbol _ => symbol = .start ∨ symbol = .stop
  | .single c => c = 's' ∨ c = 'S'
  | .character _ | .literal _ | .unrecognized => False

instance : DecidablePred Token.IsFramingOrNumber
  | .number .. => inferInstanceAs (Decidable True)
  | .counted symbol _ | .run symbol _ =>
    inferInstanceAs (Decidable (symbol = .start ∨ symbol = .stop))
  | .single c => inferInstanceAs (Decidable (c = 's' ∨ c = 'S'))
  | .character _ | .literal _ | .unrecognized => inferInstanceAs (Decidable False)

theorem Token.IsFramingOrNumber.operations {token : Token} (htoken : token.IsFramingOrNumber) :
    ∀ op ∈ token.operations, op.IsFramingOrWrite := by
  intro op hmem
  cases token with
  | number radix value suffixes =>
    obtain rfl := List.mem_singleton.mp hmem
    obtain ⟨count, width⟩ := suffixes
    cases count <;> cases width <;> exact Or.inr (Or.inr rfl)
  | counted _ _ | run _ _ | single _ =>
    obtain rfl := List.mem_singleton.mp hmem
    rcases htoken with rfl | rfl
    · exact Or.inl rfl
    · exact Or.inr (Or.inl rfl)
  | character _ | literal _ | unrecognized => exact htoken.elim

theorem Group.isFramingOrWrite_of_mem_operations {group : Group}
    (hopener : group.opener = .bracket)
    (htokens : ∀ token ∈ group.tokens, (Token.classify token).IsFramingOrNumber) :
    ∀ op ∈ group.operations, op.IsFramingOrWrite := by
  intro op hmem
  rw [Group.operations, hopener] at hmem
  rcases List.mem_cons.mp hmem with rfl | hmem
  · exact Or.inl rfl
  · rcases List.mem_append.mp hmem with hmem | hmem
    · obtain ⟨token, htoken, hop⟩ := List.mem_flatMap.mp hmem
      exact (htokens token htoken).operations op hop
    · obtain rfl := List.mem_singleton.mp hmem
      exact Or.inr (Or.inl rfl)

/-- The stop that ends a group in square brackets closes its transaction. -/
theorem Group.foldl_openAfter {group : Group} (hopener : group.opener = .bracket) (isOpen : Bool) :
    group.operations.foldl openAfter isOpen = false := by
  rw [Group.operations, hopener]
  simp [openAfter, Operation.ofKind]

/-- With pins that do not fail, a station that has not been used carries out a sequence, and an
observer of its wires, which are high at first, sees some number of starts. -/
def Station.ShowsStarts {L σ τ : Type} {K : Interface} (fixture : Fixture (Pins L) K σ τ)
    (wire? : L → Option Wire) (bus : σ) (ops : List Operation) (starts : Nat) : Prop :=
  ∀ (δ : Type) (device : Device ((Pins L).beside K) δ) (board : τ) (hardware : δ),
    device.left.Answers PinRequest.Succeeds →
      ∃ outcome, ((Station.fresh bus board).execute fixture ops).run device hardware =
          some outcome ∧
        (signals .idle (drivenBeside wire? outcome.events)).count .start = starts

theorem ConditionedBus.showsStarts {L σ τ : Type} {K : Interface} (bus : ConditionedBus L σ)
    (board : Handler Board K τ) (limits : Limits) {ops : List Operation} {starts : Nat}
    (hops : Leads bus board (execute limits ops false) false starts false) :
    Station.ShowsStarts ⟨bus.handler, board, limits⟩ bus.wire? (bus.state false) ops starts := by
  intro δ device other hardware hdevice
  have hexecute : ((Station.fresh (bus.state false) other).execute
      ⟨bus.handler, board, limits⟩ ops).Ensures (PinRequest.Succeeds.leftOf K) fun _ events ↦
        (signals .idle (drivenBeside bus.wire? events)).count .start = starts := by
    refine (hops other .idle Levels.high_idle).bind ?_
    rintro ⟨⟨text, isOpen⟩, state, after⟩ events ⟨-, hstarts, -⟩
    refine Script.ensures_done.mpr ?_
    rwa [List.append_nil]
  exact hexecute.run (Device.Answers.of_left hdevice) hardware

/-- Of a group in square brackets of starts, stops and numbers, with the numbers where a transaction
is open, an observer sees on either bus the starts that are performed and another one for each stop
that finds no transaction open. The starts seen are those performed exactly if there is no such
stop. -/
theorem showsStarts_performed_add_redundantStops {group : Group} (hopener : group.opener = .bracket)
    (htokens : ∀ token ∈ group.tokens, (Token.classify token).IsFramingOrNumber)
    (hwrites : WritesWithin false group.operations) {K : Interface} {τ : Type}
    (board : Handler Board K τ) (limits : Limits) (speed : I2c.Speed) (config : Clocked.Config)
    (hframing : config.framing = .conditions) :
    Station.ShowsStarts ⟨I2c.onPins speed, board, limits⟩ I2c.wire? (I2c.State.idle, ())
        group.operations
        (startsPerformed group.operations + redundantStopsPerformed false group.operations) ∧
      Station.ShowsStarts ⟨Clocked.handler config, board, limits⟩ Clocked.wire? false
        group.operations
        (startsPerformed group.operations + redundantStopsPerformed false group.operations) := by
  have hops := group.isFramingOrWrite_of_mem_operations hopener htokens
  have hclosed := group.foldl_openAfter hopener false
  constructor
  · exact (I2c.conditioned speed).showsStarts board limits (leads_execute hops hwrites hclosed)
  · exact (Clocked.conditioned config hframing).showsStarts board limits
      (leads_execute hops hwrites hclosed)

/-- A group of two transactions and two stops too many: one that is typed, and the one that ends the
group. -/
def overstopped : Group :=
  ⟨.bracket, "[0xa0 S s:2 1.16 S S]", ["0xa0", "S", "s:2", "1.16", "S", "S"]⟩

/-- Pins with listed samples beside a clock. -/
def listedBesideClock {L : Type} :
    Device ((Pins L).beside DesktopBoard.Clock) (List Bool × Nat)
  | .inl request, (levels, time) => ((listed request levels).1, (listed request levels).2, time)
  | .inr .now, (levels, time) => (time, levels, time)
  | .inr (.sleep micros), (levels, time) => ((), levels, time + micros)

theorem listedBesideClock_succeeds {L : Type} :
    (listedBesideClock (L := L)).left.Answers PinRequest.Succeeds :=
  fun request state ↦ listed_succeeds request state.1

/-- Three starts are performed and five are seen. -/
theorem overstopped_shows_five_starts :
    startsPerformed overstopped.operations = 3 ∧
      (∃ outcome, ((Station.fresh (I2c.State.idle, ()) none).execute
            ⟨I2c.onPins .kHz100, DesktopBoard.handler, ⟨2000, 1⟩⟩ overstopped.operations).run
            listedBesideClock ([], 0) = some outcome ∧
        (signals .idle (drivenBeside I2c.wire? outcome.events)).count .start = 5) ∧
      ∃ outcome, ((Station.fresh false none).execute
            ⟨Clocked.handler .twoWire, DesktopBoard.handler, ⟨2000, 1⟩⟩ overstopped.operations).run
            listedBesideClock ([], 0) = some outcome ∧
        (signals .idle (drivenBeside Clocked.wire? outcome.events)).count .start = 5 := by
  have hstarts : startsPerformed overstopped.operations = 3 := by decide +kernel
  have hstops : redundantStopsPerformed false overstopped.operations = 2 := by decide +kernel
  have htokens : ∀ token ∈ overstopped.tokens, (Token.classify token).IsFramingOrNumber := by
    decide +kernel
  have hwrites : WritesWithin false overstopped.operations := by decide +kernel
  obtain ⟨hi2c, hclocked⟩ := showsStarts_performed_add_redundantStops rfl htokens hwrites
    DesktopBoard.handler ⟨2000, 1⟩ .kHz100 .twoWire rfl
  rw [hstarts, hstops] at hi2c hclocked
  exact ⟨hstarts, hi2c _ _ none ([], 0) listedBesideClock_succeeds,
    hclocked _ _ none ([], 0) listedBesideClock_succeeds⟩

end BusProbe
