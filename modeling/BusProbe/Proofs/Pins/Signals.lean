/-!
# What an observer makes of two wires

An observer of a bus watches how its clock and its data wire are driven. A data wire that changes
while the clock is high is a condition, a start if it falls and a stop if it rises; every other
pulse of the clock carries one bit. `signals` makes them out from the levels that are driven, one
after another, and `Levels.after` is where the wires end up.

A start, a stop and a bit look the same on every bus of two wires (`startDrives`, `stopDrives`,
`bitDrives`), and each is understood as what it is from the right levels: a start and a bit if the
clock is low or, for a start, both wires are high; a stop if the clock is low. A stop from two high
wires begins with a start (`signals_stopDrives_of_high`).
-/

set_option autoImplicit false
set_option relaxedAutoImplicit false

namespace BusProbe

/-- The two wires that an observer of a bus watches. -/
inductive Wire
  | clock
  | data
  deriving DecidableEq, Repr

/-- A level to which one of the wires is driven. -/
abbrev Drive := Wire × Bool

/-- What an observer makes out. -/
inductive Signal
  /-- The data wire fell while the clock was high. -/
  | start
  /-- The data wire rose while the clock was high. -/
  | stop
  /-- The clock went up and down again, and the data wire kept its level meanwhile. -/
  | bit (level : Bool)
  deriving DecidableEq, Repr

/-- Whether the data wire changed while the clock was high. -/
def Signal.isCondition : Signal → Bool
  | .start | .stop => true
  | .bit _ => false

/-- The levels of the wires. -/
structure Levels where
  clock : Bool
  data : Bool
  /-- Whether the clock went up and the data wire has not changed since. -/
  steady : Bool
  deriving DecidableEq, Repr

namespace Levels

/-- The levels of a bus that has not been used. -/
def idle : Levels := ⟨true, true, false⟩

/-- Both wires are high. -/
def High (levels : Levels) : Prop := levels.clock = true ∧ levels.data = true

/-- The clock is low, so that the data wire may change. -/
def Low (levels : Levels) : Prop := levels.clock = false

/-- The wires are as a transaction that is open, or none, should leave them. -/
def Rests (isOpen : Bool) (levels : Levels) : Prop := if isOpen then levels.Low else levels.High

theorem high_idle : idle.High := ⟨rfl, rfl⟩

theorem Rests.low_or_high {isOpen : Bool} {levels : Levels} (hlevels : Rests isOpen levels) :
    levels.Low ∨ levels.High := by
  cases isOpen with
  | false => exact Or.inr hlevels
  | true => exact Or.inl hlevels

/-- The levels after a wire is driven. -/
def drive (levels : Levels) : Drive → Levels
  | (.clock, level) => if level = levels.clock then levels else ⟨level, levels.data, level⟩
  | (.data, level) => if level = levels.data then levels else ⟨levels.clock, level, false⟩

/-- What an observer makes out when a wire is driven. -/
def signal? (levels : Levels) : Drive → Option Signal
  | (.clock, level) =>
    if levels.clock && !level && levels.steady then some (.bit levels.data) else none
  | (.data, level) =>
    if levels.clock && level != levels.data then some (if level then .stop else .start) else none

/-- The levels after some drives. -/
def after (levels : Levels) (drives : List Drive) : Levels := drives.foldl drive levels

@[simp]
theorem after_nil (levels : Levels) : levels.after [] = levels := rfl

@[simp]
theorem after_cons (levels : Levels) (drive : Drive) (rest : List Drive) :
    levels.after (drive :: rest) = (levels.drive drive).after rest := rfl

theorem after_append (levels : Levels) (first second : List Drive) :
    levels.after (first ++ second) = (levels.after first).after second :=
  List.foldl_append

end Levels

/-- What an observer makes of some drives, in order. -/
def signals (levels : Levels) : List Drive → List Signal
  | [] => []
  | drive :: rest => (levels.signal? drive).toList ++ signals (levels.drive drive) rest

/-- The changes of the data wire while the clock is high, in order. -/
def conditions (levels : Levels) (drives : List Drive) : List Signal :=
  (signals levels drives).filter Signal.isCondition

/-- How often the clock goes up during some drives. -/
def pulses (levels : Levels) : List Drive → Nat
  | [] => 0
  | drive :: rest =>
    (if drive = (.clock, true) ∧ levels.clock = false then 1 else 0) +
      pulses (levels.drive drive) rest

theorem signals_append (levels : Levels) (first second : List Drive) :
    signals levels (first ++ second) =
      signals levels first ++ signals (levels.after first) second := by
  induction first generalizing levels with
  | nil => rfl
  | cons drive rest ih => simp [signals, ih]

theorem pulses_append (levels : Levels) (first second : List Drive) :
    pulses levels (first ++ second) = pulses levels first + pulses (levels.after first) second := by
  induction first generalizing levels with
  | nil => simp [pulses]
  | cons drive rest ih => simp [pulses, ih, Nat.add_assoc]

/-! ### Conditions and bits -/

/-- How a start is driven. -/
def startDrives : List Drive := [(.data, true), (.clock, true), (.data, false), (.clock, false)]

/-- How a stop is driven. -/
def stopDrives : List Drive := [(.data, false), (.clock, true), (.data, true)]

/-- How a pulse of the clock is driven. -/
def pulseDrives : List Drive := [(.clock, true), (.clock, false)]

/-- How a bit is driven. -/
def bitDrives (bit : Bool) : List Drive := (.data, bit) :: pulseDrives

variable {levels : Levels}

/-- From a low clock or two high wires, a start is one start and leaves the clock low. -/
theorem signals_startDrives (hlevels : levels.Low ∨ levels.High) :
    signals levels startDrives = [.start] ∧ (levels.after startDrives).Low := by
  obtain ⟨clock, data, steady⟩ := levels
  rcases hlevels with rfl | ⟨rfl, rfl⟩
  · cases data <;> exact ⟨rfl, rfl⟩
  · exact ⟨rfl, rfl⟩

/-- From a low clock, a stop is one stop and leaves both wires high. -/
theorem signals_stopDrives (hlevels : levels.Low) :
    signals levels stopDrives = [.stop] ∧ (levels.after stopDrives).High := by
  obtain ⟨clock, data, steady⟩ := levels
  obtain rfl : clock = false := hlevels
  cases data <;> exact ⟨rfl, rfl, rfl⟩

/-- From two high wires, a stop is a start and a stop. -/
theorem signals_stopDrives_of_high (hlevels : levels.High) :
    signals levels stopDrives = [.start, .stop] ∧ (levels.after stopDrives).High := by
  obtain ⟨clock, data, steady⟩ := levels
  obtain ⟨rfl, rfl⟩ : clock = true ∧ data = true := hlevels
  exact ⟨rfl, rfl, rfl⟩

/-- From a low clock, a pulse carries the level of the data wire and leaves the clock low. -/
theorem signals_pulseDrives (hlevels : levels.Low) :
    signals levels pulseDrives = [.bit levels.data] ∧ pulses levels pulseDrives = 1 ∧
      levels.after pulseDrives = ⟨false, levels.data, false⟩ := by
  obtain ⟨clock, data, steady⟩ := levels
  obtain rfl : clock = false := hlevels
  exact ⟨rfl, rfl, rfl⟩

/-- From a low clock, the data wire may change without a signal. -/
theorem signals_data (hlevels : levels.Low) (level : Bool) :
    signals levels [(.data, level)] = [] ∧ pulses levels [(.data, level)] = 0 ∧
      (levels.after [(.data, level)]).Low ∧ (levels.after [(.data, level)]).data = level := by
  obtain ⟨clock, data, steady⟩ := levels
  obtain rfl : clock = false := hlevels
  cases data <;> cases level <;> exact ⟨rfl, rfl, rfl, rfl⟩

/-- From a low clock, a bit is one bit and leaves the clock low. -/
theorem signals_bitDrives (hlevels : levels.Low) (bit : Bool) :
    signals levels (bitDrives bit) = [.bit bit] ∧ pulses levels (bitDrives bit) = 1 ∧
      (levels.after (bitDrives bit)).Low := by
  obtain ⟨hsignals, hpulses, hlow, hdata⟩ := signals_data hlevels bit
  obtain ⟨hbit, hpulse, hafter⟩ := signals_pulseDrives hlow
  change signals levels ([(.data, bit)] ++ pulseDrives) = _ ∧
    pulses levels ([(.data, bit)] ++ pulseDrives) = _ ∧
      (levels.after ([(.data, bit)] ++ pulseDrives)).Low
  rw [signals_append, pulses_append, Levels.after_append, hsignals, hpulses, hbit, hpulse, hafter,
    hdata]
  exact ⟨rfl, rfl, rfl⟩

/-- Some bits in a row. -/
theorem signals_flatMap_bitDrives (hlevels : levels.Low) (bits : List Bool) :
    signals levels (bits.flatMap bitDrives) = bits.map .bit ∧
      pulses levels (bits.flatMap bitDrives) = bits.length ∧
        (levels.after (bits.flatMap bitDrives)).Low := by
  induction bits generalizing levels with
  | nil => exact ⟨rfl, rfl, hlevels⟩
  | cons bit rest ih =>
    obtain ⟨hsignals, hpulses, hlow⟩ := signals_bitDrives hlevels bit
    obtain ⟨hrest, hmore, hend⟩ := ih hlow
    rw [List.flatMap_cons, signals_append, pulses_append, Levels.after_append, hsignals, hpulses,
      hrest, hmore]
    exact ⟨rfl, by rw [List.length_cons, Nat.add_comm], hend⟩

/-- Some pulses in a row, while the data wire is left alone. -/
theorem signals_flatten_pulseDrives (hlevels : levels.Low) (count : Nat) :
    signals levels (List.replicate count pulseDrives).flatten =
        List.replicate count (.bit levels.data) ∧
      pulses levels (List.replicate count pulseDrives).flatten = count ∧
        (levels.after (List.replicate count pulseDrives).flatten).Low := by
  induction count generalizing levels with
  | zero => exact ⟨rfl, rfl, hlevels⟩
  | succ count ih =>
    obtain ⟨hsignals, hpulses, hafter⟩ := signals_pulseDrives hlevels
    have hlow : (⟨false, levels.data, false⟩ : Levels).Low := rfl
    obtain ⟨hrest, hmore, hend⟩ := ih hlow
    rw [List.replicate_succ, List.flatten_cons, signals_append, pulses_append, Levels.after_append,
      hsignals, hpulses, hafter, hrest, hmore]
    exact ⟨rfl, Nat.add_comm 1 count, hend⟩

end BusProbe
