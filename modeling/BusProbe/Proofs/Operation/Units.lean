import BusProbe.Proofs.Operation.Courses
import BusProbe.Proofs.Text.Numerals

/-!
# The text of the units that were read

The text of a sequence can be taken apart again. Split at its blanks it has one token for each unit
that the bus gave, in order and nothing else, and the token is the number of digits that the width
of the read needs, which denote the low bits of the unit (`execute_run_spells`). Each read has as
many units as its count says, unless it gives up at its first failure or when its time is over; an
operation of any other kind has no text.
-/

set_option autoImplicit false
set_option relaxedAutoImplicit false

namespace BusProbe

/-- The units of data that the bus gave during some events, each with the width that was asked
for. -/
def units (events : List (Event Probe)) : List (Nat × Word) :=
  events.filterMap fun
    | .exchange (.inl (.read width)) (.ready value) => some (width, value)
    | _ => none

theorem units_append (first second : List (Event Probe)) :
    units (first ++ second) = units first ++ units second :=
  List.filterMap_append

/-- A unit was asked for. -/
theorem read_mem_of_mem_units {events : List (Event Probe)} {unit : Nat × Word}
    (hmem : unit ∈ units events) : .read unit.1 ∈ busRequests events := by
  obtain ⟨event, hevent, hunit⟩ := List.mem_filterMap.mp hmem
  refine List.mem_filterMap.mpr ⟨event, hevent, ?_⟩
  split at hunit
  · obtain rfl := Option.some.inj hunit
    rfl
  · exact absurd hunit nofun

/-- Whether an event makes a read give up: a poll that failed or a time that is over. -/
def Event.givesUp : Event Probe → Bool
  | .exchange (.inl (.read _)) (.failed _) => true
  | .exchange (.inr .timedOut) true => true
  | _ => false

/-- Something gave up at its first occasion, and did nothing more than to record it. -/
def EndsGivingUp (events : List (Event Probe)) : Prop :=
  ∃ before event notice, events = before ++ [event, .note notice] ∧ event.givesUp = true ∧
    ∀ earlier ∈ before, earlier.givesUp = false

theorem EndsGivingUp.append_left {first later : List (Event Probe)}
    (hfirst : ∀ event ∈ first, event.givesUp = false) (hlater : EndsGivingUp later) :
    EndsGivingUp (first ++ later) := by
  obtain ⟨before, event, notice, rfl, hevent, hbefore⟩ := hlater
  refine ⟨first ++ before, event, notice, (List.append_assoc ..).symm, hevent, ?_⟩
  intro earlier hmem
  rcases List.mem_append.mp hmem with hmem | hmem
  · exact hfirst earlier hmem
  · exact hbefore earlier hmem

namespace Operation

open Script Probe

/-! ### Tokens -/

/-- A token consists of the digits that the width of a unit needs, in upper case, and they denote
the low bits of the unit. -/
def IsToken (unit : Nat × Word) (token : String) : Prop :=
  token.length = (unit.1 + 3) / 4 ∧
    Text.Denotes Text.IsUpperDigit 16 token.toList (unit.2.toNat % 2 ^ unit.1)

/-- A text is nothing but the tokens of some units, in order, with a blank after each. -/
def Spells (text : String) (units : List (Nat × Word)) : Prop :=
  ∃ tokens : List String, (text.split ' ').toList.map String.Slice.copy = tokens ++ [""] ∧
    List.Forall₂ IsToken units tokens

/-- The token of a unit. -/
def token (unit : Nat × Word) : String :=
  String.ofList (Text.fixed 16 ((unit.1 + 3) / 4) (unit.2.low unit.1).toNat)

theorem isToken_token (unit : Nat × Word) : IsToken unit (token unit) := by
  refine ⟨by rw [token, String.length_ofList, Text.length_fixed], ?_⟩
  rw [token, String.toList_ofList, Word.toNat_low]
  refine Text.denotes_fixed (Nat.lt_of_lt_of_le (Nat.mod_lt _ (Nat.two_pow_pos unit.1)) ?_)
  calc 2 ^ unit.1 ≤ 2 ^ (4 * ((unit.1 + 3) / 4)) := Nat.pow_le_pow_right Nat.two_pos (by omega)
    _ = 16 ^ ((unit.1 + 3) / 4) := Nat.pow_mul 2 4 _

theorem IsToken.blank_notMem {unit : Nat × Word} {token : String} (htoken : IsToken unit token) :
    ' ' ∉ token.toList := by
  intro hmem
  obtain ⟨digit, -, hdigit⟩ := htoken.2.exists_isDigit ' ' hmem
  exact absurd (List.mem_of_getElem? hdigit) (by decide)

/-- The text of some units. -/
def textOf (units : List (Nat × Word)) : String :=
  String.join (units.map fun unit ↦ token unit ++ " ")

theorem textOf_nil : textOf [] = "" := by
  rw [textOf, List.map_nil, String.join_nil]

theorem textOf_singleton (unit : Nat × Word) : textOf [unit] = unitText unit.2 unit.1 := by
  simp [textOf, token, unitText]

theorem textOf_append (first second : List (Nat × Word)) :
    textOf (first ++ second) = textOf first ++ textOf second := by
  rw [textOf, List.map_append, String.join_append]
  rfl

theorem unitsText_eq (width : Nat) (values : List Word) :
    unitsText width values = textOf (values.map (width, ·)) := by
  rw [textOf, List.map_map]
  rfl

/-- The blanks of a text are those after its tokens. -/
theorem splitOn_textOf (units : List (Nat × Word)) :
    (textOf units).toList.splitOn ' ' = units.map (fun unit ↦ (token unit).toList) ++ [[]] := by
  induction units with
  | nil => rfl
  | cons unit units ih =>
    have hcons : (textOf (unit :: units)).toList =
        (token unit).toList ++ ' ' :: (textOf units).toList := by
      simp [textOf]
    rw [hcons, List.splitOn_append_cons_self_of_not_mem (isToken_token unit).blank_notMem, ih]
    rfl

theorem spells_textOf (units : List (Nat × Word)) : Spells (textOf units) units := by
  refine ⟨units.map token, ?_, ?_⟩
  · rw [String.toList_split_char, splitOn_textOf, List.map_append, List.map_map]
    simp
  · rw [List.forall₂_map_right_iff, List.forall₂_same]
    exact fun unit _ ↦ isToken_token unit

/-! ### Reads -/

variable {limits : Limits} {op : Operation}

/-- A read has its units with its own width, as many of them as its count says unless it gives
up. -/
structure ReadsUnits (op : Operation) (events : List (Event Probe)) : Prop where
  width : ∀ unit ∈ units events, unit.1 = op.width
  count : (∀ event ∈ events, event.givesUp = false) ∧ (units events).length = op.count ∨
    EndsGivingUp events ∧ (units events).length < op.count

theorem Polled.units_eq {width : Nat} {unit? : Option Word} {events : List (Event Probe)}
    (hpolled : Polled limits width unit? events) :
    units events = unit?.toList.map (width, ·) := by
  induction hpolled with
  | ready value => rfl
  | failed failure => rfl
  | expired => rfl
  | again _ ih => exact ih

/-- Polling gives up if no unit comes, and otherwise it does not. -/
theorem Polled.givesUp {width : Nat} {unit? : Option Word} {events : List (Event Probe)}
    (hpolled : Polled limits width unit? events) :
    (unit? ≠ none → ∀ event ∈ events, event.givesUp = false) ∧
      (unit? = none → EndsGivingUp events) := by
  induction hpolled with
  | ready value => simp [Event.givesUp]
  | failed failure => exact ⟨fun hsome ↦ absurd rfl hsome, fun _ ↦
      ⟨[], _, _, rfl, by simp [Event.givesUp], List.forall_mem_nil _⟩⟩
  | expired => exact ⟨fun hsome ↦ absurd rfl hsome, fun _ ↦
      ⟨[_], _, _, rfl, by simp [Event.givesUp], by simp [Event.givesUp]⟩⟩
  | again _ ih =>
    have hpending : ∀ event ∈ [Event.exchange (I := Probe) (.inl (.read width)) .pending,
        .exchange (.inr .timedOut) false], event.givesUp = false := by
      simp [Event.givesUp]
    exact ⟨fun hsome ↦ List.forall_mem_append.mpr ⟨hpending, ih.1 hsome⟩,
      fun hnone ↦ .append_left hpending (ih.2 hnone)⟩

/-- Reading gives up or has as many units as it should have. -/
theorem Collected.count {width count : Nat} {values : List Word} {events : List (Event Probe)}
    (hcollected : Collected limits width count values events) :
    units events = values.map (width, ·) ∧
      ((∀ event ∈ events, event.givesUp = false) ∧ values.length = count ∨
        EndsGivingUp events ∧ values.length < count) := by
  induction hcollected with
  | enough => exact ⟨rfl, Or.inl ⟨List.forall_mem_nil _, rfl⟩⟩
  | givenUp hevents =>
    exact ⟨hevents.units_eq, Or.inr ⟨hevents.givesUp.2 rfl, Nat.succ_pos _⟩⟩
  | @unit count value values first later hfirst hlater ih =>
    obtain ⟨hunits, hcount⟩ := ih
    have hgoesOn := hfirst.givesUp.1 (Option.some_ne_none value)
    refine ⟨by rw [units_append, hfirst.units_eq, hunits]; rfl, ?_⟩
    rcases hcount with ⟨hnone, hlength⟩ | ⟨hgivesUp, hlength⟩
    · exact Or.inl ⟨List.forall_mem_append.mpr ⟨hgoesOn, hnone⟩, congrArg Nat.succ hlength⟩
    · exact Or.inr ⟨hgivesUp.append_left hgoesOn, Nat.succ_lt_succ hlength⟩

/-- What an operation adds to the text of a sequence during its own events: a read the tokens of its
units, and any other operation nothing. -/
structure Contributes (limits : Limits) (op : Operation) (text : String)
    (events : List (Event Probe)) : Prop where
  course : (perform limits op).Ends text events
  spells : Spells text (units events)
  read : op.kind = .read → ReadsUnits op events
  other : op.kind ≠ .read → text = "" ∧ units events = []

theorem perform_read_units (hread : op.kind = .read) {text : String}
    {events : List (Event Probe)} (hends : (perform limits op).Ends text events) :
    text = textOf (units events) ∧ ReadsUnits op events := by
  obtain ⟨values, later, hcollected, rfl, rfl⟩ := perform_read_ends hread hends
  obtain ⟨hunits, hcount⟩ := hcollected.count
  have hall : units (.exchange (.inr (.startTimer limits.readMillis)) () :: later) =
      values.map (op.width, ·) := hunits
  rw [hall]
  refine ⟨unitsText_eq op.width values, ?_, ?_⟩
  · rw [hall]
    intro unit hmem
    obtain ⟨value, -, rfl⟩ := List.mem_map.mp hmem
    rfl
  · rw [hall, List.length_map]
    rcases hcount with ⟨hnone, hlength⟩ | ⟨hgivesUp, hlength⟩
    · exact Or.inl ⟨List.forall_mem_cons.mpr ⟨rfl, hnone⟩, hlength⟩
    · have htimer : ∀ event ∈ [Event.exchange (I := Probe) (.inr (.startTimer limits.readMillis))
          ()], event.givesUp = false := List.forall_mem_singleton.mpr rfl
      exact Or.inr ⟨hgivesUp.append_left htimer, hlength⟩

/-- An operation that is not a read asks for no unit. -/
theorem perform_units_eq_nil (hread : op.kind ≠ .read) {text : String}
    {events : List (Event Probe)} (hends : (perform limits op).Ends text events) :
    units events = [] := by
  refine List.eq_nil_iff_forall_not_mem.mpr fun unit hmem ↦ ?_
  have hasked := read_mem_of_mem_units hmem
  rw [(perform_ends hread hends).2] at hasked
  exact read_notMem_requests hread unit.1 hasked

theorem perform_contributes {text : String} {events : List (Event Probe)}
    (hends : (perform limits op).Ends text events) :
    text = textOf (units events) ∧ Contributes limits op text events := by
  by_cases hread : op.kind = .read
  · obtain ⟨htext, hunits⟩ := perform_read_units hread hends
    refine ⟨htext, hends, ?_, fun _ ↦ hunits, fun hnot ↦ absurd hread hnot⟩
    rw [htext]
    exact spells_textOf (units events)
  · have hunits := perform_units_eq_nil hread hends
    obtain ⟨rfl, -⟩ := perform_ends hread hends
    rw [hunits, textOf_nil]
    refine ⟨rfl, hends, ?_, fun hkind ↦ absurd hkind hread, fun _ ↦ ⟨rfl, hunits⟩⟩
    rw [hunits, ← textOf_nil]
    exact spells_textOf []

/-! ### Sequences -/

/-- A sequence has the text of the units that were read in it, and each operation its part. -/
theorem performAll_contributes {ops : List Operation} {text : String}
    {events : List (Event Probe)} (hends : (performAll limits ops).Ends text events) :
    text = textOf (units events) ∧
      ∃ parts : List (String × List (Event Probe)),
        List.Forall₂ (fun op part ↦ Contributes limits op part.1 part.2) ops parts ∧
        text = String.join (parts.map Prod.fst) ∧ events = (parts.map Prod.snd).flatten := by
  induction ops generalizing text events with
  | nil =>
    obtain ⟨rfl, rfl⟩ := performAll_nil_ends hends
    exact ⟨textOf_nil.symm, [], .nil, String.join_nil.symm, rfl⟩
  | cons op ops ih =>
    obtain ⟨first, rest, before, later, hfirst, hrest, rfl, rfl⟩ := performAll_cons_ends hends
    obtain ⟨htext, hcontributes⟩ := perform_contributes hfirst
    obtain ⟨hmore, parts, hparts, hjoin, rfl⟩ := ih hrest
    refine ⟨by rw [units_append, textOf_append, ← htext, ← hmore], (first, before) :: parts,
      .cons hcontributes hparts, ?_, rfl⟩
    rw [List.map_cons, String.join_cons, hjoin]

theorem Closed.units_eq_nil {isOpen : Bool} {closing : List (Event Probe)}
    (hclosed : Closed isOpen closing) : units closing = [] := by
  cases hclosed with
  | released => rfl
  | held reply => cases reply <;> rfl
  | opened reply => cases reply <;> rfl

/-- The text of a sequence, split at its blanks, is one token for each unit that the bus gave, in
order. It is made up of what each operation contributes during its own part of the events. The
closing, which comes after them, asks for no unit. -/
theorem execute_run_spells {σ : Type} {device : Device Probe σ} {state : σ}
    {ops : List Operation} {isOpen : Bool} {outcome : Outcome Probe σ (String × Bool)}
    (hrun : (execute limits ops isOpen).run device state = some outcome) :
    Spells outcome.value.1 (units outcome.events) ∧
      ∃ (parts : List (String × List (Event Probe))) (closing : List (Event Probe)),
        List.Forall₂ (fun op part ↦ Contributes limits op part.1 part.2) ops parts ∧
        outcome.value.1 = String.join (parts.map Prod.fst) ∧
        outcome.events = (parts.map Prod.snd).flatten ++ closing ∧
        units closing = [] := by
  obtain ⟨first, last, hfirst, hlast, rfl⟩ := execute_run_eq hrun
  obtain ⟨htext, parts, hparts, hjoin, hevents⟩ := performAll_contributes (ends_of_run hfirst)
  have hclosing := (closeIfOpen_ends (ends_of_run hlast)).units_eq_nil
  refine ⟨?_, parts, last.events, hparts, hjoin, by rw [hevents], hclosing⟩
  rw [units_append, hclosing, List.append_nil, htext]
  exact spells_textOf (units first.events)

/-- A read of twelve bits that fails at its third poll and one of a single bit: three units, wider
than they may be, are read, and three tokens are in the text. -/
theorem twelve_bits_spelled :
    let script := execute ⟨2000, 9⟩ [ofKind .start, ((ofKind .read).withWidth 12).withCount 3,
      (ofKind .read).withWidth 1] false
    let left : Rehearsal :=
      ⟨[.ready 0xFFFFF0AB, .pending, .ready 7, .failed .pin, .ready 0xFF], [false]⟩
    ∃ outcome, script.run (rehearsed true) left = some outcome ∧
      outcome.value.1 = "0AB 007 1 " ∧
      Spells outcome.value.1 [(12, 0xFFFFF0AB), (12, 7), (1, 0xFF)] := by
  intro script left
  have htext : (script.run (rehearsed true) left).map (·.value.1) = some "0AB 007 1 " := by
    decide +kernel
  have hunits : (script.run (rehearsed true) left).map (units ·.events) =
      some [(12, 0xFFFFF0AB), (12, 7), (1, 0xFF)] := by
    decide +kernel
  obtain ⟨outcome, hrun, hvalue⟩ := Option.map_eq_some_iff.mp htext
  obtain ⟨hspells, -⟩ := execute_run_spells hrun
  rw [hrun] at hunits
  have hgiven : units outcome.events = [(12, 0xFFFFF0AB), (12, 7), (1, 0xFF)] :=
    Option.some.inj hunits
  rw [hgiven] at hspells
  exact ⟨outcome, hrun, hvalue, hspells⟩

end Operation

end BusProbe
