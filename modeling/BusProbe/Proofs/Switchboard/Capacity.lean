import BusProbe.Proofs.Switchboard.Submitting
import BusProbe.Proofs.Text.Encoding

/-!
# Submitting to a writer with little room

A writer with room for so many bytes takes what fits and fails then, and a line that is submitted to
it comes to its end with the group whose text did not fit. That group was carried out before its
text was written, and none of those after it is. Submitting is compared here with carrying out
sequences in turn (`carryOut`), which knows no writer: with enough room it is carrying out all
sequences of the line, and with too little it is carrying out the first few, the fewest whose texts
are longer than the room (`submit_bounded`).

The text of a group may be written in pieces of any kind. Where it is cut makes no difference
(`put_inPieces_bounded`).
-/

set_option autoImplicit false
set_option relaxedAutoImplicit false

namespace BusProbe

open Text (utf8 utf8_append utf8_empty utf8_eq_data)

namespace Writer

variable {W : Type} {capacity : Nat} {written : List UInt8}

/-- Takes a text in pieces, and goes no further than the first of them that fails. -/
def inPieces (divide : String → List String) (writer : Writer W) : Writer W where
  put written text := (divide text).foldlM writer.put written

theorem put_bounded (text : String) :
    (bounded capacity).put written text =
      if (written ++ utf8 text).length ≤ capacity then .ok (written ++ utf8 text)
      else .error ((written ++ utf8 text).take capacity) := rfl

/-- A text that fits is taken whole. -/
theorem put_bounded_of_le {text : String}
    (hfits : written.length + (utf8 text).length ≤ capacity) :
    (bounded capacity).put written text = .ok (written ++ utf8 text) := by
  rw [← List.length_append] at hfits
  rw [put_bounded, if_pos hfits]

/-- Of a text that does not fit, what fits is taken. -/
theorem put_bounded_of_lt {text : String}
    (hover : capacity < written.length + (utf8 text).length) :
    (bounded capacity).put written text = .error ((written ++ utf8 text).take capacity) := by
  rw [← List.length_append] at hover
  rw [put_bounded, if_neg (Nat.not_le_of_lt hover)]

/-- Pieces that are written one after another up to the first that does not fit leave just what the
whole text leaves: this piece is cut where the whole text would be. -/
theorem foldlM_put_bounded (pieces : List String) (hwritten : written.length ≤ capacity) :
    pieces.foldlM (bounded capacity).put written =
      (bounded capacity).put written (String.join pieces) := by
  induction pieces generalizing written with
  | nil =>
    have hempty : written ++ utf8 (String.join []) = written := by simp
    rw [put_bounded, hempty, if_pos hwritten]
    rfl
  | cons piece rest ih =>
    have hjoin : utf8 (String.join (piece :: rest)) = utf8 piece ++ utf8 (String.join rest) := by
      rw [String.join_cons, utf8_append]
    rw [List.foldlM_cons]
    by_cases hfits : written.length + (utf8 piece).length ≤ capacity
    · have hlater : (written ++ utf8 piece).length ≤ capacity := by
        rw [List.length_append]
        exact hfits
      rw [put_bounded_of_le hfits]
      change rest.foldlM (bounded capacity).put (written ++ utf8 piece) = _
      rw [ih hlater, put_bounded, put_bounded, hjoin, List.append_assoc]
    · have hover := Nat.lt_of_not_le hfits
      have hcut : (written ++ utf8 piece ++ utf8 (String.join rest)).take capacity =
          (written ++ utf8 piece).take capacity :=
        List.take_append_of_le_length (by rw [List.length_append]; omega)
      have hlonger : capacity < written.length + (utf8 (String.join (piece :: rest))).length := by
        rw [hjoin, List.length_append]
        omega
      rw [put_bounded_of_lt hover, put_bounded_of_lt hlonger, hjoin, ← List.append_assoc, hcut]
      rfl

/-- Where a text is cut into pieces makes no difference to a writer that has room for some. -/
theorem put_inPieces_bounded {divide : String → List String}
    (hdivide : ∀ text, String.join (divide text) = text) (hwritten : written.length ≤ capacity)
    (text : String) :
    ((bounded capacity).inPieces divide).put written text =
      (bounded capacity).put written text := by
  have hpieces := foldlM_put_bounded (divide text) hwritten
  rw [hdivide] at hpieces
  exact hpieces

end Writer

namespace Switchboard

open Script

variable {X W δ : Type} {I : Interface} (run : X → List Operation → Script I (String × X))

/-! ### Carrying out sequences -/

/-- Carries out sequences one after another in the active mode. Gives the result of each and the
switchboard after them. -/
def carryOut (panel : Switchboard X) :
    List (List Operation) → Script I (List (Except Refusal String) × Switchboard X)
  | [] => return ([], panel)
  | ops :: rest => do
    let (result, panel) ← panel.execute run ops
    let (results, panel) ← carryOut panel rest
    return (result :: results, panel)

/-- What is written for a group, by its operations and their result. -/
def groupText (ops : List Operation) (result : Except Refusal String) : String :=
  Operation.listing ops ++ resultText result

/-- The texts of groups that were carried out. -/
def groupTexts (sequences : List (List Operation)) (results : List (Except Refusal String)) :
    List String :=
  List.zipWith groupText sequences results

/-- Of some texts, the first `count` are the fewest that together are longer than the room. -/
structure FirstOver (room : Nat) (texts : List String) (count : Nat) : Prop where
  exceeds : room < (utf8 (String.join (texts.take count))).length
  least : ∀ fewer < count, (utf8 (String.join (texts.take fewer))).length ≤ room

variable {room count : Nat} {text : String} {texts : List String}

theorem firstOver_one (hover : room < (utf8 text).length) : FirstOver room (text :: texts) 1 where
  exceeds := by simpa using hover
  least fewer hfewer := by
    obtain rfl : fewer = 0 := by omega
    simp

/-- A text that fits leaves less room for the others. -/
theorem FirstOver.succ (hfits : (utf8 text).length ≤ room)
    (hrest : FirstOver (room - (utf8 text).length) texts count) :
    FirstOver room (text :: texts) (count + 1) where
  exceeds := by
    have hover := hrest.exceeds
    rw [List.take_succ_cons, String.join_cons, utf8_append, List.length_append]
    omega
  least
    | 0, _ => by simp
    | fewer + 1, hfewer => by
      have hleast := hrest.least fewer (Nat.lt_of_succ_lt_succ hfewer)
      rw [List.take_succ_cons, String.join_cons, utf8_append, List.length_append]
      omega

/-- There is one such number at most. -/
theorem FirstOver.eq {other : Nat} (hcount : FirstOver room texts count)
    (hother : FirstOver room texts other) : count = other := by
  refine Nat.le_antisymm (Nat.le_of_not_lt fun hless ↦ ?_) (Nat.le_of_not_lt fun hless ↦ ?_)
  · exact Nat.not_le_of_lt hother.exceeds (hcount.least other hless)
  · exact Nat.not_le_of_lt hcount.exceeds (hother.least count hless)

/-! ### Groups -/

variable {writer : Writer W} {panel : Switchboard X} {device : Device I δ} {state : δ}

/-- Carrying out one sequence and then others. -/
theorem carryOut_cons_run {ops : List Operation} {rest : List (List Operation)}
    {whole : Outcome I δ (List (Except Refusal String) × Switchboard X)} :
    (carryOut run panel (ops :: rest)).run device state = some whole ↔
      ∃ first later, (panel.execute run ops).run device state = some first ∧
        (carryOut run first.value.2 rest).run device first.state = some later ∧
          whole = ⟨(first.value.1 :: later.value.1, later.value.2), later.state,
            first.events ++ later.events⟩ := by
  constructor
  · intro hrun
    obtain ⟨first, second, hfirst, hsecond, rfl⟩ := run_bind_eq_some.mp hrun
    obtain ⟨later, last, hlater, hlast, rfl⟩ := run_bind_eq_some.mp hsecond
    obtain rfl := Option.some.inj hlast
    refine ⟨first, later, hfirst, hlater, ?_⟩
    simp [Outcome.after]
  · rintro ⟨first, later, hfirst, hlater, rfl⟩
    refine run_bind_eq_some.mpr ⟨first, _, hfirst, run_bind_eq_some.mpr
      ⟨later, _, hlater, rfl, rfl⟩, ?_⟩
    simp [Outcome.after]

/-- What follows the writing of a group: the others, or nothing if it failed. -/
def followedBy (writer : Writer W) (rest : List Group) (panel : Switchboard X) :
    Except W W → Script I (Except W W × Switchboard X)
  | .error kept => return (.error kept, panel)
  | .ok written => panel.submitGroups run writer written rest

/-- A group is carried out first and then written, and the others follow if the writer takes it. -/
theorem submitGroups_cons_alike (written : W) (group : Group) (rest : List Group) :
    (panel.submitGroups run writer written (group :: rest)).Alike (fun _ ↦ True) (do
      let first ← panel.execute run group.operations
      followedBy run writer rest first.2
        (writer.put written (groupText group.operations first.1))) := by
  simp only [submitGroups, submitGroup, record, bind_assoc, note_bind, done_bind, pure_bind]
  refine Alike.afterNotices (.noteLeft ((alike_refl _).bind fun first ↦ ?_)) _
  rw [groupText]
  cases writer.put written (Operation.listing group.operations ++ resultText first.1) with
  | error kept => exact .done _
  | ok written => exact alike_refl _

/-- What comes out after some requests were made. -/
def afterRequests {α : Type} (earlier : List I.Request) :
    α × δ × List I.Request → α × δ × List I.Request :=
  fun (value, state, later) ↦ (value, state, earlier ++ later)

section Cons

variable {group : Group} {rest : List Group} {written : W}
  {first : Outcome I δ (Except Refusal String × Switchboard X)}
  (hfirst : (panel.execute run group.operations).run device state = some first)
include hfirst

/-- The other groups follow if the writer takes the text of the first. -/
theorem submitGroups_cons_run_of_ok {taken : W}
    (hput : writer.put written (groupText group.operations first.value.1) = .ok taken) :
    ((panel.submitGroups run writer written (group :: rest)).run device state).map
        Outcome.unrecorded =
      (((first.value.2.submitGroups run writer taken rest).run device first.state).map
        Outcome.unrecorded).map (afterRequests (Event.requests first.events)) := by
  rw [(submitGroups_cons_alike run written group rest).run_unrecorded device state, run_bind,
    hfirst, Option.bind_some, Option.map_map, Option.map_map]
  simp [hput, followedBy, Function.comp_def, Outcome.unrecorded, Outcome.after, afterRequests]

/-- Nothing follows if the writer fails, but the first group was carried out. -/
theorem submitGroups_cons_run_of_error {kept : W}
    (hput : writer.put written (groupText group.operations first.value.1) = .error kept) :
    ((panel.submitGroups run writer written (group :: rest)).run device state).map
        Outcome.unrecorded =
      some ((.error kept, first.value.2), first.state, Event.requests first.events) := by
  rw [(submitGroups_cons_alike run written group rest).run_unrecorded device state, run_bind,
    hfirst, Option.bind_some]
  simp [hput, followedBy, Outcome.unrecorded, Outcome.after]

end Cons

/-- What is written for some sequences, by the results of carrying them out. -/
def written (sequences : List (List Operation)) (results : List (Except Refusal String)) : String :=
  String.join (groupTexts sequences results)

@[simp]
theorem written_nil : written [] [] = "" := rfl

theorem written_cons (ops : List Operation) (rest : List (List Operation))
    (result : Except Refusal String) (results : List (Except Refusal String)) :
    written (ops :: rest) (result :: results) = groupText ops result ++ written rest results :=
  String.join_cons

/-- Nothing is left out of what a writer without bound is given. -/
theorem submitGroups_text_run (groups : List Group) (panel : Switchboard X) (shown : String)
    (state : δ) :
    ((panel.submitGroups run Writer.text shown groups).run device state).map Outcome.unrecorded =
      ((carryOut run panel (groups.map Group.operations)).run device state).map fun whole ↦
        ((.ok (shown ++ written (groups.map Group.operations) whole.value.1), whole.value.2),
          whole.state, Event.requests whole.events) := by
  induction groups generalizing panel shown state with
  | nil => simp [submitGroups, carryOut, Outcome.unrecorded]
  | cons group rest ih =>
    rw [List.map_cons, carryOut, run_bind]
    cases hfirst : (panel.execute run group.operations).run device state with
    | none =>
      rw [(submitGroups_cons_alike run shown group rest).run_unrecorded device state, run_bind,
        hfirst]
      rfl
    | some first =>
      rw [submitGroups_cons_run_of_ok run hfirst rfl, ih, Option.bind_some, run_bind,
        Option.map_map, Option.map_map]
      cases (carryOut run first.value.2 (rest.map Group.operations)).run device first.state with
      | none => rfl
      | some later => simp [written_cons, afterRequests, Outcome.after, String.append_assoc]

section Bounded

variable {capacity : Nat} {room : Writer (List UInt8)}
  (hroom : ∀ {kept : List UInt8}, kept.length ≤ capacity → ∀ text,
    room.put kept text = (Writer.bounded capacity).put kept text)
include hroom

/-- With enough room, submitting groups carries all of them out and writes all of their texts. -/
theorem submitGroups_run_of_fits {groups : List Group} {panel : Switchboard X}
    {kept : List UInt8} {state : δ}
    {whole : Outcome I δ (List (Except Refusal String) × Switchboard X)}
    (hrun : (carryOut run panel (groups.map Group.operations)).run device state = some whole)
    (hfits : kept.length +
      (utf8 (written (groups.map Group.operations) whole.value.1)).length ≤ capacity) :
    ((panel.submitGroups run room kept groups).run device state).map Outcome.unrecorded =
      some ((.ok (kept ++ utf8 (written (groups.map Group.operations) whole.value.1)),
        whole.value.2), whole.state, Event.requests whole.events) := by
  induction groups generalizing panel kept state whole with
  | nil =>
    obtain rfl := Option.some.inj hrun
    simp [submitGroups, Outcome.unrecorded]
  | cons group rest ih =>
    obtain ⟨first, later, hfirst, hlater, rfl⟩ := (carryOut_cons_run run).mp hrun
    rw [List.map_cons, written_cons, utf8_append, List.length_append] at hfits
    have hput : room.put kept (groupText group.operations first.value.1) =
        .ok (kept ++ utf8 (groupText group.operations first.value.1)) := by
      rw [hroom (by omega), Writer.put_bounded_of_le (by omega)]
    have hlength : (kept ++ utf8 (groupText group.operations first.value.1)).length = _ :=
      List.length_append
    rw [submitGroups_cons_run_of_ok run hfirst hput, ih hlater (by omega)]
    simp [afterRequests, written_cons, utf8_append]

/-- With too little room, submitting groups carries out the first of them up to the one whose text
did not fit, and what fits is written. If the first text fits, the one that does not is among the
others. -/
theorem submitGroups_run_of_over {groups : List Group} {panel : Switchboard X}
    {kept : List UInt8} {state : δ}
    {whole : Outcome I δ (List (Except Refusal String) × Switchboard X)}
    (hrun : (carryOut run panel (groups.map Group.operations)).run device state = some whole)
    (hkept : kept.length ≤ capacity)
    (hover : capacity <
      kept.length + (utf8 (written (groups.map Group.operations) whole.value.1)).length) :
    ∃ count part,
      FirstOver (capacity - kept.length)
        (groupTexts (groups.map Group.operations) whole.value.1) count ∧
      (carryOut run panel ((groups.map Group.operations).take count)).run device state =
        some part ∧
      part.value.1 = whole.value.1.take count ∧
      ((panel.submitGroups run room kept groups).run device state).map Outcome.unrecorded =
        some ((.error ((kept ++ utf8 (written (groups.map Group.operations) whole.value.1)).take
          capacity), part.value.2), part.state, Event.requests part.events) := by
  induction groups generalizing panel kept state whole with
  | nil =>
    obtain rfl := Option.some.inj hrun
    rw [List.map_nil, written_nil, utf8_empty, List.length_nil] at hover
    omega
  | cons group rest ih =>
    obtain ⟨first, later, hfirst, hlater, rfl⟩ := (carryOut_cons_run run).mp hrun
    rw [List.map_cons, written_cons, utf8_append, List.length_append] at hover
    by_cases hfits :
        kept.length + (utf8 (groupText group.operations first.value.1)).length ≤ capacity
    · have hput : room.put kept (groupText group.operations first.value.1) =
          .ok (kept ++ utf8 (groupText group.operations first.value.1)) := by
        rw [hroom hkept, Writer.put_bounded_of_le hfits]
      have hlength : (kept ++ utf8 (groupText group.operations first.value.1)).length = _ :=
        List.length_append
      obtain ⟨count, part, hfirstOver, hpart, hresults, hrest⟩ := ih hlater
        (le_of_eq_of_le hlength hfits) (by omega)
      rw [hlength, ← Nat.sub_sub] at hfirstOver
      refine ⟨count + 1, _, hfirstOver.succ (by omega),
        (carryOut_cons_run run).mpr ⟨first, part, hfirst, hpart, rfl⟩, ?_, ?_⟩
      · rw [hresults, List.take_succ_cons]
      · rw [submitGroups_cons_run_of_ok run hfirst hput, hrest]
        simp [afterRequests, written_cons, utf8_append]
    · have hput : room.put kept (groupText group.operations first.value.1) =
          .error ((kept ++ utf8 (groupText group.operations first.value.1)).take capacity) := by
        rw [hroom hkept, Writer.put_bounded_of_lt (by omega)]
      have hcut : (kept ++ utf8 (written ((group :: rest).map Group.operations)
          (first.value.1 :: later.value.1))).take capacity =
            (kept ++ utf8 (groupText group.operations first.value.1)).take capacity := by
        rw [List.map_cons, written_cons, utf8_append, ← List.append_assoc,
          List.take_append_of_le_length (by rw [List.length_append]; omega)]
      refine ⟨1, _, firstOver_one (by omega),
        (carryOut_cons_run run).mpr ⟨first, _, hfirst, rfl, rfl⟩, rfl, ?_⟩
      rw [submitGroups_cons_run_of_error run hfirst hput, hcut]
      simp

end Bounded

/-! ### Lines -/

/-- A line that is submitted comes out as its groups do, with their number if all were written. -/
theorem submit_run (writer : Writer W) (panel : Switchboard X) (shown : W) (line : String)
    (device : Device I δ) (state : δ) :
    ((panel.submit run writer shown line).run device state).map Outcome.unrecorded =
      (((panel.submitGroups run writer shown (Line.groups line)).run device state).map
        Outcome.unrecorded).map fun ((taken, after), last, requests) ↦
          (match taken with
            | .ok taken => (.ok (Line.groups line).length, taken, after)
            | .error taken => (.error .output, taken, after), last, requests) := by
  rw [(submit_alike run (alike_refl _)).run_unrecorded device state, run_bind]
  cases (panel.submitGroups run writer shown (Line.groups line)).run device state with
  | none => rfl
  | some groups =>
    rcases groups with ⟨⟨taken | taken, after⟩, last, events⟩ <;>
      simp [Outcome.unrecorded, Outcome.after]

/-- Let a line be submitted to a writer without bound. Its sequences are carried out one after
another, and all their texts are written. A writer that has room for so many bytes, and that is
given the texts in any pieces, takes all of it if it is not longer than that; everything else is as
it was. If it is longer, submitting fails with the first bytes written for which there is room. What
was carried out then are the first few of the sequences, with the results they had, and they are the
fewest whose texts are longer than the room. -/
theorem submit_bounded {divide : String → List String}
    (hdivide : ∀ text, String.join (divide text) = text) {panel : Switchboard X} {line : String}
    {device : Device I δ} {state : δ}
    {unlimited : Outcome I δ (Except Refusal Nat × String × Switchboard X)}
    (hrun : (panel.submit run Writer.text "" line).run device state = some unlimited)
    (capacity : Nat) :
    ∃ whole, (carryOut run panel (lineOperations line)).run device state = some whole ∧
      unlimited.unrecorded =
        ((.ok (Line.groups line).length, written (lineOperations line) whole.value.1,
          whole.value.2), whole.state, Event.requests whole.events) ∧
      ((utf8 unlimited.value.2.1).length ≤ capacity →
        ((panel.submit run ((Writer.bounded capacity).inPieces divide) [] line).run device
            state).map Outcome.unrecorded =
          some ((unlimited.value.1, utf8 unlimited.value.2.1, unlimited.value.2.2),
            unlimited.state, Event.requests unlimited.events)) ∧
      (capacity < (utf8 unlimited.value.2.1).length →
        ∃ count part,
          FirstOver capacity (groupTexts (lineOperations line) whole.value.1) count ∧
          (carryOut run panel ((lineOperations line).take count)).run device state = some part ∧
          part.value.1 = whole.value.1.take count ∧
          ((panel.submit run ((Writer.bounded capacity).inPieces divide) [] line).run device
              state).map Outcome.unrecorded =
            some ((.error .output, (utf8 unlimited.value.2.1).take capacity, part.value.2),
              part.state, Event.requests part.events)) := by
  have hroom : ∀ {kept : List UInt8}, kept.length ≤ capacity → ∀ text,
      ((Writer.bounded capacity).inPieces divide).put kept text =
        (Writer.bounded capacity).put kept text :=
    fun hkept ↦ Writer.put_inPieces_bounded hdivide hkept
  have hunlimited := submit_run run Writer.text panel "" line device state
  rw [hrun, submitGroups_text_run, Option.map_map] at hunlimited
  obtain ⟨whole, hwhole, hshown⟩ := Option.map_eq_some_iff.mp hunlimited.symm
  rw [Function.comp_apply, String.empty_append] at hshown
  obtain ⟨hvalue, hrest⟩ := Prod.mk.inj hshown
  obtain ⟨hstate, hrequests⟩ := Prod.mk.inj hrest
  rw [← hvalue, ← hstate, ← hrequests]
  refine ⟨whole, hwhole, hshown.symm, fun hfits ↦ ?_, fun hover ↦ ?_⟩
  · rw [submit_run, submitGroups_run_of_fits run hroom hwhole (by simpa using hfits)]
    rfl
  · have hlonger : capacity < ([] : List UInt8).length +
        (utf8 (written (lineOperations line) whole.value.1)).length := by
      rw [List.length_nil, Nat.zero_add]
      exact hover
    obtain ⟨count, part, hcount, hpart, hresults, hgroups⟩ :=
      submitGroups_run_of_over run hroom hwhole (by simp) hlonger
    refine ⟨count, part, hcount, hpart, hresults, ?_⟩
    rw [submit_run, hgroups]
    rfl

/-- The characters of a text, each a text of its own. -/
def characters (text : String) : List String := text.toList.map String.singleton

theorem join_characters (text : String) : String.join (characters text) = text := by
  rw [← String.toList_inj]
  simp [characters, String.toList_join, List.flatMap_map]

/-- Two groups and room for part of what the first one shows: the second is not carried out. -/
theorem second_group_left_undone :
    let panel : Switchboard (List (List Operation)) :=
      ⟨.spi, fun mode ↦ if mode = .highImpedance then none else some []⟩
    let writer := (Writer.bounded 42).inPieces characters
    ∃ outcome,
      (panel.submit keeping writer [] "[0x41] >r").run Console.noDevice () = some outcome ∧
      outcome.value.1 = .error .output ∧
      outcome.value.2.1 = utf8 "Start | data=0 | bits=8 | repeat=1\nWrite |" ∧
      outcome.value.2.2.attached? .spi = some [[.ofKind .start, .write 0x41, .ofKind .stop]] := by
  intro panel writer
  have hops : lineOperations "[0x41] >r" = [[.ofKind .start, .write 0x41, .ofKind .stop],
      [.ofKind .read]] := by
    decide +kernel
  have hwriter : ∀ shown text, Writer.text.put shown text = .ok (shown ++ text) := fun _ _ ↦ rfl
  have hattached : panel.attached? panel.mode = some [] := rfl
  have hunlimited := submit_run_of_attached keeping hwriter hattached "" "[0x41] >r"
    Console.noDevice ()
  rw [hops] at hunlimited
  obtain ⟨unlimited, hrun, -⟩ := Option.map_eq_some_iff.mp hunlimited
  obtain ⟨whole, hwhole, hshown, -, hover⟩ := submit_bounded keeping join_characters hrun 42
  rw [hops] at hwhole hshown hover
  obtain rfl := Option.some.inj hwhole
  have hfull : unlimited.value.2.1 = _ := congrArg (·.1.2.1) hshown
  rw [hfull] at hover
  obtain ⟨count, part, hcount, hpart, -, hsubmitted⟩ := hover (by decide +kernel)
  obtain rfl : count = 1 := hcount.eq (firstOver_one (by decide +kernel))
  obtain rfl := Option.some.inj hpart
  obtain ⟨outcome, houtcome, hvalues⟩ := Option.map_eq_some_iff.mp hsubmitted
  have hvalue : outcome.value = _ := congrArg Prod.fst hvalues
  refine ⟨outcome, houtcome, by rw [hvalue], ?_, ?_⟩
  · rw [hvalue, utf8_eq_data, utf8_eq_data]
    decide +kernel
  · rw [hvalue]
    rfl

end Switchboard

end BusProbe
