import BusProbe.Script.Run
import BusProbe.Station

/-!
# What a listing shows

A listing shows each operation by its name, the value that is sent, the width and the count. These
four can be read back from it (`shown_eq_of_listing_eq`), and they are all that carrying out an
operation looks at: the bits of a value above its width and who chose the width or the count make no
difference. So two sequences with the same listing cannot be told apart by any bus and any board
(`execute_run_eq_of_listing_eq`).
-/

set_option autoImplicit false
set_option relaxedAutoImplicit false

namespace BusProbe.Operation

/-! ### Reading text back -/

/-- Two texts that are cut at the first occurrence of a character have the same parts. -/
theorem append_cons_cut {sep : Char} {first first' rest rest' : List Char} (hfirst : sep ∉ first)
    (hfirst' : sep ∉ first') (heq : first ++ sep :: rest = first' ++ sep :: rest') :
    first = first' ∧ rest = rest' := by
  induction first generalizing first' with
  | nil =>
    cases first' with
    | nil => exact ⟨rfl, (List.cons.inj heq).2⟩
    | cons c tail => exact absurd ((List.cons.inj heq).1 ▸ List.mem_cons_self) hfirst'
  | cons c tail ih =>
    cases first' with
    | nil => exact absurd ((List.cons.inj heq).1 ▸ List.mem_cons_self) hfirst
    | cons c' tail' =>
      obtain ⟨rfl, htail⟩ := List.cons.inj heq
      obtain ⟨rfl, hrest⟩ := ih (fun hmem ↦ hfirst (List.mem_cons_of_mem c hmem))
        (fun hmem ↦ hfirst' (List.mem_cons_of_mem c hmem)) htail
      exact ⟨rfl, hrest⟩

theorem toString_nat_inj {m n : Nat} (heq : (toString m).toList = (toString n).toList) : m = n := by
  rw [Nat.toString_eq_repr, Nat.toString_eq_repr, Nat.toList_repr, Nat.toList_repr] at heq
  have hread := congrArg (Nat.ofDigitChars 10 · 0) heq
  simpa using hread

/-- A number is written in digits. -/
theorem not_mem_toString_nat {c : Char} (hc : c.isDigit = false) (n : Nat) :
    c ∉ (toString n).toList := by
  intro hmem
  rw [Nat.toString_eq_repr, Nat.toList_repr] at hmem
  have hdigit := Nat.isDigit_of_mem_toDigits (by decide) (by decide) hmem
  rw [hc] at hdigit
  exact absurd hdigit Bool.false_ne_true

theorem not_mem_name {c : Char} (hc : c.isAlpha = false) (kind : OpKind) :
    c ∉ kind.name.toList := by
  have halpha : kind.name.toList.all Char.isAlpha = true := by cases kind <;> decide
  intro hmem
  have hmem := List.all_eq_true.mp halpha c hmem
  rw [hc] at hmem
  exact absurd hmem Bool.false_ne_true

theorem mem_all (kind : OpKind) : kind ∈ OpKind.all := by
  cases kind <;> decide

theorem name_inj {kind kind' : OpKind} (heq : kind.name.toList = kind'.name.toList) :
    kind = kind' := by
  have hall : ∀ kind ∈ OpKind.all, ∀ kind' ∈ OpKind.all,
      kind.name.toList = kind'.name.toList → kind = kind' := by decide +kernel
  exact hall kind (mem_all kind) kind' (mem_all kind') heq

/-! ### The line of an operation -/

/-- What a listing shows of an operation: its kind, the value that is sent, the width and the
count. -/
def shown (op : Operation) : OpKind × Word × Nat × Nat :=
  (op.kind, op.value, op.width, op.count)

theorem toList_line (op : Operation) :
    op.line.toList = op.kind.name.toList ++ ' ' :: ("| data=".toList ++
      ((toString op.value.toNat).toList ++ ' ' :: ("| bits=".toList ++
        ((toString op.width).toList ++ ' ' :: ("| repeat=".toList ++
          (toString op.count).toList))))) := by
  have hdata : " | data=".toList = ' ' :: "| data=".toList := rfl
  have hbits : " | bits=".toList = ' ' :: "| bits=".toList := rfl
  have hrepeat : " | repeat=".toList = ' ' :: "| repeat=".toList := rfl
  simp only [line, String.toList_append, hdata, hbits, hrepeat, List.append_assoc, List.cons_append]

/-- A line of a listing has one reading. -/
theorem shown_eq_of_line_eq {op op' : Operation} (heq : op.line.toList = op'.line.toList) :
    op.shown = op'.shown := by
  rw [toList_line, toList_line] at heq
  obtain ⟨hkind, heq⟩ := append_cons_cut (not_mem_name (by decide) op.kind)
    (not_mem_name (by decide) op'.kind) heq
  obtain ⟨hvalue, heq⟩ := append_cons_cut (not_mem_toString_nat (by decide) op.value.toNat)
    (not_mem_toString_nat (by decide) op'.value.toNat) (List.append_cancel_left heq)
  obtain ⟨hwidth, heq⟩ := append_cons_cut (not_mem_toString_nat (by decide) op.width)
    (not_mem_toString_nat (by decide) op'.width) (List.append_cancel_left heq)
  have hcount := List.append_cancel_left heq
  have hword : op.value = op'.value := UInt32.toNat_inj.mp (toString_nat_inj hvalue)
  simp only [shown, name_inj hkind, hword, toString_nat_inj hwidth, toString_nat_inj hcount]

/-- A line of a listing holds no line end. -/
theorem newline_not_mem_line (op : Operation) : '\n' ∉ op.line.toList := by
  have hname := not_mem_name (c := '\n') (by decide) op.kind
  have hvalue := not_mem_toString_nat (c := '\n') (by decide) op.value.toNat
  have hwidth := not_mem_toString_nat (c := '\n') (by decide) op.width
  have hcount := not_mem_toString_nat (c := '\n') (by decide) op.count
  rw [toList_line]
  simp only [List.mem_append, List.mem_cons, hname, hvalue, hwidth, hcount]
  decide

/-! ### The listing of a sequence -/

theorem toList_listing_cons (op : Operation) (ops : List Operation) :
    (listing (op :: ops)).toList = op.line.toList ++ '\n' :: (listing ops).toList := by
  simp [listing]

/-- A listing has one reading: two sequences with the same listing show the same operations. -/
theorem shown_eq_of_listing_eq {first second : List Operation}
    (heq : (listing first).toList = (listing second).toList) :
    first.map shown = second.map shown := by
  induction first generalizing second with
  | nil =>
    cases second with
    | nil => rfl
    | cons op ops =>
      rw [toList_listing_cons] at heq
      exact absurd heq.symm (by simp [listing])
  | cons op ops ih =>
    cases second with
    | nil =>
      rw [toList_listing_cons] at heq
      exact absurd heq (by simp [listing])
    | cons op' ops' =>
      rw [toList_listing_cons, toList_listing_cons] at heq
      obtain ⟨hline, hrest⟩ := append_cons_cut (newline_not_mem_line op)
        (newline_not_mem_line op') heq
      have hline : op.line.toList = op'.line.toList := hline
      rw [List.map_cons, List.map_cons, shown_eq_of_line_eq hline, ih hrest]

/-! ### What carrying out looks at -/

/-- An operation is performed by what a listing shows of it. -/
theorem perform_eq_of_shown_eq (limits : Limits) {op op' : Operation}
    (hshown : op.shown = op'.shown) : perform limits op = perform limits op' := by
  obtain ⟨kind, data, width, count, widthGiven, countGiven⟩ := op
  obtain ⟨kind', data', width', count', widthGiven', countGiven'⟩ := op'
  simp only [shown, Prod.mk.injEq] at hshown
  obtain ⟨rfl, hvalue, rfl, rfl⟩ := hshown
  cases kind with
  | write =>
    exact congrArg (fun value ↦ quietly (Script.times count
      (attempt (.writeFailed value) (Probe.onBus (.write value width))))) hvalue
  | _ => rfl

theorem openAfter_eq_of_shown_eq (isOpen : Bool) {op op' : Operation}
    (hshown : op.shown = op'.shown) : openAfter isOpen op = openAfter isOpen op' := by
  simp only [shown, Prod.mk.injEq] at hshown
  obtain ⟨hkind, -, -, hcount⟩ := hshown
  simp only [openAfter, hkind, hcount]

theorem performAll_eq_of_shown_eq (limits : Limits) {first second : List Operation}
    (hshown : first.map shown = second.map shown) :
    performAll limits first = performAll limits second := by
  induction first generalizing second with
  | nil =>
    cases second with
    | nil => rfl
    | cons op ops => simp at hshown
  | cons op ops ih =>
    cases second with
    | nil => simp at hshown
    | cons op' ops' =>
      rw [List.map_cons, List.map_cons, List.cons.injEq] at hshown
      rw [performAll, performAll, perform_eq_of_shown_eq limits hshown.1, ih hshown.2]

theorem foldl_openAfter_eq_of_shown_eq (isOpen : Bool) {first second : List Operation}
    (hshown : first.map shown = second.map shown) :
    first.foldl openAfter isOpen = second.foldl openAfter isOpen := by
  induction first generalizing second isOpen with
  | nil =>
    cases second with
    | nil => rfl
    | cons op ops => simp at hshown
  | cons op ops ih =>
    cases second with
    | nil => simp at hshown
    | cons op' ops' =>
      rw [List.map_cons, List.map_cons, List.cons.injEq] at hshown
      rw [List.foldl_cons, List.foldl_cons, openAfter_eq_of_shown_eq isOpen hshown.1]
      exact ih _ hshown.2

/-- A sequence is carried out by what its listing shows: the script, with all that it asks of bus
and board and all that it records, is the same. -/
theorem execute_eq_of_listing_eq (limits : Limits) (isOpen : Bool) {first second : List Operation}
    (hlisting : listing first = listing second) :
    execute limits first isOpen = execute limits second isOpen := by
  have hshown := shown_eq_of_listing_eq (congrArg String.toList hlisting)
  rw [execute, execute, performAll_eq_of_shown_eq limits hshown,
    foldl_openAfter_eq_of_shown_eq isOpen hshown]

/-- Two sequences with the same listing do the same on every bus and every board. For any replies
whatever, and from any state, they ask for the same things in the same order, read the same text and
leave everything in the same state; and so they do at any station, whatever its bus and its board
ask of the hardware. -/
theorem execute_run_eq_of_listing_eq {first second : List Operation}
    (hlisting : listing first = listing second) :
    (∀ (limits : Limits) (isOpen : Bool) {σ : Type} (device : Device Probe σ) (state : σ),
      (execute limits first isOpen).run device state =
        (execute limits second isOpen).run device state) ∧
    ∀ {J K : Interface} {σ τ δ : Type} (fixture : Fixture J K σ τ) (station : Station σ τ)
      (device : Device (J.beside K) δ) (hardware : δ),
      (station.execute fixture first).run device hardware =
        (station.execute fixture second).run device hardware := by
  constructor
  · intro limits isOpen σ device state
    rw [execute_eq_of_listing_eq limits isOpen hlisting]
  · intro J K σ τ δ fixture station device hardware
    rw [Station.execute, Station.execute,
      execute_eq_of_listing_eq fixture.limits station.isOpen hlisting]

/-- A value too wide for its width and a width that was given are not seen in the listing. -/
theorem execute_run_eq_of_masked_listing :
    listing [(write 0x1AA).withCount 1, ofKind .stop] =
        listing [write 0xAA, (ofKind .stop).withWidth 8] ∧
      ∀ (limits : Limits) (isOpen : Bool) {σ : Type} (device : Device Probe σ) (state : σ),
        (execute limits [(write 0x1AA).withCount 1, ofKind .stop] isOpen).run device state =
          (execute limits [write 0xAA, (ofKind .stop).withWidth 8] isOpen).run device state := by
  have hlisting : listing [(write 0x1AA).withCount 1, ofKind .stop] =
      listing [write 0xAA, (ofKind .stop).withWidth 8] := by decide +kernel
  exact ⟨hlisting, (execute_run_eq_of_listing_eq hlisting).1⟩

end BusProbe.Operation
