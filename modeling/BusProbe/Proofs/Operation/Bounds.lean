import BusProbe.Line.Operations
import BusProbe.Proofs.Bus.Ranges
import BusProbe.Proofs.Operation.Runs

/-!
# Operations within their bounds

However an operation was put together, its count and its width are within their bounds, because
whatever is given later is brought into range (`Built.bounds`); and a line yields no other
operations (`built_of_mem_lineOperations`). So a value that the bus is asked to write fits into its
width, and no bus leaves the range of its registers and buffers on a request of such a sequence
(`built_execute_inRange`).
-/

set_option autoImplicit false
set_option relaxedAutoImplicit false

namespace BusProbe.Operation

open Script Register

/-! ### How operations come about -/

/-- An operation that is put together in some way: of a kind or as a write, with any number of
counts and widths given in any order. -/
inductive Built : Operation → Prop
  | ofKind (kind : OpKind) : Built (.ofKind kind)
  | write (data : Word) : Built (.write data)
  | withCount {op : Operation} (hop : Built op) (count : Nat) : Built (op.withCount count)
  | withWidth {op : Operation} (hop : Built op) (width : Nat) : Built (op.withWidth width)

/-- The count and the width of an operation are within their bounds. -/
structure Bounded (op : Operation) : Prop where
  count : op.count ≤ 255
  pos : 1 ≤ op.width
  width : op.width ≤ 32

theorem Built.bounds {op : Operation} (hop : op.Built) : op.Bounded := by
  induction hop with
  | ofKind | write => exact ⟨show 1 ≤ 255 by decide, show 1 ≤ 8 by decide, show 8 ≤ 32 by decide⟩
  | @withCount op _ count ih => exact ⟨op.count_withCount_le count, ih.pos, ih.width⟩
  | @withWidth op _ width ih =>
    have hwidth := op.width_withWidth_bounds width
    exact ⟨ih.count, hwidth.1, hwidth.2⟩

/-- Suffixes are a count and a width, or neither of them. -/
theorem Built.withSuffixes {op : Operation} (hop : op.Built) (suffixes : Suffixes) :
    (Token.withSuffixes op suffixes).Built := by
  obtain ⟨count, width⟩ := suffixes
  have hcounted : (count.elim op op.withCount).Built := by
    cases count with
    | none => exact hop
    | some count => exact hop.withCount count
  cases width with
  | none => exact hcounted
  | some width => exact hcounted.withWidth width

theorem built_of_mem_operations {token : Token} {op : Operation} (hmem : op ∈ token.operations) :
    op.Built := by
  cases token with
  | character byte => exact List.mem_singleton.mp hmem ▸ .write _
  | literal content =>
    obtain ⟨byte, -, rfl⟩ := List.mem_map.mp hmem
    exact .write _
  | number radix value suffixes =>
    exact List.mem_singleton.mp hmem ▸ (Built.write value).withSuffixes suffixes
  | counted symbol count => exact List.mem_singleton.mp hmem ▸ (Built.ofKind _).withCount count
  | run symbol count => exact List.mem_singleton.mp hmem ▸ (Built.ofKind _).withCount count
  | single c => exact List.mem_singleton.mp hmem ▸ .ofKind _
  | unrecognized => exact absurd hmem List.not_mem_nil

theorem built_of_mem_tokenOperations {tokens : List String} {op : Operation}
    (hmem : op ∈ tokenOperations tokens) : op.Built := by
  obtain ⟨token, -, hop⟩ := List.mem_flatMap.mp hmem
  exact built_of_mem_operations hop

/-- The operations of a line are put together in no other way. -/
theorem built_of_mem_lineOperations {line : String} {ops : List Operation}
    (hops : ops ∈ lineOperations line) : ∀ op ∈ ops, op.Built := by
  obtain ⟨group, -, rfl⟩ := List.mem_map.mp hops
  intro op hmem
  unfold Group.operations at hmem
  split at hmem
  · rcases List.mem_cons.mp hmem with rfl | hmem
    · exact .ofKind .start
    · rcases List.mem_append.mp hmem with hmem | hmem
      · exact built_of_mem_tokenOperations hmem
      · exact List.mem_singleton.mp hmem ▸ .ofKind .stop
  · exact built_of_mem_tokenOperations hmem

/-! ### What a sequence asks for -/

/-- A request that keeps every bus in range: a write has a value that fits into a width from one bit
to a word, and a read has such a width. Nothing is computed for the others. -/
def InRange : Probe.Request → Prop
  | .inl (.write value width) =>
    1 ≤ width ∧ width ≤ 32 ∧ value.toNat < 2 ^ width ∧ WritesInRange value width
  | .inl (.read width) => 1 ≤ width ∧ width ≤ 32 ∧ ReadsInRange width
  | _ => True

/-- The value of an operation fits into its width. -/
theorem toNat_value_lt (op : Operation) : op.value.toNat < 2 ^ op.width := by
  rw [value, Word.toNat_low]
  exact Nat.mod_lt _ (Nat.two_pow_pos op.width)

/-- An operation within its bounds makes no request out of range. -/
theorem Bounded.inRange {op : Operation} (hop : op.Bounded) {request : Probe.Request}
    (hrequest : op.MayAsk request) : InRange request := by
  match request, hrequest with
  | .inl (.write value width), ⟨_, hvalue, hwidth⟩ =>
    subst hvalue hwidth
    exact ⟨hop.pos, hop.width, op.toNat_value_lt, writesInRange op.value hop.pos hop.width⟩
  | .inl (.read width), ⟨_, hwidth⟩ =>
    subst hwidth
    exact ⟨hop.pos, hop.width, readsInRange hop.pos hop.width⟩
  | .inl .start, _ | .inl .startAlt, _ | .inl .stop, _ | .inl .stopAlt, _ | .inl (.line _), _
  | .inr _, _ => trivial

theorem performAll_inRange {limits : Limits} {ops : List Operation}
    (hops : ∀ op ∈ ops, op.Bounded) : (performAll limits ops).Asks InRange := by
  induction ops with
  | nil => trivial
  | cons op rest ih =>
    have hfirst : (perform limits op).Asks InRange :=
      (perform_asks op).mono fun request ↦ (hops op List.mem_cons_self).inRange
    have hrest := ih fun later hmem ↦ hops later (List.mem_cons_of_mem op hmem)
    exact hfirst.bind fun text ↦ hrest.bind fun _ ↦ trivial

/-- The closing of a sequence writes and reads nothing. -/
theorem closeIfOpen_inRange (isOpen : Bool) : (closeIfOpen isOpen).Asks InRange := by
  have hclose : close.Asks InRange :=
    attempt_asks (onBus_asks (show InRange (.inl .stop) from trivial))
  cases isOpen with
  | true => exact hclose
  | false =>
    refine (onBus_asks (show InRange (.inl .released) from trivial)).bind fun released ↦ ?_
    cases released with
    | true => trivial
    | false => exact hclose

theorem execute_inRange {limits : Limits} {ops : List Operation} (hops : ∀ op ∈ ops, op.Bounded)
    (isOpen : Bool) : (execute limits ops isOpen).Asks InRange :=
  (performAll_inRange hops).bind fun _ ↦ (closeIfOpen_inRange _).bind fun _ ↦ trivial

/-- Every operation that can be put together, and so every operation of a line, has a count and a
width within their bounds, and its value is cut down by a mask in range. Whatever bus and board
answer, a sequence of such operations asks the bus only for what keeps each kind of bus in range. -/
theorem built_execute_inRange :
    (∀ op : Operation, op.Built → op.count ≤ 255 ∧ 1 ≤ op.width ∧ op.width ≤ 32 ∧
      ∃ mask, mask? op.width = some mask ∧ op.data.toBitVec &&& mask = op.value.toBitVec) ∧
    (∀ line, ∀ ops ∈ lineOperations line, ∀ op ∈ ops, op.Built) ∧
    ∀ (limits : Limits) (ops : List Operation) (isOpen : Bool), (∀ op ∈ ops, op.Built) →
      (execute limits ops isOpen).Asks InRange := by
  refine ⟨fun op hop ↦ ?_, fun line ops ↦ built_of_mem_lineOperations, ?_⟩
  · have hbounds := hop.bounds
    exact ⟨hbounds.count, hbounds.pos, hbounds.width, _, mask?_eq op.width,
      and_mask op.data hbounds.width⟩
  · exact fun limits ops isOpen hops ↦ execute_inRange (fun op hmem ↦ (hops op hmem).bounds) isOpen

/-- Too large a count and widths outside the bounds: what is sent is a whole word, 255 times, and
what is read a single bit. -/
theorem word_written_bit_read_inRange :
    let ops := [((write 0xFFFFFFFF).withWidth 40).withCount 1000, (ofKind .read).withWidth 0]
    (ops.map fun op ↦ (op.value, op.width, op.count)) = [(0xFFFFFFFF, 32, 255), (0, 1, 1)] ∧
      (∀ op ∈ ops, op.Built ∧ op.count ≤ 255 ∧ 1 ≤ op.width ∧ op.width ≤ 32) ∧
      (execute ⟨Limits.defaultReadMillis, 9⟩ ops false).Asks InRange := by
  intro ops
  have hbuilt : ∀ op ∈ ops, op.Built := by
    refine List.forall_mem_cons.mpr ⟨((Built.write _).withWidth 40).withCount 1000, ?_⟩
    exact List.forall_mem_singleton.mpr ((Built.ofKind .read).withWidth 0)
  refine ⟨by decide, fun op hmem ↦ ?_, built_execute_inRange.2.2 _ ops false hbuilt⟩
  obtain ⟨hcount, hpos, hwidth, -⟩ := built_execute_inRange.1 op (hbuilt op hmem)
  exact ⟨hbuilt op hmem, hcount, hpos, hwidth⟩

end BusProbe.Operation
