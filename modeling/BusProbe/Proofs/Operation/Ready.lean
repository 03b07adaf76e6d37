import BusProbe.Proofs.Operation.Units

/-!
# A bus that keeps nothing waiting

On a bus that has a unit ready for every read, operations come to an end: each makes the requests
that it says and has all of its reads answered (`perform_ensures`), whether its other requests work
or not. If such a bus is released after a stop, then a sequence that ends in a stop asks for nothing
that its operations do not ask for (`execute_run_stopped`).
-/

set_option autoImplicit false
set_option relaxedAutoImplicit false

namespace BusProbe

namespace Operation

open Script Probe

/-! ### Answers -/

/-- Every read has a unit ready. -/
def readsReady : Probe.Replies
  | .inl (.read _), reply => ∃ value, reply = .ready value
  | _, _ => True

theorem answers_readsReady {σ : Type} {device : Device Probe σ}
    (hready : ∀ width state, ∃ value, (device (.inl (.read width)) state).1 = .ready value) :
    device.Answers readsReady := by
  intro request state
  rcases request with request | request
  · cases request with
    | read width => exact hready width state
    | _ => trivial
  · trivial

/-- Some events make the given requests, all reads among them are answered, and the text is that of
the answers. -/
structure Answered (asked : List BusRequest) (text : String) (events : List (Event Probe)) :
    Prop where
  busRequests_eq : busRequests events = asked
  text_eq : text = textOf (units events)
  reads_eq : reads events = (units events).map fun unit ↦ .ready unit.2

theorem Answered.append {first later : List BusRequest} {text more : String}
    {events others : List (Event Probe)} (hfirst : Answered first text events)
    (hlater : Answered later more others) :
    Answered (first ++ later) (text ++ more) (events ++ others) where
  busRequests_eq := by
    rw [busRequests_append, hfirst.busRequests_eq, hlater.busRequests_eq]
  text_eq := by rw [units_append, textOf_append, ← hfirst.text_eq, ← hlater.text_eq]
  reads_eq := by
    rw [reads_append, units_append, List.map_append, hfirst.reads_eq, hlater.reads_eq]

variable {limits : Limits} {allowed : Probe.Replies}

/-! ### Operations that read nothing -/

theorem performOnce_halts (op : Operation) : (performOnce op).Halts allowed := by
  rcases performOnce_cases op with ⟨hdone, -⟩ | ⟨request, honce, -⟩
  · rw [hdone]
    trivial
  · exact honce.halts

theorem quietly_halts {script : Script Probe Unit} (hscript : script.Halts allowed) :
    (quietly script).Halts allowed :=
  hscript.bind fun _ ↦ trivial

/-- Only reads can keep anyone waiting. -/
theorem perform_halts {op : Operation} (hread : op.kind ≠ .read) :
    (perform limits op).Halts allowed := by
  rcases perform_cases limits hread with ⟨request, script, heq, honce, -⟩ | heq
  · rw [heq]
    exact quietly_halts honce.halts
  · rw [heq]
    exact quietly_halts ((performOnce_halts op).times op.count)

/-! ### Reads -/

theorem awaitUnit_ensures {width patience : Nat} (hpatience : 0 < patience) :
    (awaitUnit limits width patience).Ensures readsReady fun unit? events ↦
      ∃ value, unit? = some value ∧
        events = [.exchange (.inl (.read width)) (.ready value)] := by
  obtain ⟨patience, rfl⟩ := Nat.exists_eq_succ_of_ne_zero hpatience.ne'
  rintro _ ⟨value, rfl⟩
  exact ⟨value, rfl, rfl⟩

/-- The first poll for each unit finds it. -/
theorem readUnits_ensures {width : Nat} (hpatience : 0 < limits.patience) (count : Nat) :
    (readUnits limits width count).Ensures readsReady
      (Answered (List.replicate count (.read width))) := by
  induction count with
  | zero => exact ⟨rfl, textOf_nil.symm, rfl⟩
  | succ count ih =>
    refine (awaitUnit_ensures hpatience).bind ?_
    rintro _ _ ⟨value, rfl, rfl⟩
    refine ih.bind fun text events hanswered ↦ ?_
    have hunit : Answered [.read width] (unitText value width)
        [.exchange (.inl (.read width)) (.ready value)] :=
      ⟨rfl, (textOf_singleton (width, value)).symm, rfl⟩
    have hboth := hunit.append hanswered
    simpa [List.replicate_succ] using hboth

theorem perform_read_ensures {op : Operation} (hread : op.kind = .read)
    (hpatience : 0 < limits.patience) :
    (perform limits op).Ensures readsReady (Answered op.requests) := by
  have hrequests : op.requests = List.replicate op.count (.read op.width) :=
    requests_eq_replicate (by rw [request?, hread])
  simp only [perform, hread]
  rw [hrequests]
  exact fun _ _ ↦ (readUnits_ensures hpatience op.count).mono
    fun _ _ hanswered ↦ ⟨hanswered.1, hanswered.2, hanswered.3⟩

theorem perform_answered {op : Operation} (hread : op.kind ≠ .read) {text : String}
    {events : List (Event Probe)} (hends : (perform limits op).Ends text events) :
    Answered op.requests text events := by
  obtain ⟨rfl, hrequests⟩ := perform_ends hread hends
  have hunits := perform_units_eq_nil hread hends
  have hreads : reads events = [] := by
    refine List.eq_nil_iff_forall_not_mem.mpr fun reply hmem ↦ ?_
    obtain ⟨width, hasked⟩ := read_mem_of_mem_reads hmem
    rw [hrequests] at hasked
    exact read_notMem_requests hread width hasked
  exact ⟨hrequests, by rw [hunits, textOf_nil], by rw [hreads, hunits, List.map_nil]⟩

/-- An operation makes its requests, and all of its reads are answered. -/
theorem perform_ensures (op : Operation) (hpatience : 0 < limits.patience) :
    (perform limits op).Ensures readsReady (Answered op.requests) := by
  by_cases hread : op.kind = .read
  · exact perform_read_ensures hread hpatience
  · exact (perform_halts hread).ensures_ends.mono fun _ _ hends ↦ perform_answered hread hends

/-! ### Courses on which every read is answered -/

/-- Every read during some events was answered with a unit. -/
def ReadsReady (events : List (Event Probe)) : Prop :=
  ∀ reply ∈ reads events, ∃ value, reply = .ready value

theorem readsReady_append {first second : List (Event Probe)} :
    ReadsReady (first ++ second) ↔ ReadsReady first ∧ ReadsReady second := by
  rw [ReadsReady, reads_append]
  exact List.forall_mem_append

theorem Polled.eq_ready {width : Nat} {unit? : Option Word} {events : List (Event Probe)}
    (hpolled : Polled limits width unit? events) (hready : ReadsReady events) :
    ∃ value, unit? = some value ∧ events = [.exchange (.inl (.read width)) (.ready value)] := by
  cases hpolled with
  | ready value => exact ⟨value, rfl, rfl⟩
  | failed failure => exact absurd (hready (.failed failure) List.mem_cons_self) nofun
  | expired => exact absurd (hready .pending List.mem_cons_self) nofun
  | again hlater => exact absurd (hready .pending List.mem_cons_self) nofun

theorem Collected.busRequests_eq_replicate {width count : Nat} {values : List Word}
    {events : List (Event Probe)} (hcollected : Collected limits width count values events)
    (hready : ReadsReady events) : busRequests events = List.replicate count (.read width) := by
  induction hcollected with
  | enough => rfl
  | givenUp hevents =>
    obtain ⟨value, hnone, -⟩ := hevents.eq_ready hready
    exact absurd hnone nofun
  | unit hfirst hlater ih =>
    obtain ⟨hreadyFirst, hreadyLater⟩ := readsReady_append.mp hready
    obtain ⟨value, -, rfl⟩ := hfirst.eq_ready hreadyFirst
    exact congrArg (List.cons _) (ih hreadyLater)

/-- An operation of which every read is answered makes all of its requests. -/
theorem perform_busRequests_eq {op : Operation} {text : String} {events : List (Event Probe)}
    (hends : (perform limits op).Ends text events) (hready : ReadsReady events) :
    busRequests events = op.requests := by
  by_cases hread : op.kind = .read
  · obtain ⟨values, later, hcollected, rfl, -⟩ := perform_read_ends hread hends
    have hrequest : op.request? = some (.read op.width) := by rw [request?, hread]
    rw [requests_eq_replicate hrequest]
    exact hcollected.busRequests_eq_replicate hready
  · exact (perform_ends hread hends).2

theorem performAll_busRequests_eq {ops : List Operation} {text : String}
    {events : List (Event Probe)} (hends : (performAll limits ops).Ends text events)
    (hready : ReadsReady events) : busRequests events = ops.flatMap requests := by
  induction ops generalizing text events with
  | nil =>
    obtain ⟨-, rfl⟩ := performAll_nil_ends hends
    rfl
  | cons op ops ih =>
    obtain ⟨_, _, before, later, hfirst, hrest, -, rfl⟩ := performAll_cons_ends hends
    obtain ⟨hreadyFirst, hreadyRest⟩ := readsReady_append.mp hready
    rw [busRequests_append, perform_busRequests_eq hfirst hreadyFirst, ih hrest hreadyRest,
      List.flatMap_cons]

/-! ### Sequences that end in a stop -/

theorem perform_stop_ends {text : String} {events : List (Event Probe)}
    (hends : (perform limits (ofKind .stop)).Ends text events) :
    Event.requests events = [.inl .stop] := by
  obtain ⟨-, hinner⟩ := quietly_ends hends
  obtain ⟨parts, hlength, rfl, hparts⟩ := ends_times hinner
  obtain ⟨part, rfl⟩ := List.length_eq_one_iff.mp hlength
  obtain ⟨reply, first, hfirst, rfl⟩ := attempt_ends (hparts part List.mem_cons_self)
  obtain rfl := onBus_ends hfirst
  cases reply <;> rfl

/-- A sequence that ends in a stop makes its requests, all of its reads are answered, and nothing is
asked after the stop. -/
theorem performAll_ensures (ops : List Operation) (hpatience : 0 < limits.patience) :
    (performAll limits (ops ++ [ofKind .stop])).Ensures readsReady fun text events ↦
      Answered (ops.flatMap requests ++ [.stop]) text events ∧
        ∃ before, Event.requests events = before ++ [.inl .stop] := by
  induction ops with
  | nil =>
    have hstop : (ofKind .stop).kind ≠ .read := nofun
    refine (perform_halts hstop).ensures_ends.bind fun text events hends ↦ ?_
    have hanswered := perform_answered hstop hends
    have hrequests := perform_stop_ends hends
    simp only [performAll, pure_eq_done, done_bind, ensures_done, List.append_nil,
      String.append_empty]
    exact ⟨hanswered, [], hrequests⟩
  | cons op ops ih =>
    refine (perform_ensures op hpatience).bind fun first before hfirst ↦ ?_
    refine ih.bind fun rest later hrest ↦ ?_
    obtain ⟨hrest, others, hothers⟩ := hrest
    have hboth := hfirst.append hrest
    rw [← List.append_assoc, ← List.flatMap_cons] at hboth
    rw [pure_eq_done, ensures_done, List.append_nil]
    refine ⟨hboth, Event.requests before ++ others, ?_⟩
    rw [Event.requests_append, hothers, List.append_assoc]

/-- A sequence that ends in a stop, on a bus that has a unit ready for every read and is released
after a stop, asks for just what its operations say, and the closing only asks whether the bus is
released. -/
theorem execute_run_stopped {σ : Type} {device : Device Probe σ}
    (hready : device.Answers readsReady)
    (hreleased : ∀ state, (device (.inl .released) (device (.inl .stop) state).2).1 = true)
    (hpatience : 0 < limits.patience) (ops : List Operation) (isOpen : Bool) (state : σ) :
    ∃ outcome, (execute limits (ops ++ [ofKind .stop]) isOpen).run device state = some outcome ∧
      Answered (ops.flatMap requests ++ [.stop, .released]) outcome.value.1 outcome.events ∧
      outcome.value.2 = false := by
  obtain ⟨first, hfirst, hanswered, before, hbefore⟩ :=
    (performAll_ensures ops hpatience).run hready state
  have hflag : (ops ++ [ofKind .stop]).foldl openAfter isOpen = false := by
    rw [List.foldl_append]
    exact Bool.and_false _
  have hreply : (device (.inl .released) first.state).1 = true := by
    rw [state_of_run hfirst, hbefore, Device.after_append]
    exact hreleased _
  have hclosing : (closeIfOpen false).run device first.state =
      some ⟨(), (device (.inl .released) first.state).2, [.exchange (.inl .released) true]⟩ := by
    simp [closeIfOpen, onBus, hreply, Outcome.after]
  refine ⟨⟨(first.value, false), (device (.inl .released) first.state).2,
    first.events ++ [.exchange (.inl .released) true]⟩, ?_, ?_, rfl⟩
  · rw [execute, run_bind, hfirst, hflag, Option.bind_some, run_bind, hclosing]
    rfl
  · have hasked : Answered [.released] "" [.exchange (.inl .released) true] :=
      ⟨rfl, textOf_nil.symm, rfl⟩
    have hboth := hanswered.append hasked
    rwa [String.append_empty, List.append_assoc] at hboth

end Operation

end BusProbe
