import BusProbe.Proofs.Operation.Runs
import BusProbe.Station

/-!
# Runs of a station

A station carries out a sequence on its hardware by handling the script of its operations. What the
script does with the flag and with the states of bus and board is what the station remembers.
-/

set_option autoImplicit false
set_option relaxedAutoImplicit false

namespace BusProbe.Station

open Script

variable {J K : Interface} {σ τ δ : Type} {fixture : Fixture J K σ τ}
  {device : Device (J.beside K) δ}

/-- A run of a station is a run of the script of its operations, handled by its bus and its board
beside each other. -/
theorem execute_run_eq_some {ops : List Operation} {station : Station σ τ} {hardware : δ}
    {outcome : Outcome (J.beside K) δ (String × Station σ τ)} :
    (station.execute fixture ops).run device hardware = some outcome ↔
      ∃ inner, ((Operation.execute fixture.limits ops station.isOpen).handle
          (fixture.bus.beside fixture.board) (station.bus, station.board)).run device hardware =
            some inner ∧
        outcome = ⟨(inner.value.1.1, ⟨inner.value.1.2, inner.value.2.1, inner.value.2.2⟩),
          inner.state, inner.events⟩ := by
  simp only [execute, onHardware, run_bind_eq_some]
  constructor
  · rintro ⟨inner, last, hinner, hlast, rfl⟩
    refine ⟨inner, hinner, ?_⟩
    rw [pure_eq_done, run_done, Option.some.injEq] at hlast
    subst hlast
    simp [Outcome.after]
  · rintro ⟨inner, hinner, rfl⟩
    exact ⟨inner, _, hinner, rfl, by simp [Outcome.after]⟩

end BusProbe.Station
