/-!
# Writers

Where the output of a line goes. A writer takes one text after another and may fail; a writer that
failed still holds what it took.

* `text` — a writer that never fails; `bounded` — one with room for so many bytes.
-/

set_option autoImplicit false
set_option relaxedAutoImplicit false

namespace BusProbe

/-- Something with a state of type `W` that texts are written to. An error carries the state in
which a failed writing leaves it. -/
structure Writer (W : Type) where
  put : W → String → Except W W

namespace Writer

/-- Collects everything. -/
def text : Writer String where
  put written addition := .ok (written ++ addition)

/-- Collects bytes up to a number of them. A text that does not fit is cut, which is a failure. -/
def bounded (capacity : Nat) : Writer (List UInt8) where
  put written addition :=
    let all := written ++ addition.toUTF8.toList
    if all.length ≤ capacity then .ok all else .error (all.take capacity)

end Writer

end BusProbe
