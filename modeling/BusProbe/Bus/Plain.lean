import BusProbe.Bus.Basic
import BusProbe.Script.Handler

/-!
# Plain buses

A bus that has only one kind of start and stop, and no lines to be worked by hand. On such a bus the
other start and stop are the usual ones, and a line action does nothing.
-/

set_option autoImplicit false
set_option relaxedAutoImplicit false

namespace BusProbe

/-- A bus for every request over one that knows only the usual start and stop and no lines. -/
def plainBus : Handler Bus Bus Unit
  | .start, _ => .ask .start fun reply ↦ .done (reply, ())
  | .startAlt, _ => .ask .start fun reply ↦ .done (reply, ())
  | .stop, _ => .ask .stop fun reply ↦ .done (reply, ())
  | .stopAlt, _ => .ask .stop fun reply ↦ .done (reply, ())
  | .write value width, _ => .ask (.write value width) fun reply ↦ .done (reply, ())
  | .read width, _ => .ask (.read width) fun reply ↦ .done (reply, ())
  | .line _, _ => .done (.ok none, ())
  | .released, _ => .ask .released fun reply ↦ .done (reply, ())

end BusProbe
