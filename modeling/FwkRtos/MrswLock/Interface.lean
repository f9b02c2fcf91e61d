import FwkRtos.Osal

/-!
# The interface of the MRSW locks

What a task asks of a multiple-reader single-writer lock, whichever of the two
kinds it is.
-/

namespace FwkRtos.MrswLock

open FwkRtos.Osal

/-- The two ways to hold an MRSW lock. -/
inductive Role
  | reader
  | writer
  deriving DecidableEq

instance : Fintype Role where
  elems := {.reader, .writer}
  complete role := by cases role <;> decide

/-- The four functions of the API. -/
inductive ApiFunction
  | get (role : Role)
  | put (role : Role)
  deriving DecidableEq

/-- A call, as a task makes it. -/
inductive Call
  | get (role : Role) (timeout : Timeout)
  | put (role : Role)
  deriving DecidableEq

/-- The event that selects a task's next step: it makes a call, it runs on, or
the ticks of its wait run out. -/
inductive Event
  | call (call : Call)
  | run
  | expire
  deriving DecidableEq

/-- A task asks for a lock when it holds nothing, and puts only what it was
granted. -/
def Call.Proper (held : Option Role) : Call → Prop
  | .get _ _ => held = none
  | .put role => held = some role

instance (held : Option Role) : (call : Call) → Decidable (call.Proper held)
  | .get _ _ => inferInstanceAs (Decidable (held = none))
  | .put role => inferInstanceAs (Decidable (held = some role))

end FwkRtos.MrswLock
