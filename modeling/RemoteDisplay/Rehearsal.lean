import RemoteDisplay.Bridge

/-!
# Rehearsals

A bridge whose outputs can also be woken by hand, without waiting for their timers. A wakeup by hand
leaves the expiry of the timer pending: it still comes with the next dispatch, unless timers do not
expire by themselves at all. Which timers are waited for is followed from the calls on them.
-/

namespace RemoteDisplay

/-- The timers that are waited for, after one call more. -/
def TimerCall.followed (waiting : List (TimerId × UInt32)) : TimerCall → List (TimerId × UInt32)
  | .add _ => waiting
  | .start timer ms => waiting.filter (·.1 ≠ timer) ++ [(timer, ms)]
  | .cancel timer | .remove timer => waiting.filter (·.1 ≠ timer)

/-- A bridge that is tried out. -/
structure Rehearsal (ρ : Type) extends Bridge ρ where
  /-- Outputs wake only by hand. -/
  byHand : Bool
  /-- The timers that are waited for with their intervals, in the order of their starts. -/
  waiting : List (TimerId × UInt32) := []

namespace Rehearsal

variable {ρ : Type}

/-- Wakes an output by hand, even one that is destroyed. One that never was is ignored. -/
def wake (r : Rehearsal ρ) (id : OutputId) : Except Trap (Rehearsal ρ) :=
  if id.raw < r.backend.nextOutput then do
    let timer := (r.backend.output? id).map (·.timer)
    let backend ← r.backend.onWakeup id
    return { r with backend, waiting := r.waiting.filter fun (t, _) => some t ≠ timer }
  else return r

/-- Nothing is waited for any more, and the pending timers expire if they do by themselves. -/
def dispatch (r : Rehearsal ρ) : Except Trap (Rehearsal ρ) := do
  let backend ← if r.byHand then pure r.backend else r.backend.dispatch
  return { r with backend, waiting := [] }

/-- Hands over the calls on timers recorded so far, and follows them. -/
def takeCalls (r : Rehearsal ρ) : List TimerCall × Rehearsal ρ :=
  let (calls, timers) := r.backend.timers.takeCalls
  (calls, { r with
    backend := { r.backend with timers }
    waiting := calls.foldl TimerCall.followed r.waiting })

end Rehearsal

end RemoteDisplay
