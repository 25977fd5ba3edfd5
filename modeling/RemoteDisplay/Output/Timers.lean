import RemoteDisplay.Fault
import RemoteDisplay.Identifier

/-!
# Wakeup timers

The one-shot timers that outputs ask their host for. The host knows for every timer which output it
wakes. It may refuse the next registration or the next start with a fault of its choosing; every
call that it carries out is recorded in order.
-/

namespace RemoteDisplay

/-- A call that the host of the timers carried out. -/
inductive TimerCall where
  | add (timer : TimerId)
  | start (timer : TimerId) (ms : UInt32)
  | cancel (timer : TimerId)
  | remove (timer : TimerId)
  deriving DecidableEq, Repr

/-- The timers of one host. -/
structure TimerHost where
  next : Nat := 1
  /-- The registered timers, each with the output that it wakes. -/
  registered : List (TimerId × OutputId) := []
  /-- The running timers with their intervals, in the order in which they were started. -/
  armed : List (TimerId × UInt32) := []
  /-- The fault with which the next registration is refused. -/
  refuseAdd : Option Fault := none
  /-- The fault with which the next start is refused. -/
  refuseStart : Option Fault := none
  calls : Array TimerCall := #[]

namespace TimerHost

/-- The timer is running. -/
def isArmed (h : TimerHost) (timer : TimerId) : Bool := h.armed.any (·.1 = timer)

/-- The output that a registered timer wakes. -/
def owner? (h : TimerHost) (timer : TimerId) : Option OutputId := h.registered.lookup timer

/-- Registers a new timer for an output; it does not run yet. -/
def add (h : TimerHost) (owner : OutputId) : Except Fault TimerId × TimerHost :=
  match h.refuseAdd with
  | some f => (.error f, { h with refuseAdd := none })
  | none =>
    let timer : TimerId := ⟨h.next⟩
    (.ok timer, { h with
      next := h.next + 1
      registered := h.registered ++ [(timer, owner)]
      calls := h.calls.push (.add timer) })

/-- Stops a timer without a record. -/
def disarm (h : TimerHost) (timer : TimerId) : TimerHost :=
  { h with armed := h.armed.filter (·.1 ≠ timer) }

/-- Starts a timer, in place of an expiry that is still to come. -/
def start (h : TimerHost) (timer : TimerId) (ms : UInt32) : Except Fault Unit × TimerHost :=
  match h.refuseStart with
  | some f => (.error f, { h with refuseStart := none })
  | none =>
    let h := h.disarm timer
    (.ok (), { h with
      armed := h.armed ++ [(timer, ms)]
      calls := h.calls.push (.start timer ms) })

/-- Stops a timer. -/
def cancel (h : TimerHost) (timer : TimerId) : TimerHost :=
  let h := h.disarm timer
  { h with calls := h.calls.push (.cancel timer) }

/-- Stops a timer and forgets it. -/
def remove (h : TimerHost) (timer : TimerId) : TimerHost :=
  let h := h.disarm timer
  { h with
    registered := h.registered.filter (·.1 ≠ timer)
    calls := h.calls.push (.remove timer) }

/-- Hands over the calls recorded so far. -/
def takeCalls (h : TimerHost) : List TimerCall × TimerHost :=
  (h.calls.toList, { h with calls := #[] })

end TimerHost

end RemoteDisplay
