import RemoteDisplay.Checked
import RemoteDisplay.EventLoop.Sources
import RemoteDisplay.Identifier

/-!
# The event loop

Timers and watches for the server, kept on the event sources of a host. A started timer is one expiry
source, and starting it again replaces that source; a watch is one descriptor source for as long as
it lives. Timers and watches are numbered together. What a timer does when it fires is a list of
further calls on timers.
-/

namespace RemoteDisplay

/-- A call on a timer. -/
inductive TimerAction where
  | start (timer : TimerId) (ms : UInt32)
  | cancel (timer : TimerId)
  | remove (timer : TimerId)
  deriving DecidableEq, Repr

/-- A timer and its pending source. -/
structure Timer where
  id : TimerId
  onFire : List TimerAction
  armed : Option Token := none
  deriving DecidableEq, Repr

/-- A watch and its source. -/
structure Watch where
  id : WatchId
  fd : Nat
  mask : Mask
  token : Token
  deriving DecidableEq, Repr

/-- The timers and watches of one loop on its host. -/
structure EventLoop (H : Type) where
  host : H
  timers : List Timer := []
  watches : List Watch := []
  nextId : UInt64 := 1
  /-- The time in milliseconds. -/
  now : Nat := 0

namespace Fault

def startOfRemoved (id : TimerId) : Fault := .protocolViolation s!"start of removed timer {id.debug}"

def updateOfRemoved (id : WatchId) : Fault := .protocolViolation s!"update of removed watch {id.debug}"

def timerRefused : Fault := .allocationFailed "timer source: underlying IO error"

def watchRefused (fd : Nat) : Fault := .allocationFailed s!"fd {fd} watch: underlying IO error"

end Fault

namespace EventLoop

variable {H : Type}

def timer? (e : EventLoop H) (id : TimerId) : Option Timer := e.timers.find? (·.id = id)

def watch? (e : EventLoop H) (id : WatchId) : Option Watch := e.watches.find? (·.id = id)

/-- The timer is waiting to expire. -/
def isArmed (e : EventLoop H) (id : TimerId) : Bool := (e.timer? id).any (·.armed.isSome)

/-- Puts a timer in place of the one with its number. -/
def setTimer (e : EventLoop H) (t : Timer) : EventLoop H :=
  { e with timers := e.timers.map fun x => if x.id = t.id then t else x }

/-- Takes the next number. -/
def allocateId (e : EventLoop H) : Except Trap (Nat × EventLoop H) := do
  let nextId ← Checked.next64 e.nextId
  return (e.nextId.toNat, { e with nextId })

/-- A new timer that does nothing until it is started. -/
def addTimer (e : EventLoop H) (onFire : List TimerAction) : Except Trap (TimerId × EventLoop H) := do
  let (n, e) ← e.allocateId
  return (⟨n⟩, { e with timers := e.timers ++ [{ id := ⟨n⟩, onFire }] })

variable [EventHost H]

/-- Removes the pending source of a timer from the host. -/
def dropSource (e : EventLoop H) (t : Timer) : EventLoop H :=
  match t.armed with
  | some token => { e with host := EventHost.remove e.host token }
  | none => e

/-- Lets a timer fire once after a time, in place of a pending expiry. -/
def startTimer (e : EventLoop H) (id : TimerId) (ms : UInt32) : Except Fault Unit × EventLoop H :=
  match e.timer? id with
  | none => (.error (.startOfRemoved id), e)
  | some t =>
    let e := e.dropSource t
    match EventHost.register e.host (.expiry (e.now + ms.toNat)) with
    | (some token, host) => (.ok (), setTimer { e with host } { t with armed := some token })
    | (none, host) => (.error .timerRefused, setTimer { e with host } { t with armed := none })

/-- Takes back a start. An unknown timer is ignored. -/
def cancelTimer (e : EventLoop H) (id : TimerId) : EventLoop H :=
  match e.timer? id with
  | none => e
  | some t => (e.dropSource t).setTimer { t with armed := none }

/-- Forgets a timer. An unknown one is ignored. -/
def removeTimer (e : EventLoop H) (id : TimerId) : EventLoop H :=
  match e.timer? id with
  | none => e
  | some t =>
    let e := e.dropSource t
    { e with timers := e.timers.filter (·.id ≠ id) }

/-- Watches a descriptor. The watch is numbered after the host has taken its source. -/
def addWatch (e : EventLoop H) (fd : Nat) (mask : Mask) :
    Except Trap (Except Fault WatchId × EventLoop H) :=
  match EventHost.register e.host (.descriptor fd mask) with
  | (none, host) => return (.error (.watchRefused fd), { e with host })
  | (some token, host) => do
    let (n, e) ← allocateId { e with host }
    return (.ok ⟨n⟩, { e with watches := e.watches ++ [{ id := ⟨n⟩, fd, mask, token }] })

/-- Changes what a watch waits for: its source is removed and registered again. -/
def updateWatch (e : EventLoop H) (id : WatchId) (mask : Mask) : Except Fault Unit × EventLoop H :=
  match e.watch? id with
  | none => (.error (.updateOfRemoved id), e)
  | some w =>
    if w.mask = mask then (.ok (), e)
    else
      match EventHost.register (EventHost.remove e.host w.token) (.descriptor w.fd mask) with
      | (none, host) => (.error (.watchRefused w.fd), { e with host })
      | (some token, host) =>
        let watches := e.watches.map fun x => if x.id = id then { x with token, mask } else x
        (.ok (), { e with host, watches })

/-- Stops watching. An unknown watch is ignored. -/
def removeWatch (e : EventLoop H) (id : WatchId) : EventLoop H :=
  match e.watch? id with
  | none => e
  | some w => { e with
      host := EventHost.remove e.host w.token
      watches := e.watches.filter (·.id ≠ id) }

/-- Carries out a call on a timer. -/
def act (e : EventLoop H) : TimerAction → Except Fault Unit × EventLoop H
  | .start id ms => e.startTimer id ms
  | .cancel id => (.ok (), e.cancelTimer id)
  | .remove id => (.ok (), e.removeTimer id)

/-- Carries out calls on timers, and answers the faults among them. -/
def actEach (e : EventLoop H) : List TimerAction → List Fault × EventLoop H
  | [] => ([], e)
  | a :: as =>
    match e.act a with
    | (.ok (), e) => e.actEach as
    | (.error f, e) =>
      let (fs, e) := e.actEach as
      (f :: fs, e)

/-- What happened in a dispatch: a timer fired, with the faults of its actions. -/
structure Firing where
  timer : TimerId
  faults : List Fault
  deriving DecidableEq, Repr

/-- The source under a token expires, if it is still registered: it is removed, its timer is no
longer armed, and the timer's actions run. -/
def expire (e : EventLoop H) (token : Token) : Option Firing × EventLoop H :=
  match EventHost.source? e.host token, e.timers.find? (·.armed = some token) with
  | some _, some t =>
    let e := setTimer { e with host := EventHost.remove e.host token } { t with armed := none }
    let (faults, e) := e.actEach t.onFire
    (some ⟨t.id, faults⟩, e)
  | _, _ => (none, e)

/-- The given sources expire one after the other. -/
def expireEach (e : EventLoop H) : List Token → List Firing × EventLoop H
  | [] => ([], e)
  | t :: ts =>
    match e.expire t with
    | (none, e) => e.expireEach ts
    | (some f, e) =>
      let (fs, e) := e.expireEach ts
      (f :: fs, e)

/-- The watches whose descriptors are ready for what they wait for, each with what is ready. -/
def readyWatches (e : EventLoop H) (ready : Nat → Mask) : List (WatchId × Mask) :=
  e.watches.filterMap fun w =>
    match EventHost.source? e.host w.token with
    | some (.descriptor fd mask) =>
      let fired := (ready fd).inter mask
      if fired.isEmpty then none else some (w.id, fired)
    | _ => none

/-- Fires the timers that are due when the dispatch begins. -/
def dispatchTimers (e : EventLoop H) : List Firing × EventLoop H :=
  e.expireEach (EventHost.due e.host e.now)

end EventLoop

end RemoteDisplay
