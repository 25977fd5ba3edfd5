import RemoteDisplay.EventLoop.Sockets

/-!
# Clients of an event loop

A client of an event loop calls timers, watches and pairs of sockets by name. A name may be given
again. It then means its newest bearer, also in the actions of timers that were added before. Timers
and watches outlive their names; a pair of sockets is closed when its name goes to another.
-/

namespace RemoteDisplay

/-- A call on the timer of a name. -/
inductive NamedAction where
  | start (name : String) (ms : UInt32)
  | cancel (name : String)
  | remove (name : String)
  deriving DecidableEq, Repr

/-- A timer that was given a name. -/
structure NamedTimer where
  name : String
  id : TimerId
  onFire : List NamedAction
  deriving DecidableEq, Repr

/-- A watch that was given a name. -/
structure NamedWatch where
  name : String
  id : WatchId
  /-- What can be read is taken. -/
  consumes : Bool
  deriving DecidableEq, Repr

/-- An event loop, sockets, and what bears names; the newest bearers come first. -/
structure LoopClient where
  loop : EventLoop SourceHost := { host := {} }
  sockets : Sockets := {}
  timers : List NamedTimer := []
  watches : List NamedWatch := []
  /-- The first ends of the pairs. -/
  pairs : List (String × Nat) := []

/-- What happened in a dispatch: the timers that fired with the faults of their actions, and what
the watches saw. -/
structure Round where
  fired : List (String × List Fault)
  seen : List (String × EventLoop.Sighting)

namespace LoopClient

/-- The timer of a name; zero is no timer's number. -/
def timer (c : LoopClient) (name : String) : TimerId :=
  ((c.timers.find? (·.name = name)).map (·.id)).getD ⟨0⟩

/-- The watch of a name; zero is no watch's number. -/
def watch (c : LoopClient) (name : String) : WatchId :=
  ((c.watches.find? (·.name = name)).map (·.id)).getD ⟨0⟩

/-- An end of the pair of a name. -/
def descriptor (c : LoopClient) (pair : String) (side : Nat) : Nat :=
  (c.pairs.lookup pair).getD 0 + side

/-- The call on the present bearer of the name. -/
def resolve (c : LoopClient) : NamedAction → TimerAction
  | .start name ms => .start (c.timer name) ms
  | .cancel name => .cancel (c.timer name)
  | .remove name => .remove (c.timer name)

/-- Points the actions of all timers to the present bearers of the names. -/
def rebind (c : LoopClient) : LoopClient :=
  let bound (t : Timer) : Timer :=
    match c.timers.find? (·.id = t.id) with
    | some named => { t with onFire := named.onFire.map c.resolve }
    | none => t
  { c with loop.timers := c.loop.timers.map bound }

/-- A new timer under a name. -/
def addTimer (c : LoopClient) (name : String) (onFire : List NamedAction) :
    Except Trap (TimerId × LoopClient) := do
  let (id, loop) ← c.loop.addTimer []
  return (id, rebind { c with loop, timers := ⟨name, id, onFire⟩ :: c.timers })

/-- Carries out a call on a timer. -/
def act (c : LoopClient) (a : NamedAction) : Except Fault Unit × LoopClient :=
  let (answer, loop) := c.loop.act (c.resolve a)
  (answer, { c with loop })

/-- The timer of a name is waiting to expire. -/
def isArmed (c : LoopClient) (name : String) : Bool := c.loop.isArmed (c.timer name)

/-- The names whose present timers are waiting to expire. -/
def armed (c : LoopClient) : List String :=
  (c.timers.filter fun t => c.timer t.name = t.id && c.loop.isArmed t.id).map (·.name)

/-- Closes the pair with the given first end. The host drops the sources of both ends. -/
def closePair (c : LoopClient) (first : Nat) : LoopClient :=
  { c with
    sockets := c.sockets.close first
    loop.host := (c.loop.host.forget first).forget (first + 1) }

/-- A new pair of sockets under a name. Then the pair that had the name before is closed. -/
def addPair (c : LoopClient) (name : String) : LoopClient :=
  let (first, sockets) := c.sockets.pair
  let next := { c with sockets, pairs := (name, first) :: c.pairs }
  match c.pairs.lookup name with
  | some old => next.closePair old
  | none => next

/-- Writes `n` bytes at an end of a pair. -/
def write (c : LoopClient) (pair : String) (side n : Nat) : LoopClient :=
  { c with sockets := c.sockets.write (c.descriptor pair side) n }

/-- Takes all bytes that wait at an end of a pair. -/
def read (c : LoopClient) (pair : String) (side : Nat) : Nat × LoopClient :=
  let (n, sockets) := c.sockets.read (c.descriptor pair side)
  (n, { c with sockets })

/-- A new watch under a name; a refused one gets no name. -/
def addWatch (c : LoopClient) (name pair : String) (side : Nat) (mask : Mask) (consumes : Bool) :
    Except Trap (Except Fault WatchId × LoopClient) := do
  match ← c.loop.addWatch (c.descriptor pair side) mask with
  | (.ok id, loop) => return (.ok id, { c with loop, watches := ⟨name, id, consumes⟩ :: c.watches })
  | (.error e, loop) => return (.error e, { c with loop })

/-- The host refuses to register a descriptor that is closed. -/
def refusing (c : LoopClient) (id : WatchId) : EventLoop SourceHost :=
  let closed := (c.loop.watch? id).any fun w => c.sockets.isClosed w.fd
  { c.loop with host := c.loop.host.refusing closed }

/-- Changes what a watch waits for. -/
def updateWatch (c : LoopClient) (name : String) (mask : Mask) : Except Fault Unit × LoopClient :=
  let (answer, loop) := (c.refusing (c.watch name)).updateWatch (c.watch name) mask
  (answer, { c with loop := { loop with host := loop.host.refusing false } })

/-- Stops a watch. -/
def removeWatch (c : LoopClient) (name : String) : LoopClient :=
  { c with loop := c.loop.removeWatch (c.watch name) }

/-- The name that a timer was given. -/
def timerName (c : LoopClient) (id : TimerId) : String :=
  ((c.timers.find? (·.id = id)).map (·.name)).getD ""

/-- The name that a watch was given. -/
def watchName (c : LoopClient) (id : WatchId) : String :=
  ((c.watches.find? (·.id = id)).map (·.name)).getD ""

/-- One dispatch: the watches first, then the timers. -/
def dispatch (c : LoopClient) : Round × LoopClient :=
  let consumes (id : WatchId) : Bool := c.watches.any fun w => w.id = id && w.consumes
  let (seen, sockets) := c.loop.dispatchWatches c.sockets consumes
  let (firings, loop) := c.loop.dispatchTimers
  ({ fired := firings.map fun f => (c.timerName f.timer, f.faults)
     seen := seen.map fun s => (c.watchName s.watch, s) },
    { c with loop, sockets })

end LoopClient

end RemoteDisplay
