import RemoteDisplay.Ring
import RemoteDisplay.Session.Command
import RemoteDisplay.Session.Surface

/-!
# Sessions

A `Session` is everything that the display side and the server side of one remote display share: the
pixel memory, the ring of queued commands, the ledgers that issue release ids, the builders of
drawables, the live surfaces and what the server holds. Queued commands, notices of releases and
calls on the worker are recorded in order.

A command is always in one place: with its caller, on the ring, held by the server, or released.
`Session.release` is the only way out that counts; it gives up the command's view, counts the release
in the command's own ledger and records the notice.
-/

namespace RemoteDisplay

/-- Issues release ids, and counts the releases of what it issued them for. -/
structure Ledger where
  next : UInt64 := 1
  released : UInt64 := 0
  deriving DecidableEq, Repr, Inhabited

/-- Builds drawables: it numbers images, sets drawing times back by `skew` and takes release ids
from a ledger. -/
structure Builder where
  nextImage : UInt32 := 1
  skew : UInt32 := 0
  ledger : Nat := 0
  deriving DecidableEq, Repr, Inhabited

/-- What the session tells the server's worker. -/
inductive WorkerCall where
  | addMemorySlot (slot : Wire.MemorySlot)
  | createSurface (id : SurfaceId) (record : Wire.SurfaceRecord)
  | start
  | stop
  | wakeup
  deriving DecidableEq, Repr

/-- The server's half of a session. -/
structure ServerSide where
  /-- The name of the attached worker. -/
  worker : Option Nat := none
  closed : Bool := false
  compression : Int32 := 0
  surfaceLimit : UInt32
  /-- The number of drawables that the server has taken. -/
  dispatched : UInt64 := 0
  /-- The commands that the server holds, by release id. -/
  held : List Command := []

/-- The shared state of one remote display. -/
structure Session where
  store : PixelStore := {}
  ring : Ring Command
  /-- How often a command is tried again when the ring is full. -/
  retries : Nat
  /-- The first ledger is the one that the server releases against. -/
  ledgers : Array Ledger
  builders : Array Builder
  /-- The server's clock, in milliseconds. -/
  clock : UInt32 := 0
  surfaces : SurfaceTable
  server : ServerSide
  /-- Every command that the ring took, in order. -/
  accepted : Array Command := #[]
  notices : Array Notice := #[]
  calls : Array WorkerCall := #[]

namespace Fault

def ringFull (capacity : Nat) : Fault := .capacityExceeded "command ring" capacity

end Fault

namespace Session

/-- A session with one builder and one ledger for each of the given clock skews. -/
def ofRing (ring : Ring Command) (retries surfaceCapacity : Nat) (skews : List UInt32) :
    Session where
  ring
  retries
  ledgers := (skews.map fun _ => ({} : Ledger)).toArray
  builders := (skews.zipIdx.map fun (skew, ledger) => ({ skew, ledger } : Builder)).toArray
  surfaces := { capacity := surfaceCapacity }
  server := { surfaceLimit := UInt32.ofNat (min surfaceCapacity 4294967295) }

/-- The size of a slot of the ring, in bytes. -/
def slotSize : Nat := 64

/-- A session with a ring of its own. The cursors of the ring have to fit into words and its slots
into memory. -/
def new (ringCapacity retries surfaceCapacity : Nat) (skews : List UInt32) :
    Except Trap Session := do
  let capacity := max ringCapacity 1
  let _ ← Checked.u64 .multiplyOverflow (2 * capacity)
  Checked.items capacity slotSize
  return .ofRing (.ofCapacity capacity 0) retries surfaceCapacity skews

/-- A ledger of the session. -/
def ledger (s : Session) (i : Nat) : Ledger := (s.ledgers[i]?).getD {}

/-- A builder of the session. -/
def builder (s : Session) (i : Nat) : Builder := (s.builders[i]?).getD {}

/-- The number of commands that the server holds. -/
def inFlight (s : Session) : Nat := s.server.held.length

/-- Takes the next release id of a ledger. -/
def issue (s : Session) (ledger : Nat) : Ticket × Session :=
  ({ ledger, id := ⟨(s.ledger ledger).next⟩ },
    { s with ledgers := s.ledgers.modify ledger fun l => { l with next := l.next + 1 } })

/-- Records a call on the worker. -/
def call (s : Session) (c : WorkerCall) : Session := { s with calls := s.calls.push c }

/-- Records a call on the worker, if one is attached. -/
def callAttached (s : Session) (c : WorkerCall) : Session :=
  if s.server.worker.isSome then s.call c else s

/-- Gives up a value and its hold on pixels. -/
def drop {α : Type} [Holder α] (s : Session) (a : α) : Session :=
  { s with store := s.store.giveUp a }

/-- Releases a command. -/
def release (s : Session) (c : Command) (reason : ReleaseReason) : Session :=
  let s := s.drop c
  { s with
    ledgers := s.ledgers.modify c.ticket.ledger fun l => { l with released := l.released + 1 }
    notices := s.notices.push (c.notice reason) }

/-- Releases commands one after the other and answers their notices. -/
def releaseEach (s : Session) (cs : List Command) (reason : ReleaseReason) : List Notice × Session :=
  (cs.map (·.notice reason), cs.foldl (fun s c => s.release c reason) s)

/-- Queues a command, with the session's number of retries; a full ring takes nothing. -/
def enqueue? (s : Session) (c : Command) : Option Session :=
  (s.ring.enqueue c s.retries).map fun ring => { s with ring, accepted := s.accepted.push c }

/-- Queues a command in one attempt. -/
def tryEnqueue? (s : Session) (c : Command) : Option Session :=
  (s.ring.push? c).map fun ring => { s with ring, accepted := s.accepted.push c }

/-- Takes the oldest queued command. -/
def dequeue (s : Session) : Option Command × Session :=
  let (c, ring) := s.ring.pop
  (c, { s with ring })

/-- Takes all queued commands. -/
def drain (s : Session) : List Command × Session :=
  let (cs, ring) := s.ring.drain
  (cs, { s with ring })

/-- Takes the queued commands for one surface. -/
def drainSurface (s : Session) (id : SurfaceId) : List Command × Session :=
  let (cs, ring) := s.ring.drainWhere (·.surface = id)
  (cs, { s with ring })

/-- Queues a command; one that the ring refuses is released as rejected. -/
def submit (s : Session) (c : Command) : Except Fault Unit × Session :=
  match s.enqueue? c with
  | some s => (.ok (), s)
  | none => (.error (.ringFull s.ring.capacity), s.release c .rejected)

/-- Announces a new primary surface over a backing of its size. The number is used up even when the
ring refuses the announcement. -/
def createSurface (s : Session) (width height : UInt32) (backing : Backing) :
    Except Trap (Except Fault SurfaceId × Session) :=
  if s.surfaces.live.length ≥ s.surfaces.capacity then
    return (.error (.surfaceLimit s.surfaces.capacity), s)
  else if backing.width ≠ width ∨ backing.height ≠ height then
    return (.error (.backingMismatch backing width height), s)
  else
    match s.surfaces.takeNumber with
    | (.error e, _) => return (.error e, s)
    | (.ok id, surfaces) => do
      let record ← Wire.SurfaceRecord.primary width height 0
      let (ticket, s) := issue { s with surfaces } 0
      let command : Command :=
        { surface := id, bbox := .ofOrigin 0 0 width height, payload := .surface record, ticket }
      match s.submit command with
      | (.error e, s) => return (.error e, s)
      | (.ok (), s) => return (.ok id, { s with surfaces := s.surfaces.insert ⟨id, backing⟩ })

/-- Forgets a surface. -/
def destroySurface (s : Session) (id : SurfaceId) : Except Fault Unit × Session :=
  match s.surfaces.destroy id with
  | .ok surfaces => (.ok (), { s with surfaces })
  | .error e => (.error e, s)

/-- Hands over the notices recorded so far. -/
def takeNotices (s : Session) : List Notice × Session :=
  (s.notices.toList, { s with notices := #[] })

/-- Hands over the calls on the worker recorded so far. -/
def takeCalls (s : Session) : List WorkerCall × Session := (s.calls.toList, { s with calls := #[] })

/-- Releases the queued commands one by one, at most `n` of them. -/
def releaseQueued (s : Session) : Nat → List Notice × Session
  | 0 => ([], s)
  | n + 1 =>
    match s.dequeue with
    | (none, s) => ([], s)
    | (some c, s) =>
      let (notices, s) := (s.release c .shutdown).releaseQueued n
      (c.notice .shutdown :: notices, s)

/-- The ring is thrown away, and what is still queued is released in order. -/
def discardRing (s : Session) : List Notice × Session := s.releaseQueued s.ring.length

/-- The list of held commands is thrown away, and they are released by release id. -/
def discardHeld (s : Session) : List Notice × Session :=
  releaseEach { s with server.held := [] } s.server.held .shutdown

/-- Everything is thrown away, the ring first. -/
def discard (s : Session) : List Notice × Session :=
  let (queued, s) := s.discardRing
  let (held, s) := s.discardHeld
  (queued ++ held, s)

end Session

end RemoteDisplay
