import RemoteDisplay.Session.Basic

/-!
# The server's side of a session

A server attaches one worker, takes commands off the ring and gives drawables back by their release
id. Surfaces are announced to the worker on the way and never reach the server as commands. After
`Session.shutdown` the session is closed: nothing is taken any more.
-/

namespace RemoteDisplay

namespace Fault

def secondWorker : Fault := .protocolViolation "attach_worker called more than once"

def surfaceBeforeWorker : Fault := .protocolViolation "surface announced before a worker was attached"

def foreignGroup (group : UInt32) : Fault :=
  .protocolViolation s!"release for memslot group {group} (only group {Wire.memorySlotGroup} exists)"

end Fault

/-- What the device tells the server about itself. -/
structure DeviceInfo where
  slotGroups : UInt32
  slots : UInt32
  generationBits : UInt8
  slotBits : UInt8
  ramSize : UInt32
  internalSlot : UInt8
  surfaces : UInt32
  deriving DecidableEq, Repr

/-- Puts a command into a list sorted by release id, in place of one with the same id. -/
def insertHeld (c : Command) : List Command → Option Command × List Command
  | [] => (none, [c])
  | d :: ds =>
    if c.id.raw < d.id.raw then (none, c :: d :: ds)
    else if c.id = d.id then (some d, c :: ds)
    else
      let (previous, ds) := insertHeld c ds
      (previous, d :: ds)

namespace Session

/-- Attaches the worker and registers the memory slot with it; there is only one worker. -/
def attachWorker (s : Session) (name : Nat) : Except Fault Unit × Session :=
  match s.server.worker with
  | some _ => (.error .secondWorker, s)
  | none =>
    let s := { s with server.worker := some name }
    (.ok (), s.call (.addMemorySlot .identity))

/-- The server's clock moves. -/
def setClock (s : Session) (time : UInt32) : Session := { s with clock := time }

def setCompression (s : Session) (level : Int32) : Session :=
  { s with server.compression := level }

/-- The device's parameters: one memory slot in one group, and as many surfaces as the table has
room for. -/
def deviceInfo (s : Session) : DeviceInfo where
  slotGroups := 1
  slots := 1
  generationBits := 1
  slotBits := 1
  ramSize := 0
  internalSlot := 0
  surfaces := s.server.surfaceLimit

/-- A drawable goes to the server. If the server already holds one with this release id, that one
is released as rejected. -/
def handOff (s : Session) (c : Command) : Session :=
  let (previous, held) := insertHeld c s.server.held
  let s := { s with server.held := held, server.dispatched := s.server.dispatched + 1 }
  match previous with
  | some d => s.release d .rejected
  | none => s

/-- Takes up to `n` commands off the ring until one is a drawable. Surfaces are announced to the
worker; without one the announcement is rejected. -/
def fetch (s : Session) : (n : Nat) → Except Fault (Option Dispatched) × Session
  | 0 => (.ok none, s)
  | n + 1 =>
    match s.dequeue with
    | (none, s) => (.ok none, s)
    | (some c, s) =>
      match c.record? with
      | none => (.ok (some c.dispatched), s.handOff c)
      | some record =>
        if s.server.worker.isNone then (.error .surfaceBeforeWorker, s.release c .rejected)
        else ((s.call (.createSurface c.surface record)).release c .delivered).fetch n

/-- The next drawable for the server, if there is one and the session is open. -/
def nextCommand (s : Session) : Except Fault (Option Dispatched) × Session :=
  if s.server.closed then (.ok none, s) else s.fetch s.ring.length

/-- The command that the server holds under a release id. -/
def heldCommand? (s : Session) (id : ReleaseId) : Option Command :=
  s.server.held.find? (·.id = id)

/-- The server gives a drawable back. -/
def giveBack (s : Session) (id : ReleaseId) (group : UInt32) : Except Fault Notice × Session :=
  if group ≠ Wire.memorySlotGroup then (.error (.foreignGroup group), s)
  else
    match s.heldCommand? id with
    | none => (.error (.unknownRelease id.raw), s)
    | some c =>
      let s := { s with server.held := s.server.held.filter (·.id ≠ id) }
      (.ok (c.notice .server), s.release c .server)

/-- Releases everything that the server holds, by release id. -/
def releaseAll (s : Session) (reason : ReleaseReason) : List Notice × Session :=
  releaseEach { s with server.held := [] } s.server.held reason

/-- Stops the worker, closes the session and releases everything: the queued commands in order, then
those that the server holds, by release id. -/
def shutdown (s : Session) : List Notice × Session :=
  let s := s.callAttached .stop
  let (queued, s) := drain { s with server.closed := true }
  let (first, s) := s.releaseEach queued .shutdown
  let (second, s) := s.releaseAll .shutdown
  (first ++ second, s)

end Session

end RemoteDisplay
