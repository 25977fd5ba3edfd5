import RemoteDisplay.Loopback.Worker
import RemoteDisplay.Session.Server

/-!
# The loopback server

A server in the same process, for running a bridge without viewers: it takes every command, counts
it and gives it back at once. `LoopbackServer.serve` is one pass over the ring.
-/

namespace RemoteDisplay

/-- A loopback server is known by its worker, which keeps the counters of both. -/
structure LoopbackServer where
  worker : LoopbackWorker := {}

namespace LoopbackServer

/-- The worker hears the calls that the session has recorded. -/
def listen (l : LoopbackServer) (s : Session) : Except Trap (LoopbackServer × Session) := do
  let (calls, s) := s.takeCalls
  return ({ worker := ← calls.foldlM LoopbackWorker.receive l.worker }, s)

/-- The pixels of a bounding box; a negative extent counts as none. -/
def area (bbox : Rect) : Except Trap Nat := do
  let width ← bbox.width
  let height ← bbox.height
  return width.toInt.toNat * height.toInt.toNat

/-- Counts a drawable. -/
def count (stats : LoopbackStats) (d : Dispatched) : Except Trap LoopbackStats := do
  let area ← area d.bbox
  let stats := { stats with commands := ← Checked.next64 stats.commands }
  match d.kind with
  | .drawCopy =>
    let blits ← Checked.next64 stats.blits
    let pixels ← Checked.u64 .addOverflow (stats.pixels.toNat + area)
    return { stats with blits, pixels }
  | .drawFill => return { stats with fills := ← Checked.next64 stats.fills }
  | .createSurface => return stats

/-- Attaches a fresh loopback worker and starts to serve. -/
def start (s : Session) (name : Nat) : Except Trap (Except Fault LoopbackServer × Session) :=
  match s.attachWorker name with
  | (.error e, s) => return (.error e, s)
  | (.ok (), s) => do
    let (l, s) ← listen {} s
    return (.ok l, s)

/-- Takes, counts and gives back up to `n` drawables. The server ends with the first fault. -/
def serveUpTo (l : LoopbackServer) (s : Session) : (n : Nat) →
    Except Trap (Except Fault Unit × LoopbackServer × Session)
  | 0 => return (.ok (), ← l.listen s)
  | n + 1 =>
    match s.nextCommand with
    | (.error e, s) => return (.error e, ← l.listen s)
    | (.ok none, s) => return (.ok (), ← l.listen s)
    | (.ok (some d), s) => do
      let stats ← count l.worker.stats d
      let l : LoopbackServer := { worker := { l.worker with stats } }
      let (_, s) := s.giveBack d.id Wire.memorySlotGroup
      serveUpTo l s n

/-- One pass of the server: everything on the ring is taken, counted and given back. -/
def serve (l : LoopbackServer) (s : Session) :
    Except Trap (Except Fault Unit × LoopbackServer × Session) :=
  serveUpTo l s (s.ring.length + 1)

end LoopbackServer

end RemoteDisplay
