import RemoteDisplay.Session.Basic

/-!
# The loopback worker

The worker of the loopback server: it notes whether it runs and counts what it is told.
-/

namespace RemoteDisplay

/-- The counters of a loopback server. -/
structure LoopbackStats where
  commands : UInt64 := 0
  fills : UInt64 := 0
  blits : UInt64 := 0
  /-- The pixels of all blits. -/
  pixels : UInt64 := 0
  surfaces : UInt32 := 0
  slots : UInt32 := 0
  wakeups : UInt64 := 0
  deriving DecidableEq, Repr, Inhabited

/-- The state of a loopback worker. -/
structure LoopbackWorker where
  running : Bool := false
  stopped : Bool := false
  /-- There is work that the server has not looked at. -/
  pending : Bool := false
  stats : LoopbackStats := {}
  /-- The surfaces announced so far. -/
  surfaces : List (SurfaceId × Wire.SurfaceRecord) := []

namespace LoopbackWorker

/-- The worker is told something. -/
def receive (w : LoopbackWorker) : WorkerCall → Except Trap LoopbackWorker
  | .addMemorySlot _ => return { w with stats.slots := ← Checked.next32 w.stats.slots }
  | .createSurface id record =>
    return { w with
      stats.surfaces := ← Checked.next32 w.stats.surfaces
      surfaces := w.surfaces ++ [(id, record)] }
  | .start => return { w with running := true, pending := true }
  | .stop => return { w with running := false, stopped := true }
  | .wakeup => return { w with pending := true, stats.wakeups := ← Checked.next64 w.stats.wakeups }

end LoopbackWorker

end RemoteDisplay
