import RemoteDisplay.Config.Settings
import RemoteDisplay.Frame.Renderer
import RemoteDisplay.Output.Timers
import RemoteDisplay.Session.Painting

/-!
# The repaint cycle of an output

An output is idle, waits for a repaint, repaints, or awaits the wakeup after one. A repaint sends
the extents of the damage as one image and then starts the wakeup timer, whether the image found
room or not. When the timer cannot be started the output is idle again. A fatal fault while sending
ends the repaint before the timer is started.
-/

namespace RemoteDisplay

/-- Where an output lies and how large it is. -/
structure Geometry where
  x : Int32
  y : Int32
  width : UInt32
  height : UInt32
  deriving DecidableEq, Repr, Inhabited

/-- The output's own area, with its origin at zero. -/
def Geometry.bounds (g : Geometry) : Region := ⟨0, 0, g.width, g.height⟩

/-- The geometry that the settings ask for. -/
def OutputSettings.geometry (s : OutputSettings) : Geometry := ⟨s.x, s.y, s.width, s.height⟩

/-- Where in its cycle an output is. -/
inductive OutputState where
  | idle
  | repaintScheduled
  | repainting
  | awaitingWakeup
  deriving DecidableEq, Repr, Inhabited

def OutputState.name : OutputState → String
  | idle => "Idle"
  | repaintScheduled => "RepaintScheduled"
  | repainting => "Repainting"
  | awaitingWakeup => "AwaitingWakeup"

/-- What became of a repaint. -/
inductive RepaintOutcome where
  /-- The image is queued. -/
  | sent (image : ImageId)
  /-- Nothing was damaged. -/
  | skipped
  /-- The image could not be sent this time. -/
  | dropped (reason : Fault)
  /-- The output was not waiting for a repaint. -/
  | notScheduled
  deriving DecidableEq, Repr

/-- The counters of an output. -/
structure OutputStats where
  sent : UInt64 := 0
  skipped : UInt64 := 0
  dropped : UInt64 := 0
  wakeups : UInt64 := 0
  /-- Repaints whose wakeup timer could not be started. -/
  wakeupsMissed : UInt64 := 0
  deriving DecidableEq, Repr, Inhabited

/-- One output of the compositor. -/
structure Output where
  id : OutputId
  geometry : Geometry
  surface : SurfaceId
  timer : TimerId
  /-- The time from a repaint to its wakeup, in milliseconds. -/
  interval : UInt32
  state : OutputState := .idle
  /-- The number of images dropped since the last one sent. -/
  dropStreak : UInt32 := 0
  stats : OutputStats := {}
  deriving DecidableEq, Repr

/-- What a repaint works on. -/
structure Stage (ρ : Type) where
  renderer : ρ
  session : Session
  timers : TimerHost

def Fault.rendererMismatch (f : Frame) (g : Geometry) (id : OutputId) : Fault :=
  .invalidGeometry s!"renderer produced {f.width}x{f.height} for {g.width}x{g.height} {id.label}"

namespace Output

/-- An idle output starts to wait for a repaint; the answer says whether it did. -/
def requestRepaint (o : Output) : Bool × Output :=
  match o.state with
  | .idle => (true, { o with state := .repaintScheduled })
  | _ => (false, o)

/-- The wakeup after a repaint: the output waits for the next repaint. The answer says whether a
wakeup was due. -/
def wakeup (o : Output) : Except Trap (Bool × Output) :=
  match o.state with
  | .awaitingWakeup => do
    let wakeups ← Checked.next64 o.stats.wakeups
    return (true, { o with state := .repaintScheduled, stats := { o.stats with wakeups } })
  | _ => return (false, o)

variable {ρ : Type} [Renderer ρ]

/-- Sends the part of a frame inside `extents`. The hold on the frame ends with the call, the one
on its view is the command's. -/
def sendFrame (o : Output) (s : Session) (f : Frame) (damage : Damage) (extents : Region) :
    Except Trap (Except Fault ImageId × Session) :=
  if f.width ≠ o.geometry.width ∨ f.height ≠ o.geometry.height then
    return (.error (.rendererMismatch f o.geometry o.id), s.drop f)
  else
    match f.view extents with
    | .error e => return (.error e, s.drop f)
    | .ok v => do
      let (answer, s) ← Session.paintImage { s with store := s.store.share v } 0 o.surface
        extents.x extents.y extents.width extents.height v v.stride damage
      return (answer, s.drop f)

/-- Renders the output and sends the part inside `extents`. -/
def blit (o : Output) (st : Stage ρ) (damage : Damage) (extents : Region) :
    Except Trap (Except Fault ImageId × Stage ρ) := do
  let (frame, renderer, store) ← Renderer.repaint st.renderer st.session.store o.id damage
  let session := { st.session with store }
  match frame with
  | .error e => return (.error e, { st with renderer, session })
  | .ok f =>
    let (answer, session) ← o.sendFrame session f damage extents
    return (answer, { st with renderer, session })

/-- Counts a dropped image. -/
def noteDrop (o : Output) : Except Trap Output := do
  let dropped ← Checked.next64 o.stats.dropped
  let dropStreak ← Checked.next32 o.dropStreak
  return { o with dropStreak, stats := { o.stats with dropped } }

/-- The sending half of a repaint: skips it, sends it, or drops it. A fatal fault is an error. -/
def send (o : Output) (st : Stage ρ) (damage : Damage) :
    Except Trap (Except Fault RepaintOutcome × Output × Stage ρ) :=
  match damage.extents with
  | none => do
    let skipped ← Checked.next64 o.stats.skipped
    return (.ok .skipped, { o with stats := { o.stats with skipped } }, st)
  | some extents => do
    let (answer, st) ← o.blit st damage extents
    match answer with
    | .ok image =>
      let sent ← Checked.next64 o.stats.sent
      return (.ok (.sent image), { o with dropStreak := 0, stats := { o.stats with sent } }, st)
    | .error e =>
      if e.isFatal then return (.error e, o, st)
      else
        let o ← o.noteDrop
        return (.ok (.dropped e), o, st)

/-- The waiting half of a repaint: starts the wakeup timer, or leaves the output idle. -/
def awaitWakeup (o : Output) (st : Stage ρ) (outcome : RepaintOutcome) :
    Except Trap (Except Fault RepaintOutcome × Output × Stage ρ) :=
  match st.timers.start o.timer o.interval with
  | (.ok (), timers) => return (.ok outcome, { o with state := .awaitingWakeup }, { st with timers })
  | (.error e, timers) =>
    let o := { o with state := .idle }
    if e.isFatal then return (.error e, o, { st with timers })
    else do
      let wakeupsMissed ← Checked.next64 o.stats.wakeupsMissed
      return (.ok outcome, { o with stats := { o.stats with wakeupsMissed } }, { st with timers })

/-- A repaint, if the output waits for one. -/
def repaint (o : Output) (st : Stage ρ) (damage : Damage) :
    Except Trap (Except Fault RepaintOutcome × Output × Stage ρ) :=
  if o.state ≠ .repaintScheduled then return (.ok .notScheduled, o, st)
  else do
    let (answer, o, st) ← send { o with state := .repainting } st (damage.clipped o.geometry.bounds)
    match answer with
    | .error e => return (.error e, o, st)
    | .ok outcome => o.awaitWakeup st outcome

/-- The end of an output: its timer is stopped and removed, the commands queued for its surface are
released in order, and the surface is forgotten. -/
def destroy (o : Output) (s : Session) (timers : TimerHost) :
    Except Fault (List Notice) × Session × TimerHost :=
  let timers := (timers.cancel o.timer).remove o.timer
  let (queued, s) := s.drainSurface o.surface
  let (notices, s) := s.releaseEach queued .teardown
  match s.destroySurface o.surface with
  | (.ok (), s) => (.ok notices, s, timers)
  | (.error e, s) => (.error e, s, timers)

/-- The output with its main fields named, for diagnostics. -/
def debug (o : Output) : String :=
  let t := o.stats
  let stats := s!"OutputStats \x7b frames_sent: {t.sent}, frames_skipped: {t.skipped}, frames_dropped: {t.dropped}, wakeups: {t.wakeups}, wakeups_missed: {t.wakeupsMissed} \x7d"
  s!"OutputLoop \x7b id: {o.id.debug}, surface_id: {o.surface.debug}, state: {o.state.name}, stats: {stats} \x7d"

end Output

end RemoteDisplay
