import RemoteDisplay.Output.Cycle
import RemoteDisplay.Output.Schedule
import RemoteDisplay.Session.Debug

/-!
# The backend of a compositor

A `Backend` owns a session, a renderer, the host's timers, the compositor's schedule and the
outputs. Every output has its own surface and its own wakeup timer; output numbers, like surface
numbers, are never used again.
-/

namespace RemoteDisplay

namespace Fault

def outputSize (g : Geometry) : Fault :=
  .invalidGeometry s!"output of {g.width}x{g.height} (limit {maxOutputWidth}x{maxOutputHeight})"

def requestForUnknown (id : OutputId) : Fault :=
  .protocolViolation s!"repaint request for unknown {id.label}"

def repaintOfUnknown (id : OutputId) : Fault := .protocolViolation s!"repaint of unknown {id.label}"

def destroyOfUnknownOutput (id : OutputId) : Fault :=
  .protocolViolation s!"destroy of unknown {id.label}"

end Fault

/-- A session for the display settings, with one builder and one ledger. -/
def Session.ofSettings (d : DisplaySettings) (extraSkews : List UInt32) :
    Except Trap (Except Fault Session) :=
  match d.validate with
  | .error e => return .error e
  | .ok () => do
    let s ← Session.new d.ringCapacity.toNat d.enqueueAttempts.toNat d.surfaceCapacity.toNat
      (d.clockSkew :: extraSkews)
    return .ok s

/-- Everything that a compositor drives. -/
structure Backend (ρ : Type) where
  settings : Settings
  session : Session
  renderer : ρ
  timers : TimerHost := {}
  queue : RepaintQueue := {}
  /-- The outputs, by number. -/
  outputs : List Output := []
  nextOutput : UInt32 := 0

namespace Backend

variable {ρ : Type}

/-- A backend without outputs; the session learns the compression mode. -/
def new (settings : Settings) (session : Session) (renderer : ρ) : Except Fault (Backend ρ) := do
  settings.validate
  let level := settings.server.compression.number.toInt32
  return { settings, session := { session with server.compression := level }, renderer }

/-- The output of a number. -/
def output? (b : Backend ρ) (id : OutputId) : Option Output := b.outputs.find? (·.id = id)

/-- Puts an output in place of the one with its number. -/
def setOutput (b : Backend ρ) (o : Output) : Backend ρ :=
  { b with outputs := b.outputs.map fun x => if x.id = o.id then o else x }

/-- Starts the cycle of an output that is idle: the compositor is asked for a repaint. -/
def startCycle (b : Backend ρ) (o : Output) : Bool × Output × RepaintQueue :=
  match o.requestRepaint with
  | (true, o) => (true, o, b.queue.schedule o.id)
  | (false, o) => (false, o, b.queue)

/-- Takes back a surface whose output could not be made. -/
def rollBack (s : Session) (surface : SurfaceId) (cause : Fault) : Fault × Session :=
  let (queued, s) := s.drainSurface surface
  let (_, s) := s.releaseEach queued .teardown
  match s.destroySurface surface with
  | (.ok (), s) => (cause, s)
  | (.error e, s) => (e, s)

/-- Makes an output: announces its surface, paints the background as far as there is room, registers
its timer, starts the worker and asks for the first repaint. -/
def createOutput (b : Backend ρ) (g : Geometry) :
    Except Trap (Except Fault OutputId × Backend ρ) :=
  if g.width = 0 ∨ g.height = 0 ∨ g.width > maxOutputWidth ∨ g.height > maxOutputHeight then
    return (.error (.outputSize g), b)
  else do
    match ← Backing.allocate b.session.store.refuses g.width g.height with
    | .error e => return (.error e, b)
    | .ok backing =>
      match ← b.session.createSurface g.width g.height backing with
      | (.error e, session) => return (.error e, { b with session })
      | (.ok surface, session) =>
        match b.settings.display.backgroundColour with
        | .error e => return (.error e, { b with session })
        | .ok background =>
          let (_, session) := session.fillRect 0 surface background 0 0 g.width g.height
          let id : OutputId := ⟨b.nextOutput⟩
          match b.timers.add id with
          | (.error e, timers) =>
            let (e, session) := rollBack session surface e
            return (.error e, { b with session, timers })
          | (.ok timer, timers) =>
            let nextOutput ← Checked.next32 b.nextOutput
            let session := session.callAttached .start
            let output : Output :=
              { id, geometry := g, surface, timer, interval := b.settings.display.wakeupInterval }
            let (_, output, queue) := b.startCycle output
            return (.ok id,
              { b with session, timers, queue, nextOutput, outputs := b.outputs ++ [output] })

/-- Asks for a repaint of an output; the answer says whether it was idle. -/
def requestRepaint (b : Backend ρ) (id : OutputId) : Except Fault Bool × Backend ρ :=
  match b.output? id with
  | none => (.error (.requestForUnknown id), b)
  | some o =>
    let (started, o, queue) := b.startCycle o
    (.ok started, setOutput { b with queue } o)

/-- Repaints an output. If its timer could not be started the next repaint is asked for at once. -/
def repaintOutput [Renderer ρ] (b : Backend ρ) (id : OutputId) (damage : Damage) :
    Except Trap (Except Fault RepaintOutcome × Backend ρ) :=
  match b.output? id with
  | none => return (.error (.repaintOfUnknown id), b)
  | some o => do
    let (answer, o, ⟨renderer, session, timers⟩) ← o.repaint ⟨b.renderer, b.session, b.timers⟩ damage
    let b := { b with renderer, session, timers }
    match answer with
    | .error e => return (.error e, b.setOutput o)
    | .ok outcome =>
      let (_, o, queue) := b.startCycle o
      return (.ok outcome, setOutput { b with queue } o)

/-- The wakeup timer of an output expired. The worker is told in any case. -/
def onWakeup (b : Backend ρ) (id : OutputId) : Except Trap (Backend ρ) :=
  let b := { b with session := b.session.callAttached .wakeup }
  match b.output? id with
  | none => return b
  | some o => do
    match ← o.wakeup with
    | (true, o) => return setOutput { b with queue := (b.queue.finishFrame id).schedule id } o
    | (false, o) => return b.setOutput o

/-- The output of a registered timer wakes up. -/
def wakeOwner (b : Backend ρ) (timer : TimerId) : Except Trap (Backend ρ) :=
  match b.timers.owner? timer with
  | none => return b
  | some id => b.onWakeup id

/-- A timer expires: it stops, and its output wakes up. -/
def expire (b : Backend ρ) (timer : TimerId) : Except Trap (Backend ρ) :=
  wakeOwner { b with timers := b.timers.disarm timer } timer

/-- All running timers expire, in the order in which they were started. -/
def dispatch (b : Backend ρ) : Except Trap (Backend ρ) := (b.timers.armed.map (·.1)).foldlM expire b

/-- Destroys an output. -/
def destroyOutput (b : Backend ρ) (id : OutputId) : Except Fault (List Notice) × Backend ρ :=
  match b.output? id with
  | none => (.error (.destroyOfUnknownOutput id), b)
  | some o =>
    let (answer, session, timers) := o.destroy b.session b.timers
    (answer, { b with session, timers, outputs := b.outputs.filter (·.id ≠ id) })

/-- Destroys outputs one after the other, up to the first fault. -/
def destroyEach (b : Backend ρ) : List OutputId → Except Fault (List Notice) × Backend ρ
  | [] => (.ok [], b)
  | id :: ids =>
    match b.destroyOutput id with
    | (.error e, b) => (.error e, b)
    | (.ok first, b) =>
      match b.destroyEach ids with
      | (.error e, b) => (.error e, b)
      | (.ok rest, b) => (.ok (first ++ rest), b)

/-- Destroys all outputs and ends the session. -/
def shutdown (b : Backend ρ) : Except Fault (List Notice) × Backend ρ :=
  match b.destroyEach (b.outputs.map (·.id)) with
  | (.error e, b) => (.error e, b)
  | (.ok first, b) =>
    let (rest, session) := b.session.shutdown
    (.ok (first ++ rest), { b with session })

/-- The backend with its main fields named, for diagnostics. -/
def debug (b : Backend ρ) : String :=
  let outputs := ", ".intercalate (b.outputs.map fun o => s!"{o.id.debug}: {o.debug}")
  s!"QxlBackend \x7b display: {b.session.displayDebug}, facade: {b.session.serverDebug}, outputs: \x7b{outputs}\x7d \x7d"

end Backend

end RemoteDisplay
