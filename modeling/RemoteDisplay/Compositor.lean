import RemoteDisplay.Bridge

/-!
# The test compositor

A compositor with one output that shows the moving pattern, bridged to a loopback server. The first
frame damages the whole output, each later one a band that moves down and starts again at the top.
-/

namespace RemoteDisplay

/-- A running test compositor. -/
structure Compositor where
  bridge : Bridge PatternRenderer
  geometry : Geometry
  output : OutputId
  /-- The number of images sent. -/
  sent : UInt64 := 0
  /-- The number of repaints, as far as a word can count. -/
  tick : UInt32 := 0

namespace Compositor

/-- The height of the band: an eighth of the output, but at least a row. -/
def bandHeight (g : Geometry) : UInt32 := max (g.height / 8) 1

/-- The damage of a repaint. -/
def damageAt (g : Geometry) (tick : UInt32) : Damage :=
  if tick = 0 then .full g.width g.height
  else
    let top := (tick * bandHeight g) % g.height
    Damage.empty.add ⟨0, top.toInt32, g.width, bandHeight g⟩

/-- Starts the bridge and its server and makes the output. -/
def start (settings : Settings) : Except Trap (Except Fault Compositor) := do
  let geometry := settings.output.geometry
  let renderer : PatternRenderer := { width := geometry.width, height := geometry.height }
  match ← Bridge.ofSettings settings renderer with
  | .error e => return .error e
  | .ok bridge =>
    match ← bridge.startServer with
    | .error e => return .error e
    | .ok bridge =>
      match ← bridge.backend.createOutput geometry with
      | (.error e, _) => return .error e
      | (.ok output, backend) =>
        return .ok { bridge := ← Bridge.serve { bridge with backend }, geometry, output }

/-- Repaints one output. Only a fatal fault ends the compositor. -/
def repaint (c : Compositor) (id : OutputId) : Except Trap (Except Fault Compositor) := do
  let (answer, backend) ← c.bridge.backend.repaintOutput id (damageAt c.geometry c.tick)
  let c := { c with bridge := { c.bridge with backend }, tick := c.tick + 1 }
  match answer with
  | .ok (.sent _) => return .ok { c with sent := ← Checked.next64 c.sent }
  | .ok _ => return .ok c
  | .error e => return if e.isFatal then .error e else .ok c

/-- Repaints outputs one after the other. -/
def repaintEach (c : Compositor) : List OutputId → Except Trap (Except Fault Compositor)
  | [] => return .ok c
  | id :: ids => do
    match ← c.repaint id with
    | .error e => return .error e
    | .ok c => c.repaintEach ids

/-- Repaints the outputs that wait for it. -/
def pass (c : Compositor) : Except Trap (Except Fault Compositor) := do
  let backend := c.bridge.backend
  let (ids, queue) := backend.queue.takePending
  match ← repaintEach { c with bridge := { c.bridge with backend := { backend with queue } } } ids with
  | .error e => return .error e
  | .ok c => return .ok { c with bridge := ← c.bridge.serve }

/-- The running timers expire. -/
def wake (c : Compositor) : Except Trap Compositor := do
  let backend ← c.bridge.backend.dispatch
  return { c with bridge := ← Bridge.serve { c.bridge with backend } }

/-- The compositor has sent as many images as asked for; zero asks for no end. -/
def isDone (c : Compositor) (frames : Nat) : Bool := frames > 0 && c.sent.toNat ≥ frames

/-- Runs until `frames` images are sent, for at most `fuel` passes. -/
def run (c : Compositor) (frames : Nat) : (fuel : Nat) → Except Trap (Except Fault Compositor)
  | 0 => return .ok c
  | fuel + 1 => do
    match ← c.pass with
    | .error e => return .error e
    | .ok c => if c.isDone frames then return .ok c else (← c.wake).run frames fuel

end Compositor

end RemoteDisplay
