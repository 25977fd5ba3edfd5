import RemoteDisplay.Frame.Renderer
import RemoteDisplay.Frame.Shelf
import RemoteDisplay.Session.Basic

/-!
# Clients

A client of a session renders frames, cuts views out of them and holds commands, each under a name.
All of them count as holders of the session's pixel memory.
-/

namespace RemoteDisplay

/-- A session and what its client holds. -/
structure Client where
  session : Session
  renderer : PatternRenderer
  frames : Shelf Frame := {}
  views : Shelf View := {}
  commands : Shelf Command := {}

namespace Client

/-- The pixel memory of the session. -/
def store (c : Client) : PixelStore := c.session.store

/-- The client with other pixel memory. -/
def withStore (c : Client) (store : PixelStore) : Client := { c with session.store := store }

/-- Keeps a frame in place of the one under the name. -/
def keepFrame (c : Client) (name : String) (f : Frame) : Client :=
  let (frames, store) := c.frames.put c.store name f
  { c.withStore store with frames }

/-- Keeps a view in place of the one under the name. -/
def keepView (c : Client) (name : String) (v : View) : Client :=
  let (views, store) := c.views.put c.store name v
  { c.withStore store with views }

/-- Keeps a command in place of the one under the name. -/
def keepCommand (c : Client) (name : String) (x : Command) : Client :=
  let (commands, store) := c.commands.put c.store name x
  { c.withStore store with commands }

/-- Gives up a frame; the answer says whether there was one. -/
def dropFrame (c : Client) (name : String) : Bool × Client :=
  let (found, frames, store) := c.frames.drop c.store name
  (found, { c.withStore store with frames })

/-- Gives up a view; the answer says whether there was one. -/
def dropView (c : Client) (name : String) : Bool × Client :=
  let (found, views, store) := c.views.drop c.store name
  (found, { c.withStore store with views })

/-- Gives up a command; the answer says whether there was one. -/
def dropCommand (c : Client) (name : String) : Bool × Client :=
  let (found, commands, store) := c.commands.drop c.store name
  (found, { c.withStore store with commands })

/-- Keeps a second handle on a frame. -/
def cloneFrame (c : Client) (source target : String) : Client :=
  match c.frames.get? source with
  | some f => (c.withStore (c.store.share f)).keepFrame target f
  | none => c

/-- Cuts a view out of a frame and keeps it. -/
def cutView (c : Client) (source target : String) (r : Region) :
    Option (Except Fault View) × Client :=
  match c.frames.get? source with
  | none => (none, c)
  | some f =>
    match f.view r with
    | .error e => (some (.error e), c)
    | .ok v => (some (.ok v), (c.withStore (c.store.share v)).keepView target v)

/-- A second handle on a view. -/
def shareView (c : Client) (name : String) : Option View × Client :=
  match c.views.get? name with
  | some v => (some v, c.withStore (c.store.share v))
  | none => (none, c)

/-- Takes a command away from its name. -/
def takeCommand (c : Client) (name : String) : Option Command × Client :=
  match c.commands.take? name with
  | some (x, commands) => (some x, { c with commands })
  | none => (none, c)

/-- Colours a pixel of a frame. -/
def putPixel (c : Client) (name : String) (x y colour : UInt32) :
    Except Trap (Option Frame × Client) :=
  match c.frames.get? name with
  | none => return (none, c)
  | some f => do
    let (f, store) ← f.put c.store x y colour
    return (some f, { c.withStore store with frames := c.frames.insert name f })

/-- Renders an output and keeps its frame. -/
def render (c : Client) (output : OutputId) (damage : Damage) (name : String) :
    Except Trap (Except Fault Frame × Client) := do
  let (answer, renderer, store) ← c.renderer.repaint c.store output damage
  let c := { c.withStore store with renderer }
  match answer with
  | .error e => return (.error e, c)
  | .ok f => return (.ok f, c.keepFrame name f)

/-- Keeps a new black frame, painted with a step of the pattern if one is given. -/
def newFrame (c : Client) (name : String) (width height : UInt32) (tick : Option UInt32) :
    Except Trap (Except Fault Frame × Client) :=
  match Frame.new c.store width height with
  | .error e => return (.error e, c)
  | .ok (f, store) => do
    let (f, store) ←
      match tick with
      | some t => PatternRenderer.paint f store t (.full width height)
      | none => .ok (f, store)
    return (.ok f, (c.withStore store).keepFrame name f)

/-- Keeps a frame over given bytes. -/
def frameOfBytes (c : Client) (name : String) (width height stride : UInt32) (bytes : ByteArray) :
    Except Fault Frame × Client :=
  match Frame.ofBytes c.store width height stride bytes with
  | .error e => (.error e, c)
  | .ok (f, store) => (.ok f, (c.withStore store).keepFrame name f)

end Client

end RemoteDisplay
