import RemoteDisplay.Wire.Record
import RemoteDisplay.Frame.Basic
import RemoteDisplay.Identifier

/-!
# Commands

A command is one unit of work for the server: the announcement of a surface, an image to copy or an
area to fill. It carries its records, the pixels that its image shows, and a ticket: the ledger that
issued its release id and that counts its release. A command leaves a session by being released,
once, for a stated reason, and its notice says so.
-/

namespace RemoteDisplay

/-- What a command asks for. -/
inductive CommandKind where
  | createSurface
  | drawCopy
  | drawFill
  deriving DecidableEq, Repr, Inhabited

def CommandKind.name : CommandKind → String
  | createSurface => "CreateSurface"
  | drawCopy => "DrawCopy"
  | drawFill => "DrawFill"

/-- Why a command left the session. -/
inductive ReleaseReason where
  /-- The server gave it back. -/
  | server
  /-- A surface was announced to the worker. -/
  | delivered
  /-- It found no room, or nobody to go to. -/
  | rejected
  /-- Its output was torn down while it was queued. -/
  | teardown
  /-- The session ended. -/
  | shutdown
  deriving DecidableEq, Repr, Inhabited

def ReleaseReason.name : ReleaseReason → String
  | server => "Server"
  | delivered => "Delivered"
  | rejected => "Rejected"
  | teardown => "Teardown"
  | shutdown => "Shutdown"

/-- A release id and the ledger that it comes from. -/
structure Ticket where
  ledger : Nat
  id : ReleaseId
  deriving DecidableEq, Repr

/-- The report that a command was released, made to the ledger of its ticket. -/
structure Notice where
  ticket : Ticket
  kind : CommandKind
  surface : SurfaceId
  reason : ReleaseReason
  deriving DecidableEq, Repr

/-- The release id. -/
def Notice.id (n : Notice) : ReleaseId := n.ticket.id

/-- An image on its way to a surface. The view is held until the command is released. -/
structure Blit where
  drawable : Wire.Drawable
  image : Wire.Image
  imageId : ImageId
  /-- The damage for which the image was sent. -/
  damage : List Region
  pixels : View
  deriving DecidableEq, Repr

/-- What a command carries. -/
inductive Payload where
  | surface (record : Wire.SurfaceRecord)
  | copy (blit : Blit)
  | fill (drawable : Wire.Drawable)
  deriving DecidableEq, Repr

/-- One unit of work for the server. -/
structure Command where
  surface : SurfaceId
  bbox : Rect
  payload : Payload
  ticket : Ticket
  deriving DecidableEq, Repr

/-- What the server learns about a drawable that it takes. -/
structure Dispatched where
  entry : Wire.GroupedEntry
  kind : CommandKind
  surface : SurfaceId
  bbox : Rect
  id : ReleaseId
  deriving DecidableEq, Repr

namespace Command

def kind (c : Command) : CommandKind :=
  match c.payload with
  | .surface _ => .createSurface
  | .copy _ => .drawCopy
  | .fill _ => .drawFill

/-- The release id. -/
def id (c : Command) : ReleaseId := c.ticket.id

/-- The drawing order, unless the command announces a surface. -/
def drawable? (c : Command) : Option Wire.Drawable :=
  match c.payload with
  | .surface _ => none
  | .copy blit => some blit.drawable
  | .fill drawable => some drawable

/-- The image, if the command copies one. -/
def blit? (c : Command) : Option Blit :=
  match c.payload with
  | .copy blit => some blit
  | _ => none

/-- The announced surface. -/
def record? (c : Command) : Option Wire.SurfaceRecord :=
  match c.payload with
  | .surface record => some record
  | _ => none

/-- The queue entry of a drawable. -/
def entry? (c : Command) : Option Wire.GroupedEntry :=
  c.drawable?.map fun _ => .ofType Wire.GroupedEntry.drawType 0

/-- The view that the command holds. -/
def view? (c : Command) : Option View := c.blit?.map (·.pixels)

/-- What the server learns when it takes the command. -/
def dispatched (c : Command) : Dispatched where
  entry := c.entry?.getD {}
  kind := c.kind
  surface := c.surface
  bbox := c.bbox
  id := c.id

/-- The report of a release. -/
def notice (c : Command) (reason : ReleaseReason) : Notice where
  ticket := c.ticket
  kind := c.kind
  surface := c.surface
  reason

/-- The command with its main fields named, for diagnostics. -/
def debug (c : Command) : String :=
  s!"Command \x7b kind: {c.kind.name}, surface_id: {c.surface.debug}, bbox: {c.bbox.debug}, release_id: {c.id.debug}, .. \x7d"

end Command

instance : Holder Command := ⟨fun c => c.view?.map (·.block)⟩

end RemoteDisplay
