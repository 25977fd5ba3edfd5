import RemoteDisplay.Session.Basic

/-!
# Painting

Fills and image copies become drawables: checked against the pixels and the coordinates, stamped
with an image number, a release id and a drawing time, and queued. Building takes over the hold on
the view that it is given, whether it succeeds or not.
-/

namespace RemoteDisplay

namespace Fault

def notCovered (width height stride : UInt32) (v : View) : Fault :=
  .invalidGeometry s!"{width}x{height} at stride {stride} not covered by {v.debug}"

def placementOverflow (x y : Int32) (width height : UInt32) : Fault :=
  .invalidGeometry s!"{width}x{height} at ({x}, {y}) overflows"

def damageMemory (reason : String) : Fault := .allocationFailed s!"damage copy: {reason}"

def imageNumbersExhausted : Fault := .protocolViolation "image id space exhausted"

def emptyFill (width height : UInt32) : Fault := .invalidGeometry s!"empty fill {width}x{height}"

def drawingToUnknown (id : SurfaceId) : Fault := .protocolViolation s!"drawing to unknown {id.label}"

def outsideSurface (bbox : Rect) (surface : Surface) : Fault :=
  .invalidGeometry s!"{bbox.debug} outside {surface.id.label} ({surface.backing.width}x{surface.backing.height})"

end Fault

namespace Session

/-- The rectangle of a drawable. -/
def placement (x y : Int32) (width height : UInt32) : Except Fault Rect :=
  match Rect.ofOrigin? x y width height with
  | some r => .ok r
  | none => .error (.placementOverflow x y width height)

/-- The drawing time of a drawable built now: the clock set back by the builder's skew. -/
def drawingTime (s : Session) (b : Nat) : UInt32 := s.clock - (s.builder b).skew

/-- The next image number of a builder, unless there is none left. -/
def takeImageNumber (s : Session) (b : Nat) : Except Fault ImageId × Session :=
  let next := (s.builder b).nextImage
  if next.toNat + 1 < 4294967296 then
    (.ok ⟨next⟩, { s with builders := s.builders.modify b fun x => { x with nextImage := next + 1 } })
  else
    (.error .imageNumbersExhausted, s)

/-- The image record of `height` rows of `width` pixels, `stride` bytes apart. -/
def imageRecord (id : ImageId) (width height stride : UInt32) : Wire.Image :=
  let image : Wire.Image :=
    { head := { width, height }
      bitmap := {
        format := Wire.Bitmap.format32
        flags := Wire.Bitmap.directTopDown
        width, height, stride } }
  image.setId Wire.Image.deviceGroup id.raw

/-- The copy drawable of an unscaled image. -/
def copyDrawable (surface : SurfaceId) (bbox : Rect) (id : ReleaseId) (time width height : UInt32) :
    Wire.Drawable :=
  (Wire.Drawable.blank surface.raw bbox id.raw time).setCopy
    { area := .ofOrigin 0 0 width height, rop := Wire.ropPut }

/-- The fill drawable of one colour. -/
def fillDrawable (surface : SurfaceId) (bbox : Rect) (id : ReleaseId) (time colour : UInt32) :
    Wire.Drawable :=
  (Wire.Drawable.blank surface.raw bbox id.raw time).setFill
    { brush := .solid colour, rop := Wire.ropPut }

/-- The size of a region in the copy of a damage, in bytes. -/
def regionSize : Nat := 16

/-- Builds the copy of an image onto a surface, which need not be live. The damage is copied before any
number is taken. -/
def buildBlit (s : Session) (b : Nat) (surface : SurfaceId) (x y : Int32) (width height : UInt32)
    (pixels : View) (stride : UInt32) (damage : Damage) :
    Except Trap (Except Fault Command × Session) := do
  if !(← pixels.covers s.store width height stride) then
    return (.error (.notCovered width height stride pixels), s.drop pixels)
  match placement x y width height with
  | .error e => return (.error e, s.drop pixels)
  | .ok bbox =>
    match s.store.reservationError (damage.regions.length * regionSize) with
    | some reason => return (.error (.damageMemory reason), s.drop pixels)
    | none =>
      match s.takeImageNumber b with
      | (.error e, s) => return (.error e, s.drop pixels)
      | (.ok imageId, s) =>
        let (ticket, s) := s.issue (s.builder b).ledger
        let blit : Blit :=
          { drawable := copyDrawable surface bbox ticket.id (s.drawingTime b) width height
            image := imageRecord imageId width height stride
            imageId
            damage := damage.regions
            pixels }
        return (.ok { surface, bbox, payload := .copy blit, ticket }, s)

/-- Builds the fill of an area of a surface, which need not be live. -/
def buildFill (s : Session) (b : Nat) (surface : SurfaceId) (colour : UInt32) (x y : Int32)
    (width height : UInt32) : Except Fault Command × Session :=
  if width = 0 ∨ height = 0 then (.error (.emptyFill width height), s)
  else
    match placement x y width height with
    | .error e => (.error e, s)
    | .ok bbox =>
      let (ticket, s) := s.issue (s.builder b).ledger
      let drawable := fillDrawable surface bbox ticket.id (s.drawingTime b) colour
      (.ok { surface, bbox, payload := .fill drawable, ticket }, s)

/-- The rectangle of a drawable must lie on a live surface. -/
def target (s : Session) (id : SurfaceId) (x y : Int32) (width height : UInt32) :
    Except Fault Unit := do
  let bbox ← placement x y width height
  match s.surfaces.find? id with
  | none => .error (.drawingToUnknown id)
  | some surface =>
    if bbox.inside (.ofOrigin 0 0 surface.backing.width surface.backing.height) then .ok ()
    else .error (.outsideSurface bbox surface)

/-- Builds and queues the copy of an image onto a live surface. -/
def paintImage (s : Session) (b : Nat) (surface : SurfaceId) (x y : Int32) (width height : UInt32)
    (pixels : View) (stride : UInt32) (damage : Damage) :
    Except Trap (Except Fault ImageId × Session) :=
  match s.target surface x y width height with
  | .error e => return (.error e, s.drop pixels)
  | .ok () => do
    match ← s.buildBlit b surface x y width height pixels stride damage with
    | (.error e, s) => return (.error e, s)
    | (.ok c, s) =>
      match s.submit c with
      | (.error e, s) => return (.error e, s)
      | (.ok (), s) => return (.ok ((c.blit?.map (·.imageId)).getD ⟨0⟩), s)

/-- Builds and queues the fill of an area of a live surface. -/
def fillRect (s : Session) (b : Nat) (surface : SurfaceId) (colour : UInt32) (x y : Int32)
    (width height : UInt32) : Except Fault Unit × Session :=
  match s.target surface x y width height with
  | .error e => (.error e, s)
  | .ok () =>
    match s.buildFill b surface colour x y width height with
    | (.error e, s) => (.error e, s)
    | (.ok c, s) => s.submit c

end Session

end RemoteDisplay
