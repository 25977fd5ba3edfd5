import RemoteDisplay.Frame.Store
import RemoteDisplay.Geometry.Damage

/-!
# Frames

A `Frame` is a handle on the pixels of one output: rows of 32-bit pixels, top row first, each row
starting `stride` bytes after the one before. A `View` is a handle on a rectangle of a frame; the
bytes it can reach run from its first pixel to the end of the frame.
-/

namespace RemoteDisplay

/-- The size of a pixel. -/
def bytesPerPixel : Nat := 4

/-- A handle on the pixels of an output. -/
structure Frame where
  block : BlockId
  width : UInt32
  height : UInt32
  stride : UInt32
  deriving DecidableEq, Repr, Inhabited

/-- A handle on a rectangle of a frame. -/
structure View where
  block : BlockId
  /-- Where the first pixel lies. -/
  offset : Nat
  width : UInt32
  height : UInt32
  stride : UInt32
  deriving DecidableEq, Repr, Inhabited

namespace Fault

def strideOverflow (width : UInt32) : Fault := .invalidGeometry s!"frame width {width} overflows stride"

def frameMemory (width height : UInt32) (reason : String) : Fault :=
  .allocationFailed s!"{width}x{height} frame: {reason}"

def strideTooSmall (stride width : UInt32) : Fault :=
  .invalidGeometry s!"stride {stride} too small for width {width}"

def tooFewBytes (length : Nat) (height stride : UInt32) : Fault :=
  .invalidGeometry s!"{length} bytes cannot hold {height} rows of {stride}"

def outsideFrame (region : Region) (width height : UInt32) : Fault :=
  .invalidGeometry s!"{region.debug} outside {width}x{height} frame"

end Fault

/-- The four bytes of a word, lowest first, put at `offset`. -/
@[inline] def putWord (bytes : ByteArray) (offset : Nat) (word : UInt32) : ByteArray :=
  (((bytes.set! offset word.toUInt8).set! (offset + 1) (word >>> 8).toUInt8).set! (offset + 2)
    (word >>> 16).toUInt8).set! (offset + 3) (word >>> 24).toUInt8

/-- The word whose four bytes, lowest first, are at `offset`. -/
def getWord (bytes : ByteArray) (offset : Nat) : UInt32 :=
  let byte (i : Nat) : UInt32 := ((bytes[offset + i]?).getD 0).toUInt32
  byte 0 ||| (byte 1 <<< 8) ||| (byte 2 <<< 16) ||| (byte 3 <<< 24)

namespace Frame

/-- A black frame. -/
def new (s : PixelStore) (width height : UInt32) : Except Fault (Frame × PixelStore) :=
  let stride := width.toNat * bytesPerPixel
  if stride ≥ 4294967296 then .error (.strideOverflow width)
  else
    match s.reservationError (stride * height.toNat) with
    | some reason => .error (.frameMemory width height reason)
    | none =>
      let (block, s) := s.allocate (zeros (stride * height.toNat))
      .ok ({ block, width, height, stride := UInt32.ofNat stride }, s)

/-- A frame over given bytes, which must hold all of its rows. The stride must hold a row as far as
a word can say. -/
def ofBytes (s : PixelStore) (width height stride : UInt32) (bytes : ByteArray) :
    Except Fault (Frame × PixelStore) :=
  if stride.toNat < min (width.toNat * bytesPerPixel) 4294967295 then
    .error (.strideTooSmall stride width)
  else if bytes.size < stride.toNat * height.toNat then
    .error (.tooFewBytes bytes.size height stride)
  else
    let (block, s) := s.allocate bytes
    .ok ({ block, width, height, stride }, s)

/-- All of the frame. -/
def bounds (f : Frame) : Region := ⟨0, 0, f.width, f.height⟩

/-- Pixel `(x, y)` is one of the frame's. -/
@[inline] def hasPixel (f : Frame) (x y : UInt32) : Bool := x < f.width ∧ y < f.height

/-- Where pixel `(x, y)` lies, in checked 32-bit arithmetic. -/
@[inline] def offset (f : Frame) (x y : UInt32) : Except Trap Nat := do
  let row ← Checked.u32 .multiplyOverflow (y.toNat * f.stride.toNat)
  let column ← Checked.u32 .multiplyOverflow (x.toNat * bytesPerPixel)
  let sum ← Checked.u32 .addOverflow (row.toNat + column.toNat)
  return sum.toNat

/-- The four bytes from `offset` on must be there. -/
@[inline] def checkWord (size offset : Nat) : Except Trap Unit :=
  if offset + bytesPerPixel ≤ size then .ok () else .error (.pastEnd (offset + bytesPerPixel) size)

/-- Colours a pixel; outside the frame nothing happens. -/
def put (f : Frame) (s : PixelStore) (x y colour : UInt32) : Except Trap (Frame × PixelStore) :=
  if f.hasPixel x y then
    match f.offset x y with
    | .error t => .error t
    | .ok offset =>
      let (block, s) := s.exclusive f.block
      match checkWord (s.bytes block).size offset with
      | .error t => .error t
      | .ok () => .ok ({ f with block }, s.write block (putWord · offset colour))
  else
    .ok (f, s)

/-- The colour of a pixel, if it is one of the frame's. -/
def pixel (f : Frame) (s : PixelStore) (x y : UInt32) : Except Trap (Option UInt32) :=
  if f.hasPixel x y then do
    let offset ← f.offset x y
    checkWord (s.bytes f.block).size offset
    return some (getWord (s.bytes f.block) offset)
  else
    return none

/-- A view of a non-empty region inside the frame. -/
def view (f : Frame) (r : Region) : Except Fault View :=
  if r.isEmpty ∨ ¬f.bounds.contains r then .error (.outsideFrame r f.width f.height)
  else .ok {
    block := f.block
    offset := r.y.toInt.toNat * f.stride.toNat + r.x.toInt.toNat * bytesPerPixel
    width := r.width
    height := r.height
    stride := f.stride }

/-- The frame with its fields named, for diagnostics. -/
def debug (f : Frame) (s : PixelStore) : String :=
  s!"FrameBuffer \x7b width: {f.width}, height: {f.height}, stride: {f.stride}, shared: {s.isShared f.block} \x7d"

end Frame

namespace View

/-- The number of bytes from the first pixel to the end of the frame. The first pixel must not lie past
the end. -/
def length (v : View) (s : PixelStore) : Except Trap Nat :=
  let size := (s.bytes v.block).size
  if v.offset ≤ size then .ok (size - v.offset) else .error (.pastStart v.offset size)

/-- All bytes from the first pixel to the end of the frame. -/
def bytes (v : View) (s : PixelStore) : Except Trap ByteArray := do
  let length ← v.length s
  return (s.bytes v.block).extract v.offset (v.offset + length)

/-- Row `y` of the view, if it has that row and all of its bytes are there. -/
def row (v : View) (s : PixelStore) (y : UInt32) : Except Trap (Option ByteArray) :=
  if y < v.height then do
    let length ← v.length s
    let start := y.toNat * v.stride.toNat
    let stop ← Checked.u64 .addOverflow (start + v.width.toNat * bytesPerPixel)
    if stop.toNat ≤ length then
      return some ((s.bytes v.block).extract (v.offset + start) (v.offset + stop.toNat))
    else
      return none
  else
    return none

/-- Whether `height` rows of `width` pixels, `stride` bytes apart, can be read from the view, in checked
64-bit arithmetic. -/
def covers (v : View) (s : PixelStore) (width height stride : UInt32) : Except Trap Bool :=
  if width = 0 ∨ height = 0 then .ok false
  else do
    let row ← Checked.u64 .multiplyOverflow (width.toNat * bytesPerPixel)
    if stride.toNat < row.toNat then .ok false
    else do
      let above ← Checked.minus height.toNat 1
      let skipped ← Checked.u64 .multiplyOverflow (above.toNat * stride.toNat)
      let needed ← Checked.u64 .addOverflow (skipped.toNat + row.toNat)
      let length ← v.length s
      return needed.toNat ≤ length

/-- The view with its fields named, for diagnostics. -/
def debug (v : View) : String :=
  s!"PixelView \x7b offset: {v.offset}, width: {v.width}, height: {v.height}, stride: {v.stride} \x7d"

end View

/-- Values that may hold a block of pixel memory. -/
class Holder (α : Type) where
  block? : α → Option BlockId

instance : Holder Frame := ⟨fun f => some f.block⟩

instance : Holder View := ⟨fun v => some v.block⟩

/-- One more value like this one is kept. -/
def PixelStore.share {α : Type} [Holder α] (s : PixelStore) (a : α) : PixelStore :=
  match Holder.block? a with
  | some block => s.retain block
  | none => s

/-- The value is given up. -/
def PixelStore.giveUp {α : Type} [Holder α] (s : PixelStore) (a : α) : PixelStore :=
  match Holder.block? a with
  | some block => s.release block
  | none => s

end RemoteDisplay
