import RemoteDisplay.Wire.Layout
import RemoteDisplay.Geometry.Rect

/-!
# The records that the server reads

Every record is a structure with a `layout`, its fields in the order in which they are written. A
drawable ends in a body of 68 bytes whose meaning its type field decides; `setFill` and `setCopy`
write the type and the whole body together, and `fill?` and `copy?` read it under that type only.

Address fields are part of the layouts. A session leaves them at zero, because a record is always
kept beside what it points at.
-/

namespace RemoteDisplay.Wire

open Layout

/-- The four edges of a rectangle. -/
def rect : Layout Rect :=
  (i32.pair (i32.pair (i32.pair i32))).imap
    (fun (top, left, bottom, right) => ⟨top, left, bottom, right⟩)
    (fun r => (r.top, r.left, r.bottom, r.right))

/-- A position. -/
structure Point where
  x : Int32 := 0
  y : Int32 := 0
  deriving DecidableEq, Repr, Inhabited

def Point.layout : Layout Point :=
  (i32.pair i32).imap (fun (x, y) => ⟨x, y⟩) (fun p => (p.x, p.y))

/-- One entry of the command queue as the server sees it. -/
structure Entry where
  data : UInt64 := 0
  type : UInt32 := 0
  padding : UInt32 := 0
  deriving DecidableEq, Repr, Inhabited

def Entry.layout : Layout Entry :=
  (u64.pair (u32.pair u32)).imap
    (fun (data, type, padding) => ⟨data, type, padding⟩)
    (fun c => (c.data, c.type, c.padding))

/-- The only memory slot group. -/
def memorySlotGroup : UInt32 := 0

/-- A queue entry with the memory slot group of its address. -/
structure GroupedEntry where
  entry : Entry := {}
  group : UInt32 := 0
  flags : UInt32 := 0
  deriving DecidableEq, Repr, Inhabited

namespace GroupedEntry

def layout : Layout GroupedEntry :=
  (Entry.layout.pair (u32.pair u32)).imap
    (fun (entry, group, flags) => ⟨entry, group, flags⟩)
    (fun e => (e.entry, e.group, e.flags))

/-- An entry of the given type, in the only memory slot group. -/
def ofType (type : UInt32) (data : UInt64) : GroupedEntry where
  entry := { data, type }
  group := memorySlotGroup

/-- The entry type of a drawable. -/
def drawType : UInt32 := 1

end GroupedEntry

/-- The handle under which a drawable is given back. -/
structure ReleaseInfo where
  id : UInt64 := 0
  next : UInt64 := 0
  deriving DecidableEq, Repr, Inhabited

def ReleaseInfo.layout : Layout ReleaseInfo :=
  (u64.pair u64).imap (fun (id, next) => ⟨id, next⟩) (fun r => (r.id, r.next))

/-- The announcement of a primary surface. -/
structure SurfaceRecord where
  width : UInt32
  height : UInt32
  stride : Int32
  format : UInt32
  position : UInt32 := 0
  mouseMode : UInt32 := 0
  flags : UInt32 := 0
  type : UInt32 := 0
  memory : UInt64 := 0
  group : UInt32 := memorySlotGroup
  padding : UInt32 := 0
  deriving DecidableEq, Repr, Inhabited

namespace SurfaceRecord

def layout : Layout SurfaceRecord :=
  (u32.pair (u32.pair (i32.pair (u32.pair (u32.pair (u32.pair (u32.pair (u32.pair
      (u64.pair (u32.pair u32)))))))))).imap
    (fun (width, height, stride, format, position, mouseMode, flags, type, memory, group,
        padding) =>
      ⟨width, height, stride, format, position, mouseMode, flags, type, memory, group, padding⟩)
    (fun s => (s.width, s.height, s.stride, s.format, s.position, s.mouseMode, s.flags, s.type,
      s.memory, s.group, s.padding))

/-- The format of surfaces with eight bits for each of red, green and blue. -/
def formatXrgb : UInt32 := 32

/-- A surface of the given size whose rows run from the bottom up: the stride is the row length
negated, in checked arithmetic on the width read as a signed word. -/
def primary (width height : UInt32) (memory : UInt64) : Except Trap SurfaceRecord := do
  let negated ← Checked.i32 .negateOverflow (-width.toInt32.toInt)
  let stride ← Checked.i32 .multiplyOverflow (negated.toInt * 4)
  return { width, height, stride, format := formatXrgb, memory }

end SurfaceRecord

/-- A clip region; type zero is none. -/
structure Clip where
  type : UInt32 := 0
  data : UInt64 := 0
  deriving DecidableEq, Repr, Inhabited

def Clip.layout : Layout Clip :=
  (u32.pair u64).imap (fun (type, data) => ⟨type, data⟩) (fun c => (c.type, c.data))

/-- A mask bitmap; all zero is none. -/
structure Mask where
  flags : UInt8 := 0
  position : Point := {}
  bitmap : UInt64 := 0
  deriving DecidableEq, Repr, Inhabited

def Mask.layout : Layout Mask :=
  (u8.pair (Point.layout.pair u64)).imap
    (fun (flags, position, bitmap) => ⟨flags, position, bitmap⟩)
    (fun m => (m.flags, m.position, m.bitmap))

/-- A brush: its type, and sixteen bytes that the type gives a meaning. -/
structure Brush where
  type : UInt32
  content : Vector UInt8 16
  deriving DecidableEq, Repr

/-- The bytes followed by zeros, or cut off, to a fixed length. -/
def padded (n : Nat) (bs : List UInt8) : Vector UInt8 n := Vector.ofFn fun i => bs.getD i 0

namespace Brush

def layout : Layout Brush :=
  (u32.pair (bytes 16)).imap (fun (type, content) => ⟨type, content⟩) (fun b => (b.type, b.content))

/-- The type of a brush of one colour. -/
def solidType : UInt32 := 1

/-- A brush of one colour. -/
def solid (colour : UInt32) : Brush := ⟨solidType, padded 16 (u32.encode colour)⟩

/-- The colour, if the brush has a single one. -/
def colour? (b : Brush) : Option UInt32 :=
  if b.type = solidType then (u32.decode b.content.toList).map (·.1) else none

end Brush

/-- The way of combining pixels that puts the new ones in place of the old. -/
def ropPut : UInt16 := 8

/-- The body of a drawable that copies an image. -/
structure Copy where
  source : UInt64 := 0
  area : Rect
  rop : UInt16
  scaleMode : UInt8 := 0
  mask : Mask := {}
  deriving DecidableEq, Repr, Inhabited

def Copy.layout : Layout Copy :=
  (u64.pair (rect.pair (u16.pair (u8.pair Mask.layout)))).imap
    (fun (source, area, rop, scaleMode, mask) => ⟨source, area, rop, scaleMode, mask⟩)
    (fun c => (c.source, c.area, c.rop, c.scaleMode, c.mask))

/-- The body of a drawable that fills with a brush. -/
structure Fill where
  brush : Brush
  rop : UInt16
  mask : Mask := {}
  deriving DecidableEq, Repr

def Fill.layout : Layout Fill :=
  (Brush.layout.pair (u16.pair Mask.layout)).imap
    (fun (brush, rop, mask) => ⟨brush, rop, mask⟩)
    (fun f => (f.brush, f.rop, f.mask))

/-- The size of a drawable's body, the largest of its kinds. -/
def bodySize : Nat := 68

/-- One drawing order. -/
structure Drawable where
  release : ReleaseInfo
  surface : UInt32
  effect : UInt8
  type : UInt8
  selfBitmap : UInt8
  selfArea : Rect
  bbox : Rect
  clip : Clip
  time : UInt32
  dependencies : Int32 × Int32 × Int32
  dependencyAreas : Rect × Rect × Rect
  body : Vector UInt8 bodySize
  deriving DecidableEq, Repr

namespace Drawable

def layout : Layout Drawable :=
  (ReleaseInfo.layout.pair (u32.pair (u8.pair (u8.pair (u8.pair (rect.pair (rect.pair
      (Clip.layout.pair (u32.pair ((i32.pair (i32.pair i32)).pair
      ((rect.pair (rect.pair rect)).pair (bytes bodySize)))))))))))).imap
    (fun (release, surface, effect, type, selfBitmap, selfArea, bbox, clip, time, dependencies,
        dependencyAreas, body) =>
      ⟨release, surface, effect, type, selfBitmap, selfArea, bbox, clip, time, dependencies,
        dependencyAreas, body⟩)
    (fun d => (d.release, d.surface, d.effect, d.type, d.selfBitmap, d.selfArea, d.bbox, d.clip,
      d.time, d.dependencies, d.dependencyAreas, d.body))

/-- The effect of a drawable that hides what was below it. -/
def effectOpaque : UInt8 := 1

/-- The type of a drawable whose body is a `Fill`. -/
def fillType : UInt8 := 1

/-- The type of a drawable whose body is a `Copy`. -/
def copyType : UInt8 := 3

/-- An opaque drawable without clip, dependencies and body. -/
def blank (surface : UInt32) (bbox : Rect) (release : UInt64) (time : UInt32) : Drawable where
  release := { id := release }
  surface
  effect := effectOpaque
  type := 0
  selfBitmap := 0
  selfArea := ⟨0, 0, 0, 0⟩
  bbox
  clip := {}
  time
  dependencies := (-1, -1, -1)
  dependencyAreas := (⟨0, 0, 0, 0⟩, ⟨0, 0, 0, 0⟩, ⟨0, 0, 0, 0⟩)
  body := padded bodySize []

/-- Makes the drawable a copy. -/
def setCopy (d : Drawable) (c : Copy) : Drawable :=
  { d with type := copyType, body := padded bodySize (Copy.layout.encode c) }

/-- Makes the drawable a fill. -/
def setFill (d : Drawable) (f : Fill) : Drawable :=
  { d with type := fillType, body := padded bodySize (Fill.layout.encode f) }

/-- The body of a copy. -/
def copy? (d : Drawable) : Option Copy :=
  if d.type = copyType then (Copy.layout.decode d.body.toList).map (·.1) else none

/-- The body of a fill. -/
def fill? (d : Drawable) : Option Fill :=
  if d.type = fillType then (Fill.layout.decode d.body.toList).map (·.1) else none

end Drawable

/-- The head of an image record. -/
structure ImageHead where
  id : UInt64 := 0
  type : UInt8 := 0
  flags : UInt8 := 0
  width : UInt32 := 0
  height : UInt32 := 0
  deriving DecidableEq, Repr, Inhabited

def ImageHead.layout : Layout ImageHead :=
  (u64.pair (u8.pair (u8.pair (u32.pair u32)))).imap
    (fun (id, type, flags, width, height) => ⟨id, type, flags, width, height⟩)
    (fun h => (h.id, h.type, h.flags, h.width, h.height))

/-- Where an image's pixels are and how they are arranged. -/
structure Bitmap where
  format : UInt8 := 0
  flags : UInt8 := 0
  width : UInt32 := 0
  height : UInt32 := 0
  stride : UInt32 := 0
  palette : UInt64 := 0
  data : UInt64 := 0
  deriving DecidableEq, Repr, Inhabited

namespace Bitmap

def layout : Layout Bitmap :=
  (u8.pair (u8.pair (u32.pair (u32.pair (u32.pair (u64.pair u64)))))).imap
    (fun (format, flags, width, height, stride, palette, data) =>
      ⟨format, flags, width, height, stride, palette, data⟩)
    (fun b => (b.format, b.flags, b.width, b.height, b.stride, b.palette, b.data))

/-- The format of pixels of 32 bits. -/
def format32 : UInt8 := 8

/-- The flags of pixels that lie in memory as they are, first row on top. -/
def directTopDown : UInt8 := 1 ||| 4

end Bitmap

/-- An image: its head and its pixels' arrangement. -/
structure Image where
  head : ImageHead := {}
  bitmap : Bitmap := {}
  deriving DecidableEq, Repr, Inhabited

namespace Image

def layout : Layout Image :=
  (ImageHead.layout.pair Bitmap.layout).imap (fun (head, bitmap) => ⟨head, bitmap⟩)
    (fun i => (i.head, i.bitmap))

/-- The group of the images that the device numbers itself. -/
def deviceGroup : UInt32 := 1

/-- Stamps the image with its number: the unique part in the high half, the group in the low. -/
def setId (i : Image) (group unique : UInt32) : Image :=
  { i with head := { i.head with id := (unique.toUInt64 <<< 32) ||| group.toUInt64 } }

end Image

/-- A range of memory that the server may read. -/
structure MemorySlot where
  group : UInt32
  slot : UInt32
  generation : UInt32
  start : UInt64
  stop : UInt64
  delta : UInt64
  size : UInt32
  deriving DecidableEq, Repr

/-- One slot for all of memory, addresses unchanged. -/
def MemorySlot.identity : MemorySlot where
  group := memorySlotGroup
  slot := 0
  generation := 0
  start := 0
  stop := 0xffffffffffffffff
  delta := 0
  size := 0xffffffff

end RemoteDisplay.Wire
