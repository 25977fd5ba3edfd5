import RemoteDisplay.Session.Command
import RemoteDisplay.Text.Digits

/-!
# Digests of pixels

A 64-bit digest (FNV-1a) by which pixels are compared without being shown. The digest of a frame is
that of all of its bytes; the one of a view or an image is that of its rows, one after the other.
-/

namespace RemoteDisplay

namespace Digest

/-- The digest of no bytes. -/
def basis : UInt64 := 0xcbf29ce484222325

/-- The factor of one step. -/
def prime : UInt64 := 0x100000001b3

/-- The digest with one byte more. -/
def step (h : UInt64) (b : UInt8) : UInt64 := (h ^^^ b.toUInt64) * prime

/-- The digest with more bytes. -/
def extend (h : UInt64) (bytes : ByteArray) : UInt64 := bytes.foldl step h

/-- The digest in sixteen digits. -/
def text (h : UInt64) : String := hexText (Wire.lowBytes 8 h.toNat).reverse

end Digest

/-- The digest of all bytes of a frame. -/
def Frame.digest (f : Frame) (s : PixelStore) : UInt64 := Digest.extend Digest.basis (s.bytes f.block)

/-- The digest of the rows of a view, as far as they are there. -/
def View.digest (v : View) (s : PixelStore) : Except Trap UInt64 :=
  (List.range v.height.toNat).foldlM
    (fun h y => return Digest.extend h ((← v.row s (UInt32.ofNat y)).getD ByteArray.empty))
    Digest.basis

/-- The digest of the rows that the image record of a copy describes. -/
def Blit.digest (b : Blit) (s : PixelStore) : Except Trap UInt64 := do
  let bytes ← b.pixels.bytes s
  let shape := b.image.bitmap
  return (List.range shape.height.toNat).foldl
    (fun h y =>
      let start := y * shape.stride.toNat
      Digest.extend h (bytes.extract start (start + shape.width.toNat * bytesPerPixel)))
    Digest.basis

end RemoteDisplay
