import RemoteDisplay.Checked

/-!
# Shared pixel memory

Frames and views do not own their pixels: they hold a block of a `PixelStore`, and every block
counts its holders. Whoever keeps a handle retains its block, whoever drops one releases it, and a
write goes through `exclusive`, which copies a block that has other holders. So nothing that a
holder can read changes under it.
-/

namespace RemoteDisplay

/-- Names a block of pixel memory. -/
structure BlockId where
  index : Nat
  deriving DecidableEq, Repr, Inhabited

/-- Pixel bytes and the number of handles on them. -/
structure Block where
  bytes : ByteArray
  holders : Nat

/-- All pixel memory of a session; a block without holders is empty. -/
structure PixelStore where
  blocks : Array Block := #[]
  /-- The numbers of bytes that the allocator refuses at present. -/
  refuses : Nat → Bool := Checked.exceedsMemory
  deriving Inhabited

/-- `n` zero bytes. -/
def zeros (n : Nat) : ByteArray :=
  if n = 0 then ByteArray.empty
  else
    let half := zeros (n / 2)
    if n % 2 = 0 then half ++ half else (half ++ half).push 0
termination_by n

namespace PixelStore

/-- The bytes of a block. -/
def bytes (s : PixelStore) (id : BlockId) : ByteArray :=
  match s.blocks[id.index]? with
  | some b => b.bytes
  | none => ByteArray.empty

/-- The number of handles on a block. -/
def holders (s : PixelStore) (id : BlockId) : Nat :=
  match s.blocks[id.index]? with
  | some b => b.holders
  | none => 0

/-- More than one handle is on the block. -/
@[inline] def isShared (s : PixelStore) (id : BlockId) : Bool := s.holders id > 1

/-- Why `size` bytes cannot be reserved at present, if they cannot. -/
def reservationError (s : PixelStore) (size : Nat) : Option String :=
  Checked.reservationError s.refuses size

/-- A new block with one holder. -/
def allocate (s : PixelStore) (bytes : ByteArray) : BlockId × PixelStore :=
  (⟨s.blocks.size⟩, { s with blocks := s.blocks.push ⟨bytes, 1⟩ })

/-- One handle more. -/
def retain (s : PixelStore) (id : BlockId) : PixelStore :=
  { s with blocks := s.blocks.modify id.index fun b => { b with holders := b.holders + 1 } }

/-- One handle less; with the last one the bytes go. -/
def release (s : PixelStore) (id : BlockId) : PixelStore :=
  { s with blocks := s.blocks.modify id.index fun b =>
      if b.holders ≤ 1 then ⟨ByteArray.empty, 0⟩ else { b with holders := b.holders - 1 } }

/-- Changes the bytes of a block. -/
@[inline] def write (s : PixelStore) (id : BlockId) (f : ByteArray → ByteArray) : PixelStore :=
  { s with blocks := s.blocks.modify id.index fun b => { b with bytes := f b.bytes } }

/-- Turns a handle into the only one on its bytes: a shared block is left to its other holders and
copied. -/
@[inline] def exclusive (s : PixelStore) (id : BlockId) : BlockId × PixelStore :=
  if s.isShared id then (s.release id).allocate (s.bytes id) else (id, s)

end PixelStore

end RemoteDisplay
