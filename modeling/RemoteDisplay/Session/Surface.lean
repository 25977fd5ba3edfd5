import RemoteDisplay.Checked
import RemoteDisplay.Identifier

/-!
# Surfaces

A session has room for a fixed number of live surfaces. Each has a backing of four bytes a pixel,
which is reserved before the surface is announced. Surface numbers start at zero and grow with every
attempt that gets as far as the announcement, so the table of live surfaces is sorted.
-/

namespace RemoteDisplay

/-- Memory for the pixels of a surface. -/
structure Backing where
  width : UInt32
  height : UInt32
  /-- The number of bytes. -/
  length : Nat
  deriving DecidableEq, Repr

namespace Fault

def emptyBacking (width height : UInt32) : Fault :=
  .invalidGeometry s!"surface backing {width}x{height} is empty"

def backingMemory (width height : UInt32) (reason : String) : Fault :=
  .allocationFailed s!"{width}x{height} surface backing: {reason}"

def backingMismatch (backing : Backing) (width height : UInt32) : Fault :=
  .invalidGeometry s!"backing is {backing.width}x{backing.height}, surface is {width}x{height}"

def surfaceLimit (capacity : Nat) : Fault := .capacityExceeded "surface" capacity

def surfaceNumbersExhausted : Fault := .protocolViolation "surface id space exhausted"

def destroyOfUnknown (id : SurfaceId) : Fault := .protocolViolation s!"destroy of unknown {id.label}"

end Fault

/-- Reserves the memory of a surface, unless the allocator refuses; its size is computed in checked 64-bit
arithmetic. -/
def Backing.allocate (refuses : Nat → Bool) (width height : UInt32) :
    Except Trap (Except Fault Backing) :=
  if width = 0 ∨ height = 0 then return .error (.emptyBacking width height)
  else do
    let pixels ← Checked.u64 .multiplyOverflow (width.toNat * height.toNat)
    let length ← Checked.u64 .multiplyOverflow (pixels.toNat * 4)
    match Checked.reservationError refuses length.toNat with
    | some reason => return .error (.backingMemory width height reason)
    | none => return .ok { width, height, length := length.toNat }

/-- A surface that commands may draw on. -/
structure Surface where
  id : SurfaceId
  backing : Backing
  deriving DecidableEq, Repr

/-- The live surfaces, by number. -/
structure SurfaceTable where
  capacity : Nat
  next : UInt32 := 0
  live : List Surface := []
  deriving Repr

namespace SurfaceTable

def find? (t : SurfaceTable) (id : SurfaceId) : Option Surface := t.live.find? (·.id = id)

def contains (t : SurfaceTable) (id : SurfaceId) : Bool := (t.find? id).isSome

/-- The next number, unless there is none left. -/
def takeNumber (t : SurfaceTable) : Except Fault SurfaceId × SurfaceTable :=
  if t.next.toNat + 1 < 4294967296 then (.ok ⟨t.next⟩, { t with next := t.next + 1 })
  else (.error .surfaceNumbersExhausted, t)

/-- Makes a surface live. -/
def insert (t : SurfaceTable) (s : Surface) : SurfaceTable := { t with live := t.live ++ [s] }

/-- Forgets a surface. -/
def destroy (t : SurfaceTable) (id : SurfaceId) : Except Fault SurfaceTable :=
  if t.contains id then .ok { t with live := t.live.filter (·.id ≠ id) }
  else .error (.destroyOfUnknown id)

/-- The table with its fields named, for diagnostics. -/
def debug (t : SurfaceTable) : String :=
  let live := ", ".intercalate (t.live.map (·.id.debug))
  s!"SurfaceManager \x7b capacity: {t.capacity}, next_id: {t.next}, live: [{live}] \x7d"

end SurfaceTable

end RemoteDisplay
