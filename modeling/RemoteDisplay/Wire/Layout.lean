/-!
# Byte layouts

A `Layout` writes a value as a fixed number of bytes and reads it back from the front of a byte
list. Words are little-endian. Larger records are put together from smaller ones by `pair` and
renamed by `imap`, so that a record's layout lists its fields in order and nothing else.
-/

namespace RemoteDisplay.Wire

/-- How values of a type are laid out in bytes. -/
structure Layout (α : Type) where
  /-- The number of bytes of every value. -/
  size : Nat
  encode : α → List UInt8
  /-- Reads one value and returns the bytes after it. -/
  decode : List UInt8 → Option (α × List UInt8)

/-- The `n` low bytes of a number, lowest first. -/
def lowBytes : (n : Nat) → Nat → List UInt8
  | 0, _ => []
  | n + 1, v => UInt8.ofNat v :: lowBytes n (v / 256)

/-- The number whose bytes, lowest first, are given. -/
def ofLowBytes : List UInt8 → Nat
  | [] => 0
  | b :: bs => b.toNat + 256 * ofLowBytes bs

namespace Layout

variable {α β : Type}

/-- Reads a value that takes up all the bytes. -/
def read (l : Layout α) (bytes : List UInt8) : Option α :=
  match l.decode bytes with
  | some (a, []) => some a
  | _ => none

/-- A word of `n` bytes, seen as a number. -/
def word (n : Nat) (ofNat : Nat → α) (toNat : α → Nat) : Layout α where
  size := n
  encode a := lowBytes n (toNat a)
  decode bs := if n ≤ bs.length then some (ofNat (ofLowBytes (bs.take n)), bs.drop n) else none

/-- One layout after the other. -/
def pair (a : Layout α) (b : Layout β) : Layout (α × β) where
  size := a.size + b.size
  encode v := a.encode v.1 ++ b.encode v.2
  decode bs := do
    let (x, bs) ← a.decode bs
    let (y, bs) ← b.decode bs
    return ((x, y), bs)

/-- The same bytes for another type. -/
def imap (l : Layout α) (wrap : α → β) (unwrap : β → α) : Layout β where
  size := l.size
  encode b := l.encode (unwrap b)
  decode bs := (l.decode bs).map fun (a, rest) => (wrap a, rest)

/-- Bytes that are kept as they are. -/
def bytes (n : Nat) : Layout (Vector UInt8 n) where
  size := n
  encode v := v.toList
  decode bs :=
    if h : n ≤ bs.length then
      some (⟨(bs.take n).toArray, by simp [h]⟩, bs.drop n)
    else
      none

def u8 : Layout UInt8 := word 1 UInt8.ofNat UInt8.toNat

def u16 : Layout UInt16 := word 2 UInt16.ofNat UInt16.toNat

def u32 : Layout UInt32 := word 4 UInt32.ofNat UInt32.toNat

def u64 : Layout UInt64 := word 8 UInt64.ofNat UInt64.toNat

/-- A signed word, in two's complement. -/
def i32 : Layout Int32 := u32.imap UInt32.toInt32 Int32.toUInt32

end Layout

end RemoteDisplay.Wire
