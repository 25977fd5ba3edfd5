/-!
# Readiness and channel events

What a watch waits for, as two bits, and the events that the server reports on its channels, as
small numbers.
-/

namespace RemoteDisplay

/-- Readable, writable, both or neither. -/
structure Mask where
  readable : Bool
  writable : Bool
  deriving DecidableEq, Repr, Inhabited

namespace Mask

/-- The bit for readable. -/
def readBit : UInt32 := 1

/-- The bit for writable. -/
def writeBit : UInt32 := 2

/-- Reads the two bits; others do not matter. -/
def ofBits (bits : UInt32) : Mask where
  readable := bits &&& readBit ≠ 0
  writable := bits &&& writeBit ≠ 0

/-- The two bits. -/
def bits (m : Mask) : UInt32 :=
  (if m.readable then readBit else 0) ||| (if m.writable then writeBit else 0)

/-- Neither. -/
def isEmpty (m : Mask) : Bool := !m.readable && !m.writable

/-- What is in both masks. -/
def inter (a b : Mask) : Mask := ⟨a.readable && b.readable, a.writable && b.writable⟩

end Mask

/-- What happens to a connection of the server. -/
inductive ChannelEvent where
  | connected
  | initialized
  | disconnected
  deriving DecidableEq, Repr

namespace ChannelEvent

/-- The event of a number. -/
def ofNumber? (n : UInt32) : Option ChannelEvent :=
  if n = 1 then some connected
  else if n = 2 then some initialized
  else if n = 3 then some disconnected
  else none

def name : ChannelEvent → String
  | connected => "Connected"
  | initialized => "Initialized"
  | disconnected => "Disconnected"

end ChannelEvent

end RemoteDisplay
