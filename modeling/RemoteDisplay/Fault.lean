import RemoteDisplay.Text.Digits

/-!
# Faults and traps

What can go wrong in a display session. A `Fault` is answered to the caller: the transient ones
cost one frame or one command, the fatal ones end the session. A `Trap` stops the program at once,
because checked arithmetic left its range or an access left its data. An operation that may trap
returns its state inside `Except Trap`, since there is no state after a trap.
-/

namespace RemoteDisplay

/-- A refusal that the caller learns about. -/
inductive Fault where
  /-- No memory for `what`. -/
  | allocationFailed (what : String)
  /-- A bounded resource is full. -/
  | capacityExceeded (resource : String) (limit : Nat)
  /-- The settings contradict themselves. -/
  | invalidConfiguration (reason : String)
  /-- The two sides of the session disagree about its state. -/
  | protocolViolation (reason : String)
  /-- The handle is not held by the server: never issued, or already given back. -/
  | unknownRelease (id : UInt64)
  /-- A rectangle does not fit what it is meant for. -/
  | invalidGeometry (reason : String)
  deriving DecidableEq, Repr

/-- Why a computation stopped at once. -/
inductive Trap where
  | addOverflow
  | subtractOverflow
  | multiplyOverflow
  | negateOverflow
  /-- A range of bytes that ends at `stop` was read out of `length` bytes. -/
  | pastEnd (stop length : Nat)
  /-- The bytes from `start` on were read out of `length` bytes. -/
  | pastStart (start length : Nat)
  /-- More bytes were asked for than one buffer can have. -/
  | capacityOverflow
  /-- There is no memory of `size` bytes. -/
  | outOfMemory (size : Nat)
  deriving DecidableEq, Repr

namespace Fault

/-- The text shown to a person. -/
def message : Fault → String
  | allocationFailed what => "allocation failed: " ++ what
  | capacityExceeded resource limit => s!"{resource} capacity exceeded (limit {limit})"
  | invalidConfiguration reason => "invalid configuration: " ++ reason
  | protocolViolation reason => "protocol invariant violated: " ++ reason
  | unknownRelease id => "release handle 0x" ++ hexDigits id.toNat ++ " is not in flight"
  | invalidGeometry reason => "invalid geometry: " ++ reason

/-- A fatal fault ends the session; after any other the next repaint tries again. -/
def isFatal : Fault → Bool
  | invalidConfiguration _ | protocolViolation _ => true
  | _ => false

/-- The name under which a fault is reported. -/
def name : Fault → String
  | allocationFailed _ => "AllocationFailed"
  | capacityExceeded .. => "CapacityExceeded"
  | invalidConfiguration _ => "ConfigInvalid"
  | protocolViolation _ => "ProtocolInvariantViolation"
  | unknownRelease _ => "UnknownRelease"
  | invalidGeometry _ => "InvalidGeometry"

end Fault

/-- The text that goes with a trap. -/
def Trap.message : Trap → String
  | addOverflow => "attempt to add with overflow"
  | subtractOverflow => "attempt to subtract with overflow"
  | multiplyOverflow => "attempt to multiply with overflow"
  | negateOverflow => "attempt to negate with overflow"
  | pastEnd stop length => s!"range end index {stop} out of range for slice of length {length}"
  | pastStart start length => s!"range start index {start} out of range for slice of length {length}"
  | capacityOverflow => "capacity overflow"
  | outOfMemory size => s!"memory allocation of {size} bytes failed"

end RemoteDisplay
