import RemoteDisplay.Fault

/-!
# Checked words

A result computed over the integers is put back into a machine word only if it fits; otherwise the
computation traps. Sizes of memory requests are checked the same way against what can be had.
-/

namespace RemoteDisplay.Checked

/-- The number as a signed 32-bit word, or the trap. -/
def i32 (trap : Trap) (n : Int) : Except Trap Int32 :=
  if -2147483648 ≤ n ∧ n ≤ 2147483647 then .ok (Int32.ofInt n) else .error trap

/-- The number as an unsigned 32-bit word, or the trap. -/
@[inline] def u32 (trap : Trap) (n : Nat) : Except Trap UInt32 :=
  if n < 4294967296 then .ok (UInt32.ofNat n) else .error trap

/-- The number as an unsigned 64-bit word, or the trap. -/
def u64 (trap : Trap) (n : Nat) : Except Trap UInt64 :=
  if n < 18446744073709551616 then .ok (UInt64.ofNat n) else .error trap

/-- A 32-bit counter with one more, or the trap. -/
def next32 (n : UInt32) : Except Trap UInt32 := u32 .addOverflow (n.toNat + 1)

/-- A 64-bit counter with one more, or the trap. -/
def next64 (n : UInt64) : Except Trap UInt64 := u64 .addOverflow (n.toNat + 1)

/-- The difference as an unsigned 64-bit word, or the trap. -/
def minus (m n : Nat) : Except Trap UInt64 :=
  if n ≤ m then u64 .subtractOverflow (m - n) else .error .subtractOverflow

/-- The most bytes one buffer may ask for. -/
def largestBuffer : Nat := 9223372036854775807

/-- A request of this size exceeds every address space. -/
def addressSpace : Nat := 140737488355328

/-- No allocator has this many bytes. -/
def exceedsMemory (size : Nat) : Bool := addressSpace ≤ size

/-- Why `size` bytes cannot be reserved, if they cannot. The allocator is only asked for some bytes, and
it may refuse. -/
def reservationError (refuses : Nat → Bool) (size : Nat) : Option String :=
  if size > largestBuffer then
    some "memory allocation failed because the computed capacity exceeded the collection's maximum"
  else if 0 < size ∧ refuses size then
    some "memory allocation failed because the memory allocator returned an error"
  else
    none

/-- Memory for `count` items of `size` bytes can be had, or the trap. -/
def items (count size : Nat) : Except Trap Unit :=
  if count * size > largestBuffer then .error .capacityOverflow
  else if count * size ≥ addressSpace then .error (.outOfMemory (count * size))
  else .ok ()

end RemoteDisplay.Checked
