/-!
# A ring of slots

A bounded queue in a fixed array of slots. Two cursors run over twice the number of slots, so that
the full ring and the empty one differ in the distance between them; a cursor's slot is the cursor
modulo the number of slots. `Ring.toList` is the queue that the ring stands for, oldest first.
-/

namespace RemoteDisplay

/-- Slots and the two cursors between which they are filled. -/
structure Ring (α : Type) where
  slots : Array (Option α)
  start : Nat
  stop : Nat
  deriving Inhabited

namespace Ring

variable {α : Type}

/-- An empty ring of at least one slot, with both cursors at `origin`. -/
def ofCapacity (capacity : Nat) (origin : Nat) : Ring α :=
  let capacity := max capacity 1
  { slots := Array.replicate capacity none
    start := origin % (2 * capacity)
    stop := origin % (2 * capacity) }

/-- The number of slots. -/
def capacity (r : Ring α) : Nat := r.slots.size

/-- A cursor one step further. -/
def advance (r : Ring α) (cursor : Nat) : Nat := (cursor + 1) % (2 * r.capacity)

/-- The number of filled slots: the distance between the cursors. -/
def length (r : Ring α) : Nat := (r.stop + 2 * r.capacity - r.start) % (2 * r.capacity)

/-- Nothing is queued. -/
def isEmpty (r : Ring α) : Bool := r.length = 0

/-- What is queued, oldest first. -/
def toList (r : Ring α) : List α :=
  (List.range r.length).filterMap fun i => (r.slots[(r.start + i) % r.capacity]?).join

/-- Appends, unless every slot is filled. -/
def push? (r : Ring α) (a : α) : Option (Ring α) :=
  if r.length = r.capacity then none
  else some {
    slots := r.slots.setIfInBounds (r.stop % r.capacity) (some a)
    start := r.start
    stop := r.advance r.stop }

/-- Takes the oldest. -/
def pop (r : Ring α) : Option α × Ring α :=
  if r.start = r.stop then (none, r)
  else
    let slot := r.start % r.capacity
    ((r.slots[slot]?).join,
      { slots := r.slots.setIfInBounds slot none, start := r.advance r.start, stop := r.stop })

/-- Appends, trying again up to `retries` times; nobody takes anything in between. -/
def enqueue (r : Ring α) (a : α) : (retries : Nat) → Option (Ring α)
  | 0 => r.push? a
  | n + 1 =>
    match r.push? a with
    | some r => some r
    | none => r.enqueue a n

/-- Takes up to `n` of the oldest, as long as there are some. -/
def take (r : Ring α) : (n : Nat) → List α × Ring α
  | 0 => ([], r)
  | n + 1 =>
    match r.pop with
    | (none, r) => ([], r)
    | (some a, r) =>
      let (as, r) := r.take n
      (a :: as, r)

/-- Takes everything, oldest first. -/
def drain (r : Ring α) : List α × Ring α := r.take r.length

/-- Appends one after the other, as far as there is room. -/
def append (r : Ring α) (as : List α) : Ring α := as.foldl (fun r a => (r.push? a).getD r) r

/-- Takes what satisfies `p` and keeps the rest, both in their order. -/
def drainWhere (r : Ring α) (p : α → Bool) : List α × Ring α :=
  let (as, r) := r.drain
  (as.filter p, r.append (as.filter fun a => !p a))

end Ring

end RemoteDisplay
