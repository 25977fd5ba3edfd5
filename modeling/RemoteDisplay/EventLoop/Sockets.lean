import RemoteDisplay.EventLoop.Basic

/-!
# Socket pairs

Connected pairs of sockets, as far as an event loop can see them: how many bytes wait at each end.
What is written at one end can be read at the other, and an end can always be written. The
descriptors of a closed pair go to the next pair that is made.
-/

namespace RemoteDisplay

/-- The number of descriptors that the process and its event loop have for themselves. -/
def ownDescriptors : Nat := 6

/-- The number of bytes that wait at each descriptor. The ends of a pair are an even descriptor and
the odd one after it. -/
structure Sockets where
  waiting : Array Nat := .replicate ownDescriptors 0
  /-- The first ends of the closed pairs, lowest first. -/
  closed : List Nat := []

namespace Sockets

/-- A new pair of sockets under the lowest free descriptors; the answer is its first end. -/
def pair (s : Sockets) : Nat × Sockets :=
  match s.closed with
  | [] => (s.waiting.size, { s with waiting := (s.waiting.push 0).push 0 })
  | first :: closed => (first, { s with closed })

/-- Closes the pair with the given first end; what waits at its ends is lost. -/
def close (s : Sockets) (first : Nat) : Sockets where
  waiting := (s.waiting.modify first fun _ => 0).modify (first + 1) fun _ => 0
  closed := (first :: s.closed).mergeSort (· ≤ ·)

/-- The descriptor is an end of a closed pair. -/
def isClosed (s : Sockets) (fd : Nat) : Bool := s.closed.contains (fd - fd % 2)

/-- The other end of a pair. -/
def peer (fd : Nat) : Nat := if fd % 2 = 0 then fd + 1 else fd - 1

/-- The number of bytes that wait at an end. -/
def available (s : Sockets) (fd : Nat) : Nat := (s.waiting[fd]?).getD 0

/-- Writes `n` bytes at an end. -/
def write (s : Sockets) (fd n : Nat) : Sockets :=
  { s with waiting := s.waiting.modify (peer fd) (· + n) }

/-- Takes all bytes that wait at an end. -/
def read (s : Sockets) (fd : Nat) : Nat × Sockets :=
  (s.available fd, { s with waiting := s.waiting.modify fd fun _ => 0 })

/-- What an end is ready for. -/
def readiness (s : Sockets) (fd : Nat) : Mask := ⟨s.available fd > 0, true⟩

end Sockets

namespace EventLoop

/-- What a watch saw in a dispatch: what was ready, and how many bytes it took. -/
structure Sighting where
  watch : WatchId
  fired : Mask
  taken : Nat
  deriving DecidableEq, Repr

/-- The watches whose ends are ready are called; those that consume take the bytes that wait. -/
def dispatchWatches {H : Type} [EventHost H] (e : EventLoop H) (s : Sockets) (consumes : WatchId → Bool) :
    List Sighting × Sockets :=
  (e.readyWatches s.readiness).foldl
    (fun (seen, s) (id, fired) =>
      match e.watch? id with
      | some w =>
        if fired.readable && consumes id then
          let (taken, s) := s.read w.fd
          (seen ++ [⟨id, fired, taken⟩], s)
        else
          (seen ++ [⟨id, fired, 0⟩], s)
      | none => (seen, s))
    ([], s)

end EventLoop

end RemoteDisplay
