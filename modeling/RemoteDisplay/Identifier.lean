/-!
# Identifiers

What is numbered in a session. Numbers only grow, so none is given out twice; each kind has its own
type, a label for people and a form for diagnostics.
-/

namespace RemoteDisplay

/-- A surface of the virtual display. -/
structure SurfaceId where
  raw : UInt32
  deriving DecidableEq, Repr, Inhabited

def SurfaceId.label (id : SurfaceId) : String := s!"surface#{id.raw}"

def SurfaceId.debug (id : SurfaceId) : String := s!"SurfaceId({id.raw})"

/-- The number stamped into an image. -/
structure ImageId where
  raw : UInt32
  deriving DecidableEq, Repr, Inhabited

/-- The handle under which a command is given back. -/
structure ReleaseId where
  raw : UInt64
  deriving DecidableEq, Repr, Inhabited

def ReleaseId.debug (id : ReleaseId) : String := s!"ReleaseId({id.raw})"

/-- An output of the compositor. -/
structure OutputId where
  raw : UInt32
  deriving DecidableEq, Repr, Inhabited

def OutputId.label (id : OutputId) : String := s!"output#{id.raw}"

def OutputId.debug (id : OutputId) : String := s!"OutputId({id.raw})"

/-- A timer of an event loop. -/
structure TimerId where
  raw : Nat
  deriving DecidableEq, Repr, Inhabited

def TimerId.debug (id : TimerId) : String := s!"TimerId({id.raw})"

/-- A watch of an event loop. -/
structure WatchId where
  raw : Nat
  deriving DecidableEq, Repr, Inhabited

def WatchId.debug (id : WatchId) : String := s!"WatchId({id.raw})"

end RemoteDisplay
