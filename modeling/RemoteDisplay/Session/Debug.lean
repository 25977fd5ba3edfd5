import RemoteDisplay.Session.Server

/-!
# Diagnostics of a session

The parts of a session as one line of text, with their fields named.
-/

namespace RemoteDisplay

namespace Session

def ringDebug (s : Session) : String :=
  s!"CommandRing \x7b capacity: {s.ring.capacity}, len: {s.ring.length} \x7d"

/-- A ledger with its counters. Whatever the server holds is counted at the first ledger. -/
def ledgerDebug (s : Session) (i : Nat) : String :=
  let held := if i = 0 then s.inFlight else 0
  s!"ReleaseRegistry \x7b next_id: {(s.ledger i).next}, in_flight: {held}, released: {(s.ledger i).released} \x7d"

def clockDebug (s : Session) : String := s!"MmClock({s.clock})"

def builderDebug (s : Session) (b : Nat) : String :=
  let x := s.builder b
  s!"CommandBuilder \x7b next_image_id: {x.nextImage}, mm_time_skew: {x.skew}, clock: {s.clockDebug}, ring: {s.ringDebug}, releases: {s.ledgerDebug x.ledger} \x7d"

def serverDebug (s : Session) : String :=
  let attached := s.server.worker.isSome
  s!"ServerFacade \x7b ring: {s.ringDebug}, releases: {s.ledgerDebug 0}, worker_attached: {attached}, closed: {s.server.closed}, surface_capacity: {s.server.surfaceLimit} \x7d"

/-- The display side: everything but the server. -/
def displayDebug (s : Session) : String :=
  s!"DisplayContext \x7b ring: {s.ringDebug}, releases: {s.ledgerDebug 0}, clock: {s.clockDebug}, surfaces: {s.surfaces.debug}, builder: {s.builderDebug 0} \x7d"

end Session

end RemoteDisplay
