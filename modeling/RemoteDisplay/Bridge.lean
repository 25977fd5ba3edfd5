import RemoteDisplay.Loopback.Server
import RemoteDisplay.Output.Backend

/-!
# Bridges

A `Bridge` is the backend of a compositor together with the loopback server that serves it, if there
is one.
-/

namespace RemoteDisplay

/-- A backend and its loopback server. -/
structure Bridge (ρ : Type) where
  backend : Backend ρ
  server : Option LoopbackServer := none

namespace Bridge

variable {ρ : Type}

/-- A bridge without outputs and without a server. -/
def ofSettings (settings : Settings) (renderer : ρ) : Except Trap (Except Fault (Bridge ρ)) := do
  match ← Session.ofSettings settings.display [] with
  | .error e => return .error e
  | .ok session =>
    return (Backend.new settings session renderer).map fun backend => ({ backend } : Bridge ρ)

/-- Starts a loopback server; there is only one. -/
def startServer (b : Bridge ρ) : Except Trap (Except Fault (Bridge ρ)) := do
  match ← LoopbackServer.start b.backend.session 0 with
  | (.ok server, session) =>
    return .ok { backend := { b.backend with session }, server := some server }
  | (.error e, _) => return .error e

/-- The server takes everything on the ring, counts it and gives it back. -/
def serve (b : Bridge ρ) : Except Trap (Bridge ρ) :=
  match b.server with
  | none => return b
  | some server => do
    let (_, server, session) ← server.serve b.backend.session
    return { backend := { b.backend with session }, server := some server }

end Bridge

end RemoteDisplay
