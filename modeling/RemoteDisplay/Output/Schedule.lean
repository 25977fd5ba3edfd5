import RemoteDisplay.Identifier

/-!
# The compositor's schedule

An output asks for repaints and reports finished frames. The `RepaintQueue` keeps the outputs that
wait for a repaint, each once, in the order in which they asked, until the compositor takes them.
-/

namespace RemoteDisplay

/-- The outputs that wait for a repaint, and the history of requests and finished frames. -/
structure RepaintQueue where
  pending : List OutputId := []
  /-- Every request, in order. -/
  requests : Array OutputId := #[]
  /-- The output of every finished frame, in order. -/
  finished : Array OutputId := #[]

namespace RepaintQueue

/-- The output wants a repaint. -/
def schedule (q : RepaintQueue) (id : OutputId) : RepaintQueue :=
  { q with
    pending := if id ∈ q.pending then q.pending else q.pending ++ [id]
    requests := q.requests.push id }

/-- The frame last repainted on the output is on screen. -/
def finishFrame (q : RepaintQueue) (id : OutputId) : RepaintQueue :=
  { q with finished := q.finished.push id }

/-- Hands over the waiting outputs. -/
def takePending (q : RepaintQueue) : List OutputId × RepaintQueue :=
  (q.pending, { q with pending := [] })

end RepaintQueue

end RemoteDisplay
