import RemoteDisplay.Proofs.Output.History
import RemoteDisplay.Proofs.Session.Execution

/-!
# A server that paints

A `Scene` is a history of a backend beside a server that executes the drawables that it took. It has a
picture of every surface. It executes the drawables of a surface in the order in which it took them,
each at some time before it gives it back.
-/

namespace RemoteDisplay.Backend

/-! ## What a step says -/

section Step

variable {ρ : Type}

/-- The drawable that the server took during the step. -/
def Step.taken (step : Step ρ) : List Command :=
  match step.answer with
  | .command r => step.after.session.takenBy r
  | _ => []

/-- The step repainted the output, and pixel `(x, y)` lies in the extents of the damage inside
`bounds`. -/
def Step.covers (step : Step ρ) (id : OutputId) (bounds : Region) (x y : Int) : Bool :=
  match step.action, step.answer with
  | .repaintOutput repainted damage, .repainted (.ok (.sent _)) =>
    decide (repainted = id) && (damage.clipped bounds).extents.any fun e => decide (e.Mem x y)
  | _, _ => false

/-- The notices of the commands that the ring refused during the step. Only `getCommand` rejects
commands for another reason. -/
def Step.refused (step : Step ρ) : List Notice :=
  match step.action with
  | .getCommand => []
  | _ => (step.after.session.notices.toList.drop step.before.session.notices.size).filter fun n =>
    decide (n.reason = .rejected)

/-- Some step repainted the output where pixel `(x, y)` is. -/
def History.covered (h : History ρ) (id : OutputId) (bounds : Region) (x y : Int) : Bool :=
  h.steps.any fun step => step.covers id bounds x y

/-- An output that the step made has the size of the renderer's frames. -/
def Step.fits (step : Step PatternRenderer) : Bool :=
  match step.action, step.answer with
  | .createOutput g, .created (.ok _) =>
    g.width = step.before.renderer.width && g.height = step.before.renderer.height
  | _, _ => true

/-- The action is a fetch of the server. -/
def Action.isGetCommand : Action → Bool
  | .getCommand => true
  | _ => false

/-- The action ends the session. -/
def Action.isEnd : Action → Bool
  | .shutdown | .closeSession => true
  | _ => false

theorem Action.isGetCommand_iff {action : Action} : action.isGetCommand ↔ action = .getCommand := by
  cases action <;> simp [isGetCommand]

theorem Action.isEnd_eq_false {action : Action} :
    action.isEnd = false ↔ action ≠ .shutdown ∧ action ≠ .closeSession := by
  cases action <;> simp [isEnd]

/-- A repaint was neither dropped nor failed. -/
def Answer.isPainted : Answer → Bool
  | .repainted (.ok (.dropped _)) => false
  | .repainted (.error _) => false
  | _ => true

/-- In the step nothing went wrong: the outputs have the renderer's size, a worker is attached, the
ring takes every command, every repaint is sent or needs not be, and the session goes on. -/
structure Step.Smooth (step : Step PatternRenderer) : Prop where
  size : step.fits
  worker : step.action = .getCommand → step.before.session.server.worker.isSome
  room : step.refused.isEmpty
  painted : step.answer.isPainted
  running : step.action ≠ .shutdown ∧ step.action ≠ .closeSession

instance (step : Step PatternRenderer) : Decidable step.Smooth :=
  decidable_of_iff (step.fits ∧ (step.action.isGetCommand → step.before.session.server.worker.isSome) ∧
      step.refused.isEmpty ∧ step.answer.isPainted ∧ step.action.isEnd = false)
    ⟨fun ⟨size, worker, room, painted, running⟩ => ⟨size, fun he => worker (Action.isGetCommand_iff.mpr he),
        room, painted, Action.isEnd_eq_false.mp running⟩,
      fun h => ⟨h.size, fun he => h.worker (Action.isGetCommand_iff.mp he), h.room, h.painted,
        Action.isEnd_eq_false.mpr h.running⟩⟩

end Step

/-! ## Scenes -/

inductive Move where
  | act (action : Action)
  /-- The server executes the drawable for a surface that waits for the longest time. -/
  | execute (surface : SurfaceId)

structure Scene where
  history : History PatternRenderer
  /-- The drawables that the server took and has to execute, in order. -/
  waiting : List Command := []
  pictures : SurfaceId → Picture

namespace Scene

def store (sc : Scene) : PixelStore := sc.history.backend.session.store

/-- An action on the backend. The server must not lose a drawable that it did not execute. -/
def act (sc : Scene) (action : Action) : Option Scene :=
  match sc.history.perform action with
  | .error _ => none
  | .ok history =>
    let waiting := sc.waiting ++ (history.steps.getLast?.map (·.taken)).getD []
    if ∀ c ∈ waiting, c ∈ history.backend.session.server.held then
      some { sc with history, waiting }
    else
      none

def execute (sc : Scene) (surface : SurfaceId) : Option Scene :=
  (sc.waiting.find? (·.surface = surface)).map fun c =>
    { sc with
      waiting := sc.waiting.eraseP (·.surface = surface)
      pictures := fun id => if id = surface then c.paint sc.store (sc.pictures id) else sc.pictures id }

def move (sc : Scene) : Move → Option Scene
  | .act action => sc.act action
  | .execute surface => sc.execute surface

def run (sc : Scene) : List Move → Option Scene
  | [] => some sc
  | m :: ms => (sc.move m).bind (·.run ms)

end Scene

end RemoteDisplay.Backend
