import RemoteDisplay.Output.Backend
import RemoteDisplay.Session.Server

/-!
# Histories of a backend

A compositor calls the backend, the server calls its side of the session, timers expire, and the
host refuses timers and memory. A `History` is a backend after any number of such actions, together with every
step that led to it. An action that traps has no state after it, so it ends the history.
-/

namespace RemoteDisplay.Backend

/-- What can be done to a backend, to the server's side of its session and to its host. -/
inductive Action where
  | createOutput (geometry : Geometry)
  | destroyOutput (id : OutputId)
  | requestRepaint (id : OutputId)
  | repaintOutput (id : OutputId) (damage : Damage)
  | takePending
  | shutdown
  | expire (timer : TimerId)
  /-- The next registration of a timer is going to be refused. -/
  | refuseAdd (fault : Fault)
  /-- The next start of a timer is going to be refused. -/
  | refuseStart (fault : Fault)
  | attachWorker (name : Nat)
  | getCommand
  | releaseResource (id : ReleaseId) (group : UInt32)
  | setClock (time : UInt32)
  | setCompression (level : Int32)
  /-- The server's side shuts the session down. -/
  | closeSession
  /-- From here on the allocator refuses these numbers of bytes. -/
  | refuseMemory (refuses : Nat → Bool)

inductive Answer where
  | created (answer : Except Fault OutputId)
  | destroyed (answer : Except Fault (List Notice))
  | requested (answer : Except Fault Bool)
  | repainted (answer : Except Fault RepaintOutcome)
  | pending (ids : List OutputId)
  | shutDown (answer : Except Fault (List Notice))
  | attached (answer : Except Fault Unit)
  | command (answer : Except Fault (Option Dispatched))
  | released (answer : Except Fault Notice)
  | closed (notices : List Notice)
  | done

variable {ρ : Type}

/-- An action that concerns the session only. -/
def onSession (b : Backend ρ) {α : Type} (wrap : α → Answer) (r : α × Session) : Answer × Backend ρ :=
  (wrap r.1, { b with session := r.2 })

def perform [Renderer ρ] (b : Backend ρ) : Action → Except Trap (Answer × Backend ρ)
  | .createOutput geometry => (b.createOutput geometry).map fun (r, b) => (.created r, b)
  | .destroyOutput id => return (.destroyed (b.destroyOutput id).1, (b.destroyOutput id).2)
  | .requestRepaint id => return (.requested (b.requestRepaint id).1, (b.requestRepaint id).2)
  | .repaintOutput id damage => (b.repaintOutput id damage).map fun (r, b) => (.repainted r, b)
  | .takePending => return (.pending b.queue.takePending.1, { b with queue := b.queue.takePending.2 })
  | .shutdown => return (.shutDown b.shutdown.1, b.shutdown.2)
  | .expire timer => (b.expire timer).map fun b => (.done, b)
  | .refuseAdd fault => return (.done, { b with timers.refuseAdd := some fault })
  | .refuseStart fault => return (.done, { b with timers.refuseStart := some fault })
  | .attachWorker name => return b.onSession .attached (b.session.attachWorker name)
  | .getCommand => return b.onSession .command b.session.nextCommand
  | .releaseResource id group => return b.onSession .released (b.session.giveBack id group)
  | .setClock time => return (.done, { b with session := b.session.setClock time })
  | .setCompression level => return (.done, { b with session := b.session.setCompression level })
  | .closeSession => return b.onSession .closed b.session.shutdown
  | .refuseMemory refuses => return (.done, { b with session.store.refuses := refuses })

theorem of_map_ok {α : Type} {x : Except Trap (α × Backend ρ)} {wrap : α → Answer} {answer : Answer}
    {b : Backend ρ} (h : (x.map fun (r, b) => (wrap r, b)) = .ok (answer, b)) :
    ∃ r, x = .ok (r, b) ∧ answer = wrap r := by
  cases x with
  | error t => cases h
  | ok r =>
      cases h
      exact ⟨r.1, rfl, rfl⟩

theorem of_expire_ok {timer : TimerId} {b b' : Backend ρ} {answer : Answer}
    (h : ((b.expire timer).map fun b => (Answer.done, b)) = .ok (answer, b')) :
    b.expire timer = .ok b' ∧ answer = .done := by
  cases he : b.expire timer with
  | error t =>
      rw [he] at h
      cases h
  | ok b₁ =>
      rw [he] at h
      cases h
      exact ⟨rfl, rfl⟩

/-- One action with its answer, between the states before and after it. -/
structure Step (ρ : Type) where
  before : Backend ρ
  action : Action
  answer : Answer
  after : Backend ρ

/-- A backend and the steps that led to it. -/
structure History (ρ : Type) where
  backend : Backend ρ
  steps : List (Step ρ) := []

namespace History

variable [Renderer ρ]

def perform (h : History ρ) (action : Action) : Except Trap (History ρ) :=
  (h.backend.perform action).map fun (answer, after) =>
    { backend := after, steps := h.steps ++ [⟨h.backend, action, answer, after⟩] }

def run (h : History ρ) : List Action → Except Trap (History ρ)
  | [] => return h
  | action :: actions => do
    let h ← h.perform action
    h.run actions

variable {h h' : History ρ}

theorem step_of_perform {action : Action} (hp : h.perform action = .ok h') :
    ∃ answer, h.backend.perform action = .ok (answer, h'.backend) ∧
      h'.steps = h.steps ++ [⟨h.backend, action, answer, h'.backend⟩] := by
  simp only [perform] at hp
  cases hb : h.backend.perform action with
  | error t =>
      rw [hb] at hp
      cases hp
  | ok r =>
      rw [hb] at hp
      cases hp
      exact ⟨r.1, rfl, rfl⟩

/-- What holds at first and survives every step holds after every run. -/
theorem run_induction {P : History ρ → Prop} (hfirst : P h)
    (hstep : ∀ (h h' : History ρ) action answer, P h →
      h.backend.perform action = .ok (answer, h'.backend) →
      h'.steps = h.steps ++ [⟨h.backend, action, answer, h'.backend⟩] → P h')
    {actions : List Action} (hrun : h.run actions = .ok h') : P h' := by
  induction actions generalizing h with
  | nil =>
      cases hrun
      exact hfirst
  | cons action actions ih =>
      simp only [run, bind, Except.bind] at hrun
      split at hrun
      · cases hrun
      · rename_i h₁ hp
        obtain ⟨answer, hb, hsteps⟩ := step_of_perform hp
        exact ih (hstep h h₁ action answer hfirst hb hsteps) hrun

end History

end RemoteDisplay.Backend
