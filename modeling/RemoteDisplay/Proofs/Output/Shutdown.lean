import RemoteDisplay.Proofs.Output.Surfaces
import RemoteDisplay.Proofs.Session.Closing

/-!
# The end of a backend

A backend shuts down by destroying its outputs and then its session. With no command queued and none
with the server, every release id that was ever given out must have been released.
-/

namespace RemoteDisplay

variable {ρ : Type} {b : Backend ρ}

theorem Session.Accounted.all_released {spare : Nat} {s : Session} (h : s.Accounted spare)
    (hqueue : s.queue = []) (hheld : s.server.held = []) (u : Ticket) :
    s.released.count u = if s.HasIssued u then 1 else 0 := by
  have hplace := h.places u
  simpa [Session.tickets, hqueue, hheld] using hplace

/-- No output is left and no live surface, and every release id ever given out was released once. -/
structure Backend.Ended (b : Backend ρ) : Prop where
  outputs : b.outputs = []
  surfaces : b.session.surfaces.live = []
  released : ∀ u, b.session.released.count u = if b.session.HasIssued u then 1 else 0

theorem Backend.InStep.shuts (h : b.InStep) :
    ∃ notices b', b.shutdown = (.ok notices, b') ∧ b'.Ended := by
  obtain ⟨notices, b', hb, hstep, houtputs, s, hs, hring⟩ := h.shutdown
  obtain ⟨-, -, hnil, hserver, -⟩ := Session.shutdown_spec hring
  have hlive := hstep.live
  rw [houtputs, List.map_nil, List.map_eq_nil_iff] at hlive
  refine ⟨notices, b', hb, houtputs, hlive, ?_⟩
  exact hstep.accounted.all_released (by rw [hs, hnil]) (by rw [hs, hserver])

/-- At any moment a session can be shut down, and nothing reaches the server or its worker any more. So
can a backend at any moment of any run, and then nothing is left of it. -/
theorem shutdown_complete_and_final [Renderer ρ] {s₀ s : Session} (hfresh : s₀.Fresh) (huses : Session.Uses s₀ s)
    (hpristine : b.Pristine) {actions : List Backend.Action} {w : Backend.History ρ}
    (hrun : Backend.History.run { backend := b } actions = .ok w) :
    s.Shutdown ∧ ∃ notices b', w.backend.shutdown = (.ok notices, b') ∧ b'.Ended :=
  ⟨(Session.Uses.sound huses hfresh.conserved.sound).shuts, (hpristine.inStep.run hrun).shuts⟩

/-- A session and a backend are shut down with drawables on the ring and with the server. -/
theorem shutdown_complete_and_final_in_flight :
    ∃ s₀ s : Session, s₀.Fresh ∧ Session.Uses s₀ s ∧ s.queue.map (·.id.raw) = [3] ∧
      s.server.held.map (·.id.raw) = [2] ∧
      ∃ b : Backend PatternRenderer, b.Pristine ∧ ∃ w,
        Backend.History.run { backend := b } [.attachWorker 0, .createOutput ⟨0, 0, 1, 1⟩, .getCommand,
          .repaintOutput ⟨0⟩ (.full 1 1)] = .ok w ∧
        w.backend.session.queue.map (·.id.raw) = [3] ∧
        w.backend.session.server.held.map (·.id.raw) = [2] ∧
        s.Shutdown ∧ ∃ notices b', w.backend.shutdown = (.ok notices, b') ∧ b'.Ended := by
  let s₀ : Session := .ofRing (.ofCapacity 4 0) 0 1 [0]
  let b : Backend PatternRenderer :=
    { settings := {}, session := s₀, renderer := { width := 1, height := 1 } }
  have hpristine : b.Pristine :=
    Backend.pristine_ofRing (Ring.wellFormed_ofCapacity 4 0) (Ring.toList_ofCapacity 4 0)
      (by decide +kernel) 0 1 (by simp) _
  have hsession : ((s₀.attachWorker 0).2.createSurface 1 1 ⟨1, 1, 4⟩).toOption.map (fun r =>
      let s := ((r.2.fillRect 0 ⟨0⟩ 0 0 0 1 1).2.fillRect 0 ⟨0⟩ 0 0 0 1 1).2.nextCommand.2
      (s.queue.map (·.id.raw), s.server.held.map (·.id.raw))) = some ([3], [2]) := by
    decide +kernel
  have hbackend : ((Backend.History.run { backend := b } [.attachWorker 0,
      .createOutput ⟨0, 0, 1, 1⟩, .getCommand, .repaintOutput ⟨0⟩ (.full 1 1)]).toOption.map fun w =>
      (w.backend.session.queue.map (·.id.raw), w.backend.session.server.held.map (·.id.raw))) =
      some ([3], [2]) := by
    decide +kernel
  cases hcreate : (s₀.attachWorker 0).2.createSurface 1 1 ⟨1, 1, 4⟩ with
  | error trap =>
      rw [hcreate] at hsession
      cases hsession
  | ok r =>
      rw [hcreate] at hsession
      generalize hrun : Backend.History.run { backend := b } _ = x at hbackend
      cases x with
      | error trap => cases hbackend
      | ok w =>
          have huses : Session.Uses s₀
              ((r.2.fillRect 0 ⟨0⟩ 0 0 0 1 1).2.fillRect 0 ⟨0⟩ 0 0 0 1 1).2.nextCommand.2 :=
            ((((Relation.ReflTransGen.single (.attachWorker _ 0)).tail (.createSurface hcreate)).tail
              (.fillRect _ 0 ⟨0⟩ 0 0 0 1 1)).tail (.fillRect _ 0 ⟨0⟩ 0 0 0 1 1)).tail (.nextCommand _)
          have hfresh : s₀.Fresh := hpristine.session.toFresh
          obtain ⟨hqueue, hheld⟩ := Prod.mk.inj (Option.some.inj hsession)
          obtain ⟨hqueued, htaken⟩ := Prod.mk.inj (Option.some.inj hbackend)
          exact ⟨s₀, _, hfresh, huses, hqueue, hheld, b, hpristine, w, hrun, hqueued, htaken,
            shutdown_complete_and_final hfresh huses hpristine hrun⟩

end RemoteDisplay
