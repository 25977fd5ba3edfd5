import RemoteDisplay.Proofs.Output.Surfaces

/-!
# The end of an output

An output takes with it exactly what is queued for its surface. The surface is not live any more, and
live surfaces are all that commands are queued for; so whatever happens afterwards, the server never
hears of it again.
-/

namespace RemoteDisplay

namespace Session

variable {s : Session}

/-! ## Where a ticket is -/

theorem Accounted.place {spare : Nat} (h : Accounted spare s) (u : Ticket) :
    (s.queue.map (·.ticket)).count u + (s.server.held.map (·.ticket)).count u + s.released.count u ≤ 1 := by
  have hplace := h.places u
  simp only [tickets, List.count_append] at hplace
  rw [hplace]
  split <;> omega

theorem Accounted.unreleased_of_queue {spare : Nat} (h : Accounted spare s) {c : Command}
    (hc : c ∈ s.queue) : s.released.count c.ticket = 0 := by
  have hplace := h.place c.ticket
  have hpos := List.count_pos_iff.mpr (List.mem_map_of_mem (f := (·.ticket)) hc)
  omega

theorem Accounted.unreleased_of_held {spare : Nat} (h : Accounted spare s) {c : Command}
    (hc : c ∈ s.server.held) : s.released.count c.ticket = 0 := by
  have hplace := h.place c.ticket
  have hpos := List.count_pos_iff.mpr (List.mem_map_of_mem (f := (·.ticket)) hc)
  omega

theorem Accounted.released_once {spare : Nat} (h : Accounted spare s) {u : Ticket} (hu : u ∈ s.released) :
    s.released.count u = 1 := by
  have hplace := h.place u
  have hpos := List.count_pos_iff.mpr hu
  omega

end Session

namespace Backend

variable {ρ : Type} {b b' : Backend ρ}

/-! ## Surfaces that are gone -/

/-- The surface had its number once and is not live, and the server saw nothing of it so far. -/
structure Gone (id : SurfaceId) (w : History ρ) : Prop where
  inStep : w.backend.InStep
  old : id.raw < w.backend.session.surfaces.next
  absent : id ∉ w.backend.session.liveIds
  unseen : ∀ d ∈ w.deliveries, d.surface ≠ id

theorem InStep.gone (h : b.InStep) {id : SurfaceId} (hold : id.raw < b.session.surfaces.next)
    (habsent : id ∉ b.session.liveIds) : Gone id { backend := b } :=
  ⟨h, hold, habsent, fun d hd => by cases hd⟩

variable [Renderer ρ]

/-- No action makes a surface live that had a number before, and the server sees nothing but live
surfaces. -/
theorem InStep.perform_later (h : b.InStep) {action : Action} {answer : Answer}
    (hp : b.perform action = .ok (answer, b')) :
    b.session.surfaces.next ≤ b'.session.surfaces.next ∧
      (∀ id ∈ b'.session.liveIds, id ∈ b.session.liveIds ∨ b.session.surfaces.next ≤ id.raw) ∧
      ∀ d ∈ Step.deliveries ⟨b, action, answer, b'⟩, d.surface ∈ b.session.liveIds := by
  rcases perform_moves hp with ⟨hmoves, hanswer⟩ | ⟨rfl, rfl⟩
  · obtain ⟨-, -, hlater⟩ := hmoves.keeps h.accounted h.housed
    refine ⟨hlater.next, hlater.live, fun d hd => ?_⟩
    -- A move announces nothing, and its answer is no drawable.
    simp only [Step.deliveries, hlater.announced, List.drop_length, List.nil_append] at hd
    cases hd
  · obtain ⟨-, -, hsurfaces, told, hannounced, hseen⟩ :=
      Session.nextCommand_keeps_accounts h.accounted h.housed
    refine ⟨?_, fun id hid => .inl ?_, fun d hd => ?_⟩
    · rw [hsurfaces]
      exact UInt32.le_refl _
    · rwa [Session.liveIds, hsurfaces] at hid
    · simp only [Step.deliveries, hannounced, List.drop_left] at hd
      obtain ⟨c, hc, rfl⟩ := hseen d hd
      rw [c.surface_delivery]
      exact h.housed.queue c hc

theorem Gone.perform {id : SurfaceId} {w w' : History ρ} (h : Gone id w) {action : Action}
    {answer : Answer} (hp : w.backend.perform action = .ok (answer, w'.backend))
    (hsteps : w'.steps = w.steps ++ [⟨w.backend, action, answer, w'.backend⟩]) : Gone id w' := by
  obtain ⟨hnext, hlive, hseen⟩ := h.inStep.perform_later hp
  refine ⟨h.inStep.perform hp, UInt32.lt_of_lt_of_le h.old hnext, fun hid => ?_, fun d hd => ?_⟩
  · rcases hlive id hid with hid | hid
    · exact h.absent hid
    · exact UInt32.lt_irrefl _ (UInt32.lt_of_lt_of_le h.old hid)
  · rw [History.deliveries, hsteps, List.flatMap_append, List.mem_append] at hd
    rcases hd with hd | hd
    · exact h.unseen d hd
    · rintro rfl
      exact h.absent (hseen d (by simpa using hd))

/-- A surface that is gone stays gone. -/
theorem Gone.run {id : SurfaceId} {w w' : History ρ} (h : Gone id w) {actions : List Action}
    (hrun : w.run actions = .ok w') : Gone id w' :=
  History.run_induction (P := Gone id) h (fun _ _ _ _ hw hp hsteps => hw.perform hp hsteps) hrun

/-! ## Teardown -/

/-- An output was removed from `b`: what is left is `b'`, now and whatever happens to it. -/
structure Removal (b : Backend ρ) (o : Output) (notices : List Notice) (b' : Backend ρ) : Prop where
  answer : notices = (b.session.queue.filter (·.surface = o.surface)).map (·.notice .teardown)
  recorded : b'.session.notices = b.session.notices ++ notices.toArray
  queue : b'.session.queue = b.session.queue.filter fun c => !decide (c.surface = o.surface)
  released : ∀ c ∈ b.session.queue,
    b'.session.released.count c.ticket = if c.surface = o.surface then 1 else 0
  held : b'.session.server.held = b.session.server.held
  /-- What the server holds is not released, and the server can give it back. -/
  returnable : ∀ c ∈ b'.session.server.held, b'.session.released.count c.ticket = 0 ∧
    ∃ s, b'.session.giveBack c.id Wire.memorySlotGroup = (.ok (c.notice .server), s)
  /-- No command for the surface is ever queued again, and the server never sees one. -/
  never : ∀ actions w, History.run { backend := b' } actions = .ok w →
    (∀ c ∈ w.backend.session.queue, c.surface ≠ o.surface) ∧ ∀ d ∈ w.deliveries, d.surface ≠ o.surface

theorem InStep.removal (h : b.InStep) {id : OutputId} {o : Output} (ho : b.output? id = some o) :
    ∃ notices b', b.destroyOutput id = (.ok notices, b') ∧ Removal b o notices b' := by
  have hring := h.accounted.sound.ring
  have hsurface := h.surface_mem (mem_of_output? ho).1
  have hstep := h.destroyed ho
  obtain ⟨-, hqueue, hnotices, hsurfaces, hserver, -⟩ := b.session.withdrawSurface_spec hring o.surface
  obtain ⟨-, -, hids⟩ := h.housed.withdrawSurface hring o.surface
  rw [h.destroyOutput_eq ho] at hstep ⊢
  refine ⟨_, _, rfl, rfl, hnotices, hqueue, fun c hc => ?_, by rw [hserver], fun c hc => ⟨?_, ?_⟩,
    fun actions w hrun => ?_⟩
  · split
    · rename_i he
      have hreleased : c.ticket ∈ (b.session.withdrawSurface o.surface).released := by
        simp only [Session.released, hnotices, Array.toList_append, List.map_append, List.mem_append]
        refine .inr (List.mem_map.mpr ⟨c.notice .teardown, List.mem_map_of_mem ?_, rfl⟩)
        exact List.mem_filter.mpr ⟨hc, by simpa using he⟩
      exact hstep.accounted.released_once hreleased
    · rename_i hne
      have hkept : c ∈ (b.session.withdrawSurface o.surface).queue := by
        rw [hqueue]
        exact List.mem_filter.mpr ⟨hc, by simpa using hne⟩
      exact hstep.accounted.unreleased_of_queue hkept
  · exact hstep.accounted.unreleased_of_held hc
  · exact hstep.accounted.sound.giveBack_held hc
  · have hnumber : o.surface.raw < (b.session.withdrawSurface o.surface).surfaces.next := by
      rw [hsurfaces]
      exact h.housed.below _ hsurface
    have hdead : o.surface ∉ (b.session.withdrawSurface o.surface).liveIds := by simp [hids]
    have hgone := (hstep.gone hnumber hdead).run hrun
    exact ⟨fun c hc he => hgone.absent (he ▸ hgone.inStep.housed.queue c hc), hgone.unseen⟩

/-- At any moment of any run an output can be removed, and that is the last of it: its commands are
released once and reported in order, all other commands stay where they are, and the server never
sees its surface again. -/
theorem Pristine.removed_for_good (h : b.Pristine) {actions : List Action} {w : History ρ}
    (hrun : History.run { backend := b } actions = .ok w) {id : OutputId} {o : Output}
    (ho : w.backend.output? id = some o) :
    ∃ notices b', w.backend.destroyOutput id = (.ok notices, b') ∧ Removal w.backend o notices b' :=
  (h.inStep.run hrun).removal ho

/-- The background of the first of two outputs is with the server, its picture is queued behind the
commands of the second. -/
theorem removed_for_good_in_flight :
    ∃ b : Backend PatternRenderer, b.Pristine ∧ ∃ w,
      History.run { backend := b } [.attachWorker 0, .createOutput ⟨0, 0, 1, 1⟩,
        .createOutput ⟨0, 0, 1, 1⟩, .getCommand, .repaintOutput ⟨0⟩ (.full 1 1)] = .ok w ∧
      w.backend.session.queue.map (·.surface) = [⟨1⟩, ⟨1⟩, ⟨0⟩] ∧
      w.backend.session.server.held.map (·.surface) = [⟨0⟩] ∧
      ∃ o, w.backend.output? ⟨0⟩ = some o ∧ ∃ notices b',
        w.backend.destroyOutput ⟨0⟩ = (.ok notices, b') ∧ Removal w.backend o notices b' := by
  let b : Backend PatternRenderer :=
    { settings := {}
      session := .ofRing (.ofCapacity 8 0) 0 2 [0]
      renderer := { width := 1, height := 1 } }
  have hpristine : b.Pristine :=
    pristine_ofRing (Ring.wellFormed_ofCapacity 8 0) (Ring.toList_ofCapacity 8 0) (by decide +kernel) 0 2
      (by simp) _
  have hmade : ((History.run { backend := b } [.attachWorker 0, .createOutput ⟨0, 0, 1, 1⟩,
        .createOutput ⟨0, 0, 1, 1⟩, .getCommand,
        .repaintOutput ⟨0⟩ (.full 1 1)]).toOption.map fun w =>
      (w.backend.session.queue.map (·.surface), w.backend.session.server.held.map (·.surface),
        (w.backend.output? ⟨0⟩).isSome)) = some ([⟨1⟩, ⟨1⟩, ⟨0⟩], [⟨0⟩], true) := by
    decide +kernel
  generalize hrun : History.run { backend := b } _ = r at hmade
  cases r with
  | error trap => cases hmade
  | ok w =>
      obtain ⟨hqueue, hheld, hsome⟩ : w.backend.session.queue.map (·.surface) = [⟨1⟩, ⟨1⟩, ⟨0⟩] ∧
          w.backend.session.server.held.map (·.surface) = [⟨0⟩] ∧
          (w.backend.output? ⟨0⟩).isSome = true := by
        simpa [Except.toOption] using hmade
      obtain ⟨o, ho⟩ := Option.isSome_iff_exists.mp hsome
      exact ⟨b, hpristine, w, hrun, hqueue, hheld, o, ho, hpristine.removed_for_good hrun ho⟩

end Backend

end RemoteDisplay
