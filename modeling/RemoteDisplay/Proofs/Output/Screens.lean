import RemoteDisplay.Proofs.Frame.Pattern
import RemoteDisplay.Proofs.Output.Delivery
import RemoteDisplay.Proofs.Session.Execution
import RemoteDisplay.Proofs.Session.Pixels

/-!
# Steps that paint nothing

Most steps neither paint a frame nor make an output. `Calm` says what such a step leaves as it is: the
renderer with its frames, the pixels of every command that is not released, and for each output that
is left the drawables that the server has to execute.
-/

namespace RemoteDisplay

/-- What stays the same about an output. -/
structure Screen where
  id : OutputId
  geometry : Geometry
  surface : SurfaceId
  deriving DecidableEq, Repr

def Output.screen (o : Output) : Screen := ⟨o.id, o.geometry, o.surface⟩

theorem Output.Kin.screen {o o' : Output} (h : Output.Kin o o') : o'.screen = o.screen := by
  rw [Output.screen, h.id, h.geometry, h.surface, Output.screen]

/-- Without the commands of one surface, another has the same drawables. -/
theorem drawables_filter {surface id : SurfaceId} (hne : surface ≠ id) (cs : List Command) :
    drawables surface (cs.filter fun c => !decide (c.surface = id)) = drawables surface cs := by
  rw [drawables, drawables, List.filter_filter]
  refine List.filter_congr fun c _ => ?_
  by_cases hs : c.surface = surface
  · simp [hs, hne]
  · simp [hs]

namespace Backend

variable {ρ : Type}

/-- The outputs, as far as they stay the same. -/
def screens (b : Backend ρ) : List Screen := b.outputs.map (·.screen)

theorem screens_setOutput {b : Backend ρ} (o' : Output) (hids : (b.screens.map (·.id)).Nodup)
    {o : Output} (ho : o ∈ b.outputs) (hk : o'.screen = o.screen) : (b.setOutput o').screens = b.screens := by
  rw [screens, List.map_map] at hids
  exact map_setOutput hids ho (congrArg (·.id) hk) hk

/-! ## Orderly backends -/

/-- A backend in the middle of a run: every output has its own number and its own surface, the size
of the renderer and a place in the coordinates, and the pixel memory is accounted for. -/
structure Tidy (b : Backend PatternRenderer) : Prop where
  order : ∃ sent shut, b.session.InOrder 0 sent shut
  sound : b.renderer.Sound b.session.store b.session.handles
  ids : (b.screens.map (·.id)).Nodup
  surfaces : (b.screens.map (·.surface)).Nodup
  below : ∀ d ∈ b.screens, d.id.raw < b.nextOutput ∧ d.surface.raw < b.session.surfaces.next
  live : ∀ x ∈ b.session.surfaces.live, x.id.raw < b.session.surfaces.next
  size : ∀ d ∈ b.screens, d.geometry.width = b.renderer.width ∧ d.geometry.height = b.renderer.height ∧
    d.geometry.width ≤ maxOutputWidth ∧ d.geometry.height ≤ maxOutputHeight

/-- The step painted nothing and made no output; `taken` went from the ring to the server. -/
structure Calm (b b' : Backend PatternRenderer) (taken : List Command) : Prop where
  renderer : b'.renderer = b.renderer
  settings : b'.settings = b.settings
  nextOutput : b'.nextOutput = b.nextOutput
  screens : b'.screens.Sublist b.screens
  next : b.session.surfaces.next ≤ b'.session.surfaces.next
  live : ∀ x ∈ b'.session.surfaces.live,
    x ∈ b.session.surfaces.live ∨ x.id.raw < b'.session.surfaces.next
  pixels : b.session.store.Keeps (b'.session.handles ++ b.renderer.handles) b'.session.store
  drawables : ∀ d ∈ b'.screens,
    drawables d.surface b.session.queue = drawables d.surface (taken ++ b'.session.queue)
  drawn : ∀ c ∈ taken ++ b'.session.queue, c.record? = none → c ∈ b.session.queue

section Calm

variable {b b' : Backend PatternRenderer} {taken : List Command}

theorem Tidy.counts (h : b.Tidy) : b.session.store.Counts (b.session.handles ++ b.renderer.handles) :=
  h.sound.counts.perm List.perm_append_comm

theorem Tidy.session (h : b.Tidy) : b.session.Sound := by
  obtain ⟨sent, shut, horder⟩ := h.order
  exact horder.sound

theorem Tidy.calm (h : b.Tidy) (hc : Calm b b' taken) (horder : ∃ sent shut, b'.session.InOrder 0 sent shut) :
    b'.Tidy where
  order := horder
  sound := by
    rw [hc.renderer]
    exact h.sound.keeps hc.pixels
  ids := h.ids.sublist (hc.screens.map _)
  surfaces := h.surfaces.sublist (hc.screens.map _)
  below d hd := by
    obtain ⟨hid, hsurface⟩ := h.below d (hc.screens.subset hd)
    exact ⟨hc.nextOutput ▸ hid, UInt32.lt_of_lt_of_le hsurface hc.next⟩
  live x hx := by
    rcases hc.live x hx with hx | hx
    · exact UInt32.lt_of_lt_of_le (h.live x hx) hc.next
    · exact hx
  size d hd := by
    rw [hc.renderer]
    exact h.size d (hc.screens.subset hd)

theorem Tidy.still (h : b.Tidy) (hrenderer : b'.renderer = b.renderer) (hsettings : b'.settings = b.settings)
    (hnext : b'.nextOutput = b.nextOutput) (hscreens : b'.screens = b.screens)
    (hstore : b'.session.store = b.session.store) (hring : b'.session.ring = b.session.ring)
    (hheld : b'.session.server.held = b.session.server.held)
    (hsurfaces : b'.session.surfaces = b.session.surfaces) : Calm b b' [] := by
  have hqueue : b'.session.queue = b.session.queue := by rw [Session.queue, hring, Session.queue]
  have hhandles : b'.session.handles = b.session.handles := by
    rw [Session.handles, hqueue, hheld, Session.handles]
  refine ⟨hrenderer, hsettings, hnext, by rw [hscreens], ?_, fun x hx => ?_, ?_, fun d _ => ?_,
    fun c hc _ => ?_⟩
  · rw [hsurfaces]
    exact UInt32.le_refl _
  · rw [hsurfaces] at hx
    exact .inl hx
  · rw [hstore, hhandles]
    exact .refl h.counts
  · rw [hqueue, List.nil_append]
  · rwa [hqueue, List.nil_append] at hc

/-! ## Calm actions -/

theorem Tidy.destroyed (h : b.Tidy) (id : OutputId) : Calm b (b.destroyOutput id).2 [] := by
  rcases b.destroyOutput_cases id with ⟨-, hb⟩ | ⟨o, ho, hb⟩
  · rw [hb]
    exact h.still rfl rfl rfl rfl rfl rfl rfl rfl
  · rw [hb]
    obtain ⟨hmem, rfl⟩ := mem_of_output? ho
    obtain ⟨-, hqueue, -, hsurfaces, -⟩ := b.session.withdrawSurface_spec h.session.ring o.surface
    refine ⟨rfl, rfl, rfl, List.filter_sublist.map _, ?_, fun x hx => ?_,
      Session.withdrawSurface_keeps h.session.ring h.counts o.surface, fun d hd => ?_, fun c hc _ => ?_⟩
    · simp only [hsurfaces]
      exact UInt32.le_refl _
    · simp only [hsurfaces] at hx
      exact .inl (List.mem_filter.mp hx).1
    · -- another output has another surface
      obtain ⟨o', ho', rfl⟩ := List.mem_map.mp hd
      obtain ⟨hmem', hne⟩ := List.mem_filter.mp ho'
      have hsurface : o'.surface ≠ o.surface := by
        intro he
        have hnodup := h.surfaces
        rw [screens, List.map_map] at hnodup
        rw [List.inj_on_of_nodup_map hnodup hmem' hmem he] at hne
        simp at hne
      simp only [hqueue, List.nil_append]
      exact (drawables_filter hsurface _).symm
    · rw [List.nil_append, hqueue] at hc
      exact (List.mem_filter.mp hc).1

theorem Tidy.expired (h : b.Tidy) {timer : TimerId} (he : b.expire timer = .ok b') : Calm b b' [] := by
  cases expiry he with
  | unowned => exact h.still rfl rfl rfl rfl rfl rfl rfl rfl
  | gone => exact h.still rfl rfl rfl rfl (by simp) (by simp) (by simp) (by simp)
  | @spurious id o howner hsome hstate =>
      have hscreens := screens_setOutput o h.ids (mem_of_output? hsome).1 rfl
      exact h.still rfl rfl rfl hscreens (by simp [setOutput]) (by simp [setOutput])
        (by simp [setOutput]) (by simp [setOutput])
  | @woken id o wakeups howner hsome hstate =>
      have hscreens := screens_setOutput { o with state := .repaintScheduled, stats := { o.stats with wakeups } }
        h.ids (mem_of_output? hsome).1 rfl
      exact h.still rfl rfl rfl hscreens (by simp [setOutput]) (by simp [setOutput])
        (by simp [setOutput]) (by simp [setOutput])

theorem Tidy.requested (h : b.Tidy) (id : OutputId) : Calm b (b.requestRepaint id).2 [] := by
  rcases b.requestRepaint_cases id with ⟨-, hb⟩ | ⟨o, ho, -, hb⟩ | ⟨o, ho, -, hb⟩
  · rw [hb]
    exact h.still rfl rfl rfl rfl rfl rfl rfl rfl
  · rw [hb]
    exact h.still rfl rfl rfl (screens_setOutput _ h.ids (mem_of_output? ho).1 rfl) rfl rfl rfl rfl
  · rw [hb]
    have hscreens := screens_setOutput { o with state := .repaintScheduled } h.ids
      (mem_of_output? ho).1 rfl
    exact h.still rfl rfl rfl hscreens rfl rfl rfl rfl

theorem Tidy.fetched (h : b.Tidy) : Calm b { b with session := b.session.nextCommand.2 }
    (b.session.nextCommand.2.takenBy b.session.nextCommand.1) := by
  have hkeeps := Session.nextCommand_keeps h.session.ring h.counts
  obtain ⟨passed, taken, hsplit, hpassed, -, hsurfaces, htaken⟩ :
      ∃ passed taken : List Command, b.session.queue = passed ++ (taken ++ b.session.nextCommand.2.queue) ∧
        (∀ c ∈ passed, c.record? ≠ none) ∧ (∀ c ∈ taken, c.record? = none) ∧
        b.session.nextCommand.2.surfaces = b.session.surfaces ∧
        b.session.nextCommand.2.takenBy b.session.nextCommand.1 = taken := by
    unfold Session.nextCommand
    split
    · exact ⟨[], [], rfl, by simp, by simp, rfl, rfl⟩
    · exact (Session.fetch_spec h.session.ring b.session.ring.length).taken
  rw [htaken]
  refine ⟨rfl, rfl, rfl, .refl _, ?_, fun x hx => ?_, hkeeps, fun d _ => ?_, fun c hc _ => ?_⟩
  · simp only [hsurfaces]
    exact UInt32.le_refl _
  · simp only [hsurfaces] at hx
    exact .inl hx
  · have hnone : drawables d.surface passed = [] :=
      drawables_eq_nil fun c hc hr => absurd hr (hpassed c hc)
    rw [hsplit, drawables_append, hnone, List.nil_append]
  · rw [hsplit]
    exact List.mem_append_right _ hc

theorem Tidy.givenBack (h : b.Tidy) (id : ReleaseId) (group : UInt32) :
    Calm b { b with session := (b.session.giveBack id group).2 } [] := by
  obtain ⟨hring, hsurfaces, -⟩ := b.session.giveBack_still id group
  have hqueue : (b.session.giveBack id group).2.queue = b.session.queue := by
    rw [Session.queue, hring, Session.queue]
  refine ⟨rfl, rfl, rfl, .refl _, ?_, fun x hx => ?_, Session.giveBack_keeps h.session h.counts id group,
    fun d _ => ?_, fun c hc _ => ?_⟩
  · simp only [hsurfaces]
    exact UInt32.le_refl _
  · simp only [hsurfaces] at hx
    exact .inl hx
  · simp only [hqueue, List.nil_append]
  · rwa [List.nil_append, hqueue] at hc

theorem Tidy.attached (h : b.Tidy) (name : Nat) :
    Calm b { b with session := (b.session.attachWorker name).2 } [] := by
  unfold Session.attachWorker
  split <;> exact h.still rfl rfl rfl rfl rfl rfl rfl rfl

/-- The allocator refuses other numbers of bytes than before. -/
theorem Tidy.refused (h : b.Tidy) (refuses : Nat → Bool) :
    Calm b { b with session.store.refuses := refuses } [] :=
  ⟨rfl, rfl, rfl, .refl _, UInt32.le_refl _, fun _ hx => .inl hx,
    ⟨h.counts, fun _ _ => rfl⟩, fun _ _ => rfl, fun _ hc _ => hc⟩

theorem Tidy.unsent (h : b.Tidy) {o : Output} (ho : o ∈ b.outputs) {damage : Damage}
    {outcome : RepaintOutcome} (hr : Repaint b o damage (.ok outcome) b')
    (hsent : ∀ image, outcome ≠ .sent image) (hdropped : ∀ f, outcome ≠ .dropped f) : Calm b b' [] := by
  have hskipped : ∀ {o₁ o' : Output} {st : Stage PatternRenderer} {damage : Damage},
      Output.Sending o₁ b.stage damage (.ok outcome) o' st → st = b.stage := by
    intro o₁ o' st damage hs
    cases hs with
    | skipped => rfl
    | sent hsome hblit => exact absurd rfl (hsent _)
    | dropped hsome hblit hmild => exact absurd rfl (hdropped _)
  cases hr with
  | early hstate =>
      have hscreen : (b.startCycle o).2.1.screen = o.screen := by
        unfold startCycle Output.requestRepaint
        cases o.state <;> rfl
      exact h.still rfl rfl rfl (screens_setOutput _ h.ids ho hscreen) rfl rfl rfl rfl
  | @awaiting _ o' st timers hstate hs hstart =>
      have hscreen := hs.kin.screen
      cases hskipped hs
      have hscreens := screens_setOutput { o' with state := .awaitingWakeup } h.ids ho hscreen
      exact h.still rfl rfl rfl hscreens rfl rfl rfl rfl
  | @again _ o' st timers f wakeupsMissed hstate hs hstart =>
      have hscreen := hs.kin.screen
      cases hskipped hs
      have hscreens := screens_setOutput { o' with
        state := .repaintScheduled
        stats := { o'.stats with wakeupsMissed } } h.ids ho hscreen
      exact h.still rfl rfl rfl hscreens rfl rfl rfl rfl

end Calm

end Backend

end RemoteDisplay
