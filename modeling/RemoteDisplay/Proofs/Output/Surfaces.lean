import RemoteDisplay.Proofs.Output.Delivery
import RemoteDisplay.Proofs.Session.Moves

/-!
# Outputs and their surfaces

Every action on a backend is a chain of moves of its session, except that the server's fetches take
commands. So what moves and fetches keep, every history keeps. Between actions the live surfaces are
those of the outputs, in the same order.
-/

namespace RemoteDisplay

open Relation (ReflTransGen)

/-- What a surface and its output agree on. -/
def Surface.shape (x : Surface) : SurfaceId × UInt32 × UInt32 := (x.id, x.backing.width, x.backing.height)

def Output.shape (o : Output) : SurfaceId × UInt32 × UInt32 := (o.surface, o.geometry.width, o.geometry.height)

theorem Output.Kin.trans {o p q : Output} (h : Output.Kin o p) (h' : Output.Kin p q) : Output.Kin o q :=
  ⟨h'.id.trans h.id, h'.geometry.trans h.geometry, h'.surface.trans h.surface, h'.timer.trans h.timer,
    h'.interval.trans h.interval⟩

theorem Output.Kin.shape {o o' : Output} (h : Output.Kin o o') : o'.shape = o.shape := by
  rw [Output.shape, h.surface, h.geometry, Output.shape]

/-- Destroying an output that has a live surface succeeds, with the notices of what was queued for it. -/
theorem Output.destroy_ok (o : Output) {s : Session} (h : s.ring.WellFormed) (timers : TimerHost)
    (hlive : o.surface ∈ s.liveIds) :
    (o.destroy s timers).1 = .ok ((s.queue.filter (·.surface = o.surface)).map (·.notice .teardown)) := by
  obtain ⟨ring, hdrain, -⟩ := s.drainSurface_eq h o.surface
  have hcontains : s.surfaces.contains o.surface = true := by
    obtain ⟨x, hx, hid⟩ := List.mem_map.mp hlive
    simp only [SurfaceTable.contains, SurfaceTable.find?, List.find?_isSome, decide_eq_true_eq]
    exact ⟨x, hx, hid⟩
  simp only [Output.destroy, hdrain, Session.destroySurface, SurfaceTable.destroy,
    Session.releaseEach_surfaces, hcontains, if_true]
  rfl

namespace Backend

variable {ρ : Type} {b b' : Backend ρ}

open Session (Move Moves Aside)

/-! ## Actions as moves -/

theorem creation_moves {g : Geometry} {r : Except Fault OutputId} (hc : Creation b g r b') :
    Moves b.session b'.session := by
  cases hc with
  | refused => exact .refl
  | unannounced hsurface => exact .single (.announce hsurface)
  | colourless hsurface hcolour => exact .single (.announce hsurface)
  | @rolledBack backing surface s background f hsurface hcolour hadd =>
      have hpresent := ReflTransGen.single (Move.present hsurface background)
      simp only [rollBack_session]
      exact hpresent.tail (.withdraw _ surface)
  | @created backing surface s background hwidth hheight hsurface hcolour hadd hnext =>
      have hpresent := ReflTransGen.single (Move.present hsurface background)
      exact hpresent.tail (.aside (Session.aside_callAttached _ rfl))

theorem destroyOutput_moves (b : Backend ρ) (id : OutputId) :
    Moves b.session (b.destroyOutput id).2.session := by
  rcases b.destroyOutput_session id with hs | ⟨surface, hs⟩
  · rw [hs]
  · rw [hs]
    exact .single (.withdraw _ surface)

theorem expire_moves {timer : TimerId} (he : b.expire timer = .ok b') : Moves b.session b'.session := by
  rcases expire_session he with hs | hs
  · rw [hs]
  · rw [hs]
    exact .single (.aside (Session.aside_callAttached _ rfl))

theorem shutdown_moves (b : Backend ρ) : Moves b.session b.shutdown.2.session :=
  shutdown_induction (P := fun b' => Moves b.session b'.session)
    (fun b' id hb => hb.trans (b'.destroyOutput_moves id)) (fun _ hb => hb.tail (.shutdown _)) .refl

section Repaint

variable [Renderer ρ]

theorem blit_moves {o : Output} {st st' : Stage ρ} {damage : Damage} {extents : Region}
    {r : Except Fault ImageId} (hb : o.blit st damage extents = .ok (r, st')) :
    Moves st.session st'.session := by
  have hstored : ∀ store, Moves st.session { st.session with store } := fun store =>
    .single (.aside (Session.aside_store _ store))
  exact Output.blit_induction (P := fun _ s => Moves st.session s) hb (fun _ store => hstored store)
    fun v store store' answer t hpaint =>
      ((hstored store).tail (.paint hpaint)).tail (.aside (Session.aside_store t store'))

theorem blit_surfaces {o : Output} {st st' : Stage ρ} {damage : Damage} {extents : Region}
    {r : Except Fault ImageId} (hb : o.blit st damage extents = .ok (r, st')) :
    st'.session.surfaces = st.session.surfaces := by
  exact Output.blit_induction (P := fun _ s => s.surfaces = st.session.surfaces) hb (fun _ _ => rfl)
    fun v store store' answer t hpaint =>
      (Session.paintImage_surroundings hpaint).1

theorem sending_surfaces {o o' : Output} {st st' : Stage ρ} {damage : Damage}
    {r : Except Fault RepaintOutcome} (hs : Output.Sending o st damage r o' st') :
    st'.session.surfaces = st.session.surfaces := by
  cases hs with
  | skipped => rfl
  | sent _ hblit | broken _ hblit | dropped _ hblit => exact blit_surfaces hblit

theorem sending_moves {o o' : Output} {st st' : Stage ρ} {damage : Damage}
    {r : Except Fault RepaintOutcome} (hs : Output.Sending o st damage r o' st') :
    Moves st.session st'.session := by
  cases hs with
  | skipped => exact .refl
  | sent _ hblit | broken _ hblit | dropped _ hblit => exact blit_moves hblit

theorem repaint_moves {o : Output} {damage : Damage} {r : Except Fault RepaintOutcome}
    (hr : Repaint b o damage r b') : Moves b.session b'.session := by
  cases hr with
  | early hstate => exact .refl
  | broken _ hs | awaiting _ hs | stopped _ hs | again _ hs => exact sending_moves hs

/-- An action moves the session, or it is a fetch of the server and changes nothing else. -/
theorem perform_moves {action : Action} {answer : Answer} (hp : b.perform action = .ok (answer, b')) :
    (Moves b.session b'.session ∧ ∀ r, answer ≠ .command r) ∨
      answer = .command b.session.nextCommand.1 ∧ b' = { b with session := b.session.nextCommand.2 } := by
  cases action with
  | createOutput g =>
      obtain ⟨r, hc, rfl⟩ := of_map_ok hp
      exact .inl ⟨creation_moves (creation_of_createOutput hc), by simp⟩
  | repaintOutput id damage =>
      obtain ⟨r, hr, rfl⟩ := of_map_ok hp
      refine .inl ⟨?_, by simp⟩
      rcases repaint_of_repaintOutput hr with ⟨-, -, rfl⟩ | ⟨o, -, hrepaint⟩
      · exact .refl
      · exact repaint_moves hrepaint
  | destroyOutput id =>
      cases hp
      exact .inl ⟨b.destroyOutput_moves id, by simp⟩
  | requestRepaint id =>
      cases hp
      refine .inl ⟨?_, by simp⟩
      rw [b.requestRepaint_session id]
  | expire timer =>
      obtain ⟨he, rfl⟩ := of_expire_ok hp
      exact .inl ⟨expire_moves he, by simp⟩
  | shutdown =>
      cases hp
      exact .inl ⟨b.shutdown_moves, by simp⟩
  | takePending | refuseAdd | refuseStart =>
      cases hp
      exact .inl ⟨.refl, by simp⟩
  | refuseMemory refuses =>
      cases hp
      exact .inl ⟨.single (.aside (Session.aside_store _ _)), by simp⟩
  | setClock | setCompression =>
      cases hp
      exact .inl ⟨.single (.aside ⟨rfl, rfl, rfl, rfl, rfl, rfl, rfl⟩), by simp⟩
  | attachWorker name =>
      cases hp
      exact .inl ⟨.single (.aside (Session.aside_attachWorker _ name)), by simp⟩
  | getCommand =>
      cases hp
      exact .inr ⟨rfl, rfl⟩
  | releaseResource id group =>
      cases hp
      exact .inl ⟨.single (.giveBack _ id group), by simp⟩
  | closeSession =>
      cases hp
      exact .inl ⟨.single (.shutdown _), by simp⟩

end Repaint

/-! ## Outputs and live surfaces -/

/-- The outputs have numbers of their own, and the live surfaces are theirs, of their sizes and in
their order. -/
structure InStep (b : Backend ρ) : Prop where
  accounted : b.session.Accounted 0
  housed : b.session.Housed
  colour : ∃ background, b.settings.display.backgroundColour = .ok background
  live : b.session.surfaces.live.map (·.shape) = b.outputs.map (·.shape)
  ids : (b.outputs.map (·.id)).Nodup
  below : ∀ id ∈ b.outputs.map (·.id), id.raw < b.nextOutput

namespace InStep

theorem liveIds (h : b.InStep) : b.session.liveIds = b.outputs.map (·.surface) := by
  have hlive := congrArg (List.map Prod.fst) h.live
  simpa [Session.liveIds, Surface.shape, Output.shape, Function.comp_def] using hlive

theorem surface_mem (h : b.InStep) {o : Output} (ho : o ∈ b.outputs) : o.surface ∈ b.session.liveIds := by
  rw [h.liveIds]
  exact List.mem_map_of_mem ho

theorem surface_inj (h : b.InStep) {o x : Output} (ho : o ∈ b.outputs) (hx : x ∈ b.outputs) :
    x.surface = o.surface ↔ x.id = o.id := by
  have hsurfaces := h.housed.distinct
  rw [h.liveIds] at hsurfaces
  constructor
  · intro he
    rw [List.inj_on_of_nodup_map hsurfaces hx ho he]
  · intro he
    rw [List.inj_on_of_nodup_map h.ids hx ho he]

/-- The session moved on with the same live surfaces, and the outputs are the same in what matters. -/
theorem keep (h : b.InStep) (hmoves : Moves b.session b'.session)
    (hsettings : b'.settings = b.settings) (hnext : b'.nextOutput = b.nextOutput)
    (hlive : b'.session.surfaces.live = b.session.surfaces.live)
    (hids : b'.outputs.map (·.id) = b.outputs.map (·.id))
    (hshape : b'.outputs.map (·.shape) = b.outputs.map (·.shape)) : b'.InStep := by
  obtain ⟨haccounted, hhoused, -⟩ := hmoves.keeps h.accounted h.housed
  refine ⟨haccounted, hhoused, hsettings ▸ h.colour, ?_, hids ▸ h.ids, ?_⟩
  · rw [hlive, hshape]
    exact h.live
  · rw [hids, hnext]
    exact h.below

/-- Only an output changed, in its state and its counters. -/
theorem put (h : b.InStep) (hmoves : Moves b.session b'.session) {o o' : Output} (ho : o ∈ b.outputs)
    (houtputs : b'.outputs = (b.setOutput o').outputs) (hkin : Output.Kin o o')
    (hsettings : b'.settings = b.settings) (hnext : b'.nextOutput = b.nextOutput)
    (hsurfaces : b'.session.surfaces = b.session.surfaces) : b'.InStep := by
  refine h.keep hmoves hsettings hnext (by rw [hsurfaces]) ?_ ?_
  · rw [houtputs]
    exact map_setOutput h.ids ho hkin.id hkin.id
  · rw [houtputs]
    exact map_setOutput h.ids ho hkin.id hkin.shape

/-- An output is destroyed with its surface and with what was queued for it. -/
theorem destroyOutput_eq (h : b.InStep) {id : OutputId} {o : Output} (ho : b.output? id = some o) :
    b.destroyOutput id =
      (.ok ((b.session.queue.filter (·.surface = o.surface)).map (·.notice .teardown)), { b with
        session := b.session.withdrawSurface o.surface
        timers := (b.timers.cancel o.timer).remove o.timer
        outputs := b.outputs.filter (·.id ≠ id) }) := by
  have hok := o.destroy_ok h.accounted.sound.ring b.timers (h.surface_mem (mem_of_output? ho).1)
  rcases b.destroyOutput_cases id with ⟨hnone, -⟩ | ⟨o', ho', hb⟩
  · rw [ho] at hnone
    cases hnone
  · cases ho.symm.trans ho'
    rw [hb, hok]

theorem destroyed (h : b.InStep) {id : OutputId} {o : Output} (ho : b.output? id = some o) :
    InStep (b.destroyOutput id).2 := by
  obtain ⟨hmem, rfl⟩ := mem_of_output? ho
  obtain ⟨haccounted, hhoused, -⟩ := (b.destroyOutput_moves o.id).keeps h.accounted h.housed
  obtain ⟨-, -, -, hsurfaces, -⟩ := b.session.withdrawSurface_spec h.accounted.sound.ring o.surface
  rw [h.destroyOutput_eq ho] at haccounted hhoused ⊢
  refine ⟨haccounted, hhoused, h.colour, ?_, h.ids.sublist (List.filter_sublist.map _), ?_⟩
  · -- Outputs go by their numbers and surfaces by theirs; both single out `o`.
    have hothers : b.outputs.filter (fun x => decide (x.id ≠ o.id)) =
        b.outputs.filter fun x => decide (x.shape.1 ≠ o.surface) := by
      refine List.filter_congr fun x hx => ?_
      rw [decide_eq_decide]
      exact not_congr (h.surface_inj hmem hx).symm
    have hlive := congrArg (List.filter fun p => decide (p.1 ≠ o.surface)) h.live
    rw [List.filter_map, List.filter_map] at hlive
    simp only [hsurfaces, hothers]
    exact hlive
  · intro i hi
    exact h.below i ((List.filter_sublist.map _).subset hi)

/-- All outputs can be destroyed, one after the other. -/
theorem destroyEach (h : b.InStep) {ids : List OutputId} (hids : b.outputs.map (·.id) = ids) :
    ∃ notices b', b.destroyEach ids = (.ok notices, b') ∧ b'.InStep ∧ b'.outputs = [] := by
  induction ids generalizing b with
  | nil => exact ⟨[], b, rfl, h, List.map_eq_nil_iff.mp hids⟩
  | cons id ids ih =>
      obtain ⟨o, os, houtputs, rfl, hos⟩ := List.map_eq_cons_iff.mp hids
      have ho := output?_of_mem h.ids (houtputs ▸ List.mem_cons_self)
      have hrest : (b.destroyOutput o.id).2.outputs.map (·.id) = ids := by
        have hdistinct := h.ids
        rw [houtputs, List.map_cons, List.nodup_cons] at hdistinct
        have hall : os.filter (fun x => decide (x.id ≠ o.id)) = os := by
          refine List.filter_eq_self.mpr fun x hx => ?_
          rw [decide_eq_true_eq]
          exact fun he => hdistinct.1 (he ▸ List.mem_map_of_mem hx)
        rw [h.destroyOutput_eq ho, houtputs, List.filter_cons_of_neg (by simp), hall, hos]
      obtain ⟨notices, b', hb, hstep, hnil⟩ := ih (h.destroyed ho) hrest
      rw [Backend.destroyEach, h.destroyOutput_eq ho]
      rw [h.destroyOutput_eq ho] at hb
      simp only [hb]
      exact ⟨_, b', rfl, hstep, hnil⟩

/-- The end of the session leaves no output and no live surface. -/
theorem shutdown (h : b.InStep) :
    ∃ notices b', b.shutdown = (.ok notices, b') ∧ b'.InStep ∧ b'.outputs = [] ∧
      ∃ s : Session, b'.session = s.shutdown.2 ∧ s.ring.WellFormed := by
  obtain ⟨first, b₁, hb, hstep, hnil⟩ := h.destroyEach rfl
  have hring := hstep.accounted.sound.ring
  obtain ⟨-, -, -, -, -, -, -, hsurfaces, -⟩ := Session.shutdown_spec hring
  refine ⟨first ++ b₁.session.shutdown.1, { b₁ with session := b₁.session.shutdown.2 },
    by simp only [Backend.shutdown, hb], ?_, hnil, b₁.session, rfl, hring⟩
  exact hstep.keep (.single (.shutdown _)) rfl rfl (by rw [hsurfaces]) rfl rfl

/-- An output that could not be made leaves no surface behind, one that could has its own. -/
theorem creation (h : b.InStep) {g : Geometry} {r : Except Fault OutputId} (hc : Creation b g r b') :
    b'.InStep := by
  have hmoves := creation_moves hc
  have hring := h.accounted.sound.ring
  cases hc with
  | refused => exact h
  | unannounced hsurface =>
      obtain ⟨-, -, hlive, -⟩ := Session.createSurface_error hring hsurface
      exact h.keep hmoves rfl rfl hlive rfl rfl
  | colourless hsurface hcolour =>
      obtain ⟨background, hok⟩ := h.colour
      rw [hok] at hcolour
      cases hcolour
  | @rolledBack backing surface s background f hsurface hcolour hadd =>
      have hpainted := ((h.accounted.createSurface hsurface).2 surface rfl).fillRect surface background
        0 0 g.width g.height
      obtain ⟨-, -, -, hwithdrawn, -⟩ :=
        Session.withdrawSurface_spec (s := backgrounded s surface background g) hpainted.sound.ring surface
      obtain ⟨record, ticket, -, rfl, -, -, -, hsurfaces, -⟩ := Session.createSurface_ok hring hsurface
      have hfilled : (backgrounded s ⟨b.session.surfaces.next⟩ background g).surfaces = s.surfaces :=
        (Session.fillRect_surroundings ..).1
      -- No other surface has the new number, so withdrawing it leaves the table as it was.
      have hold := h.housed.next_unused.1
      refine h.keep hmoves rfl rfl ?_ rfl rfl
      rw [rollBack_session, hwithdrawn, hfilled, hsurfaces]
      simp only [List.filter_append, hold]
      simp
  | @created backing surface s background hwidth hheight hsurface hcolour hadd hnext =>
      obtain ⟨haccounted, hhoused, -⟩ := hmoves.keeps h.accounted h.housed
      obtain ⟨record, ticket, -, rfl, hwidth, hheight, -, hsurfaces, -⟩ :=
        Session.createSurface_ok hring hsurface
      have hfilled : (backgrounded s ⟨b.session.surfaces.next⟩ background g).surfaces = s.surfaces :=
        (Session.fillRect_surroundings ..).1
      have hlt := Session.lt_add_one hnext
      have hnew : (b.opened g ⟨b.session.surfaces.next⟩
            (backgrounded s ⟨b.session.surfaces.next⟩ background g)).outputs.map (·.id) =
          b.outputs.map (·.id) ++ [⟨b.nextOutput⟩] := by
        simp [opened, newOutput]
      refine ⟨haccounted, hhoused, h.colour, ?_, ?_, fun id hid => ?_⟩
      · simp only [opened, Session.callAttached_surfaces, hfilled, hsurfaces, List.map_append, h.live,
          List.map_cons, List.map_nil]
        rw [Surface.shape, hwidth, hheight]
        rfl
      · rw [hnew]
        exact nodup_concat h.ids fun hmem => UInt32.lt_irrefl _ (h.below _ hmem)
      · rw [hnew, List.mem_append, List.mem_singleton] at hid
        rcases hid with hid | rfl
        · exact UInt32.lt_trans (h.below id hid) hlt
        · exact hlt

theorem expired (h : b.InStep) {timer : TimerId} (he : b.expire timer = .ok b') : b'.InStep := by
  have hmoves := expire_moves he
  cases expiry he with
  | unowned => exact h.keep hmoves rfl rfl rfl rfl rfl
  | gone => exact h.keep hmoves rfl rfl (by simp) rfl rfl
  | spurious howner hsome hstate =>
      exact h.put hmoves (mem_of_output? hsome).1 rfl (.refl _) rfl rfl (Session.callAttached_surfaces _)
  | woken howner hsome hstate =>
      exact h.put hmoves (mem_of_output? hsome).1 rfl ⟨rfl, rfl, rfl, rfl, rfl⟩ rfl rfl
        (Session.callAttached_surfaces _)

section

variable [Renderer ρ]

theorem repaint (h : b.InStep) {o : Output} (ho : o ∈ b.outputs) {damage : Damage}
    {r : Except Fault RepaintOutcome} (hr : Repaint b o damage r b') : b'.InStep := by
  have hmoves := repaint_moves hr
  have hstaged : ∀ {o' : Output} {st : Stage ρ} {damage : Damage} {r : Except Fault RepaintOutcome},
      Output.Sending { o with state := .repainting } b.stage damage r o' st →
        Output.Kin o o' ∧ st.session.surfaces = b.session.surfaces := by
    intro o' st damage r hs
    have hkin : Output.Kin o { o with state := .repainting } := ⟨rfl, rfl, rfl, rfl, rfl⟩
    exact ⟨hkin.trans hs.kin, sending_surfaces hs⟩
  cases hr with
  | early hstate =>
      have hkin : Output.Kin o (b.startCycle o).2.1 := by
        unfold startCycle Output.requestRepaint
        cases o.state <;> exact ⟨rfl, rfl, rfl, rfl, rfl⟩
      exact h.put hmoves ho rfl hkin rfl rfl rfl
  | broken hstate hs =>
      obtain ⟨hkin, hsurfaces⟩ := hstaged hs
      exact h.put hmoves ho rfl hkin rfl rfl hsurfaces
  | awaiting hstate hs hstart =>
      obtain ⟨hkin, hsurfaces⟩ := hstaged hs
      exact h.put hmoves ho rfl (hkin.trans ⟨rfl, rfl, rfl, rfl, rfl⟩) rfl rfl hsurfaces
  | stopped hstate hs hstart hfatal =>
      obtain ⟨hkin, hsurfaces⟩ := hstaged hs
      exact h.put hmoves ho rfl (hkin.trans ⟨rfl, rfl, rfl, rfl, rfl⟩) rfl rfl hsurfaces
  | again hstate hs hstart hmild =>
      obtain ⟨hkin, hsurfaces⟩ := hstaged hs
      exact h.put hmoves ho rfl (hkin.trans ⟨rfl, rfl, rfl, rfl, rfl⟩) rfl rfl hsurfaces

/-- What holds between outputs and surfaces survives every action. -/
theorem perform (h : b.InStep) {action : Action} {answer : Answer}
    (hp : b.perform action = .ok (answer, b')) : b'.InStep := by
  have hring := h.accounted.sound.ring
  rcases perform_moves hp with ⟨hmoves, hanswer⟩ | ⟨-, rfl⟩
  -- A move of the session keeps its own accounts, so only outputs and live surfaces are compared.
  · cases action with
    | createOutput g =>
        obtain ⟨r, hc, rfl⟩ := of_map_ok hp
        exact h.creation (creation_of_createOutput hc)
    | repaintOutput id damage =>
        obtain ⟨r, hr, rfl⟩ := of_map_ok hp
        rcases repaint_of_repaintOutput hr with ⟨-, -, rfl⟩ | ⟨o, ho, hrepaint⟩
        · exact h
        · exact h.repaint (mem_of_output? ho).1 hrepaint
    | destroyOutput id =>
        cases hp
        rcases b.destroyOutput_cases id with ⟨-, hb⟩ | ⟨o, ho, -⟩
        · rw [hb]
          exact h
        · exact h.destroyed ho
    | requestRepaint id =>
        cases hp
        rcases b.requestRepaint_cases id with ⟨-, hb⟩ | ⟨o, ho, -, hb⟩ | ⟨o, ho, -, hb⟩
        · rw [hb]
          exact h
        · rw [hb] at hmoves ⊢
          exact h.put hmoves (mem_of_output? ho).1 rfl (.refl o) rfl rfl rfl
        · rw [hb] at hmoves ⊢
          exact h.put hmoves (mem_of_output? ho).1 rfl ⟨rfl, rfl, rfl, rfl, rfl⟩ rfl rfl rfl
    | expire timer =>
        obtain ⟨he, rfl⟩ := of_expire_ok hp
        exact h.expired he
    | shutdown =>
        cases hp
        obtain ⟨notices, b₁, hb, hstep, -⟩ := h.shutdown
        rw [hb]
        exact hstep
    | takePending | refuseAdd | refuseStart | setClock | setCompression | refuseMemory =>
        cases hp
        exact h.keep hmoves rfl rfl rfl rfl rfl
    | attachWorker name =>
        cases hp
        have haside := b.session.aside_attachWorker name
        exact h.keep hmoves rfl rfl (congrArg (·.live) haside.surfaces) rfl rfl
    | getCommand =>
        cases hp
        exact absurd rfl (hanswer _)
    | releaseResource id group =>
        cases hp
        obtain ⟨-, hsurfaces, -⟩ := b.session.giveBack_still id group
        exact h.keep hmoves rfl rfl (congrArg (·.live) hsurfaces) rfl rfl
    | closeSession =>
        cases hp
        obtain ⟨-, -, -, -, -, -, -, hsurfaces, -⟩ := Session.shutdown_spec hring
        exact h.keep hmoves rfl rfl (congrArg (·.live) hsurfaces) rfl rfl
  · obtain ⟨haccounted, hhoused, hsurfaces, -⟩ :=
      Session.nextCommand_keeps_accounts h.accounted h.housed
    exact ⟨haccounted, hhoused, h.colour, by rw [hsurfaces]; exact h.live, h.ids, h.below⟩

theorem run (h : b.InStep) {actions : List Action} {w : History ρ}
    (hrun : History.run { backend := b } actions = .ok w) : w.backend.InStep :=
  History.run_induction (P := fun w => w.backend.InStep) h
    (fun _ _ _ _ hw hp _ => hw.perform hp) hrun

end

end InStep

/-! ## The beginning -/

/-- A backend that nothing was done with yet, with a colour for its backgrounds. -/
structure Pristine (b : Backend ρ) : Prop where
  session : b.session.Untouched
  outputs : b.outputs = []
  colour : ∃ background, b.settings.display.backgroundColour = .ok background

theorem Pristine.inStep (h : b.Pristine) : b.InStep := by
  refine ⟨h.session.accounted, h.session.housed, h.colour, ?_, ?_, ?_⟩ <;>
    simp [h.outputs, h.session.live]

theorem pristine_ofRing {ring : Ring Command} (hring : ring.WellFormed) (hnil : ring.toList = [])
    {settings : Settings} (hcolour : settings.display.backgroundColour.toOption.isSome)
    (retries surfaceCapacity : Nat) {skews : List UInt32} (hskews : skews ≠ []) (renderer : ρ) :
    Pristine { settings, session := .ofRing ring retries surfaceCapacity skews, renderer } where
  session := Session.untouched_ofRing hring hnil retries surfaceCapacity hskews
  outputs := rfl
  colour := by
    cases hc : settings.display.backgroundColour with
    | ok background => exact ⟨background, rfl⟩
    | error e =>
        rw [hc] at hcolour
        cases hcolour

theorem colour_of_validate {d : DisplaySettings} (h : d.validate = .ok ()) :
    ∃ background, d.backgroundColour = .ok background := by
  cases hcolour : d.backgroundColour with
  | ok background => exact ⟨background, rfl⟩
  | error e =>
      simp only [DisplaySettings.validate, bind, Except.bind, hcolour] at h
      repeat' split at h
      all_goals cases h

/-- The backend of a session for its settings starts so. -/
theorem pristine_new {settings : Settings} {skews : List UInt32} {s : Session} {renderer : ρ}
    (hs : Session.ofSettings settings.display skews = .ok (.ok s))
    (hb : Backend.new settings s renderer = .ok b) : b.Pristine := by
  have huntouched := untouched_new hs hb
  have hvalid : settings.display.validate = .ok () := by
    simp only [Session.ofSettings] at hs
    split at hs
    · cases hs
    · assumption
  simp only [Backend.new, bind, Except.bind] at hb
  split at hb
  · cases hb
  · cases hb
    exact ⟨huntouched, rfl, colour_of_validate hvalid⟩

end Backend

end RemoteDisplay
