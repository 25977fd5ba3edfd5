import RemoteDisplay.Proofs.Output.Pacing
import RemoteDisplay.Proofs.Output.Surfaces
import RemoteDisplay.Proofs.Session.Copies

/-!
# The counters of an output account for every cycle

An output counts what became of its repaints and of its wakeups. Three things outside it tell the
same story: the repaints that the compositor saw accepted, the frames that the compositor was told
are finished, and the image copies that the ring took for the surface of the output. `Balanced` keeps
the counters equal to them; only repaints and wakeups change any of it.
-/

namespace RemoteDisplay.Backend

variable {ρ : Type} {b b' : Backend ρ}

/-! ## Only repaints copy images -/

section Copies

theorem creation_copies {g : Geometry} {r : Except Fault OutputId} (hc : Creation b g r b') :
    b'.session.copies = b.session.copies := by
  cases hc with
  | refused => rfl
  | unannounced hsurface => exact Session.copies_createSurface hsurface
  | colourless hsurface hcolour => exact Session.copies_createSurface hsurface
  | rolledBack hsurface hcolour hadd =>
      rw [rollBack_session, Session.copies_of_accepted (Session.accepted_withdrawSurface _ _),
        backgrounded, Session.copies_fillRect]
      exact Session.copies_createSurface hsurface
  | created hwidth hheight hsurface hcolour hadd hnext =>
      rw [opened, Session.copies_of_accepted (Session.callAttached_accepted .start), backgrounded,
        Session.copies_fillRect]
      exact Session.copies_createSurface hsurface

theorem destroyOutput_accepted (b : Backend ρ) (id : OutputId) :
    (b.destroyOutput id).2.session.accepted = b.session.accepted := by
  rcases b.destroyOutput_session id with hs | ⟨surface, hs⟩
  · rw [hs]
  · rw [hs, Session.accepted_withdrawSurface]

variable [Renderer ρ]

theorem perform_copies (h : b.InStep) {action : Action} {answer : Answer}
    (hp : b.perform action = .ok (answer, b')) (hno : ∀ id damage, action ≠ .repaintOutput id damage) :
    b'.session.copies = b.session.copies := by
  have hring := h.accounted.sound.ring
  cases action with
  | createOutput g =>
      obtain ⟨r, hc, rfl⟩ := of_map_ok hp
      exact creation_copies (creation_of_createOutput hc)
  | repaintOutput id damage => exact absurd rfl (hno id damage)
  | destroyOutput id =>
      cases hp
      exact Session.copies_of_accepted (b.destroyOutput_accepted id)
  | requestRepaint id =>
      cases hp
      rw [b.requestRepaint_session id]
  | expire timer =>
      obtain ⟨he, rfl⟩ := of_expire_ok hp
      rcases expire_session he with hs | hs
      · rw [hs]
      · rw [hs]
        exact Session.copies_of_accepted (Session.callAttached_accepted .wakeup)
  | shutdown =>
      cases hp
      refine Session.copies_of_accepted ?_
      exact shutdown_induction (P := fun b' => b'.session.accepted = b.session.accepted)
        (fun b' id hb => (b'.destroyOutput_accepted id).trans hb)
        (fun b' hb => b'.session.accepted_shutdown.trans hb) rfl
  | takePending | refuseAdd | refuseStart | setClock | setCompression | refuseMemory =>
      cases hp
      rfl
  | attachWorker name =>
      cases hp
      exact Session.copies_of_accepted (b.session.accepted_attachWorker name)
  | getCommand =>
      cases hp
      exact Session.copies_of_accepted (Session.accepted_nextCommand hring)
  | releaseResource id group =>
      cases hp
      exact Session.copies_of_accepted (b.session.accepted_giveBack id group)
  | closeSession =>
      cases hp
      exact Session.copies_of_accepted b.session.accepted_shutdown

/-- Surface numbers are never taken back. -/
theorem perform_next (h : b.InStep) {action : Action} {answer : Answer}
    (hp : b.perform action = .ok (answer, b')) : b.session.surfaces.next ≤ b'.session.surfaces.next := by
  rcases perform_moves hp with ⟨hmoves, -⟩ | ⟨-, rfl⟩
  · obtain ⟨-, -, hlater⟩ := hmoves.keeps h.accounted h.housed
    exact hlater.next
  · obtain ⟨-, -, hsurfaces, -⟩ := Session.nextCommand_keeps_accounts h.accounted h.housed
    rw [hsurfaces]
    exact UInt32.le_refl _

end Copies

/-! ## The account of the counters -/

/-- The counters of an output are right: each accepted repaint was sent, skipped or dropped, and was
followed by a wakeup, by a missed one, or by the one that is awaited; each wakeup finished a frame,
and each image sent is a copy that the ring took. -/
structure Tallied (b : Backend ρ) (accepted : List OutputId) (o : Output) : Prop where
  repaints : o.stats.sent.toNat + o.stats.skipped.toNat + o.stats.dropped.toNat = accepted.count o.id
  wakeups : accepted.count o.id =
    o.stats.wakeups.toNat + o.stats.wakeupsMissed.toNat + if o.state = .awaitingWakeup then 1 else 0
  finished : b.queue.finished.count o.id = o.stats.wakeups.toNat
  copies : o.stats.sent.toNat = b.session.copies o.surface

/-- The counters of all outputs are right, and no output or surface that is still to come has a
finished frame or a copy to its number. -/
structure Balanced (b : Backend ρ) (accepted : List OutputId) : Prop where
  unfinished : ∀ id : OutputId, b.nextOutput ≤ id.raw → b.queue.finished.count id = 0
  uncopied : ∀ id : SurfaceId, b.session.surfaces.next ≤ id.raw → b.session.copies id = 0
  tallied : ∀ o ∈ b.outputs, Tallied b accepted o

/-- What an accepted repaint counts: itself, and no wakeup. An image that was sent is one copy more for
the surface of the output, and no other surface gets one. -/
structure Advanced (o o' : Output) (s t : Session) : Prop where
  repaints : o'.stats.sent.toNat + o'.stats.skipped.toNat + o'.stats.dropped.toNat =
    o.stats.sent.toNat + o.stats.skipped.toNat + o.stats.dropped.toNat + 1
  wakeups : o'.stats.wakeups = o.stats.wakeups
  copies : o'.stats.sent.toNat + s.copies o.surface = o.stats.sent.toNat + t.copies o.surface
  others : ∀ id ≠ o.surface, t.copies id = s.copies id

/-- Destroying an output makes no new one, and asks the compositor for nothing. -/
theorem destroyOutput_keeps (b : Backend ρ) (id : OutputId) :
    (∀ x ∈ (b.destroyOutput id).2.outputs, x ∈ b.outputs) ∧
      (b.destroyOutput id).2.nextOutput = b.nextOutput ∧ (b.destroyOutput id).2.queue = b.queue := by
  rcases b.destroyOutput_cases id with ⟨-, hb⟩ | ⟨o, -, hb⟩ <;> rw [hb]
  · exact ⟨fun _ hx => hx, rfl, rfl⟩
  · exact ⟨fun x hx => List.mem_of_mem_filter hx, rfl, rfl⟩

theorem shutdown_keeps (b : Backend ρ) :
    (∀ x ∈ b.shutdown.2.outputs, x ∈ b.outputs) ∧ b.shutdown.2.nextOutput = b.nextOutput ∧
      b.shutdown.2.queue = b.queue := by
  refine shutdown_induction (P := fun b' => (∀ x ∈ b'.outputs, x ∈ b.outputs) ∧
    b'.nextOutput = b.nextOutput ∧ b'.queue = b.queue) (fun b' id hb => ?_) (fun _ hb => hb)
    ⟨fun _ hx => hx, rfl, rfl⟩
  obtain ⟨houtputs, hnext, hqueue⟩ := b'.destroyOutput_keeps id
  exact ⟨fun x hx => hb.1 x (houtputs x hx), hnext.trans hb.2.1, hqueue.trans hb.2.2⟩

section Repaint

variable [Renderer ρ] {o o' : Output} {st st' : Stage ρ} {damage : Damage} {outcome : RepaintOutcome}

theorem copies_blit {extents : Region} {r : Except Fault ImageId}
    (hb : o.blit st damage extents = .ok (r, st')) (id : SurfaceId) :
    st'.session.copies id =
      st.session.copies id + if r.toOption.isSome ∧ o.surface = id then 1 else 0 := by
  exact Output.blit_induction
    (P := fun r s => s.copies id = st.session.copies id + if r.toOption.isSome ∧ o.surface = id then 1 else 0)
    hb (fun _ _ => rfl) fun v store store' answer t hpaint =>
      Session.copies_paintImage hpaint id

theorem advanced_of_sending (hs : Output.Sending o st damage (.ok outcome) o' st') :
    Advanced o o' st.session st'.session ∧ o'.stats.wakeupsMissed = o.stats.wakeupsMissed := by
  cases hs with
  | skipped hnone hcount => exact ⟨⟨by simp only; omega, rfl, rfl, fun _ _ => rfl⟩, rfl⟩
  | sent hsome hblit hcount =>
      refine ⟨⟨by simp only; omega, rfl, ?_, fun id hne => ?_⟩, rfl⟩
      · rw [copies_blit hblit o.surface]
        simp only [Except.toOption, Option.isSome_some, and_self, if_true]
        omega
      · rw [copies_blit hblit id]
        simp [hne.symm]
  | dropped hsome hblit hmild hcount =>
      refine ⟨⟨by simp only; omega, rfl, ?_, fun id _ => ?_⟩, rfl⟩
      · rw [copies_blit hblit o.surface]
        simp [Except.toOption]
      · rw [copies_blit hblit id]
        simp [Except.toOption]

/-- An accepted repaint is counted, and its wakeup is awaited or missed. -/
theorem advanced_of_repaint (hr : Repaint b o damage (.ok outcome) b') (hne : outcome ≠ .notScheduled) :
    ∃ o', o.state = .repaintScheduled ∧ Output.Kin o o' ∧ b'.outputs = (b.setOutput o').outputs ∧
      b'.nextOutput = b.nextOutput ∧ b'.queue.finished = b.queue.finished ∧
      b'.session.surfaces = b.session.surfaces ∧ Advanced o o' b.session b'.session ∧
      (o'.stats.wakeupsMissed.toNat + if o'.state = .awaitingWakeup then 1 else 0) =
        o.stats.wakeupsMissed.toNat + 1 := by
  cases hr with
  | early => exact absurd rfl hne
  | @awaiting outcome o' st timers hstate hs hstart =>
      obtain ⟨hadvanced, hmissed⟩ := advanced_of_sending hs
      have hk := hs.kin
      refine ⟨{ o' with state := .awaitingWakeup }, hstate,
        ⟨hk.id, hk.geometry, hk.surface, hk.timer, hk.interval⟩, rfl, rfl, rfl, sending_surfaces hs,
        ⟨hadvanced.repaints, hadvanced.wakeups, hadvanced.copies, hadvanced.others⟩, ?_⟩
      simp [hmissed]
  | @again outcome o' st timers f wakeupsMissed hstate hs hstart hmild hcount =>
      obtain ⟨hadvanced, hmissed⟩ := advanced_of_sending hs
      have hk := hs.kin
      refine ⟨{ o' with
          state := .repaintScheduled
          stats := { o'.stats with wakeupsMissed } }, hstate,
        ⟨hk.id, hk.geometry, hk.surface, hk.timer, hk.interval⟩, rfl, rfl, rfl, sending_surfaces hs,
        ⟨hadvanced.repaints, hadvanced.wakeups, hadvanced.copies, hadvanced.others⟩, ?_⟩
      simp [hcount, hmissed]

end Repaint

namespace Balanced

variable {accepted accepted' : List OutputId} {o o' : Output}

/-- No counter, frame or copy changed, and no output is new. -/
theorem keep (h : Balanced b accepted) (houtputs : ∀ x ∈ b'.outputs, x ∈ b.outputs)
    (hnext : b'.nextOutput = b.nextOutput) (hfinished : b'.queue.finished = b.queue.finished)
    (hcopies : b'.session.copies = b.session.copies)
    (hsurfaces : b.session.surfaces.next ≤ b'.session.surfaces.next) : Balanced b' accepted where
  unfinished id hid := by
    rw [hfinished]
    exact h.unfinished id (hnext ▸ hid)
  uncopied id hid := by
    rw [hcopies]
    exact h.uncopied id (UInt32.le_trans hsurfaces hid)
  tallied x hx := by
    have hold := h.tallied x (houtputs x hx)
    exact ⟨hold.repaints, hold.wakeups, by rw [hfinished]; exact hold.finished,
      by rw [hcopies]; exact hold.copies⟩

/-- A new output has counted nothing yet. -/
theorem created (h : Balanced b accepted) (hpaced : Paced b accepted) {g : Geometry} {s : Session}
    (hnumber : b.nextOutput.toNat + 1 < 4294967296)
    (hcopies : (b.opened g ⟨b.session.surfaces.next⟩ s).session.copies = b.session.copies)
    (hnext : b.session.surfaces.next ≤
      (b.opened g ⟨b.session.surfaces.next⟩ s).session.surfaces.next) :
    Balanced (b.opened g ⟨b.session.surfaces.next⟩ s) accepted := by
  constructor
  · intro id hid
    exact h.unfinished id (UInt32.le_trans (UInt32.le_of_lt (Session.lt_add_one hnumber)) hid)
  · intro id hid
    rw [hcopies]
    exact h.uncopied id (UInt32.le_trans hnext hid)
  · intro x hx
    have hnew : x ∈ b.outputs ++ [b.newOutput g ⟨b.session.surfaces.next⟩] := hx
    rw [List.mem_append, List.mem_singleton] at hnew
    rcases hnew with hold | rfl
    · have hold := h.tallied x hold
      exact ⟨hold.repaints, hold.wakeups, hold.finished, by rw [hcopies]; exact hold.copies⟩
    · have hunseen := (hpaced.unseen ⟨b.nextOutput⟩ (UInt32.le_refl _)).2
      refine ⟨hunseen.symm, hunseen, h.unfinished _ (UInt32.le_refl _), ?_⟩
      rw [hcopies]
      exact (h.uncopied _ (UInt32.le_refl _)).symm

/-- Only what concerns one output was counted, and that rightly. -/
theorem update (h : Balanced b accepted) (hstep : b.InStep) (ho : o ∈ b.outputs)
    (hkin : Output.Kin o o') (houtputs : b'.outputs = (b.setOutput o').outputs)
    (hnext : b'.nextOutput = b.nextOutput)
    (hfinished : ∀ id, id ≠ o.id → b'.queue.finished.count id = b.queue.finished.count id)
    (haccepted : ∀ id, id ≠ o.id → accepted'.count id = accepted.count id)
    (hcopies : ∀ id, id ≠ o.surface → b'.session.copies id = b.session.copies id)
    (hsurfaces : b'.session.surfaces = b.session.surfaces) (htallied : Tallied b' accepted' o') :
    Balanced b' accepted' := by
  constructor
  · intro id hid
    rw [hnext] at hid
    have hne : id ≠ o.id := by
      rintro rfl
      exact UInt32.not_le.mpr (hstep.below _ (List.mem_map_of_mem ho)) hid
    rw [hfinished id hne]
    exact h.unfinished id hid
  · intro id hid
    rw [hsurfaces] at hid
    have hne : id ≠ o.surface := by
      rintro rfl
      exact UInt32.not_le.mpr (hstep.housed.below _ (hstep.surface_mem ho)) hid
    rw [hcopies id hne]
    exact h.uncopied id hid
  · intro x hx
    rw [houtputs] at hx
    rcases mem_setOutput hx with rfl | ⟨hx, hne⟩
    · exact htallied
    · rw [hkin.id] at hne
      have hold := h.tallied x hx
      refine ⟨?_, ?_, ?_, ?_⟩
      · rw [haccepted x.id hne]
        exact hold.repaints
      · rw [haccepted x.id hne]
        exact hold.wakeups
      · rw [hfinished x.id hne]
        exact hold.finished
      · rw [hcopies x.surface (mt (hstep.surface_inj ho hx).mp hne)]
        exact hold.copies

theorem expired (h : Balanced b accepted) (hstep : b.InStep) {timer : TimerId}
    (he : b.expire timer = .ok b') : Balanced b' accepted := by
  have hwakeup : (b.session.callAttached .wakeup).copies = b.session.copies :=
    Session.copies_of_accepted (Session.callAttached_accepted .wakeup)
  have hsurfaces : (b.session.callAttached .wakeup).surfaces = b.session.surfaces :=
    Session.callAttached_surfaces .wakeup
  cases expiry he with
  | unowned => exact h.keep (fun _ hx => hx) rfl rfl rfl (UInt32.le_refl _)
  | gone => exact h.keep (fun _ hx => hx) rfl rfl hwakeup (by rw [hsurfaces]; exact UInt32.le_refl _)
  | @spurious id o howner hsome hstate =>
      obtain ⟨ho, rfl⟩ := mem_of_output? hsome
      have hold := h.tallied o ho
      exact h.update hstep ho (.refl o) rfl rfl (fun _ _ => rfl) (fun _ _ => rfl)
        (fun id _ => congrFun hwakeup id) hsurfaces
        ⟨hold.repaints, hold.wakeups, hold.finished, hold.copies.trans (congrFun hwakeup _).symm⟩
  | @woken id o wakeups howner hsome hstate hcount =>
      obtain ⟨ho, rfl⟩ := mem_of_output? hsome
      have hold := h.tallied o ho
      have hkin : Output.Kin o { o with state := .repaintScheduled, stats := { o.stats with wakeups } } :=
        ⟨rfl, rfl, rfl, rfl, rfl⟩
      refine h.update hstep ho hkin rfl rfl (fun id hne => ?_) (fun _ _ => rfl)
        (fun id _ => congrFun hwakeup id) hsurfaces
        ⟨hold.repaints, ?_, ?_, hold.copies.trans (congrFun hwakeup _).symm⟩
      · simp [setOutput, RepaintQueue.schedule, RepaintQueue.finishFrame, Ne.symm hne]
      -- The wakeup that was awaited has come, so the sum stays as it was.
      · have hwakeups := hold.wakeups
        simp only [hstate, if_true] at hwakeups
        simp only [reduceCtorEq, if_false]
        omega
      · have hfinished := hold.finished
        simp [setOutput, RepaintQueue.schedule, RepaintQueue.finishFrame, hfinished, hcount]

section

variable [Renderer ρ]

theorem repainted (h : Balanced b accepted) (hstep : b.InStep) (ho : o ∈ b.outputs) {damage : Damage}
    {outcome : RepaintOutcome} (hr : Repaint b o damage (.ok outcome) b')
    (hne : outcome ≠ .notScheduled) : Balanced b' (accepted ++ [o.id]) := by
  obtain ⟨o', hstate, hkin, houtputs, hnext, hfinished, hsurfaces, hadvanced, hmissed⟩ :=
    advanced_of_repaint hr hne
  obtain ⟨hrepaints, hwakeups, hwoken, hcopies⟩ := h.tallied o ho
  refine h.update hstep ho hkin houtputs hnext (fun id _ => by rw [hfinished]) (fun id hid => ?_)
    hadvanced.others hsurfaces ⟨?_, ?_, ?_, ?_⟩
  · simp [Ne.symm hid]
  · rw [hadvanced.repaints, hrepaints, hkin.id]
    simp
  · rw [hkin.id, List.count_append, List.count_singleton_self, hwakeups, hadvanced.wakeups]
    simp only [hstate, reduceCtorEq, if_false]
    omega
  · rw [hfinished, hkin.id, hadvanced.wakeups]
    exact hwoken
  · have hsent := hadvanced.copies
    rw [hkin.surface]
    omega

theorem perform (h : Balanced b accepted) (hstep : b.InStep) (hpaced : Paced b accepted)
    {action : Action} {answer : Answer} (hp : b.perform action = .ok (answer, b'))
    (hmild : Step.Mild ⟨b, action, answer, b'⟩) :
    Balanced b' (accepted ++ (Step.accepted? ⟨b, action, answer, b'⟩).toList) := by
  have hcopies := perform_copies hstep hp
  have hnext := perform_next hstep hp
  cases action with
  | createOutput g =>
      obtain ⟨r, hc, rfl⟩ := of_map_ok hp
      simp only [Step.accepted?, Option.toList_none, List.append_nil]
      have hcopied := hcopies (by simp)
      cases creation_of_createOutput hc with
      | refused => exact h
      | unannounced | colourless | rolledBack =>
          exact h.keep (fun _ hx => hx) rfl rfl hcopied hnext
      | created hwidth hheight hsurface hcolour hadd hnumber =>
          obtain ⟨record, ticket, -, rfl, -⟩ :=
            Session.createSurface_ok hstep.accounted.sound.ring hsurface
          exact h.created hpaced hnumber hcopied hnext
  | repaintOutput id damage =>
      obtain ⟨r, hr, rfl⟩ := of_map_ok hp
      rcases repaint_of_repaintOutput hr with ⟨-, rfl, rfl⟩ | ⟨o, ho, hrepaint⟩
      · simpa [Step.accepted?] using h
      · obtain ⟨hmem, rfl⟩ := mem_of_output? ho
        rcases hpaced.repainted hmem hrepaint (fun f => hmild.fault ho) with
          ⟨rfl, rfl⟩ | ⟨outcome, hne, rfl, -⟩
        · simpa [Step.accepted?] using h
        · simpa [Step.accepted?, hne] using h.repainted hstep hmem hrepaint hne
  | destroyOutput id =>
      cases hp
      obtain ⟨houtputs, hnumber, hqueue⟩ := b.destroyOutput_keeps id
      simpa [Step.accepted?] using h.keep houtputs hnumber (by rw [hqueue]) (hcopies (by simp)) hnext
  | requestRepaint id =>
      cases hp
      simpa [Step.accepted?, hpaced.requestRepaint id] using h
  | expire timer =>
      obtain ⟨he, rfl⟩ := of_expire_ok hp
      simpa [Step.accepted?] using h.expired hstep he
  | shutdown =>
      cases hp
      obtain ⟨houtputs, hnumber, hqueue⟩ := b.shutdown_keeps
      simpa [Step.accepted?] using h.keep houtputs hnumber (by rw [hqueue]) (hcopies (by simp)) hnext
  | takePending | refuseAdd | refuseStart | attachWorker | getCommand | releaseResource | setClock
    | setCompression | closeSession | refuseMemory =>
      cases hp
      simp only [Step.accepted?, Option.toList_none, List.append_nil]
      exact h.keep (fun _ hx => hx) rfl rfl (hcopies (by simp)) hnext

end

end Balanced

/-! ## Runs -/

/-- A pristine backend on a host without timers, whose compositor was not asked or told anything. -/
structure Silent (b : Backend ρ) : Prop extends Pristine b, Unused b where
  finished : b.queue.finished = #[]

theorem Silent.balanced (h : b.Silent) : Balanced b [] where
  unfinished id _ := by simp [h.finished]
  uncopied id _ := by simp [Session.copies, h.session.accepted]
  tallied o ho := by simp [h.toPristine.outputs] at ho

/-- The backend of a session for its settings starts so. -/
theorem silent_new {settings : Settings} {skews : List UInt32} {s : Session} {renderer : ρ}
    (hs : Session.ofSettings settings.display skews = .ok (.ok s))
    (hb : Backend.new settings s renderer = .ok b) : b.Silent := by
  refine ⟨pristine_new hs hb, ?_, ?_, ?_⟩ <;>
    · simp only [Backend.new, bind, Except.bind] at hb
      split at hb <;> cases hb
      rfl

section Runs

variable [Renderer ρ] {actions : List Action} {w : History ρ}

theorem Silent.run (h : b.Silent) (hrun : History.run { backend := b } actions = .ok w) :
    (∀ step ∈ w.steps, step.Mild) →
      w.backend.InStep ∧ Paced w.backend w.accepted ∧ Balanced w.backend w.accepted := by
  refine History.run_induction
    (P := fun w => (∀ step ∈ w.steps, step.Mild) →
      w.backend.InStep ∧ Paced w.backend w.accepted ∧ Balanced w.backend w.accepted)
    (fun _ => ⟨h.toPristine.inStep, h.toUnused.paced, h.balanced⟩)
    (fun w w' action answer ih hp hsteps hmild => ?_) hrun
  rw [hsteps] at hmild
  obtain ⟨hstep, hpaced, hbalanced⟩ := ih fun step hs => hmild step (List.mem_append_left _ hs)
  have hlast := hmild _ (List.mem_append_right _ (List.mem_singleton.mpr rfl))
  rw [History.accepted_concat hsteps]
  exact ⟨hstep.perform hp, hpaced.perform hp hlast, hbalanced.perform hstep hpaced hp hlast⟩

/-- As long as no repaint fails fatally, the counters of an output account for every cycle: the
repaints that it accepted were sent, skipped or dropped, and each was followed by a wakeup, by a
missed one, or by the one that is awaited. Every wakeup finished a frame, and the images sent are the
copies that the ring took for the surface of the output. -/
theorem Silent.accounts_for_every_cycle (h : b.Silent)
    (hrun : History.run { backend := b } actions = .ok w) (hmild : ∀ step ∈ w.steps, step.Mild) :
    ∀ o ∈ w.backend.outputs,
      o.stats.sent.toNat + o.stats.skipped.toNat + o.stats.dropped.toNat = w.accepted.count o.id ∧
      w.accepted.count o.id = o.stats.wakeups.toNat + o.stats.wakeupsMissed.toNat +
        (if o.state = .awaitingWakeup then 1 else 0) ∧
      w.backend.queue.finished.count o.id = o.stats.wakeups.toNat ∧
      o.stats.sent.toNat = w.backend.session.accepted.countP fun c =>
        c.surface = o.surface ∧ c.kind = .drawCopy := by
  intro o ho
  obtain ⟨-, -, hbalanced⟩ := h.run hrun hmild
  obtain ⟨hrepaints, hwakeups, hfinished, hcopies⟩ := hbalanced.tallied o ho
  exact ⟨hrepaints, hwakeups, hfinished, hcopies⟩

end Runs

/-- The first image is sent but its timer cannot be started, the second finds the ring full, the third
repaint comes too early and the last one has nothing to show. -/
theorem accounts_for_every_cycle_full_ring :
    ∃ b : Backend PatternRenderer, b.Silent ∧ ∃ w,
      History.run { backend := b } [.createOutput ⟨0, 0, 1, 1⟩,
        .refuseStart (.allocationFailed "timer"), .repaintOutput ⟨0⟩ (.full 1 1),
        .repaintOutput ⟨0⟩ (.full 1 1), .repaintOutput ⟨0⟩ (.full 1 1), .expire ⟨1⟩,
        .repaintOutput ⟨0⟩ .empty] = .ok w ∧
      (∀ step ∈ w.steps, step.Mild) ∧
      w.backend.outputs.map (·.stats) =
        [{ sent := 1, skipped := 1, dropped := 1, wakeups := 1, wakeupsMissed := 1 }] ∧
      ∀ o ∈ w.backend.outputs,
        o.stats.sent.toNat + o.stats.skipped.toNat + o.stats.dropped.toNat = w.accepted.count o.id ∧
        w.accepted.count o.id = o.stats.wakeups.toNat + o.stats.wakeupsMissed.toNat +
          (if o.state = .awaitingWakeup then 1 else 0) ∧
        w.backend.queue.finished.count o.id = o.stats.wakeups.toNat ∧
        o.stats.sent.toNat = w.backend.session.accepted.countP fun c =>
          c.surface = o.surface ∧ c.kind = .drawCopy := by
  let b : Backend PatternRenderer :=
    { settings := {}
      session := .ofRing (.ofCapacity 3 0) 0 1 [0]
      renderer := { width := 1, height := 1 } }
  have hsilent : b.Silent :=
    { pristine_ofRing (Ring.wellFormed_ofCapacity 3 0) (Ring.toList_ofCapacity 3 0) (by decide +kernel)
        0 1 (by decide) _ with
      registered := rfl
      requests := rfl
      finished := rfl }
  have hmade : ((History.run { backend := b } [.createOutput ⟨0, 0, 1, 1⟩,
        .refuseStart (.allocationFailed "timer"), .repaintOutput ⟨0⟩ (.full 1 1),
        .repaintOutput ⟨0⟩ (.full 1 1), .repaintOutput ⟨0⟩ (.full 1 1), .expire ⟨1⟩,
        .repaintOutput ⟨0⟩ .empty]).toOption.map fun w =>
      (w.backend.outputs.map (·.stats), w.steps.all (·.faultless))) = some
      ([{ sent := 1, skipped := 1, dropped := 1, wakeups := 1, wakeupsMissed := 1 }], true) := by
    decide +kernel
  generalize hrun : History.run { backend := b } _ = r at hmade
  cases r with
  | error trap => cases hmade
  | ok w =>
      obtain ⟨hstats, hsteps⟩ := Prod.mk.inj (Option.some.inj hmade)
      have hmild : ∀ step ∈ w.steps, step.Mild := fun step hs =>
        Step.mild_of_faultless (List.all_eq_true.mp hsteps step hs)
      exact ⟨b, hsilent, w, hrun, hmild, hstats, hsilent.accounts_for_every_cycle hrun hmild⟩

end RemoteDisplay.Backend
