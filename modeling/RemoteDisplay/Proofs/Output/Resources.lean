import RemoteDisplay.Proofs.Output.Pacing
import RemoteDisplay.Proofs.Output.Teardown

/-!
# Outputs, surfaces, timers and numbers in step

A backend keeps the same outputs in several tables: its own, the session's live surfaces and the host's
timers. An action changes all of them or, when it fails on the way, none. The counters from which outputs
and surfaces take their numbers only grow, so no number is used twice.
-/

namespace RemoteDisplay

namespace Session

variable {s t : Session}

/-! ## Room for surfaces -/

/-- The table of surfaces keeps its capacity, and what is live stays within it. -/
structure Fits (s t : Session) : Prop where
  capacity : t.surfaces.capacity = s.surfaces.capacity
  room : s.surfaces.live.length ≤ s.surfaces.capacity → t.surfaces.live.length ≤ t.surfaces.capacity

theorem Fits.of_eq (h : t.surfaces = s.surfaces) : Fits s t := by
  refine ⟨by rw [h], fun hroom => ?_⟩
  rwa [h]

theorem Fits.trans {u : Session} (h : Fits s t) (h' : Fits t u) : Fits s u :=
  ⟨h'.capacity.trans h.capacity, fun hroom => h'.room (h.room hroom)⟩

theorem createSurface_fits {width height : UInt32} {backing : Backing}
    {r : Except Fault SurfaceId × Session} (hr : s.createSurface width height backing = .ok r) :
    Fits s r.2 := by
  rcases createSurface_cases hr with ⟨e, rfl⟩ | ⟨record, c, -, -, -, hroom, hnext, rfl, hsub⟩
  · exact .of_eq rfl
  · obtain ⟨hsurfaces, -⟩ := s.numbered.submit_surroundings
      (announcement ⟨s.surfaces.next⟩ width height record ⟨0, ⟨(s.ledger 0).next⟩⟩)
    rw [numbered_surfaces hnext] at hsurfaces
    have htaken : Fits s (s.numbered.submit (announcement ⟨s.surfaces.next⟩ width height record
        ⟨0, ⟨(s.ledger 0).next⟩⟩)).2 := by
      refine ⟨by rw [hsurfaces], fun hlive => ?_⟩
      rw [hsurfaces]
      exact hlive
    rcases hsub with ⟨s', hs, rfl⟩ | ⟨e, s', hs, rfl⟩
    · rw [hs] at hsurfaces
      have hs' : s'.surfaces = { s.surfaces with next := s.surfaces.next + 1 } := hsurfaces
      refine ⟨by simp [hs', SurfaceTable.insert], fun _ => ?_⟩
      simp only [hs', SurfaceTable.insert, List.length_append, List.length_singleton]
      omega
    · rw [hs] at htaken
      exact htaken

theorem withdrawSurface_fits (id : SurfaceId) : Fits s (s.withdrawSurface id) := by
  have hsurfaces : (s.withdrawSurface id).surfaces = { s.surfaces with
      live := s.surfaces.live.filter (·.id ≠ id) } := by
    simp only [withdrawSurface, destroySurface_eq, releaseEach_surfaces]
    rfl
  refine ⟨by rw [hsurfaces], fun hroom => ?_⟩
  rw [hsurfaces]
  exact Nat.le_trans (List.length_filter_le _ _) hroom

theorem shutdown_surfaces : s.shutdown.2.surfaces = s.surfaces := by
  simp only [shutdown, releaseAll, releaseEach_surfaces]
  exact callAttached_surfaces .stop

theorem Move.fits (h : Move s t) : Fits s t := by
  cases h with
  | announce hr => exact createSurface_fits hr
  | present hr colour =>
      exact (createSurface_fits hr).trans (.of_eq (fillRect_surroundings ..).1)
  | paint hr => exact .of_eq (paintImage_surroundings hr).1
  | withdraw surface => exact withdrawSurface_fits surface
  | giveBack id group => exact .of_eq (s.giveBack_still id group).2.1
  | shutdown => exact .of_eq shutdown_surfaces
  | aside h => exact .of_eq h.surfaces

theorem Moves.fits (h : Moves s t) : Fits s t := by
  induction h with
  | refl => exact .of_eq rfl
  | tail _ hmove ih => exact ih.trans hmove.fits

/-! ## Painting on a live surface -/

theorem find?_of_live {id : SurfaceId} (h : id ∈ s.liveIds) : ∃ x, s.surfaces.find? id = some x := by
  obtain ⟨x, hx, hid⟩ := List.mem_map.mp h
  refine Option.isSome_iff_exists.mp ?_
  simp only [SurfaceTable.find?, List.find?_isSome, decide_eq_true_eq]
  exact ⟨x, hx, hid⟩

theorem target_mild {id : SurfaceId} (hlive : id ∈ s.liveIds) {x y : Int32} {width height : UInt32}
    {e : Fault} (ht : s.target id x y width height = .error e) : e.isFatal = false := by
  obtain ⟨surface, hfind⟩ := find?_of_live hlive
  cases hr : Rect.ofOrigin? x y width height with
  | none =>
      simp only [target, placement, hr, bind, Except.bind] at ht
      cases ht
      rfl
  | some bbox =>
      simp only [target, placement, hr, hfind, bind, Except.bind] at ht
      split at ht <;> cases ht
      rfl

theorem submit_mild (c : Command) {e : Fault} (h : (s.submit c).1 = .error e) : e.isFatal = false := by
  simp only [submit] at h
  split at h <;> cases h
  rfl

section Painting

variable {b : Nat} {surface : SurfaceId} {x y : Int32} {width height : UInt32} {pixels : View}
  {stride : UInt32} {damage : Damage} {e : Fault}

theorem buildBlit_fatal (h : s.buildBlit b surface x y width height pixels stride damage = .ok (.error e, t))
    (hfatal : e.isFatal = true) : e = .imageNumbersExhausted := by
  cases hcovers : pixels.covers s.store width height stride with
  | error trap => cases h.symm.trans (buildBlit_of_trap hcovers)
  | ok covered =>
      cases covered with
      | false =>
          cases h.symm.trans (buildBlit_of_not_covered hcovers)
          cases hfatal
      | true =>
          rw [buildBlit_of_covered hcovers, Except.ok.injEq] at h
          split at h
          · rename_i hplaced
            cases h
            simp only [placement] at hplaced
            split at hplaced <;> cases hplaced
            cases hfatal
          · split at h
            · cases h
              cases hfatal
            · split at h <;> cases h
              rfl

/-- On a live surface only the want of image numbers is fatal. -/
theorem paintImage_fatal (hlive : surface ∈ s.liveIds)
    (h : s.paintImage b surface x y width height pixels stride damage = .ok (.error e, t))
    (hfatal : e.isFatal = true) : e = .imageNumbersExhausted := by
  unfold paintImage at h
  cases ht : s.target surface x y width height with
  | error e' =>
      rw [ht] at h
      cases h
      rw [target_mild hlive ht] at hfatal
      cases hfatal
  | ok u =>
      rw [ht] at h
      obtain ⟨⟨answer, s'⟩, hb, h⟩ := Trap.bind_eq_ok.mp h
      cases answer with
      | error e' =>
          cases h
          exact buildBlit_fatal hb hfatal
      | ok c =>
          cases hs : s'.submit c with
          | mk answer t' =>
              have hmild := fun e => s'.submit_mild c (e := e)
              simp only [hs] at h hmild
              cases answer with
              | ok u => cases h
              | error e' =>
                  cases h
                  rw [hmild e rfl] at hfatal
                  cases hfatal

end Painting

end Session

/-- On a live surface only the want of image numbers is fatal to an image. -/
theorem Output.sendFrame_fatal {o : Output} {s s' : Session} (hlive : o.surface ∈ s.liveIds) {f : Frame}
    {damage : Damage} {extents : Region} {e : Fault}
    (h : o.sendFrame s f damage extents = .ok (.error e, s')) (hfatal : e.isFatal = true) :
    e = .imageNumbersExhausted := by
  rcases Output.sendFrame_cases h with ⟨e', hmild, he, -⟩ | ⟨v, t, -, -, -, hpaint, -⟩
  · cases he
    rw [hmild] at hfatal
    cases hfatal
  · have hshared : o.surface ∈ Session.liveIds { s with store := s.store.share v } := hlive
    exact Session.paintImage_fatal hshared hpaint hfatal

/-- The output's entry with the host of the timers. -/
def Output.post (o : Output) : TimerId × OutputId := (o.timer, o.id)

theorem Output.Kin.post {o o' : Output} (h : Output.Kin o o') : o'.post = o.post := by
  rw [Output.post, h.timer, h.id, Output.post]

namespace Backend

variable {ρ : Type} {b b' : Backend ρ}

/-! ## Timers -/

/-- Every output has a timer of its own, and no other timer is registered. -/
structure Manned (b : Backend ρ) : Prop where
  registered : b.timers.registered = b.outputs.map (·.post)
  distinct : (b.timers.registered.map (·.1)).Nodup
  below : ∀ p ∈ b.timers.registered, p.1.raw < b.timers.next

namespace Manned

theorem timers (h : b.Manned) : (b.outputs.map (·.timer)).Nodup := by
  have hdistinct := h.distinct
  rw [h.registered, List.map_map] at hdistinct
  exact hdistinct

theorem keep (h : b.Manned) (houtputs : b'.outputs.map (·.post) = b.outputs.map (·.post))
    (hregistered : b'.timers.registered = b.timers.registered) (hnext : b'.timers.next = b.timers.next) :
    b'.Manned := by
  refine ⟨?_, hregistered ▸ h.distinct, ?_⟩
  · rw [hregistered, houtputs]
    exact h.registered
  · rw [hregistered, hnext]
    exact h.below

/-- Only an output changed, in its state and its counters, and running timers. -/
theorem put (h : b.Manned) (hids : (b.outputs.map (·.id)).Nodup) {o o' : Output} (ho : o ∈ b.outputs)
    (houtputs : b'.outputs = (b.setOutput o').outputs) (hkin : Output.Kin o o')
    (hregistered : b'.timers.registered = b.timers.registered) (hnext : b'.timers.next = b.timers.next) :
    b'.Manned := by
  refine h.keep ?_ hregistered hnext
  rw [houtputs]
  exact map_setOutput hids ho hkin.id hkin.post

theorem destroyed (h : b.Manned) (hids : (b.outputs.map (·.id)).Nodup) (id : OutputId) :
    Manned (b.destroyOutput id).2 := by
  rcases b.destroyOutput_cases id with ⟨-, hb⟩ | ⟨o, ho, hb⟩
  · rw [hb]
    exact h
  · obtain ⟨hmem, rfl⟩ := mem_of_output? ho
    rw [hb]
    refine ⟨?_, h.distinct.sublist (List.filter_sublist.map _), fun p hp => ?_⟩
    · have hothers : b.outputs.filter (fun x => decide (x.id ≠ o.id)) =
          b.outputs.filter fun x => decide (x.post.1 ≠ o.timer) := by
        refine List.filter_congr fun x hx => ?_
        rw [decide_eq_decide]
        refine not_congr ⟨fun he => ?_, fun he => ?_⟩
        · rw [List.inj_on_of_nodup_map hids hx hmem he]
          rfl
        · rw [List.inj_on_of_nodup_map h.timers hx hmem he]
      have hfilter := congrArg (List.filter fun p => decide (p.1 ≠ o.timer)) h.registered
      rw [List.filter_map] at hfilter
      simp only [hothers]
      exact hfilter
    · exact h.below p (List.mem_filter.mp hp).1

theorem created (h : b.Manned) {g : Geometry} {surface : SurfaceId} {s : Session}
    (hadd : b.timers.refuseAdd = none) : Manned (b.opened g surface s) := by
  have htimers : (b.timers.add ⟨b.nextOutput⟩).2 = { b.timers with
      next := b.timers.next + 1
      registered := b.timers.registered ++ [(⟨b.timers.next⟩, ⟨b.nextOutput⟩)]
      calls := b.timers.calls.push (.add ⟨b.timers.next⟩) } := by
    simp [TimerHost.add, hadd]
  simp only [opened, htimers]
  refine ⟨?_, ?_, fun p hp => ?_⟩
  · rw [List.map_append, h.registered]
    rfl
  · rw [List.map_append]
    refine nodup_concat h.distinct fun hmem => ?_
    obtain ⟨p, hp, he⟩ := List.mem_map.mp hmem
    have hlow := h.below p hp
    rw [he] at hlow
    exact Nat.lt_irrefl _ hlow
  · rcases List.mem_append.mp hp with hp | hp
    · exact Nat.lt_succ_of_lt (h.below p hp)
    · rw [List.mem_singleton.mp hp]
      exact Nat.lt_succ_self _

/-- The timer that a registered output owns is the output's own. -/
theorem owner (h : b.Manned) (hids : (b.outputs.map (·.id)).Nodup) {o : Output}
    (ho : o ∈ b.outputs) {timer : TimerId} (howner : b.timers.owner? timer = some o.id) :
    o.timer = timer := by
  rw [TimerHost.owner?, h.registered, List.lookup_eq_some_iff] at howner
  obtain ⟨before, after, hsplit, -⟩ := howner
  have hmem : (timer, o.id) ∈ b.outputs.map (·.post) := by
    rw [hsplit]
    exact List.mem_append_right _ List.mem_cons_self
  obtain ⟨x, hx, he⟩ := List.mem_map.mp hmem
  obtain ⟨rfl, hid⟩ : x.timer = timer ∧ x.id = o.id := by simpa [Output.post] using he
  rw [List.inj_on_of_nodup_map hids hx ho hid]

theorem expired (h : b.Manned) (hids : (b.outputs.map (·.id)).Nodup) {timer : TimerId}
    (he : b.expire timer = .ok b') : b'.Manned := by
  cases expiry he with
  | unowned => exact h.keep rfl rfl rfl
  | gone => exact h.keep rfl rfl rfl
  | spurious howner hsome hstate =>
      exact h.put hids (mem_of_output? hsome).1 rfl (.refl _) rfl rfl
  | woken howner hsome hstate =>
      exact h.put hids (mem_of_output? hsome).1 rfl ⟨rfl, rfl, rfl, rfl, rfl⟩ rfl rfl

end Manned

theorem start_registered {h h' : TimerHost} {t : TimerId} {ms : UInt32} {r : Except Fault Unit}
    (hs : h.start t ms = (r, h')) : h'.registered = h.registered ∧ h'.next = h.next := by
  rcases h.start_cases t ms with ⟨f, -, he⟩ | ⟨h₁, -, he, hnext, hregistered, -⟩
  · rw [he] at hs
    cases hs
    exact ⟨rfl, rfl⟩
  · rw [he] at hs
    cases hs
    exact ⟨hregistered, hnext⟩

section Repaint

variable [Renderer ρ]

theorem Manned.repaint (h : b.Manned) (hids : (b.outputs.map (·.id)).Nodup) {o : Output}
    (ho : o ∈ b.outputs) {damage : Damage} {r : Except Fault RepaintOutcome}
    (hr : Repaint b o damage r b') : b'.Manned := by
  have hstaged : ∀ {o' : Output} {st : Stage ρ} {damage : Damage} {r : Except Fault RepaintOutcome},
      Output.Sending { o with state := .repainting } b.stage damage r o' st →
        Output.Kin o o' ∧ st.timers = b.timers := by
    intro o' st damage r hs
    have hkin : Output.Kin o { o with state := .repainting } := ⟨rfl, rfl, rfl, rfl, rfl⟩
    exact ⟨hkin.trans hs.kin, hs.timers⟩
  cases hr with
  | early hstate =>
      have hkin : Output.Kin o (b.startCycle o).2.1 := by
        unfold startCycle Output.requestRepaint
        cases o.state <;> exact ⟨rfl, rfl, rfl, rfl, rfl⟩
      exact h.put hids ho rfl hkin rfl rfl
  | broken hstate hs =>
      obtain ⟨hkin, htimers⟩ := hstaged hs
      exact h.put hids ho rfl hkin (congrArg (·.registered) htimers) (congrArg (·.next) htimers)
  | awaiting hstate hs hstart =>
      obtain ⟨hkin, -⟩ := hstaged hs
      obtain ⟨hregistered, hnext⟩ := start_registered hstart
      exact h.put hids ho rfl (hkin.trans ⟨rfl, rfl, rfl, rfl, rfl⟩) hregistered hnext
  | stopped hstate hs hstart hfatal =>
      obtain ⟨hkin, -⟩ := hstaged hs
      obtain ⟨hregistered, hnext⟩ := start_registered hstart
      exact h.put hids ho rfl (hkin.trans ⟨rfl, rfl, rfl, rfl, rfl⟩) hregistered hnext
  | again hstate hs hstart hmild =>
      obtain ⟨hkin, -⟩ := hstaged hs
      obtain ⟨hregistered, hnext⟩ := start_registered hstart
      exact h.put hids ho rfl (hkin.trans ⟨rfl, rfl, rfl, rfl, rfl⟩) hregistered hnext

/-- Outputs and timers come and go together. -/
theorem Manned.perform (h : b.Manned) (hs : b.InStep) {action : Action} {answer : Answer}
    (hp : b.perform action = .ok (answer, b')) : b'.Manned := by
  cases action with
  | createOutput g =>
      obtain ⟨r, hc, rfl⟩ := of_map_ok hp
      cases creation_of_createOutput hc with
      | refused => exact h
      | unannounced hsurface => exact h.keep rfl rfl rfl
      | colourless hsurface hcolour => exact h.keep rfl rfl rfl
      | rolledBack hsurface hcolour hadd => exact h.keep rfl rfl rfl
      | created hwidth hheight hsurface hcolour hadd hnext => exact h.created hadd
  | repaintOutput id damage =>
      obtain ⟨r, hr, rfl⟩ := of_map_ok hp
      rcases repaint_of_repaintOutput hr with ⟨-, -, rfl⟩ | ⟨o, ho, hrepaint⟩
      · exact h
      · exact h.repaint hs.ids (mem_of_output? ho).1 hrepaint
  | destroyOutput id =>
      cases hp
      exact h.destroyed hs.ids id
  | requestRepaint id =>
      cases hp
      rcases b.requestRepaint_cases id with ⟨-, hb⟩ | ⟨o, ho, -, hb⟩ | ⟨o, ho, -, hb⟩
      · rw [hb]
        exact h
      · rw [hb]
        exact h.put hs.ids (mem_of_output? ho).1 rfl (.refl o) rfl rfl
      · rw [hb]
        exact h.put hs.ids (mem_of_output? ho).1 rfl ⟨rfl, rfl, rfl, rfl, rfl⟩ rfl rfl
  | expire timer => exact h.expired hs.ids (of_expire_ok hp).1
  | shutdown =>
      cases hp
      refine (shutdown_induction (P := fun b : Backend ρ => (b.outputs.map (·.id)).Nodup ∧ b.Manned)
        (fun b id hb => ⟨?_, hb.2.destroyed hb.1 id⟩) (fun b hb => ?_) ⟨hs.ids, h⟩).2
      · rcases b.destroyOutput_cases id with ⟨-, hd⟩ | ⟨o, ho, hd⟩
        · rw [hd]
          exact hb.1
        · rw [hd]
          exact hb.1.sublist (List.filter_sublist.map _)
      · exact ⟨hb.1, hb.2.keep rfl rfl rfl⟩
  | _ =>
      cases hp
      exact h.keep rfl rfl rfl

end Repaint

/-! ## Numbers -/

/-- There is no new output, or one with the next numbers for outputs and for surfaces. -/
inductive Growth (b b' : Backend ρ) : Prop where
  | none (hids : ∀ o ∈ b'.outputs, o.id ∈ b.outputs.map (·.id)) (hnext : b'.nextOutput = b.nextOutput)
  | one {o : Output} (houtputs : b'.outputs = b.outputs ++ [o]) (hid : o.id = ⟨b.nextOutput⟩)
      (hsurface : o.surface = ⟨b.session.surfaces.next⟩)
      (hnext : b'.nextOutput = b.nextOutput + 1) (hlt : b.nextOutput.toNat + 1 < 4294967296)
      (hnumber : b'.session.surfaces.next = b.session.surfaces.next + 1)
      (hltn : b.session.surfaces.next.toNat + 1 < 4294967296)

theorem Growth.of_ids (hids : b'.outputs.map (·.id) = b.outputs.map (·.id))
    (hnext : b'.nextOutput = b.nextOutput) : Growth b b' :=
  .none (fun _ ho => hids ▸ List.mem_map_of_mem ho) hnext

theorem creation_growth (hring : b.session.ring.WellFormed) {g : Geometry} {r : Except Fault OutputId}
    (hc : Creation b g r b') : Growth b b' := by
  cases hc with
  | refused => exact .of_ids rfl rfl
  | unannounced hsurface => exact .of_ids rfl rfl
  | colourless hsurface hcolour => exact .of_ids rfl rfl
  | rolledBack hsurface hcolour hadd => exact .of_ids rfl rfl
  | @created _ surface s background hwidth hheight hsurface hcolour hadd hnext =>
      obtain ⟨record, ticket, hltn, rfl, -, -, -, hsurfaces, -⟩ := Session.createSurface_ok hring hsurface
      have hfilled : (backgrounded s ⟨b.session.surfaces.next⟩ background g).surfaces = s.surfaces :=
        (Session.fillRect_surroundings ..).1
      refine .one rfl rfl rfl rfl hnext ?_ hltn
      simp only [opened, Session.callAttached_surfaces, hfilled, hsurfaces]

theorem destroyOutput_growth (b : Backend ρ) (id : OutputId) :
    (∀ o ∈ (b.destroyOutput id).2.outputs, o ∈ b.outputs) ∧
      (b.destroyOutput id).2.nextOutput = b.nextOutput := by
  rcases b.destroyOutput_cases id with ⟨-, hb⟩ | ⟨o, ho, hb⟩
  · rw [hb]
    exact ⟨fun _ ho => ho, rfl⟩
  · rw [hb]
    exact ⟨fun x hx => (List.mem_filter.mp hx).1, rfl⟩

theorem shutdown_growth (b : Backend ρ) : Growth b b.shutdown.2 := by
  have hstep : ∀ (b' : Backend ρ) id,
      (∀ o ∈ b'.outputs, o ∈ b.outputs) ∧ b'.nextOutput = b.nextOutput →
      (∀ o ∈ (b'.destroyOutput id).2.outputs, o ∈ b.outputs) ∧
        (b'.destroyOutput id).2.nextOutput = b.nextOutput := by
    intro b' id hb
    obtain ⟨hmem, hnext⟩ := b'.destroyOutput_growth id
    exact ⟨fun o ho => hb.1 o (hmem o ho), hnext.trans hb.2⟩
  obtain ⟨hmem, hnext⟩ := shutdown_induction
    (P := fun b' => (∀ o ∈ b'.outputs, o ∈ b.outputs) ∧ b'.nextOutput = b.nextOutput) hstep
    (fun _ hb => hb) ⟨fun _ ho => ho, rfl⟩
  exact .none (fun o ho => List.mem_map_of_mem (hmem o ho)) hnext

theorem expire_growth {timer : TimerId} (he : b.expire timer = .ok b') : Growth b b' := by
  cases expiry he with
  | unowned => exact .of_ids rfl rfl
  | gone => exact .of_ids rfl rfl
  | spurious => exact .of_ids map_id_setOutput rfl
  | woken => exact .of_ids map_id_setOutput rfl

theorem expire_queue {timer : TimerId} (he : b.expire timer = .ok b') :
    b'.queue = b.queue ∨
    ∃ o ∈ b.outputs, b.timers.owner? timer = some o.id ∧
      b'.queue = (b.queue.finishFrame o.id).schedule o.id := by
  cases expiry he with
  | unowned => exact .inl rfl
  | gone => exact .inl rfl
  | spurious => exact .inl rfl
  | woken howner hsome hstate =>
      obtain ⟨hmem, rfl⟩ := mem_of_output? hsome
      exact .inr ⟨_, hmem, howner, rfl⟩

/-- Only a full counter of wakeups stops an expiry. -/
theorem expire_stopped {timer : TimerId} {trap : Trap} (he : b.expire timer = .error trap) :
    ∃ o ∈ b.outputs, b.timers.owner? timer = some o.id ∧
      18446744073709551616 ≤ o.stats.wakeups.toNat + 1 := by
  unfold expire wakeOwner at he
  have howns : (b.timers.disarm timer).owner? timer = b.timers.owner? timer := rfl
  simp only [howns] at he
  cases howner : b.timers.owner? timer with
  | none =>
      rw [howner] at he
      cases he
  | some id =>
      have hfind : output? { b with
          timers := b.timers.disarm timer
          session := b.session.callAttached .wakeup } id = b.output? id := rfl
      simp only [howner, onWakeup, hfind] at he
      cases hsome : b.output? id with
      | none =>
          rw [hsome] at he
          cases he
      | some o =>
          obtain ⟨hmem, rfl⟩ := mem_of_output? hsome
          refine ⟨o, hmem, rfl, ?_⟩
          rcases Checked.next64_cases o.stats.wakeups with ⟨-, wakeups, hcount, -⟩ | ⟨hfull, -⟩
          · simp only [hsome, Output.wakeup, hcount] at he
            cases hstate : o.state <;> rw [hstate] at he <;> cases he
          · exact hfull

section Repaint

variable [Renderer ρ]

theorem repaint_growth {o : Output} {damage : Damage} {r : Except Fault RepaintOutcome}
    (hr : Repaint b o damage r b') : Growth b b' := by
  cases hr <;> exact .of_ids map_id_setOutput rfl

theorem perform_growth (hring : b.session.ring.WellFormed) {action : Action} {answer : Answer}
    (hp : b.perform action = .ok (answer, b')) : Growth b b' := by
  cases action with
  | createOutput g =>
      obtain ⟨r, hc, rfl⟩ := of_map_ok hp
      exact creation_growth hring (creation_of_createOutput hc)
  | repaintOutput id damage =>
      obtain ⟨r, hr, rfl⟩ := of_map_ok hp
      rcases repaint_of_repaintOutput hr with ⟨-, -, rfl⟩ | ⟨o, -, hrepaint⟩
      · exact .of_ids rfl rfl
      · exact repaint_growth hrepaint
  | destroyOutput id =>
      cases hp
      obtain ⟨hmem, hnext⟩ := b.destroyOutput_growth id
      exact .none (fun o ho => List.mem_map_of_mem (hmem o ho)) hnext
  | requestRepaint id =>
      cases hp
      rcases b.requestRepaint_cases id with ⟨-, hb⟩ | ⟨o, -, -, hb⟩ | ⟨o, -, -, hb⟩
      · rw [hb]
        exact .of_ids rfl rfl
      · rw [hb]
        exact .of_ids map_id_setOutput rfl
      · rw [hb]
        exact .of_ids map_id_setOutput rfl
  | expire timer => exact expire_growth (of_expire_ok hp).1
  | shutdown =>
      cases hp
      exact b.shutdown_growth
  | _ =>
      cases hp
      exact .of_ids rfl rfl

end Repaint

/-! ## All of it -/

/-- The new outputs of a step, with their surfaces. -/
def Step.opened (step : Step ρ) : List (OutputId × SurfaceId) :=
  (step.after.outputs.filter fun o => o.id ∉ step.before.outputs.map (·.id)).map fun o => (o.id, o.surface)

/-- The surface numbers that a step uses up. -/
def Step.numbers (step : Step ρ) : List Nat :=
  List.range' step.before.session.surfaces.next.toNat
    (step.after.session.surfaces.next.toNat - step.before.session.surfaces.next.toNat)

/-- Outputs, surfaces and timers are in step, and output numbers do not run ahead of surface numbers. -/
structure Equipped (capacity : Nat) (b : Backend ρ) : Prop where
  inStep : b.InStep
  manned : b.Manned
  size : b.session.surfaces.capacity = capacity
  room : b.session.surfaces.live.length ≤ capacity
  numbers : b.nextOutput ≤ b.session.surfaces.next

/-- The numbers that a run has used up so far, each once. -/
structure Counted (w : History ρ) : Prop where
  opened : (w.steps.flatMap (·.opened)).Pairwise fun p q => p.1.raw < q.1.raw ∧ p.2.raw < q.2.raw
  openedBelow : ∀ p ∈ w.steps.flatMap (·.opened),
    p.1.raw < w.backend.nextOutput ∧ p.2.raw < w.backend.session.surfaces.next
  numbers : (w.steps.flatMap (·.numbers)).Pairwise (· < ·)
  numbersBelow : ∀ n ∈ w.steps.flatMap (·.numbers), n < w.backend.session.surfaces.next.toNat
  surfaces : ∀ step ∈ w.steps, ∀ p ∈ step.opened, p.2.raw.toNat ∈ step.numbers

/-- A backend that nothing was done with yet, on a host without timers. -/
structure Launched (b : Backend ρ) : Prop extends Pristine b where
  registered : b.timers.registered = []
  numbers : b.nextOutput ≤ b.session.surfaces.next

theorem Launched.equipped (h : b.Launched) : Equipped b.session.surfaces.capacity b where
  inStep := h.inStep
  manned := by
    refine ⟨?_, ?_, ?_⟩ <;> simp [h.registered, h.outputs]
  size := rfl
  room := by simp [h.session.live]
  numbers := h.numbers

/-- The backend of a session for its settings starts so. -/
theorem launched_new {settings : Settings} {skews : List UInt32} {s : Session} {renderer : ρ}
    (hs : Session.ofSettings settings.display skews = .ok (.ok s))
    (hb : Backend.new settings s renderer = .ok b) : b.Launched := by
  refine ⟨pristine_new hs hb, ?_, ?_⟩ <;>
    · simp only [Backend.new, bind, Except.bind] at hb
      split at hb <;> cases hb
      first
      | rfl
      | exact UInt32.zero_le

section Runs

variable [Renderer ρ] {capacity : Nat}

theorem Equipped.perform (h : Equipped capacity b) {action : Action} {answer : Answer}
    (hp : b.perform action = .ok (answer, b')) : Equipped capacity b' := by
  have hfits : Session.Fits b.session b'.session := by
    rcases perform_moves hp with ⟨hmoves, -⟩ | ⟨-, rfl⟩
    · exact Session.Moves.fits hmoves
    · obtain ⟨-, -, hsurfaces, -⟩ :=
        Session.nextCommand_keeps_accounts h.inStep.accounted h.inStep.housed
      exact .of_eq hsurfaces
  have hcapacity := hfits.capacity.trans h.size
  refine ⟨h.inStep.perform hp, h.manned.perform h.inStep hp, hcapacity, ?_, ?_⟩
  · rw [← hcapacity]
    exact hfits.room (h.size.symm ▸ h.room)
  · cases perform_growth h.inStep.accounted.sound.ring hp with
    | none hids hnext =>
        rw [hnext]
        exact UInt32.le_trans h.numbers (h.inStep.perform_later hp).1
    | one houtputs hid hsurface hnext hlt hnumber hltn =>
        have hle := h.numbers
        rw [hnext, hnumber]
        rw [UInt32.le_iff_toNat_le] at hle ⊢
        rw [UInt32.toNat_add, UInt32.toNat_add, UInt32.toNat_one, Nat.mod_eq_of_lt hlt,
          Nat.mod_eq_of_lt hltn]
        omega

/-- A step's new outputs have the next numbers. -/
theorem Equipped.opened (h : Equipped capacity b) {action : Action} {answer : Answer}
    (hp : b.perform action = .ok (answer, b')) :
    (Step.opened ⟨b, action, answer, b'⟩ = [] ∧ b'.nextOutput = b.nextOutput) ∨
    Step.opened ⟨b, action, answer, b'⟩ = [(⟨b.nextOutput⟩, ⟨b.session.surfaces.next⟩)] ∧
      b.nextOutput < b'.nextOutput ∧ b.session.surfaces.next < b'.session.surfaces.next := by
  cases perform_growth h.inStep.accounted.sound.ring hp with
  | none hids hnext =>
      refine .inl ⟨?_, hnext⟩
      rw [Step.opened, List.map_eq_nil_iff, List.filter_eq_nil_iff]
      intro o ho
      simpa using hids o ho
  | @one o houtputs hid hsurface hnext hlt hnumber hltn =>
      refine .inr ⟨?_, hnext ▸ Session.lt_add_one hlt, hnumber ▸ Session.lt_add_one hltn⟩
      have hold : b.outputs.filter (fun x => decide (x.id ∉ b.outputs.map (·.id))) = [] := by
        rw [List.filter_eq_nil_iff]
        intro x hx
        simpa using ⟨x, hx, rfl⟩
      have hnew : o.id ∉ b.outputs.map (·.id) := by
        intro hmem
        have hlow := h.inStep.below o.id hmem
        rw [hid] at hlow
        exact UInt32.lt_irrefl _ hlow
      rw [Step.opened, houtputs, List.filter_append, hold, List.nil_append,
        List.filter_cons_of_pos (by simpa using hnew)]
      simp [hid, hsurface]

theorem Counted.perform {w w' : History ρ} (h : Counted w) (he : Equipped capacity w.backend)
    {action : Action} {answer : Answer} (hp : w.backend.perform action = .ok (answer, w'.backend))
    (hsteps : w'.steps = w.steps ++ [⟨w.backend, action, answer, w'.backend⟩]) : Counted w' := by
  have hle : w.backend.session.surfaces.next ≤ w'.backend.session.surfaces.next :=
    (he.inStep.perform_later hp).1
  have hleNat := UInt32.le_iff_toNat_le.mp hle
  have hnew := he.opened hp
  have hrange : ∀ n, n ∈ Step.numbers ⟨w.backend, action, answer, w'.backend⟩ ↔
      w.backend.session.surfaces.next.toNat ≤ n ∧ n < w'.backend.session.surfaces.next.toNat := by
    intro n
    simp only [Step.numbers, List.mem_range'_1]
    omega
  have hnext : w.backend.nextOutput ≤ w'.backend.nextOutput := by
    rcases hnew with ⟨-, heq⟩ | ⟨-, hlt, -⟩
    · exact heq ▸ UInt32.le_refl _
    · exact UInt32.le_of_lt hlt
  have hbelow : ∀ p ∈ w.steps.flatMap (·.opened),
      p.1.raw < w'.backend.nextOutput ∧ p.2.raw < w'.backend.session.surfaces.next := by
    intro p hp
    obtain ⟨hid, hsurface⟩ := h.openedBelow p hp
    exact ⟨UInt32.lt_of_lt_of_le hid hnext, UInt32.lt_of_lt_of_le hsurface hle⟩
  constructor
  · rw [hsteps, List.flatMap_append, List.flatMap_singleton]
    rcases hnew with ⟨hnil, -⟩ | ⟨hone, -⟩
    · rw [hnil, List.append_nil]
      exact h.opened
    · rw [hone, List.pairwise_append]
      refine ⟨h.opened, List.pairwise_singleton _ _, fun p hp q hq => ?_⟩
      rw [List.mem_singleton.mp hq]
      exact h.openedBelow p hp
  · intro p hp
    rw [hsteps, List.flatMap_append, List.flatMap_singleton, List.mem_append] at hp
    rcases hp with hp | hp
    · exact hbelow p hp
    · rcases hnew with ⟨hnil, -⟩ | ⟨hone, hlt, hltn⟩
      · rw [hnil] at hp
        cases hp
      · rw [hone, List.mem_singleton] at hp
        rw [hp]
        exact ⟨hlt, hltn⟩
  · rw [hsteps, List.flatMap_append, List.flatMap_singleton, List.pairwise_append]
    refine ⟨h.numbers, List.pairwise_lt_range' 1 Nat.one_pos, fun n hn m hm => ?_⟩
    exact Nat.lt_of_lt_of_le (h.numbersBelow n hn) ((hrange m).mp hm).1
  · intro n hn
    rw [hsteps, List.flatMap_append, List.flatMap_singleton, List.mem_append] at hn
    rcases hn with hn | hn
    · exact Nat.lt_of_lt_of_le (h.numbersBelow n hn) hleNat
    · exact ((hrange n).mp hn).2
  · intro step hstep p hp
    rw [hsteps, List.mem_append, List.mem_singleton] at hstep
    rcases hstep with hstep | rfl
    · exact h.surfaces step hstep p hp
    · rcases hnew with ⟨hnil, -⟩ | ⟨hone, -, hltn⟩
      · rw [hnil] at hp
        cases hp
      · rw [hone, List.mem_singleton] at hp
        rw [hp, hrange]
        exact ⟨Nat.le_refl _, UInt32.lt_iff_toNat_lt.mp hltn⟩

theorem Equipped.run (h : Equipped capacity b) {actions : List Action} {w : History ρ}
    (hrun : History.run { backend := b } actions = .ok w) :
    Equipped capacity w.backend ∧ Counted w := by
  refine History.run_induction (P := fun w => Equipped capacity w.backend ∧ Counted w) ⟨h, ?_⟩
    (fun _ _ _ _ hw hp hsteps => ⟨hw.1.perform hp, hw.2.perform hw.1 hp hsteps⟩) hrun
  refine ⟨.nil, fun p hp => ?_, .nil, fun n hn => ?_, fun step hstep => ?_⟩
  · cases hp
  · cases hn
  · cases hstep

/-! ## What follows for single calls -/

/-- A repaint on a live surface fails for the renderer's or the host's reasons, or for want of image
numbers. -/
theorem repaint_error {o : Output} (hlive : o.surface ∈ b.session.liveIds) {damage : Damage} {e : Fault}
    (hr : Repaint b o damage (.error e) b') :
    (∃ renderer store, Renderer.repaint b.renderer b.session.store o.id
      (damage.clipped o.geometry.bounds) = .ok (.error e, renderer, store)) ∨
    b.timers.refuseStart = some e ∨ e = .imageNumbersExhausted := by
  cases hr with
  | stopped hstate hs hstart hfatal =>
      rcases b.timers.start_cases o.timer o.interval with ⟨f, hrefused, hf⟩ | ⟨timers, -, hok, -⟩
      · rw [hf] at hstart
        cases hstart
        exact .inr (.inl hrefused)
      · rw [hok] at hstart
        cases hstart
  | broken hstate hs =>
      cases hs with
      | broken hsome hblit hfatal =>
          obtain ⟨frame, renderer, store, hrender, hend⟩ := Output.blit_cases hblit
          rcases hend with ⟨e', rfl, he, -⟩ | ⟨f, s, -, hsend, -⟩
          · cases he
            exact .inl ⟨renderer, store, hrender⟩
          · have hstored : o.surface ∈ Session.liveIds { b.session with store } := hlive
            exact .inr (.inr (Output.sendFrame_fatal hstored hsend hfatal))

/-- The tables that a backend, its session and its host keep agree, so no call fails because they
do not. -/
structure Provided (capacity : Nat) (b : Backend ρ) : Prop where
  surfaces : b.session.surfaces.live.map (·.shape) = b.outputs.map (·.shape)
  outputIds : (b.outputs.map (·.id)).Nodup
  surfaceIds : b.session.liveIds.Nodup
  room : b.session.surfaces.live.length ≤ capacity
  timers : b.timers.registered = b.outputs.map fun o => (o.timer, o.id)
  timerIds : (b.outputs.map (·.timer)).Nodup
  queued : ∀ c ∈ b.session.queue, c.surface ∈ b.session.liveIds
  destroyed : ∀ o ∈ b.outputs, ∃ notices b', b.destroyOutput o.id = (.ok notices, b')
  /-- A repaint that fails does so for the renderer's or the host's reasons, or for want of image
  numbers, never for want of a surface. -/
  repainted : ∀ o ∈ b.outputs, ∀ damage e b', b.repaintOutput o.id damage = .ok (.error e, b') →
    (∃ renderer store, Renderer.repaint b.renderer b.session.store o.id
      (damage.clipped o.geometry.bounds) = .ok (.error e, renderer, store)) ∨
    b.timers.refuseStart = some e ∨ e = .imageNumbersExhausted
  expired : ∀ timer b', b.expire timer = .ok b' → b'.queue = b.queue ∨
    ∃ o ∈ b.outputs, o.timer = timer ∧ b'.queue = (b.queue.finishFrame o.id).schedule o.id
  /-- An expiry is answered, unless the wakeups of its output are past counting. -/
  stopped : ∀ timer trap, b.expire timer = .error trap →
    ∃ o ∈ b.outputs, o.timer = timer ∧ 18446744073709551616 ≤ o.stats.wakeups.toNat + 1
  /-- The wakeup of an output that is gone does not reach the schedule. -/
  ignored : ∀ id, b.output? id = none → ∃ b', b.onWakeup id = .ok b' ∧ b'.queue = b.queue

theorem Equipped.provided (h : Equipped capacity b) : Provided capacity b where
  surfaces := h.inStep.live
  outputIds := h.inStep.ids
  surfaceIds := h.inStep.housed.distinct
  room := h.room
  timers := h.manned.registered
  timerIds := h.manned.timers
  queued := h.inStep.housed.queue
  destroyed o ho := ⟨_, _, h.inStep.destroyOutput_eq (output?_of_mem h.inStep.ids ho)⟩
  repainted o ho damage e b' hr := by
    rcases repaint_of_repaintOutput hr with ⟨hnone, -⟩ | ⟨x, hx, hrepaint⟩
    · rw [output?_of_mem h.inStep.ids ho] at hnone
      cases hnone
    · cases (output?_of_mem h.inStep.ids ho).symm.trans hx
      exact repaint_error (h.inStep.surface_mem ho) hrepaint
  expired timer b' he := by
    rcases expire_queue he with hsame | ⟨o, ho, howner, hqueue⟩
    · exact .inl hsame
    · exact .inr ⟨o, ho, h.manned.owner h.inStep.ids ho howner, hqueue⟩
  stopped timer trap he := by
    obtain ⟨o, ho, howner, hfull⟩ := expire_stopped he
    exact ⟨o, ho, h.manned.owner h.inStep.ids ho howner, hfull⟩
  ignored id hnone := by
    have hfind : output? { b with session := b.session.callAttached .wakeup } id = none := hnone
    refine ⟨{ b with session := b.session.callAttached .wakeup }, ?_, rfl⟩
    simp only [onWakeup, hfind]
    rfl

/-- At every moment of every run the tables of outputs, surfaces and timers agree, the ring is for live
surfaces only, and each output and each surface has a number that none had before it. -/
theorem Launched.resources_in_step (h : b.Launched) {actions : List Action} {w : History ρ}
    (hrun : History.run { backend := b } actions = .ok w) :
    Provided b.session.surfaces.capacity w.backend ∧
    ((w.steps.flatMap (·.opened)).Pairwise fun p q => p.1.raw < q.1.raw ∧ p.2.raw < q.2.raw) ∧
    (w.steps.flatMap (·.numbers)).Pairwise (· < ·) ∧
    ∀ step ∈ w.steps, ∀ p ∈ step.opened, p.2.raw.toNat ∈ step.numbers := by
  obtain ⟨hequipped, hcounted⟩ := h.equipped.run hrun
  exact ⟨hequipped.provided, hcounted.opened, hcounted.numbers, hcounted.surfaces⟩

end Runs

/-- One creation is refused by the host, one output is destroyed, and its timer expires late. -/
theorem resources_in_step_refused :
    ∃ b : Backend PatternRenderer, b.Launched ∧ ∃ w,
      History.run { backend := b } [.attachWorker 0, .createOutput ⟨0, 0, 1, 1⟩,
        .refuseAdd (.allocationFailed "timer"), .createOutput ⟨0, 0, 1, 1⟩,
        .createOutput ⟨0, 0, 2, 1⟩, .getCommand, .destroyOutput ⟨0⟩, .expire ⟨1⟩,
        .createOutput ⟨0, 0, 1, 1⟩] = .ok w ∧
      w.steps.flatMap (·.opened) = [(⟨0⟩, ⟨0⟩), (⟨1⟩, ⟨2⟩), (⟨2⟩, ⟨3⟩)] ∧
      w.steps.flatMap (·.numbers) = [0, 1, 2, 3] ∧ Provided 2 w.backend := by
  let b : Backend PatternRenderer :=
    { settings := {}
      session := .ofRing (.ofCapacity 8 0) 0 2 [0]
      renderer := { width := 1, height := 1 } }
  have hpristine : b.Pristine :=
    pristine_ofRing (Ring.wellFormed_ofCapacity 8 0) (Ring.toList_ofCapacity 8 0) (by decide +kernel) 0 2
      (by simp) _
  have hlaunched : b.Launched := ⟨hpristine, rfl, UInt32.le_refl _⟩
  have hmade : ((History.run { backend := b } [.attachWorker 0, .createOutput ⟨0, 0, 1, 1⟩,
        .refuseAdd (.allocationFailed "timer"), .createOutput ⟨0, 0, 1, 1⟩,
        .createOutput ⟨0, 0, 2, 1⟩, .getCommand, .destroyOutput ⟨0⟩, .expire ⟨1⟩,
        .createOutput ⟨0, 0, 1, 1⟩]).toOption.map fun w =>
      (w.steps.flatMap (·.opened), w.steps.flatMap (·.numbers))) =
      some ([(⟨0⟩, ⟨0⟩), (⟨1⟩, ⟨2⟩), (⟨2⟩, ⟨3⟩)], [0, 1, 2, 3]) := by
    decide +kernel
  generalize hrun : History.run { backend := b } _ = r at hmade
  cases r with
  | error trap => cases hmade
  | ok w =>
      obtain ⟨hopened, hnumbers⟩ : w.steps.flatMap (·.opened) = _ ∧ w.steps.flatMap (·.numbers) = _ := by
        simpa [Except.toOption] using hmade
      exact ⟨b, hlaunched, w, hrun, hopened, hnumbers, (hlaunched.resources_in_step hrun).1⟩

end Backend

end RemoteDisplay
