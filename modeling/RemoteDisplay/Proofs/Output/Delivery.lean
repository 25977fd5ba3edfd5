import RemoteDisplay.Proofs.Output.Effects
import RemoteDisplay.Proofs.Output.History
import RemoteDisplay.Proofs.Session.Order

/-!
# What the server sees of a backend

During a history the worker is told of surfaces and the server takes drawables. Put one after the
other, these deliveries are the commands that the ring accepted, in the order of their acceptance,
without those that left it in another way and those that it still holds.
-/

namespace RemoteDisplay

def Delivery.surface? : Delivery → Option SurfaceId
  | .announced id _ => some id
  | .drawn _ => none

namespace Backend

variable {ρ : Type}

/-- What the server sees during a step: what its worker is told of, then the drawable that it takes. -/
def Step.deliveries (step : Step ρ) : List Delivery :=
  step.after.session.announced.drop step.before.session.announced.length ++
    match step.answer with
    | .command r => drawnBy r
    | _ => []

/-- The tickets of the commands that were queued when the step ended the session. -/
def Step.shut (step : Step ρ) : List Ticket :=
  match step.answer with
  | .shutDown (.ok _) | .closed _ => step.before.session.queue.map (·.ticket)
  | _ => []

namespace History

def deliveries (h : History ρ) : List Delivery := h.steps.flatMap (·.deliveries)

def shut (h : History ρ) : List Ticket := h.steps.flatMap (·.shut)

/-- The tickets of the commands that left the ring without going to the server: because an output
was torn down or not made after all, or because the session ended. -/
def withdrawn (h : History ρ) : List Ticket := h.backend.session.tornDown ++ h.shut

end History

/-! ## One step -/

variable {b b' : Backend ρ} {sent : List Command} {shut : List Ticket}

theorem destroyOutput_session (b : Backend ρ) (id : OutputId) :
    (b.destroyOutput id).2.session = b.session ∨
      ∃ surface, (b.destroyOutput id).2.session = b.session.withdrawSurface surface := by
  rcases b.destroyOutput_cases id with ⟨-, hb⟩ | ⟨o, -, hb⟩
  · exact .inl (by rw [hb])
  · exact .inr ⟨o.surface, by rw [hb]⟩

theorem rollBack_session (s : Session) (surface : SurfaceId) (cause : Fault) :
    (rollBack s surface cause).2 = s.withdrawSurface surface := by
  simp only [rollBack, Session.withdrawSurface]
  split
  · rename_i hs
    rw [hs]
  · rename_i hs
    rw [hs]

/-- What is queued less after some outputs were destroyed was torn down. -/
structure TornDown (s s' : Session) : Prop where
  announced : s'.announced = s.announced
  queue : s'.queue ⊆ s.queue
  tickets : ∀ c ∈ s.queue, c ∈ s'.queue ∨ c.ticket ∈ s'.tornDown
  kept : s.tornDown ⊆ s'.tornDown

theorem TornDown.refl (s : Session) : TornDown s s :=
  ⟨rfl, fun _ h => h, fun _ h => .inl h, fun _ h => h⟩

theorem TornDown.trans {s t u : Session} (h : TornDown s t) (h' : TornDown t u) : TornDown s u where
  announced := h'.announced.trans h.announced
  queue _ hc := h.queue (h'.queue hc)
  tickets c hc := by
    rcases h.tickets c hc with hc | hc
    · exact h'.tickets c hc
    · exact .inr (h'.kept hc)
  kept _ ht := h'.kept (h.kept ht)

theorem tornDown_withdrawSurface {s : Session} (h : s.ring.WellFormed) (id : SurfaceId) :
    TornDown s (s.withdrawSurface id) := by
  obtain ⟨-, hqueue, hnotices, -, -, hcalls, -⟩ := s.withdrawSurface_spec h id
  have htorn := Session.tornDown_of_notices hnotices
  rw [if_pos rfl] at htorn
  refine ⟨by rw [Session.announced, hcalls, Session.announced], ?_, fun c hc => ?_, ?_⟩
  · rw [hqueue]
    exact fun c hc => (List.mem_filter.mp hc).1
  · by_cases hs : c.surface = id
    · refine .inr (htorn ▸ List.mem_append_right _ (List.mem_map_of_mem (List.mem_filter.mpr ⟨hc, ?_⟩)))
      simpa using hs
    · exact .inl (hqueue ▸ List.mem_filter.mpr ⟨hc, by simpa using hs⟩)
  · rw [htorn]
    exact List.subset_append_left _ _

theorem destroyOutput_inOrder (h : b.session.InOrder 0 sent shut) (id : OutputId) :
    (b.destroyOutput id).2.session.InOrder 0 sent shut ∧
      TornDown b.session (b.destroyOutput id).2.session := by
  rcases b.destroyOutput_session id with hs | ⟨surface, hs⟩
  · rw [hs]
    exact ⟨h, .refl _⟩
  · rw [hs]
    exact ⟨h.withdrawSurface surface, tornDown_withdrawSurface h.sound.ring surface⟩

theorem destroyEach_inOrder (h : b.session.InOrder 0 sent shut) (ids : List OutputId) :
    (b.destroyEach ids).2.session.InOrder 0 sent shut ∧
      TornDown b.session (b.destroyEach ids).2.session := by
  refine destroyEach_induction (P := fun b' =>
    b'.session.InOrder 0 sent shut ∧ TornDown b.session b'.session) (fun b' id hb => ?_) ⟨h, .refl _⟩ ids
  obtain ⟨horder, htorn⟩ := destroyOutput_inOrder hb.1 id
  exact ⟨horder, hb.2.trans htorn⟩

theorem shutdown_inOrder (h : b.session.InOrder 0 sent shut) {r : Except Fault (List Notice)}
    (hr : b.shutdown = (r, b')) :
    b'.session.InOrder 0 sent (shut ++ Step.shut ⟨b, .shutdown, .shutDown r, b'⟩) ∧
      b'.session.announced = b.session.announced := by
  obtain ⟨horder, htorn⟩ := destroyEach_inOrder h (b.outputs.map (·.id))
  simp only [shutdown] at hr
  split at hr
  · rename_i he
    cases hr
    rw [he] at horder htorn
    exact ⟨by simpa [Step.shut] using horder, htorn.announced⟩
  · rename_i first b₁ he
    cases hr
    rw [he] at horder htorn
    have hclosed := horder.shutdown
    obtain ⟨hall, -, -, -, hnotices, hcalls, -⟩ := Session.shutdown_spec horder.sound.ring
    have hkept : b₁.session.shutdown.2.tornDown = b₁.session.tornDown := by
      rw [hall] at hnotices
      simpa using Session.tornDown_of_notices hnotices
    refine ⟨hclosed.congr fun t => ?_, ?_⟩
    · simp only [Step.shut, List.mem_append, List.mem_map, hkept]
      constructor
      · rintro (ht | ht | ⟨c, hc, rfl⟩)
        · exact .inl ht
        · exact .inr (.inl ht)
        · rcases htorn.tickets c hc with hc | hc
          · exact .inr (.inr ⟨c, hc, rfl⟩)
          · exact .inl hc
      · rintro (ht | ht | ⟨c, hc, rfl⟩)
        · exact .inl ht
        · exact .inr (.inl ht)
        · exact .inr (.inr ⟨c, htorn.queue hc, rfl⟩)
    · have hstop : b₁.session.shutdown.2.announced = (b₁.session.callAttached .stop).announced := by
        rw [Session.announced, hcalls, Session.announced]
      exact hstop.trans ((Session.announced_callAttached rfl).trans htorn.announced)

theorem creation_inOrder (h : b.session.InOrder 0 sent shut) {g : Geometry}
    {r : Except Fault OutputId} (hc : Creation b g r b') :
    b'.session.InOrder 0 sent shut ∧ b'.session.announced = b.session.announced := by
  have hannounced : ∀ {backing : Backing} {r : Except Fault SurfaceId × Session},
      b.session.createSurface g.width g.height backing = .ok r → r.2.announced = b.session.announced := by
    intro backing r hr
    rw [Session.announced, Session.createSurface_calls hr, Session.announced]
  have hfill : ∀ (s : Session) (surface : SurfaceId) (background : UInt32),
      (backgrounded s surface background g).announced = s.announced := by
    intro s surface background
    rw [Session.announced, backgrounded, Session.fillRect_calls, Session.announced]
  cases hc with
  | refused => exact ⟨h, rfl⟩
  | unannounced hsurface => exact ⟨(h.createSurface hsurface).1, hannounced hsurface⟩
  | colourless hsurface hcolour => exact ⟨(h.createSurface hsurface).1, hannounced hsurface⟩
  | @rolledBack backing surface s background f hsurface hcolour hadd =>
      have hs : s.InOrder 1 sent shut := (h.createSurface hsurface).2 surface rfl
      have hpainted : (backgrounded s surface background g).InOrder 0 sent shut :=
        hs.fillRect surface background 0 0 g.width g.height
      simp only [rollBack_session]
      refine ⟨hpainted.withdrawSurface surface, ?_⟩
      rw [(tornDown_withdrawSurface hpainted.sound.ring surface).announced]
      exact (hfill s surface background).trans (hannounced hsurface)
  | @created backing surface s background hwidth hheight hsurface hcolour hadd hnext =>
      have hs : s.InOrder 1 sent shut := (h.createSurface hsurface).2 surface rfl
      have hpainted : (backgrounded s surface background g).InOrder 0 sent shut :=
        hs.fillRect surface background 0 0 g.width g.height
      refine ⟨hpainted.callAttached .start, ?_⟩
      exact (Session.announced_callAttached rfl).trans
        ((hfill s surface background).trans (hannounced hsurface))

section Repaint

variable [Renderer ρ]

theorem blit_inOrder {o : Output} {st st' : Stage ρ} {damage : Damage} {extents : Region}
    {r : Except Fault ImageId} (h : st.session.InOrder 0 sent shut)
    (hb : o.blit st damage extents = .ok (r, st')) :
    st'.session.InOrder 0 sent shut ∧ st'.session.announced = st.session.announced := by
  refine Output.blit_induction
    (P := fun _ s => s.InOrder 0 sent shut ∧ s.announced = st.session.announced) hb
    (fun _ store => ⟨h.withStore store, rfl⟩) fun v store store' answer t hpaint => ?_
  have hpainted := (h.withStore store).paintImage o.surface extents.x extents.y extents.width
    extents.height v v.stride damage hpaint
  have hcalls := Session.paintImage_calls hpaint
  exact ⟨hpainted.withStore store', congrArg (·.toList.filterMap (·.delivery?)) hcalls⟩

theorem repaint_inOrder {o : Output} (h : b.session.InOrder 0 sent shut) {damage : Damage}
    {r : Except Fault RepaintOutcome} (hr : Repaint b o damage r b') :
    b'.session.InOrder 0 sent shut ∧ b'.session.announced = b.session.announced := by
  have hsend : ∀ {o o' : Output} {st : Stage ρ} {damage : Damage} {r : Except Fault RepaintOutcome},
      Output.Sending o b.stage damage r o' st →
        st.session.InOrder 0 sent shut ∧ st.session.announced = b.session.announced := by
    intro o o' st damage r hs
    cases hs with
    | skipped => exact ⟨h, rfl⟩
    | sent _ hblit | broken _ hblit | dropped _ hblit => exact blit_inOrder h hblit
  cases hr with
  | early hstate => exact ⟨h, rfl⟩
  | broken hstate hs => exact hsend hs
  | awaiting hstate hs hstart => exact hsend hs
  | stopped hstate hs hstart hfatal => exact hsend hs
  | again hstate hs hstart hmild => exact hsend hs

end Repaint

/-- During a step the server sees some commands more, and some others are withdrawn. -/
theorem perform_inOrder [Renderer ρ] (h : b.session.InOrder 0 sent shut) {action : Action}
    {answer : Answer} (hp : b.perform action = .ok (answer, b'))
    (hworker : action = .getCommand → b.session.server.worker.isSome) :
    ∃ taken, b'.session.InOrder 0 (sent ++ taken) (shut ++ Step.shut ⟨b, action, answer, b'⟩) ∧
      Step.deliveries ⟨b, action, answer, b'⟩ = taken.map (·.delivery) := by
  -- only `getCommand` answers a drawable, and only then the worker is told of surfaces
  have hquiet : (∀ r, answer ≠ .command r) → b'.session.announced = b.session.announced →
      b'.session.InOrder 0 sent (shut ++ Step.shut ⟨b, action, answer, b'⟩) →
      ∃ taken, b'.session.InOrder 0 (sent ++ taken) (shut ++ Step.shut ⟨b, action, answer, b'⟩) ∧
        Step.deliveries ⟨b, action, answer, b'⟩ = taken.map (·.delivery) := by
    intro hanswer hannounced horder
    refine ⟨[], by simpa using horder, ?_⟩
    simp only [Step.deliveries, hannounced, List.drop_length, List.nil_append, List.map_nil]
  cases action with
  | createOutput g =>
      obtain ⟨r, hc, rfl⟩ := of_map_ok hp
      obtain ⟨horder, hannounced⟩ := creation_inOrder h (creation_of_createOutput hc)
      exact hquiet (by simp) hannounced (by simpa [Step.shut] using horder)
  | repaintOutput id damage =>
      obtain ⟨r, hr, rfl⟩ := of_map_ok hp
      rcases repaint_of_repaintOutput hr with ⟨-, -, rfl⟩ | ⟨o, -, hrepaint⟩
      · exact hquiet (by simp) rfl (by simpa [Step.shut] using h)
      · obtain ⟨horder, hannounced⟩ := repaint_inOrder h hrepaint
        exact hquiet (by simp) hannounced (by simpa [Step.shut] using horder)
  | destroyOutput id =>
      cases hp
      obtain ⟨horder, htorn⟩ := destroyOutput_inOrder h id
      exact hquiet (by simp) htorn.announced (by simpa [Step.shut] using horder)
  | requestRepaint id =>
      cases hp
      have hs := b.requestRepaint_session id
      exact hquiet (by simp) (by rw [hs]) (by simpa [Step.shut, hs] using h)
  | expire timer =>
      obtain ⟨hexpire, rfl⟩ := of_expire_ok hp
      rcases expire_session hexpire with hs | hs
      · exact hquiet (by simp) (by rw [hs]) (by simpa [Step.shut, hs] using h)
      · refine hquiet (by simp) ?_ (by simpa [Step.shut, hs] using h.callAttached .wakeup)
        rw [hs]
        exact Session.announced_callAttached rfl
  | shutdown =>
      cases hp
      obtain ⟨horder, hannounced⟩ := shutdown_inOrder h (Prod.eta b.shutdown).symm
      exact hquiet (by simp) hannounced horder
  | takePending | refuseAdd | refuseStart =>
      cases hp
      exact hquiet (by simp) rfl (by simpa [Step.shut] using h)
  | refuseMemory refuses =>
      cases hp
      exact hquiet (by simp) rfl (by simpa [Step.shut] using h.withStore _)
  | setClock time =>
      cases hp
      have ht : b.session.Transfer [] (b.session.setClock time) [] :=
        .of_eq h.sound rfl rfl rfl rfl fun _ => rfl
      have horder := h.keep ht rfl rfl rfl rfl rfl rfl
      exact hquiet (by simp) rfl (by simpa [Step.shut] using horder)
  | setCompression level =>
      cases hp
      have ht : b.session.Transfer [] (b.session.setCompression level) [] :=
        .of_eq h.sound rfl rfl rfl rfl fun _ => rfl
      have horder := h.keep ht rfl rfl rfl rfl rfl rfl
      exact hquiet (by simp) rfl (by simpa [Step.shut] using horder)
  | attachWorker name =>
      cases hp
      have hannounced : (b.session.attachWorker name).2.announced = b.session.announced := by
        simp only [Session.attachWorker]
        split
        · rfl
        · exact Session.announced_call rfl
      exact hquiet (by simp) hannounced (by simpa [Step.shut] using h.attachWorker name)
  | getCommand =>
      cases hp
      obtain ⟨taken, told, horder, hannounced, htold⟩ := h.nextCommand (hworker rfl)
      refine ⟨taken, by simpa [Step.shut] using horder, ?_⟩
      simp only [Step.deliveries, hannounced, List.drop_left]
      exact htold
  | releaseResource id group =>
      cases hp
      obtain ⟨-, -, hcalls⟩ := b.session.giveBack_still id group
      have hannounced : (b.session.giveBack id group).2.announced = b.session.announced := by
        rw [Session.announced, hcalls, Session.announced]
      exact hquiet (by simp) hannounced (by simpa [Step.shut] using h.giveBack id group)
  | closeSession =>
      cases hp
      obtain ⟨-, -, -, -, -, hcalls, -⟩ := Session.shutdown_spec h.sound.ring
      have hstop : b.session.shutdown.2.announced = (b.session.callAttached .stop).announced := by
        rw [Session.announced, hcalls, Session.announced]
      exact hquiet (by simp) (hstop.trans (Session.announced_callAttached rfl)) h.shutdown

/-! ## Runs -/

/-- Everything that the server saw is the front of the queue of what was accepted. -/
theorem run_inOrder [Renderer ρ] {b : Backend ρ} (h : b.session.InOrder 0 [] [])
    {actions : List Action} {w : History ρ} (hrun : History.run { backend := b } actions = .ok w) :
    (∀ step ∈ w.steps, step.action = .getCommand → step.before.session.server.worker.isSome) →
      ∃ sent, w.backend.session.InOrder 0 sent w.shut ∧ w.deliveries = sent.map (·.delivery) := by
  refine History.run_induction
    (P := fun w => (∀ step ∈ w.steps, step.action = .getCommand →
      step.before.session.server.worker.isSome) →
        ∃ sent, w.backend.session.InOrder 0 sent w.shut ∧ w.deliveries = sent.map (·.delivery))
    (fun _ => ⟨[], h, rfl⟩) (fun w w' action answer ih hp hsteps hworker => ?_) hrun
  rw [hsteps] at hworker
  obtain ⟨sent, horder, hseen⟩ := ih fun step hs => hworker step (List.mem_append_left _ hs)
  obtain ⟨taken, horder', hstep⟩ := perform_inOrder horder hp
    (hworker _ (List.mem_append_right _ (List.mem_singleton.mpr rfl)))
  refine ⟨sent ++ taken, ?_, ?_⟩
  · simpa [History.shut, hsteps] using horder'
  · simp only [History.deliveries, hsteps, List.flatMap_append, List.flatMap_singleton, hstep,
      List.map_append]
    rw [← hseen, History.deliveries]

theorem filterMap_delivery (cs : List Command) :
    (cs.map (·.delivery)).filterMap (·.surface?) = announcements cs := by
  rw [List.filterMap_map, announcements]
  refine congrArg (List.filterMap · cs) (funext fun c => ?_)
  cases hr : c.record? with
  | none => simp [Command.delivery, hr, Delivery.surface?]
  | some record => simp [Command.delivery, hr, Delivery.surface?]

/-- Every drawable that the server took was announced once before. -/
theorem announced_once {sent : List Command} (hfirst : AnnouncedFirst [] sent)
    (hincreasing : (announcements sent).Pairwise (·.raw < ·.raw)) {before after : List Delivery}
    {d : Dispatched} (hsplit : sent.map (·.delivery) = before ++ .drawn d :: after) :
    (before.filterMap (·.surface?)).count d.surface = 1 := by
  obtain ⟨cs, rest, rfl, rfl, hrest⟩ := List.map_eq_append_iff.mp hsplit
  obtain ⟨c, ds, rfl, hc, -⟩ := List.map_eq_cons_iff.mp hrest
  have hdrawn : c.record? = none ∧ d.surface = c.surface := by
    cases hr : c.record? with
    | none =>
        simp only [Command.delivery, hr, Delivery.drawn.injEq] at hc
        exact ⟨rfl, hc ▸ rfl⟩
    | some record => simp [Command.delivery, hr] at hc
  rw [announcedFirst_append] at hfirst
  have hmem : c.surface ∈ announcements cs := by simpa using hfirst.2.1 hdrawn.1
  have hnodup : (announcements cs).Nodup := by
    rw [announcements_append] at hincreasing
    refine (List.pairwise_append.mp hincreasing).1.imp fun hlt he => ?_
    rw [he] at hlt
    exact UInt32.lt_irrefl _ hlt
  rw [filterMap_delivery, hdrawn.2]
  exact List.count_eq_one_of_mem hnodup hmem

theorem ofRing_of_ofSettings {d : DisplaySettings} {skews : List UInt32} {s : Session}
    (h : Session.ofSettings d skews = .ok (.ok s)) :
    ∃ capacity retries surfaceCapacity, s =
      .ofRing (.ofCapacity (max capacity 1) 0) retries surfaceCapacity (d.clockSkew :: skews) := by
  simp only [Session.ofSettings] at h
  split at h
  · cases h
  · simp only [Session.new, bind, Except.bind] at h
    split at h
    · cases h
    · rename_i hnew
      split at hnew
      · cases hnew
      · split at hnew
        · cases hnew
        · cases hnew
          cases h
          exact ⟨_, _, _, rfl⟩

theorem untouched_new {settings : Settings} {skews : List UInt32} {s : Session} {renderer : ρ}
    (hs : Session.ofSettings settings.display skews = .ok (.ok s))
    (hb : Backend.new settings s renderer = .ok b) : b.session.Untouched := by
  obtain ⟨capacity, retries, surfaceCapacity, rfl⟩ := ofRing_of_ofSettings hs
  have h := Session.untouched_ofRing (Ring.wellFormed_ofCapacity (max capacity 1) 0)
    (Ring.toList_ofCapacity (max capacity 1) 0) retries surfaceCapacity
    (List.cons_ne_nil settings.display.clockSkew skews)
  simp only [Backend.new, bind, Except.bind] at hb
  split at hb
  · cases hb
  · cases hb
    exact ⟨⟨h.ring, h.queue, h.held, h.notices, h.first, h.ledgers, h.builders⟩, h.accepted, h.live,
      h.painter, h.images⟩

/-- What the server sees, the announcements to its worker and the drawables that it takes, is what
the ring accepted, in that order, without what was withdrawn and what is still queued. So every
drawable comes after the one announcement of its surface, and the surfaces are announced by
increasing number. -/
theorem delivered_in_order [Renderer ρ] {b : Backend ρ} (h : b.session.Untouched)
    {actions : List Action} {w : History ρ} (hrun : History.run { backend := b } actions = .ok w)
    (hworker : ∀ step ∈ w.steps, step.action = .getCommand →
      step.before.session.server.worker.isSome) :
    w.deliveries = (w.backend.session.accepted.toList.filter fun c =>
      decide (c.ticket ∉ w.withdrawn ∧ c.ticket ∉ w.backend.session.queue.map (·.ticket))).map
        (·.delivery) ∧
    (∀ before d after, w.deliveries = before ++ .drawn d :: after →
      (before.filterMap (·.surface?)).count d.surface = 1) ∧
    (w.deliveries.filterMap (·.surface?)).Pairwise (·.raw < ·.raw) := by
  obtain ⟨sent, horder, hseen⟩ := run_inOrder h.inOrder hrun hworker
  have hincreasing : (announcements sent).Pairwise (·.raw < ·.raw) := by
    have hall := horder.increasing
    rw [announcements_append] at hall
    exact (List.pairwise_append.mp hall).1
  have hsent : (w.backend.session.accepted.toList.filter fun c =>
      decide (c.ticket ∉ w.withdrawn ∧ c.ticket ∉ w.backend.session.queue.map (·.ticket))) = sent := by
    have hfilter := Session.InOrder.filter_ticket horder.nodup fun _ => true
    rw [← horder.kept, List.filter_filter] at hfilter
    simp only [List.filter_true, Bool.not_true, List.filter_false, List.append_nil,
      ← Bool.decide_and] at hfilter
    rw [← hfilter]
    refine List.filter_congr fun c _ => ?_
    rw [decide_eq_decide]
    exact And.comm
  refine ⟨by rw [hsent, hseen], fun before d after hsplit => ?_, ?_⟩
  · rw [hseen] at hsplit
    exact announced_once horder.first hincreasing hsplit
  · rw [hseen, filterMap_delivery]
    exact hincreasing

/-- A drawable is withdrawn with its output, a rolled back output is never announced, and the
shutdown withdraws the announcement of the last. -/
theorem delivered_in_order_withdrawn :
    ∃ b : Backend PatternRenderer, b.session.Untouched ∧ ∃ w,
      History.run { backend := b } [.attachWorker 0, .createOutput ⟨0, 0, 1, 1⟩, .getCommand,
        .repaintOutput ⟨0⟩ (.full 1 1), .destroyOutput ⟨0⟩, .refuseAdd (.allocationFailed "timer"),
        .createOutput ⟨0, 0, 1, 1⟩, .createOutput ⟨0, 0, 1, 1⟩, .getCommand,
        .createOutput ⟨0, 0, 1, 1⟩, .closeSession] = .ok w ∧
      (∀ step ∈ w.steps, step.action = .getCommand →
        step.before.session.server.worker.isSome) ∧
      w.deliveries.filterMap (·.surface?) = [⟨0⟩, ⟨2⟩] ∧ w.withdrawn.length = 5 ∧
      w.deliveries = (w.backend.session.accepted.toList.filter fun c =>
        decide (c.ticket ∉ w.withdrawn ∧ c.ticket ∉ w.backend.session.queue.map (·.ticket))).map
          (·.delivery) ∧
      (∀ before d after, w.deliveries = before ++ .drawn d :: after →
        (before.filterMap (·.surface?)).count d.surface = 1) ∧
      (w.deliveries.filterMap (·.surface?)).Pairwise (·.raw < ·.raw) := by
  let b : Backend PatternRenderer :=
    { settings := {}
      session := .ofRing (.ofCapacity 4 0) 0 4 [0]
      renderer := { width := 1, height := 1 } }
  have huntouched : b.session.Untouched :=
    Session.untouched_ofRing (Ring.wellFormed_ofCapacity 4 0) (Ring.toList_ofCapacity 4 0) 0 4 (by simp)
  have hmade : ((History.run { backend := b } [.attachWorker 0, .createOutput ⟨0, 0, 1, 1⟩,
        .getCommand, .repaintOutput ⟨0⟩ (.full 1 1), .destroyOutput ⟨0⟩,
        .refuseAdd (.allocationFailed "timer"), .createOutput ⟨0, 0, 1, 1⟩,
        .createOutput ⟨0, 0, 1, 1⟩, .getCommand, .createOutput ⟨0, 0, 1, 1⟩,
        .closeSession]).toOption.map fun w =>
      (w.deliveries.filterMap (·.surface?), w.withdrawn.length, w.steps.all fun step =>
        match step.action with
        | .getCommand => step.before.session.server.worker.isSome
        | _ => true)) =
      some ([⟨0⟩, ⟨2⟩], 5, true) := by
    decide +kernel
  generalize hrun : History.run { backend := b } _ = r at hmade
  cases r with
  | error trap => cases hmade
  | ok w =>
      obtain ⟨hsurfaces, hwithdrawn, hsteps⟩ : w.deliveries.filterMap (·.surface?) = [⟨0⟩, ⟨2⟩] ∧
          w.withdrawn.length = 5 ∧ _ := by
        simpa [Except.toOption] using hmade
      have hworker : ∀ step ∈ w.steps, step.action = .getCommand →
          step.before.session.server.worker.isSome := by
        intro step hs haction
        simpa [haction] using hsteps step hs
      exact ⟨b, huntouched, w, hrun, hworker, hsurfaces, hwithdrawn,
        delivered_in_order huntouched hrun hworker⟩

end Backend

end RemoteDisplay
