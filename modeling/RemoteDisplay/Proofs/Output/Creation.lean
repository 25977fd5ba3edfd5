import RemoteDisplay.Proofs.Output.Resources
import RemoteDisplay.Proofs.Session.Pixels
import RemoteDisplay.Proofs.Session.Records
import RemoteDisplay.Proofs.Session.Surfaces

/-!
# An output is made as a whole or not at all

A new output takes memory, a surface, room on the ring and a timer, one after the other, and each of them
can be refused. What was taken until then is given back: nothing is left of the attempt but numbers that
are used up and commands that were released.
-/

namespace RemoteDisplay

/-! ## What a new surface brings -/

/-- The command fills all of a surface with one colour, and its record says so. -/
structure Command.Covers (c : Command) (surface : SurfaceId) (width height colour : UInt32) : Prop where
  bbox : c.bbox.Spans 0 0 width height
  drawable : ∃ d, c.payload = .fill d ∧ d.Names .drawFill surface c.bbox c.id ∧
    (Drawing.solid colour).ShownBy c d width height
  surface : c.surface = surface

namespace Session

variable {s t : Session}

/-! ## What queueing leaves alone -/

/-- Commands without pixels were queued, refused or taken back, and nothing else happened. -/
structure Queueing (s t : Session) : Prop where
  ring : t.ring.WellFormed
  room : t.ring.capacity = s.ring.capacity
  limit : t.surfaces.capacity = s.surfaces.capacity
  store : t.store = s.store
  retries : t.retries = s.retries
  builders : t.builders = s.builders
  clock : t.clock = s.clock
  server : t.server = s.server
  calls : t.calls = s.calls
  notices : ∃ refused : List Notice, t.notices = s.notices ++ refused.toArray ∧
    ∀ n ∈ refused, n.reason = .rejected ∨ n.reason = .teardown

namespace Queueing

theorem refl (h : s.ring.WellFormed) : Queueing s s :=
  ⟨h, rfl, rfl, rfl, rfl, rfl, rfl, rfl, rfl, [], by simp, by simp⟩

theorem trans {u : Session} (h : Queueing s t) (h' : Queueing t u) : Queueing s u := by
  obtain ⟨first, hfirst, hreasons⟩ := h.notices
  obtain ⟨second, hsecond, hreasons'⟩ := h'.notices
  refine ⟨h'.ring, h'.room.trans h.room, h'.limit.trans h.limit, h'.store.trans h.store,
    h'.retries.trans h.retries, h'.builders.trans h.builders, h'.clock.trans h.clock,
    h'.server.trans h.server, h'.calls.trans h.calls, first ++ second, ?_, fun n hn => ?_⟩
  · simp [hsecond, hfirst]
  · exact (List.mem_append.mp hn).elim (hreasons n) (hreasons' n)

/-- All that can have changed, if the live surfaces are the same. -/
theorem eq (h : Queueing s t) (hlive : t.surfaces.live = s.surfaces.live) : t = { s with
    ring := t.ring
    ledgers := t.ledgers
    surfaces := { s.surfaces with next := t.surfaces.next }
    accepted := t.accepted
    notices := t.notices } := by
  have hsurfaces : t.surfaces = { s.surfaces with next := t.surfaces.next } := by
    simp only [← hlive, ← h.limit]
  simp only [← hsurfaces, ← h.store, ← h.retries, ← h.builders, ← h.clock, ← h.server, ← h.calls]

end Queueing

theorem submit_queueing (h : s.ring.WellFormed) {c : Command} (hc : Holder.block? c = none) :
    Queueing s (s.submit c).2 := by
  have hstore := (submit_still h hc).1
  rcases s.submit_cases h c with ⟨-, ring, hs, hwf, -, hcapacity⟩ | ⟨-, hs⟩
  · rw [hs]
    exact ⟨hwf, hcapacity, rfl, rfl, rfl, rfl, rfl, rfl, rfl, [], by simp, by simp⟩
  · rw [hs] at hstore ⊢
    refine ⟨h, rfl, rfl, hstore, rfl, rfl, rfl, rfl, rfl, [c.notice .rejected], ?_, ?_⟩
    · simp
    · simp [Command.notice]

theorem createSurface_queueing (h : s.ring.WellFormed) {width height : UInt32} {backing : Backing}
    {r : Except Fault SurfaceId × Session} (hr : s.createSurface width height backing = .ok r) :
    Queueing s r.2 := by
  rcases createSurface_cases hr with ⟨e, rfl⟩ | ⟨record, c, -, -, -, -, hnext, rfl, hsub⟩
  · exact .refl h
  · have hnumbered : Queueing s s.numbered := by
      refine ⟨h, rfl, ?_, rfl, rfl, rfl, rfl, rfl, rfl, [], by simp [numbered, issue], by simp⟩
      rw [numbered_surfaces hnext]
    have hsubmitted := hnumbered.trans (submit_queueing (s := s.numbered) h
      (c := announcement ⟨s.surfaces.next⟩ width height record ⟨0, ⟨(s.ledger 0).next⟩⟩)
      (block?_of_record rfl))
    rcases hsub with ⟨s', hs, rfl⟩ | ⟨e, s', hs, rfl⟩
    · rw [hs] at hsubmitted
      exact { hsubmitted with }
    · rw [hs] at hsubmitted
      exact hsubmitted

theorem fillRect_queueing (h : s.ring.WellFormed) (b : Nat) (surface : SurfaceId) (colour : UInt32)
    (x y : Int32) (width height : UInt32) :
    Queueing s (s.fillRect b surface colour x y width height).2 := by
  rcases s.fillRect_cases b surface colour x y width height with ⟨e, hf⟩ | ⟨bbox, live, -, -, -, -, hf⟩
  · rw [hf]
    exact .refl h
  · rw [hf]
    have hticketed : Queueing s (s.ticketed b) :=
      ⟨h, rfl, rfl, rfl, rfl, rfl, rfl, rfl, rfl, [], by simp [ticketed, issue], by simp⟩
    exact hticketed.trans (submit_queueing (s := s.ticketed b) h rfl)

theorem releaseEach_store {cs : List Command} (hcs : ∀ c ∈ cs, Holder.block? c = none)
    (reason : ReleaseReason) : (s.releaseEach cs reason).2.store = s.store := by
  simp only [releaseEach]
  induction cs generalizing s with
  | nil => rfl
  | cons c cs ih =>
      have hstore : (s.release c reason).store = s.store.giveUp c := rfl
      rw [List.foldl_cons, ih fun d hd => hcs d (List.mem_cons_of_mem c hd), hstore,
        PixelStore.giveUp, hcs c List.mem_cons_self]

theorem withdrawSurface_queueing (h : s.ring.WellFormed) {id : SurfaceId}
    (hviews : ∀ c ∈ s.queue, c.surface = id → Holder.block? c = none) :
    Queueing s (s.withdrawSurface id) := by
  obtain ⟨hring, -, hnotices, hsurfaces, hserver, hcalls, -, hbuilders⟩ := s.withdrawSurface_spec h id
  obtain ⟨ring, hdrain, -, -, hcapacity⟩ := s.drainSurface_eq h id
  have hnone : ∀ c ∈ s.queue.filter (·.surface = id), Holder.block? c = none := by
    intro c hc
    obtain ⟨hmem, hsurface⟩ := List.mem_filter.mp hc
    exact hviews c hmem (by simpa using hsurface)
  have hwithdrawn : s.withdrawSurface id =
      ((releaseEach { s with ring } (s.queue.filter (·.surface = id)) .teardown).2.destroySurface id).2 := by
    simp only [Session.withdrawSurface, hdrain]
  refine ⟨hring, ?_, by rw [hsurfaces], ?_, ?_, hbuilders, ?_, hserver, hcalls, _, hnotices, ?_⟩
  · rw [hwithdrawn, destroySurface_eq]
    simpa using hcapacity
  · rw [hwithdrawn, destroySurface_eq]
    exact releaseEach_store hnone .teardown
  · rw [hwithdrawn, destroySurface_eq, releaseEach_eq]
  · rw [hwithdrawn, destroySurface_eq, releaseEach_eq]
  · intro n hn
    obtain ⟨c, -, rfl⟩ := List.mem_map.mp hn
    exact .inr rfl

/-! ## Presenting a surface -/

/-- A surface of this size is live under the next number. It is announced at the end of the queue, and
at most one fill of it follows. -/
structure Presented (s t : Session) (width height colour : UInt32) : Prop where
  queueing : Queueing s t
  live : ∃ backing, backing.width = width ∧ backing.height = height ∧ t.surfaces = { s.surfaces with
    next := s.surfaces.next + 1, live := s.surfaces.live ++ [⟨⟨s.surfaces.next⟩, backing⟩] }
  queue : ∃ record ticket fills, Wire.SurfaceRecord.primary width height 0 = .ok record ∧
    t.queue = s.queue ++ announcement ⟨s.surfaces.next⟩ width height record ticket :: fills ∧
    fills.length ≤ 1 ∧ ∀ c ∈ fills, c.Covers ⟨s.surfaces.next⟩ width height colour

theorem covers_fillCommand {b : Nat} {surface : SurfaceId} {colour width height : UInt32} {bbox : Rect}
    (h : Rect.ofOrigin? 0 0 width height = some bbox) :
    (s.fillCommand b surface colour bbox).Covers surface width height colour where
  surface := rfl
  bbox := Rect.spans_of_ofOrigin? h
  drawable := ⟨_, rfl, ⟨rfl, rfl, rfl, rfl⟩, _, Wire.Drawable.fill?_setFill _ _, rfl,
    Wire.Brush.colour?_solid colour⟩

theorem presented (h : s.ring.WellFormed) {width height : UInt32} {backing : Backing}
    {surface : SurfaceId} (hr : s.createSurface width height backing = .ok (.ok surface, t))
    (colour : UInt32) :
    surface = ⟨s.surfaces.next⟩ ∧
      Presented s (t.fillRect 0 surface colour 0 0 width height).2 width height colour := by
  have hcreated : Queueing s t := createSurface_queueing h hr
  obtain ⟨record, ticket, -, rfl, hbw, hbh, hqueue, hsurfaces, -, -, hrecord⟩ := createSurface_ok h hr
  obtain ⟨fills, hfew, hfills, hfilled, hsame, -⟩ :=
    t.fillRect_queue 0 ⟨s.surfaces.next⟩ colour 0 0 width height hcreated.ring
  refine ⟨rfl, hcreated.trans (fillRect_queueing hcreated.ring ..), ⟨backing, hbw, hbh, ?_⟩,
    record, ticket, fills, hrecord, ?_, hfew, fun c hc => ?_⟩
  · rw [hsame, hsurfaces]
  · rw [hfilled, hqueue, List.append_assoc]
    rfl
  · obtain ⟨bbox, hbbox, rfl⟩ := hfills c hc
    exact covers_fillCommand hbbox

/-- A surface of a moderate size is announced or refused, and refused only for want of room. -/
theorem createSurface_answers (h : s.ring.WellFormed) {width height : UInt32} (hw : width.toNat ≤ 4096)
    {backing : Backing} (hsize : backing.width = width ∧ backing.height = height) :
    ∃ r, s.createSurface width height backing = .ok r ∧
      (s.surfaces.live.length < s.surfaces.capacity → s.surfaces.next.toNat + 1 < 4294967296 →
        s.ring.length < s.ring.capacity → ∃ surface, r.1 = .ok surface) := by
  have hmoderate : width.toNat ≤ 536870912 := by omega
  obtain ⟨record, hrecord, -⟩ := Wire.SurfaceRecord.primary_eq_ok height 0 hmoderate
  obtain ⟨answer, t, hr⟩ := exists_createSurface (s := s) hrecord backing
  refine ⟨_, hr, fun hroom hnext hfree => ?_⟩
  cases creation_of_createSurface h hr with
  | refused hunfit => exact absurd ⟨hroom, hsize.1, hsize.2, hnext⟩ hunfit
  | created => exact ⟨_, rfl⟩
  | rejected hadmits hfull => omega

theorem room_of_createSurface (h : s.ring.WellFormed) {width height : UInt32} {backing : Backing}
    {surface : SurfaceId} (hr : s.createSurface width height backing = .ok (.ok surface, t)) :
    s.surfaces.live.length < s.surfaces.capacity ∧ s.surfaces.next.toNat + 1 < 4294967296 ∧
      s.ring.length < s.ring.capacity := by
  cases creation_of_createSurface h hr with
  | created hadmits hroom => exact ⟨hadmits.room, hadmits.number, hroom⟩

/-- Withdrawing a surface that was just presented takes back its commands and nothing else. -/
theorem Presented.withdrawn {width height colour : UInt32} (h : Presented s t width height colour)
    (hs : Housed s) :
    Queueing s (t.withdrawSurface ⟨s.surfaces.next⟩) ∧
      (t.withdrawSurface ⟨s.surfaces.next⟩).queue = s.queue ∧
      (t.withdrawSurface ⟨s.surfaces.next⟩).surfaces.live = s.surfaces.live := by
  obtain ⟨hold, hothers⟩ := hs.next_unused
  obtain ⟨record, ticket, fills, -, hqueue, -, hfills⟩ := h.queue
  obtain ⟨backing, -, -, hlive⟩ := h.live
  obtain ⟨-, hleft, -, hsurfaces, -⟩ := t.withdrawSurface_spec h.queueing.ring ⟨s.surfaces.next⟩
  refine ⟨h.queueing.trans (withdrawSurface_queueing h.queueing.ring fun c hc hsurface => ?_), ?_, ?_⟩
  -- Only the new commands are for the surface, and they have no pixels.
  · rw [hqueue, List.mem_append, List.mem_cons] at hc
    rcases hc with hc | rfl | hc
    · exact absurd hsurface (hothers c hc)
    · exact block?_of_record (show Command.record? _ = some record from rfl)
    · obtain ⟨d, hd, -⟩ := (hfills c hc).drawable
      simp [Holder.block?, Command.view?, Command.blit?, hd]
  · have hnew : (announcement ⟨s.surfaces.next⟩ width height record ticket :: fills).filter
        (fun c => !decide (c.surface = ⟨s.surfaces.next⟩)) = [] := by
      refine List.filter_eq_nil_iff.mpr fun c hc => ?_
      rcases List.mem_cons.mp hc with rfl | hc
      · simp [announcement]
      · simp [(hfills c hc).surface]
    have hkept : s.queue.filter (fun c => !decide (c.surface = ⟨s.surfaces.next⟩)) = s.queue :=
      List.filter_eq_self.mpr fun c hc => by simpa using hothers c hc
    rw [hleft, hqueue, List.filter_append, hnew, hkept, List.append_nil]
  · rw [hsurfaces, hlive]
    simp only [List.filter_append, hold]
    simp

/-- If the queue is as before, what was given out in between was released in between, and only that. -/
theorem Queueing.released_issued (h : Queueing s t) {spare spare' : Nat} (hs : Accounted spare s)
    (ht : Accounted spare' t) (hqueue : t.queue = s.queue) :
    ∃ notices : List Notice, t.notices = s.notices ++ notices.toArray ∧
      (∀ n ∈ notices, n.reason = .rejected ∨ n.reason = .teardown) ∧
      ∀ u, (notices.map (·.ticket)).count u = if t.HasIssued u ∧ ¬ s.HasIssued u then 1 else 0 := by
  obtain ⟨notices, hnotices, hreasons⟩ := h.notices
  refine ⟨notices, hnotices, hreasons, fun u => ?_⟩
  have hbefore := hs.places u
  have hafter := ht.places u
  simp only [tickets, released, hqueue, h.server, hnotices, Array.toList_append, List.map_append,
    List.count_append] at hbefore hafter
  by_cases hu : s.HasIssued u
  -- An old ticket is in its place already, so no notice is about it.
  · rw [if_pos hu] at hbefore
    rw [if_neg fun hnew => hnew.2 hu]
    split at hafter <;> omega
  · rw [if_neg hu] at hbefore
    simp only [hu, not_false_eq_true, and_true]
    rw [← hafter]
    omega

end Session

namespace Backend

variable {ρ : Type} {b b' : Backend ρ} {g : Geometry}

/-! ## Outputs that are not made -/

/-- The making of an output failed. All that can have changed are numbers that are used up, the host's
one refusal, and records of commands that were released again. -/
structure Unmade (b b' : Backend ρ) : Prop where
  backend : b' = { b with
    session := b'.session
    timers := { b.timers with refuseAdd := b'.timers.refuseAdd } }
  session : b'.session = { b.session with
    ring := b'.session.ring
    ledgers := b'.session.ledgers
    surfaces := { b.session.surfaces with next := b'.session.surfaces.next }
    accepted := b'.session.accepted
    notices := b'.session.notices }
  queue : b'.session.queue = b.session.queue
  room : b'.session.ring.capacity = b.session.ring.capacity
  /-- Every release id given out on the way was released, once, and no other was. -/
  released : ∃ notices : List Notice, b'.session.notices = b.session.notices ++ notices.toArray ∧
    (∀ n ∈ notices, n.reason = .rejected ∨ n.reason = .teardown) ∧
    ∀ u, (notices.map (·.ticket)).count u =
      if b'.session.HasIssued u ∧ ¬ b.session.HasIssued u then 1 else 0

theorem Unmade.of_queueing (h : b.InStep) (h' : b'.InStep) (hq : Session.Queueing b.session b'.session)
    (hbackend : b' = { b with
      session := b'.session
      timers := { b.timers with refuseAdd := b'.timers.refuseAdd } })
    (hqueue : b'.session.queue = b.session.queue)
    (hlive : b'.session.surfaces.live = b.session.surfaces.live) : Unmade b b' where
  backend := hbackend
  session := hq.eq hlive
  queue := hqueue
  room := hq.room
  released := hq.released_issued h.accounted h'.accounted hqueue

/-- Whatever the step at which it fails, an output that is not made leaves no trace of itself. -/
theorem InStep.unmade (h : b.InStep) {e : Fault} (hc : Creation b g (.error e) b') : Unmade b b' := by
  have hring := h.accounted.sound.ring
  have hstep := h.creation hc
  cases hc with
  | refused => exact .of_queueing h hstep (.refl hring) rfl rfl rfl
  | unannounced hsurface =>
      obtain ⟨hqueue, -, hlive, -⟩ := Session.createSurface_error hring hsurface
      exact .of_queueing h hstep (Session.createSurface_queueing hring hsurface) rfl hqueue hlive
  | colourless hsurface hcolour =>
      obtain ⟨background, hok⟩ := h.colour
      cases hok.symm.trans hcolour
  | @rolledBack backing surface s background f hsurface hcolour hadd =>
      obtain ⟨rfl, hpresented⟩ := Session.presented hring hsurface background
      obtain ⟨hqueueing, hqueue, hlive⟩ := hpresented.withdrawn h.housed
      rw [rollBack_session] at hstep ⊢
      exact .of_queueing h hstep hqueueing rfl hqueue hlive

/-! ## Outputs that are made -/

/-- The output is there with all that it needs: a surface of its size, announced on the ring and filled
with the background as far as there is room, a timer, and one request for its first repaint. -/
structure Made (b : Backend ρ) (g : Geometry) (background : UInt32) (id : OutputId) (b' : Backend ρ) :
    Prop where
  output : ∃ o, b'.outputs = b.outputs ++ [o] ∧ o.id = id ∧ o.geometry = g ∧
    o.surface = ⟨b.session.surfaces.next⟩ ∧ o.state = .repaintScheduled ∧
    b'.timers.registered = b.timers.registered ++ [(o.timer, id)]
  live : ∃ backing, backing.width = g.width ∧ backing.height = g.height ∧
    b'.session.surfaces.live = b.session.surfaces.live ++ [⟨⟨b.session.surfaces.next⟩, backing⟩]
  queued : ∃ announced fills, b'.session.queue = b.session.queue ++ announced :: fills ∧
    announced.Announces ⟨b.session.surfaces.next⟩ g.width g.height ∧
    fills.length ≤ 1 ∧ ∀ c ∈ fills, c.Covers ⟨b.session.surfaces.next⟩ g.width g.height background
  schedule : b'.queue = b.queue.schedule id

/-- What a new output needs: a size within the limits, memory, a surface, room on the ring and a timer. -/
structure Admits (b : Backend ρ) (g : Geometry) : Prop where
  width : g.width ≠ 0 ∧ g.width ≤ maxOutputWidth
  height : g.height ≠ 0 ∧ g.height ≤ maxOutputHeight
  memory : b.session.store.reservationError (4 * (g.width.toNat * g.height.toNat)) = none
  surface : b.session.surfaces.live.length < b.session.surfaces.capacity
  number : b.session.surfaces.next.toNat + 1 < 4294967296
  ring : b.session.ring.length < b.session.ring.capacity
  timer : b.timers.refuseAdd = none

/-- An output that is made has all that it needs. -/
theorem InStep.made (h : b.InStep) {background : UInt32}
    (hcolour : b.settings.display.backgroundColour = .ok background) {id : OutputId}
    (hc : Creation b g (.ok id) b') : Made b g background id b' ∧ b.Admits g := by
  have hring := h.accounted.sound.ring
  cases hc with
  | @created backing surface s background' hwidth hheight hsurface hcolour' hadd hnext hbacking =>
      cases hcolour.symm.trans hcolour'
      obtain ⟨rfl, hpresented⟩ := Session.presented hring hsurface background
      obtain ⟨record, ticket, fills, hrecord, hqueue, hfew, hfills⟩ := hpresented.queue
      obtain ⟨backing', hbw, hbh, hlive⟩ := hpresented.live
      have hsmall : g.width.toNat ≤ 4096 := UInt32.le_iff_toNat_le.mp hwidth.2
      have hlow : g.height.toNat ≤ 4096 := UInt32.le_iff_toNat_le.mp hheight.2
      obtain ⟨answer, hallocate, hgranted, -⟩ := Backing.exists_allocate
        b.session.store.refuses ⟨hwidth.1, hsmall⟩ ⟨hheight.1, hlow⟩
      cases hallocate.symm.trans hbacking
      constructor
      · refine ⟨⟨_, rfl, rfl, rfl, rfl, rfl, ?_⟩, ⟨backing', hbw, hbh, ?_⟩, ?_, rfl⟩
        · simp [opened, newOutput, TimerHost.add, hadd]
        · simp only [opened, Session.callAttached_surfaces, backgrounded, hlive]
        · refine ⟨_, fills, ?_, Session.announces_announcement (by omega) hrecord _ ticket, hfew, hfills⟩
          simpa only [opened, backgrounded, Session.queue, Session.callAttached_ring] using hqueue
      · obtain ⟨hroom, hnumber, hfree⟩ := Session.room_of_createSurface hring hsurface
        exact ⟨hwidth, hheight, hgranted.mp ⟨backing, rfl⟩, hroom, hnumber, hfree, hadd⟩

/-- Making an output comes to an answer, and it is made if there is all that it needs. -/
theorem Equipped.createOutput {capacity : Nat} (h : Equipped capacity b) (g : Geometry) :
    ∃ answer b', b.createOutput g = .ok (answer, b') ∧ (b.Admits g → ∃ id, answer = .ok id) := by
  have hring := h.inStep.accounted.sound.ring
  obtain ⟨background, hcolour⟩ := h.inStep.colour
  by_cases hsize : g.width = 0 ∨ g.height = 0 ∨ g.width > maxOutputWidth ∨ g.height > maxOutputHeight
  · refine ⟨_, _, if_pos hsize, fun hadmits => absurd hsize ?_⟩
    simp [hadmits.width, hadmits.height]
  · simp only [not_or, UInt32.not_lt] at hsize
    obtain ⟨hw, hh, hwmax, hhmax⟩ := hsize
    have hwsmall : g.width.toNat ≤ 4096 := UInt32.le_iff_toNat_le.mp hwmax
    have hhsmall : g.height.toNat ≤ 4096 := UInt32.le_iff_toNat_le.mp hhmax
    obtain ⟨memory, hmemory, hgranted, hsame⟩ := Backing.exists_allocate
      b.session.store.refuses ⟨hw, hwsmall⟩ ⟨hh, hhsmall⟩
    rw [Backend.createOutput, if_neg (by simp [hw, hh, hwmax, hhmax])]
    simp only [hmemory, bind, Except.bind]
    cases memory with
    | error e =>
        refine ⟨_, _, rfl, fun hadmits => ?_⟩
        obtain ⟨backing, hbacking⟩ := hgranted.mpr hadmits.memory
        cases hbacking
    | ok backing =>
        obtain ⟨⟨answer, s⟩, hs, hroom⟩ := Session.createSurface_answers hring hwsmall (hsame backing rfl)
        simp only [hs, hcolour]
        cases answer with
        | error e =>
            refine ⟨_, _, rfl, fun hadmits => ?_⟩
            obtain ⟨surface, hok⟩ := hroom hadmits.surface hadmits.number hadmits.ring
            cases hok
        | ok surface =>
            cases hadd : b.timers.refuseAdd with
            | some f =>
                simp only [TimerHost.add, hadd]
                refine ⟨_, _, rfl, fun hadmits => ?_⟩
                cases hadd.symm.trans hadmits.timer
            | none =>
                -- The outputs' numbers are behind those of the surfaces, which did not run out.
                obtain ⟨record, ticket, hnumber, -⟩ := Session.createSurface_ok hring hs
                have hnumbers := UInt32.le_iff_toNat_le.mp h.numbers
                have hnext : Checked.next32 b.nextOutput = .ok (UInt32.ofNat (b.nextOutput.toNat + 1)) :=
                  Checked.u32_of_lt (by omega)
                simp only [TimerHost.add, hadd, hnext]
                exact ⟨_, _, rfl, fun _ => ⟨_, rfl⟩⟩

/-- In every state that a backend can get to, the making of any output comes to an answer. The output is
made, with all that belongs to it, if there is all that it needs, and otherwise nothing of it is left. -/
theorem Launched.creation_atomic [Renderer ρ] (h : b.Launched) {actions : List Action} {w : History ρ}
    (hrun : History.run { backend := b } actions = .ok w) (g : Geometry) :
    ∃ background answer b', w.backend.settings.display.backgroundColour = .ok background ∧
      w.backend.createOutput g = .ok (answer, b') ∧
      ((∃ id, answer = .ok id) ↔ w.backend.Admits g) ∧
      (∀ id, answer = .ok id → Made w.backend g background id b') ∧
      ∀ e, answer = .error e → Unmade w.backend b' := by
  obtain ⟨hequipped, -⟩ := h.equipped.run hrun
  obtain ⟨background, hcolour⟩ := hequipped.inStep.colour
  obtain ⟨answer, b', hanswer, hmade⟩ := hequipped.createOutput g
  have hcreation := creation_of_createOutput hanswer
  refine ⟨background, answer, b', hcolour, hanswer, ⟨?_, hmade⟩, ?_, ?_⟩
  · rintro ⟨id, rfl⟩
    exact (hequipped.inStep.made hcolour hcreation).2
  · rintro id rfl
    exact (hequipped.inStep.made hcolour hcreation).1
  · rintro e rfl
    exact hequipped.inStep.unmade hcreation

/-- On a ring with one place left, the announcement is queued and the fill is not, and then the host
refuses the timer. -/
theorem creation_atomic_refused :
    ∃ b : Backend PatternRenderer, b.Launched ∧ ∃ w,
      History.run { backend := b } [.attachWorker 0, .createOutput ⟨0, 0, 1, 1⟩,
        .refuseAdd (.allocationFailed "timer")] = .ok w ∧
      ¬ w.backend.Admits ⟨0, 0, 2, 1⟩ ∧ ∃ b',
      w.backend.createOutput ⟨0, 0, 2, 1⟩ = .ok (.error (.allocationFailed "timer"), b') ∧
      Unmade w.backend b' ∧ b'.session.queue.map (·.surface) = [⟨0⟩, ⟨0⟩] ∧
      b'.session.notices.toList.map (·.reason) = [.rejected, .teardown] := by
  let b : Backend PatternRenderer :=
    { settings := {}
      session := .ofRing (.ofCapacity 3 0) 0 2 [0]
      renderer := { width := 1, height := 1 } }
  have hpristine : b.Pristine :=
    pristine_ofRing (Ring.wellFormed_ofCapacity 3 0) (Ring.toList_ofCapacity 3 0) (by decide +kernel) 0 2
      (by simp) _
  have hlaunched : b.Launched := ⟨hpristine, rfl, UInt32.le_refl _⟩
  have hmade : ((History.run { backend := b } [.attachWorker 0, .createOutput ⟨0, 0, 1, 1⟩,
        .refuseAdd (.allocationFailed "timer")]).bind fun w =>
      (w.backend.createOutput ⟨0, 0, 2, 1⟩).map fun r =>
        (r.1, r.2.session.queue.map (·.surface), r.2.session.notices.toList.map (·.reason))).toOption =
      some (.error (.allocationFailed "timer"), [⟨0⟩, ⟨0⟩], [.rejected, .teardown]) := by
    decide +kernel
  generalize hrun : History.run { backend := b } _ = r at hmade
  cases r with
  | error trap => cases hmade
  | ok w =>
      obtain ⟨background, answer, b', -, hanswer, hadmits, -, hunmade⟩ :=
        hlaunched.creation_atomic hrun ⟨0, 0, 2, 1⟩
      simp only [Except.bind, hanswer, Except.map] at hmade
      obtain ⟨rfl, hqueue, hreasons⟩ : answer = _ ∧ b'.session.queue.map (·.surface) = _ ∧
          b'.session.notices.toList.map (·.reason) = _ := by
        simpa [Except.toOption] using hmade
      refine ⟨b, hlaunched, w, hrun, fun h => ?_, b', hanswer, hunmade _ rfl, hqueue, hreasons⟩
      obtain ⟨id, hid⟩ := hadmits.mpr h
      cases hid

/-- The allocator has no eight bytes, but it has four. -/
example :
    let b : Backend PatternRenderer :=
      { settings := {}
        session := { Session.ofRing (.ofCapacity 3 0) 0 2 [0] with store := { refuses := fun n => n = 8 } }
        renderer := { width := 1, height := 1 } }
    (b.createOutput ⟨0, 0, 2, 1⟩).map (·.1) = .ok (.error (.allocationFailed
      "2x1 surface backing: memory allocation failed because the memory allocator returned an error")) ∧
    (b.createOutput ⟨0, 0, 1, 1⟩).map (·.1) = .ok (.ok ⟨0⟩) := by
  decide +kernel

end Backend

end RemoteDisplay
