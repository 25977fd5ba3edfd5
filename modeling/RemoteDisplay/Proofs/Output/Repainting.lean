import RemoteDisplay.Proofs.Frame.Views
import RemoteDisplay.Proofs.Geometry.Coverage
import RemoteDisplay.Proofs.Geometry.Damage
import RemoteDisplay.Proofs.Output.Image
import RemoteDisplay.Proofs.Output.Settling
import RemoteDisplay.Proofs.Session.Painting

/-!
# A repaint sends the extents of the damage

The damage is clipped, its extents are viewed in the frame, the view is measured and the image placed
on the surface. Each of these steps accepts what the one before it made, so only a full ring and the
want of memory for a copy of the damage keep an image off, and what is sent are the pixels of the
smallest rectangle around the damage.

Every repaint is counted. One whose counter is at its end has no answer, and the counter that comes
there first is the one of images dropped in a row.
-/

namespace RemoteDisplay

/-- The rectangle has the pixels, and lies in every other one that has them. -/
structure Rect.Smallest (r : Rect) (pixels : Int → Int → Prop) : Prop where
  has : ∀ px py, pixels px py → r.Mem px py
  least : ∀ r' : Rect, (∀ px py, pixels px py → r'.Mem px py) → ∀ px py, r.Mem px py → r'.Mem px py

/-- The command copies the pixels of a frame from the place where it draws them. -/
structure Command.Shows (c : Command) (f : Frame) (s : PixelStore) (v : View) : Prop where
  kind : c.kind = .drawCopy
  view : c.view? = some v
  width : (v.width.toNat : Int) = c.bbox.right.toInt - c.bbox.left.toInt
  height : (v.height.toNat : Int) = c.bbox.bottom.toInt - c.bbox.top.toInt
  rows : ∀ y : UInt32, y.toNat < v.height.toNat →
    ∃ row, v.row s y = .ok (some row) ∧ row.size = 4 * v.width.toNat ∧
      ∀ x < v.width.toNat, ∀ i < 4, row[4 * x + i]? = (s.bytes f.block)[
        (c.bbox.top.toInt.toNat + y.toNat) * f.stride.toNat + 4 * (c.bbox.left.toInt.toNat + x) + i]?

/-! ## Placing -/

namespace Session

variable {s : Session} {b : Nat} {surface : SurfaceId} {live : Surface} {r : Region}

/-- A region inside a surface is a place to draw at. -/
theorem fits_of_inside (hlive : s.surfaces.find? surface = some live)
    (hr : r.Inside ⟨0, 0, live.backing.width, live.backing.height⟩) :
    s.Placed surface r.x r.y r.width r.height live ⟨r.y, r.x, r.bottom, r.right⟩ := by
  obtain ⟨hx, hwide, hwidth, hy, hhigh, hheight⟩ := hr.of_zero
  obtain ⟨hspans, hsize⟩ := Rect.ofOrigin?_eq_some_iff.mp hr.rect
  have hright := hspans.right
  have hbottom := hspans.bottom
  simp only at hright hbottom
  refine ⟨hlive, ⟨?_, ?_⟩, hsize, hspans, ⟨hx, hy, by simp only; omega, by simp only; omega⟩⟩
  · intro hzero
    simp [hzero] at hwide
  · intro hzero
    simp [hzero] at hhigh

/-- An image that fits and has what it needs is queued, or the ring is full. -/
theorem paintImage_answer (hring : s.ring.WellFormed) {x y : Int32} {width height : UInt32}
    {pixels : View} {stride : UInt32} {damage : Damage} {bbox : Rect}
    (hplaced : s.Placed surface x y width height live bbox)
    (hprovides : s.Provides b width height (.image pixels stride damage)) :
    (s.ring.length < s.ring.capacity ∧ ∃ image t,
      s.paintImage b surface x y width height pixels stride damage = .ok (.ok image, t)) ∨
    (s.ring.length = s.ring.capacity ∧ ∃ t,
      s.paintImage b surface x y width height pixels stride damage =
        .ok (.error (.ringFull s.ring.capacity), t) ∧ t.ring = s.ring) := by
  rcases s.paint_cases b surface x y width height (.image pixels stride damage) with
    ⟨trap, -, hb, -⟩ | ⟨e, store, -, -, hunfit⟩ | ⟨live', bbox', c, t, -, -, hbuilds, hpaint⟩
  · rw [build, buildBlit_of_covered hprovides.1] at hb
    cases hb
  · exact absurd hprovides (hunfit live bbox hplaced)
  · obtain ⟨⟨answer, u⟩, hp, hanswer⟩ := Trap.bind_eq_ok.mp hpaint
    simp only [pure, Except.pure, Except.ok.injEq, Prod.mk.injEq] at hanswer
    obtain ⟨hsame, rfl⟩ := hanswer
    rcases t.submit_cases (hbuilds.ring ▸ hring) c with ⟨hroom, ring, hs, -⟩ | ⟨hfull, hs⟩
    · rw [hbuilds.ring] at hroom
      cases answer with
      | ok image => exact .inl ⟨hroom, image, _, hp⟩
      | error e => simp [hs, Except.map] at hsame
    · rw [hs, hbuilds.ring] at hsame
      rw [hbuilds.ring] at hfull
      cases answer with
      | ok image => simp [Except.map] at hsame
      | error e =>
          have he : e = .ringFull s.ring.capacity := by
            simpa [Except.map] using hsame
          refine .inr ⟨hfull, _, he ▸ hp, ?_⟩
          rw [hs]
          exact hbuilds.ring

end Session

namespace Output

/-- A pixel of the output is damaged. -/
def Damaged (o : Output) (damage : Damage) (px py : Int) : Prop :=
  (∃ r ∈ damage.regions, r.Mem px py) ∧ o.geometry.bounds.Mem px py

/-! ## Sending -/

section

variable {o : Output} {s s' : Session} {damage : Damage} {live : Surface} {f : Frame} {e : Region}

theorem smallest_extents (h : (damage.clipped o.geometry.bounds).extents = some e) :
    Rect.Smallest ⟨e.y, e.x, e.bottom, e.right⟩ (o.Damaged damage) where
  has := by
    intro px py hdamaged
    obtain ⟨r, hr, hmem⟩ := Damage.mem_clipped.mpr hdamaged
    exact (Damage.extents_clipped h).2 r hr hmem
  least := by
    intro r' hr' px py hmem
    have hedges := Damage.extents_clipped_least h fun px py hd hb => hr' px py ⟨hd, hb⟩
    simp only [Rect.Mem] at hmem ⊢
    omega

/-- A complete frame of the output's size is painted. -/
theorem sendFrame_eq (damage : Damage) (hf : f.Complete s.store o.geometry.width o.geometry.height)
    (he : e.Inside o.geometry.bounds) {answer : Except Fault ImageId} {t : Session}
    (hp : Session.paintImage { s with store := s.store.share (f.part e) } 0 o.surface e.x e.y e.width
      e.height (f.part e) f.stride damage = .ok (answer, t)) :
    o.sendFrame s f damage e = .ok (answer, t.drop f) := by
  have hstride : (f.part e).stride = f.stride := rfl
  simp only [sendFrame, hf.size, ne_eq, not_true, or_self, if_false, hf.view he, hstride, hp]
  rfl

/-- A complete frame of the output's size is sent, unless there is no memory for a copy of the damage
or the ring is full. -/
theorem sendFrame_complete (damage : Damage) (hring : s.ring.WellFormed)
    (hlive : s.surfaces.find? o.surface = some live)
    (hsize : live.backing.width = o.geometry.width ∧ live.backing.height = o.geometry.height)
    (himages : (s.builder 0).nextImage.toNat + 1 < 4294967296)
    (hf : f.Complete s.store o.geometry.width o.geometry.height) (he : e.Inside o.geometry.bounds) :
    (∃ reason, s.store.reservationError (damage.regions.length * Session.regionSize) = some reason ∧
      ∃ s', o.sendFrame s f damage e = .ok (.error (.damageMemory reason), s') ∧ s'.ring = s.ring) ∨
    (s.CanCopy damage ∧ s.ring.length < s.ring.capacity ∧
      ∃ image s', o.sendFrame s f damage e = .ok (.ok image, s')) ∨
    (s.CanCopy damage ∧ s.ring.length = s.ring.capacity ∧
      ∃ s', o.sendFrame s f damage e = .ok (.error (.ringFull s.ring.capacity), s') ∧
        s'.ring = s.ring) := by
  let u : Session := { s with store := s.store.share (f.part e) }
  have hinside : e.Inside ⟨0, 0, live.backing.width, live.backing.height⟩ := by
    rw [hsize.1, hsize.2]
    exact he
  have hplaced : u.Placed o.surface e.x e.y e.width e.height live ⟨e.y, e.x, e.bottom, e.right⟩ :=
    Session.fits_of_inside hlive hinside
  have hcovers : (f.part e).covers u.store e.width e.height f.stride = .ok true := hf.retain.covers he
  cases hmemory : s.store.reservationError (damage.regions.length * Session.regionSize) with
  | some reason =>
      have hp := Session.paintImage_of_refused (s := u) (b := 0) hplaced hcovers hmemory
      exact .inl ⟨reason, rfl, _, sendFrame_eq damage hf he hp, rfl⟩
  | none =>
      have hprovides : u.Provides 0 e.width e.height (.image (f.part e) f.stride damage) :=
        ⟨hcovers, hmemory, himages⟩
      rcases Session.paintImage_answer (s := u) hring hplaced hprovides with
        ⟨hroom, image, t, hp⟩ | ⟨hfull, t, hp, ht⟩
      · exact .inr (.inl ⟨hmemory, hroom, image, _, sendFrame_eq damage hf he hp⟩)
      · exact .inr (.inr ⟨hmemory, hfull, _, sendFrame_eq damage hf he hp, ht⟩)

/-- What was sent shows the frame, and the frame is as it was. -/
theorem shows_of_sendFrame (hring : s.ring.WellFormed)
    (hf : f.Complete s.store o.geometry.width o.geometry.height) (he : e.Inside o.geometry.bounds)
    {image : ImageId} (h : o.sendFrame s f damage e = .ok (.ok image, s')) :
    ∃ c, s'.queue = s.queue ++ [c] ∧ c.surface = o.surface ∧
      c.bbox = ⟨e.y, e.x, e.bottom, e.right⟩ ∧ s'.store = s.store ∧
      c.Shows f s'.store (f.part e) := by
  obtain ⟨v, bbox, hv, hbbox, hstore, hqueue, -⟩ := sendFrame_sent hring h
  obtain rfl : f.part e = v := Except.ok.inj ((hf.view he).symm.trans hv)
  obtain rfl := Option.some.inj (he.rect.symm.trans hbbox)
  have hkept : s'.store = s.store := hstore.trans (PixelStore.retain_release_self hf.held)
  refine ⟨_, hqueue, rfl, rfl, hkept, rfl, rfl, he.width, he.height, ?_⟩
  intro y hy
  rw [hkept]
  exact hf.row he hy

end

/-! ## Repainting -/

variable {ρ : Type} [Renderer ρ] {o o₁ : Output} {st st₁ : Stage ρ} {damage : Damage} {e : Region}
  {f : Frame} {renderer : ρ} {store : PixelStore} {timers : TimerHost}

theorem blit_of_frame {answer : Except Fault ImageId} {s : Session}
    (h : Renderer.repaint st.renderer st.session.store o.id damage = .ok (.ok f, renderer, store))
    (hsend : o.sendFrame { st.session with store } f damage e = .ok (answer, s)) :
    o.blit st damage e = .ok (answer, { st with renderer, session := s }) := by
  simp only [blit, h, hsend, bind, Except.bind]
  rfl

/-- A repaint whose image is dealt with waits for the wakeup that it started. -/
theorem repaint_of_send {outcome : RepaintOutcome} (hstate : o.state = .repaintScheduled)
    (hs : send { o with state := .repainting } st (damage.clipped o.geometry.bounds) =
      .ok (.ok outcome, o₁, st₁))
    (hstart : st₁.timers.start o₁.timer o₁.interval = (.ok (), timers)) :
    o.repaint st damage =
      .ok (.ok outcome, { o₁ with state := .awaitingWakeup }, { st₁ with timers }) := by
  rw [repaint, if_neg (not_not_intro hstate), hs]
  simp only [bind, Except.bind, awaitWakeup, hstart]
  rfl

theorem repaint_of_send_trap {trap : Trap} (hstate : o.state = .repaintScheduled)
    (hs : send { o with state := .repainting } st (damage.clipped o.geometry.bounds) = .error trap) :
    o.repaint st damage = .error trap := by
  rw [repaint, if_neg (not_not_intro hstate), hs]
  rfl

/-! ## The ways out -/

/-- Nothing is rendered, and the session stays as it is. -/
structure Skips (o : Output) (st : Stage ρ) (damage : Damage) (timers : TimerHost) : Prop where
  counted : o.stats.skipped.toNat + 1 < 18446744073709551616 → ∃ skipped : UInt64,
    skipped.toNat = o.stats.skipped.toNat + 1 ∧
    o.repaint st damage = .ok (.ok .skipped,
      { o with state := .awaitingWakeup, stats := { o.stats with skipped } }, { st with timers })
  full : 18446744073709551616 ≤ o.stats.skipped.toNat + 1 → o.repaint st damage = .error .addOverflow

/-- One command comes to the end of the queue. It copies the smallest rectangle around the damage from
the frame. -/
structure Sends (o : Output) (st : Stage ρ) (damage : Damage) (renderer : ρ) (store : PixelStore)
    (f : Frame) (timers : TimerHost) : Prop where
  counted : o.stats.sent.toNat + 1 < 18446744073709551616 → ∃ (sent : UInt64) (image : ImageId)
    (s : Session) (c : Command) (v : View), sent.toNat = o.stats.sent.toNat + 1 ∧
    o.repaint st damage = .ok (.ok (.sent image),
      { o with state := .awaitingWakeup, dropStreak := 0, stats := { o.stats with sent } },
      { renderer, session := s, timers }) ∧
    s.queue = st.session.queue ++ [c] ∧ c.surface = o.surface ∧
    c.bbox.Smallest (o.Damaged damage) ∧ c.Shows f s.store v ∧ s.store = store
  full : 18446744073709551616 ≤ o.stats.sent.toNat + 1 → o.repaint st damage = .error .addOverflow

/-- The image is dropped for that reason, and the ring stays as it is. -/
structure Drops (o : Output) (st : Stage ρ) (damage : Damage) (renderer : ρ) (reason : Fault)
    (timers : TimerHost) : Prop where
  counted : o.stats.dropped.toNat + 1 < 18446744073709551616 → o.dropStreak.toNat + 1 < 4294967296 →
    ∃ (dropped : UInt64) (dropStreak : UInt32) (s : Session),
      dropped.toNat = o.stats.dropped.toNat + 1 ∧ dropStreak.toNat = o.dropStreak.toNat + 1 ∧
      o.repaint st damage = .ok (.ok (.dropped reason),
        { o with state := .awaitingWakeup, dropStreak, stats := { o.stats with dropped } },
        { renderer, session := s, timers }) ∧ s.ring = st.session.ring
  full : 18446744073709551616 ≤ o.stats.dropped.toNat + 1 ∨ 4294967296 ≤ o.dropStreak.toNat + 1 →
    o.repaint st damage = .error .addOverflow

/-! ## Repaints -/

theorem skips (hstate : o.state = .repaintScheduled)
    (hextents : (damage.clipped o.geometry.bounds).extents = none)
    (hstart : st.timers.start o.timer o.interval = (.ok (), timers)) : o.Skips st damage timers := by
  rcases Checked.next64_cases o.stats.skipped with ⟨hroom, skipped, hnext, hcount⟩ | ⟨hfull, hnext⟩
  · have hsend : send { o with state := .repainting } st (damage.clipped o.geometry.bounds) =
        .ok (.ok .skipped, { o with state := .repainting, stats := { o.stats with skipped } }, st) := by
      simp only [send, hextents, hnext]
      rfl
    exact ⟨fun _ => ⟨skipped, hcount, repaint_of_send hstate hsend hstart⟩, fun hfull => by omega⟩
  · refine ⟨fun hroom => by omega, fun _ => repaint_of_send_trap hstate ?_⟩
    simp only [send, hextents, hnext]
    rfl

/-- An image that was sent is counted, and the drops in a row are over. -/
theorem repaint_of_image {image : ImageId} (hstate : o.state = .repaintScheduled)
    (hextents : (damage.clipped o.geometry.bounds).extents = some e)
    (hblit : blit { o with state := .repainting } st (damage.clipped o.geometry.bounds) e =
      .ok (.ok image, st₁))
    (hstart : st.timers.start o.timer o.interval = (.ok (), timers)) :
    (o.stats.sent.toNat + 1 < 18446744073709551616 ∧ ∃ sent : UInt64,
      sent.toNat = o.stats.sent.toNat + 1 ∧ o.repaint st damage = .ok (.ok (.sent image),
        { o with state := .awaitingWakeup, dropStreak := 0, stats := { o.stats with sent } },
        { st₁ with timers })) ∨
    (18446744073709551616 ≤ o.stats.sent.toNat + 1 ∧ o.repaint st damage = .error .addOverflow) := by
  rw [← blit_timers hblit] at hstart
  rcases Checked.next64_cases o.stats.sent with ⟨hroom, sent, hnext, hcount⟩ | ⟨hfull, hnext⟩
  · have hsend : send { o with state := .repainting } st (damage.clipped o.geometry.bounds) =
        .ok (.ok (.sent image), { o with
          state := .repainting, dropStreak := 0, stats := { o.stats with sent } }, st₁) := by
      simp only [send, hextents, hblit, hnext, bind, Except.bind]
      rfl
    exact .inl ⟨hroom, sent, hcount, repaint_of_send hstate hsend hstart⟩
  · refine .inr ⟨hfull, repaint_of_send_trap hstate ?_⟩
    simp only [send, hextents, hblit, hnext, bind, Except.bind]

/-- An image that is refused for now is dropped, as far as the drops can be counted. -/
theorem drops_of_blit {reason : Fault} (hstate : o.state = .repaintScheduled)
    (hextents : (damage.clipped o.geometry.bounds).extents = some e)
    (hblit : blit { o with state := .repainting } st (damage.clipped o.geometry.bounds) e =
      .ok (.error reason, st₁))
    (hmild : reason.isFatal = false) (hring : st₁.session.ring = st.session.ring)
    (hstart : st.timers.start o.timer o.interval = (.ok (), timers)) :
    o.Drops st damage st₁.renderer reason timers := by
  rw [← blit_timers hblit] at hstart
  have hsend : send { o with state := .repainting } st (damage.clipped o.geometry.bounds) = do
      let o ← noteDrop { o with state := .repainting }
      return (.ok (.dropped reason), o, st₁) := by
    simp only [send, hextents, hblit, hmild, bind, Except.bind]
    rfl
  rcases Checked.next64_cases o.stats.dropped with ⟨hroom, dropped, hnext, hcount⟩ | ⟨hfull, hnext⟩
  · rcases Checked.next32_cases o.dropStreak with ⟨hstreak, dropStreak, hnext', hcount'⟩ | ⟨hlong, hnext'⟩
    · simp only [noteDrop, hnext, hnext', bind, Except.bind] at hsend
      refine ⟨fun _ _ => ⟨dropped, dropStreak, _, hcount, hcount', repaint_of_send hstate hsend hstart, hring⟩,
        fun hend => by omega⟩
    · simp only [noteDrop, hnext, hnext', bind, Except.bind] at hsend
      exact ⟨fun _ hshort => by omega, fun _ => repaint_of_send_trap hstate hsend⟩
  · simp only [noteDrop, hnext, bind, Except.bind] at hsend
    exact ⟨fun hroom => by omega, fun _ => repaint_of_send_trap hstate hsend⟩

/-- With a live surface of the output's size, a timer that can be started and image numbers left, a
repaint without damage inside the output is skipped without a frame. Any other sends the smallest
rectangle around the damage, pixel by pixel, or drops it because there is no memory for a copy of the
damage or the ring is full. The wakeup timer is started in any case. -/
theorem repaint_sends_smallest_rectangle (o : Output) (st : Stage ρ) (damage : Damage)
    {live : Surface} (hring : st.session.ring.WellFormed)
    (hstate : o.state = .repaintScheduled)
    (hlive : st.session.surfaces.find? o.surface = some live)
    (hsize : live.backing.width = o.geometry.width ∧ live.backing.height = o.geometry.height)
    (htimer : st.timers.refuseStart = none)
    (himages : (st.session.builder 0).nextImage.toNat + 1 < 4294967296) :
    ∃ timers, st.timers.start o.timer o.interval = (.ok (), timers) ∧
    ((∀ px py, ¬o.Damaged damage px py) → o.Skips st damage timers) ∧
    ∀ px py, o.Damaged damage px py → ∀ f renderer store,
      Renderer.repaint st.renderer st.session.store o.id (damage.clipped o.geometry.bounds) =
        .ok (.ok f, renderer, store) →
      f.Complete store o.geometry.width o.geometry.height →
      (∀ reason, store.reservationError
          ((damage.clipped o.geometry.bounds).regions.length * Session.regionSize) = some reason →
        o.Drops st damage renderer (.damageMemory reason) timers) ∧
      (store.reservationError
          ((damage.clipped o.geometry.bounds).regions.length * Session.regionSize) = none →
        (st.session.ring.length < st.session.ring.capacity →
          o.Sends st damage renderer store f timers) ∧
        (st.session.ring.length = st.session.ring.capacity →
          o.Drops st damage renderer (.ringFull st.session.ring.capacity) timers)) := by
  rcases st.timers.start_cases o.timer o.interval with ⟨fault, hrefused, -⟩ | ⟨timers, -, hstart, -⟩
  · rw [htimer] at hrefused
    cases hrefused
  refine ⟨timers, hstart, ?_, ?_⟩
  · intro hnone
    exact skips hstate (Damage.extents_clipped_eq_none.mpr hnone) hstart
  · intro px py hdamaged f renderer store hrendered hf
    obtain ⟨e, hextents⟩ : ∃ e, (damage.clipped o.geometry.bounds).extents = some e := by
      apply Option.ne_none_iff_exists'.mp
      intro hnone
      exact Damage.extents_clipped_eq_none.mp hnone px py hdamaged
    have he := (Damage.extents_clipped hextents).1
    rcases sendFrame_complete (o := { o with state := .repainting })
        (s := { st.session with store }) (damage.clipped o.geometry.bounds)
        hring hlive hsize himages hf he with
      ⟨reason, hrefused, s, hsend, hs⟩ | ⟨hgranted, hroom, image, s, hsend⟩ | ⟨hgranted, hfull, s, hsend, hs⟩
    · have hblit := blit_of_frame (o := { o with state := .repainting }) hrendered hsend
      refine ⟨fun reason' hreason => ?_, fun hgranted => ?_⟩
      · cases hrefused.symm.trans hreason
        exact drops_of_blit hstate hextents hblit rfl hs hstart
      · cases hrefused.symm.trans hgranted
    · have hblit := blit_of_frame (o := { o with state := .repainting }) hrendered hsend
      refine ⟨fun reason hreason => ?_, fun _ => ⟨fun _ => ?_, fun hfull => absurd hfull (Nat.ne_of_lt hroom)⟩⟩
      · cases hgranted.symm.trans hreason
      · obtain ⟨c, hqueue, hsurface, hbbox, hstore, hshows⟩ :=
          shows_of_sendFrame (s := { st.session with store }) hring hf he hsend
        have hsmallest : c.bbox.Smallest (o.Damaged damage) := by
          rw [hbbox]
          exact smallest_extents hextents
        rcases repaint_of_image hstate hextents hblit hstart with
          ⟨hcountable, sent, hcount, hrepaint⟩ | ⟨huncountable, hrepaint⟩
        · exact ⟨fun _ => ⟨sent, image, s, c, f.part e, hcount, hrepaint, hqueue, hsurface, hsmallest, hshows,
            hstore⟩, fun hfull => by omega⟩
        · exact ⟨fun hroom => by omega, fun _ => hrepaint⟩
    · have hblit := blit_of_frame (o := { o with state := .repainting }) hrendered hsend
      refine ⟨fun reason hreason => ?_, fun _ => ⟨fun hroom => absurd hfull (Nat.ne_of_lt hroom), fun _ => ?_⟩⟩
      · cases hgranted.symm.trans hreason
      · exact drops_of_blit hstate hextents hblit rfl hs hstart

/-- A frame that was rendered is complete if its numbers say so. -/
theorem complete_of_numbers
    {rendered : Except Trap (Except Fault Frame × PatternRenderer × PixelStore)}
    {width height stride : UInt32} {size : Nat}
    (h : rendered.toOption.bind (fun r => r.1.toOption.map fun f =>
      (f.width, f.height, f.stride, (r.2.2.bytes f.block).size, r.2.2.holders f.block)) =
        some (width, height, stride, size, 2))
    (hstride : width.toNat * bytesPerPixel ≤ stride.toNat) (hsize : stride.toNat * height.toNat ≤ size) :
    ∃ f renderer store, rendered = .ok (.ok f, renderer, store) ∧ f.Complete store width height := by
  rcases rendered with trap | ⟨fault | f, renderer, store⟩
  · cases h
  · cases h
  · simp only [Except.toOption, Option.bind_some, Option.map_some, Option.some.injEq,
      Prod.mk.injEq] at h
    obtain ⟨rfl, rfl, rfl, rfl, hheld⟩ := h
    exact ⟨f, renderer, store, rfl, ⟨rfl, rfl⟩, hstride, hsize, by omega⟩

/-- Damage that reaches over the corner of an output of four by three pixels: the last pixel is sent. -/
theorem repaint_sends_smallest_rectangle_corner :
    ∃ (o : Output) (st : Stage PatternRenderer) (damage : Damage) (image : ImageId) (o' : Output)
        (st' : Stage PatternRenderer) (f : Frame) (c : Command) (v : View),
      o.repaint st damage = .ok (.ok (.sent image), o', st') ∧ o'.state = .awaitingWakeup ∧
      st'.session.queue = st.session.queue ++ [c] ∧ c.bbox.Smallest (o.Damaged damage) ∧
      o.Damaged damage 3 2 ∧ c.Shows f st'.session.store v := by
  let o : Output := ⟨⟨0⟩, ⟨0, 0, 4, 3⟩, ⟨0⟩, ⟨1⟩, 1, .repaintScheduled, 0, {}⟩
  let store : PixelStore := { blocks := #[⟨⟨Array.replicate 48 7⟩, 1⟩] }
  let session : Session := { Session.ofRing (.ofCapacity 4 0) 0 2 [350] with
    store
    surfaces := { capacity := 2, next := 1, live := [⟨⟨0⟩, ⟨4, 3, 48⟩⟩] } }
  let st : Stage PatternRenderer := ⟨⟨4, 3, [(⟨0⟩, ⟨⟨0⟩, 4, 3, 16⟩)], 5⟩, session, {}⟩
  let damage : Damage := ⟨[⟨3, 2, 100, 100⟩]⟩
  obtain ⟨f, renderer, store', hr, hcomplete⟩ := complete_of_numbers
    (show (Renderer.repaint st.renderer store o.id (damage.clipped o.geometry.bounds)).toOption.bind _ =
      some (4, 3, 16, 48, 2) by decide +kernel) (by decide) (by decide)
  have hgranted : (Renderer.repaint st.renderer store o.id (damage.clipped o.geometry.bounds)).toOption.map
      (fun r => r.2.2.reservationError
        ((damage.clipped o.geometry.bounds).regions.length * Session.regionSize)) = some none := by
    decide +kernel
  rw [hr] at hgranted
  have hdamaged : o.Damaged damage 3 2 := ⟨⟨_, List.mem_singleton_self _, by decide⟩, by decide⟩
  obtain ⟨timers, -, -, hsends⟩ := repaint_sends_smallest_rectangle o st damage
    (Ring.wellFormed_ofCapacity 4 0) rfl rfl ⟨rfl, rfl⟩ rfl (by decide)
  obtain ⟨sent, image, s, c, v, -, hrepaint, hqueue, -, hsmallest, hshows, -⟩ :=
    (((hsends 3 2 hdamaged f renderer store' hr hcomplete).2 (Option.some.inj hgranted)).1
      (by decide)).counted (by decide)
  exact ⟨o, st, damage, image, _, _, f, c, v, hrepaint, rfl, hqueue, hsmallest, hdamaged, hshows⟩

/-! ## Where a repaint falls short -/

/-- All that a repaint asks for is there, apart from memory, counters and room on the ring. -/
structure Prepared (o : Output) (st : Stage PatternRenderer) (damage : Damage) : Prop where
  state : o.state = .repaintScheduled
  live : ∃ live, st.session.surfaces.find? o.surface = some live ∧
    live.backing.width = o.geometry.width ∧ live.backing.height = o.geometry.height
  timer : st.timers.refuseStart = none
  images : (st.session.builder 0).nextImage.toNat + 1 < 4294967296
  damaged : ∃ px py, o.Damaged damage px py
  frame : ∃ f renderer store, Renderer.repaint st.renderer st.session.store o.id
    (damage.clipped o.geometry.bounds) = .ok (.ok f, renderer, store) ∧
      f.Complete store o.geometry.width o.geometry.height

theorem exists_of_outcome
    {answered : Except Trap (Except Fault RepaintOutcome × Output × Stage PatternRenderer)}
    {outcome : RepaintOutcome} (h : answered.toOption.bind (·.1.toOption) = some outcome) :
    ∃ o' st', answered = .ok (.ok outcome, o', st') := by
  rcases answered with trap | ⟨fault | outcome', o', st'⟩
  · cases h
  · cases h
  · exact ⟨o', st', by rw [Option.some.inj h]⟩

/-- The ring has room, and the image is dropped because there is no memory for a copy of the damage. -/
theorem repaint_without_memory : ∃ o st damage reason o' st', Prepared o st damage ∧
    st.session.ring.length < st.session.ring.capacity ∧
    o.repaint st damage = .ok (.ok (.dropped (.damageMemory reason)), o', st') := by
  let o : Output := ⟨⟨0⟩, ⟨0, 0, 4, 3⟩, ⟨0⟩, ⟨1⟩, 1, .repaintScheduled, 0, {}⟩
  let session : Session := { Session.ofRing (.ofCapacity 4 0) 0 2 [350] with
    store := { blocks := #[⟨⟨Array.replicate 48 7⟩, 1⟩], refuses := fun _ => true }
    surfaces := { capacity := 2, next := 1, live := [⟨⟨0⟩, ⟨4, 3, 48⟩⟩] } }
  let st : Stage PatternRenderer := ⟨⟨4, 3, [(⟨0⟩, ⟨⟨0⟩, 4, 3, 16⟩)], 5⟩, session, {}⟩
  have hframe := complete_of_numbers
    (show (Renderer.repaint st.renderer session.store o.id
      ((Damage.full 4 3).clipped o.geometry.bounds)).toOption.bind _ = some (4, 3, 16, 48, 2) by
        decide +kernel) (by decide) (by decide)
  obtain ⟨o', st', hdropped⟩ := exists_of_outcome
    (show (o.repaint st (.full 4 3)).toOption.bind _ = some (.dropped (.damageMemory
      "memory allocation failed because the memory allocator returned an error")) by decide +kernel)
  have hdamaged : o.Damaged (.full 4 3) 3 2 := ⟨⟨_, List.mem_singleton_self _, by decide⟩, by decide⟩
  exact ⟨o, st, .full 4 3, _, o', st', ⟨rfl, ⟨_, rfl, rfl, rfl⟩, rfl, by decide, ⟨3, 2, hdamaged⟩, hframe⟩,
    by decide, hdropped⟩

/-- The ring is full, the streak of dropped images is at its end, and the repaint ends in a trap. -/
theorem repaint_at_longest_streak : ∃ o st damage, Prepared o st damage ∧
    st.session.ring.length = st.session.ring.capacity ∧ o.dropStreak = 4294967295 ∧
    o.repaint st damage = .error .addOverflow := by
  let o : Output := ⟨⟨0⟩, ⟨0, 0, 4, 3⟩, ⟨0⟩, ⟨1⟩, 1, .repaintScheduled, 4294967295, {}⟩
  let s : Session := { Session.ofRing (.ofCapacity 1 0) 0 2 [350] with
    store := { blocks := #[⟨⟨Array.replicate 48 7⟩, 1⟩] }
    surfaces := { capacity := 2, next := 1, live := [⟨⟨0⟩, ⟨4, 3, 48⟩⟩] } }
  let st : Stage PatternRenderer :=
    ⟨⟨4, 3, [(⟨0⟩, ⟨⟨0⟩, 4, 3, 16⟩)], 5⟩, (s.fillRect 0 ⟨0⟩ 0 0 0 4 3).2, {}⟩
  have hframe := complete_of_numbers
    (show (Renderer.repaint st.renderer st.session.store o.id
      ((Damage.full 4 3).clipped o.geometry.bounds)).toOption.bind _ = some (4, 3, 16, 48, 2) by
        decide +kernel) (by decide) (by decide)
  have htrap : (o.repaint st (.full 4 3)).map (fun _ => ()) = .error .addOverflow := by decide +kernel
  have hdamaged : o.Damaged (.full 4 3) 3 2 := ⟨⟨_, List.mem_singleton_self _, by decide⟩, by decide⟩
  refine ⟨o, st, .full 4 3,
    ⟨rfl, ⟨⟨⟨0⟩, 4, 3, 48⟩, by decide +kernel, rfl, rfl⟩, by decide +kernel, by decide +kernel, ⟨3, 2, hdamaged⟩,
      hframe⟩, by decide +kernel, rfl, ?_⟩
  cases hrepaint : o.repaint st (.full 4 3) with
  | error trap =>
      rw [hrepaint] at htrap
      exact congrArg _ (Except.error.inj htrap)
  | ok r =>
      rw [hrepaint] at htrap
      cases htrap

/-- The width of the region is cut before it is added to the left edge, and the rest is not sent. -/
theorem repaint_of_cut_region : ∃ o st r image o' st' c, Prepared o st ⟨[r]⟩ ∧
    o.repaint st ⟨[r]⟩ = .ok (.ok (.sent image), o', st') ∧ st'.session.queue = [c] ∧
    r.Has 10 0 ∧ o.geometry.bounds.Has 10 0 ∧ ¬c.bbox.Mem 10 0 := by
  let o : Output := ⟨⟨0⟩, ⟨0, 0, 16, 8⟩, ⟨0⟩, ⟨1⟩, 1, .repaintScheduled, 0, {}⟩
  let session : Session := { Session.ofRing (.ofCapacity 4 0) 0 2 [350] with
    store := { blocks := #[⟨⟨Array.replicate 512 7⟩, 1⟩] }
    surfaces := { capacity := 2, next := 1, live := [⟨⟨0⟩, ⟨16, 8, 512⟩⟩] } }
  let st : Stage PatternRenderer := ⟨⟨16, 8, [(⟨0⟩, ⟨⟨0⟩, 16, 8, 64⟩)], 5⟩, session, {}⟩
  let r : Region := ⟨-2147483640, 0, 2147483748, 4⟩
  have hframe := complete_of_numbers
    (show (Renderer.repaint st.renderer session.store o.id
      (Damage.clipped ⟨[r]⟩ o.geometry.bounds)).toOption.bind _ = some (16, 8, 64, 512, 2) by
        decide +kernel) (by decide) (by decide)
  obtain ⟨o', st', hrepaint⟩ := exists_of_outcome
    (show (o.repaint st ⟨[r]⟩).toOption.bind _ = some (.sent ⟨1⟩) by decide +kernel)
  have hboxes : (o.repaint st ⟨[r]⟩).toOption.map (fun p => p.2.2.session.queue.map (·.bbox)) =
      some [⟨0, 0, 4, 7⟩] := by
    decide +kernel
  rw [hrepaint] at hboxes
  obtain ⟨c, hqueue, hbbox⟩ := List.map_eq_singleton_iff.mp (Option.some.inj hboxes)
  have hdamaged : o.Damaged ⟨[r]⟩ 3 2 := ⟨⟨_, List.mem_singleton_self _, by decide⟩, by decide⟩
  refine ⟨o, st, r, _, o', st', c,
    ⟨rfl, ⟨_, rfl, rfl, rfl⟩, rfl, by decide, ⟨3, 2, hdamaged⟩, hframe⟩, hrepaint, hqueue, by decide,
    by decide, ?_⟩
  rw [hbbox]
  decide

/-- Memory, a counter or a region whose edges are cut can keep a repaint from sending all of the damage. -/
theorem repaint_falls_short :
    (∃ o st damage reason o' st', Prepared o st damage ∧
      st.session.ring.length < st.session.ring.capacity ∧
      o.repaint st damage = .ok (.ok (.dropped (.damageMemory reason)), o', st')) ∧
    (∃ o st damage, Prepared o st damage ∧ st.session.ring.length = st.session.ring.capacity ∧
      o.dropStreak = 4294967295 ∧ o.repaint st damage = .error .addOverflow) ∧
    ∃ o st r image o' st' c, Prepared o st ⟨[r]⟩ ∧
      o.repaint st ⟨[r]⟩ = .ok (.ok (.sent image), o', st') ∧ st'.session.queue = [c] ∧
      r.Has 10 0 ∧ o.geometry.bounds.Has 10 0 ∧ ¬c.bbox.Mem 10 0 :=
  ⟨repaint_without_memory, repaint_at_longest_streak, repaint_of_cut_region⟩

end Output

end RemoteDisplay
