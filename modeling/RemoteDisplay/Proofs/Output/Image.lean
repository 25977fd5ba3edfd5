import RemoteDisplay.Proofs.Geometry.Damage
import RemoteDisplay.Proofs.Output.Screens

/-!
# The image of a repaint

When a repaint sends an image, the command at the end of the queue has a view of the frame that the
renderer keeps. Executed at any time until its release, it copies the colours of that frame.
-/

namespace RemoteDisplay

namespace Output

variable {o : Output} {s s' : Session} {damage : Damage} {extents : Region} {image : ImageId} {f : Frame}

theorem sendFrame_sent (hring : s.ring.WellFormed)
    (h : o.sendFrame s f damage extents = .ok (.ok image, s')) :
    ∃ v bbox, f.view extents = .ok v ∧
      Rect.ofOrigin? extents.x extents.y extents.width extents.height = some bbox ∧
      s'.store = (s.store.retain v.block).release f.block ∧
      s'.queue = s.queue ++
        [s.blitCommand 0 o.surface bbox extents.width extents.height v v.stride damage] ∧
      s'.server = s.server ∧ s'.surfaces = s.surfaces := by
  rcases sendFrame_cases h with ⟨e, -, he, -⟩ | ⟨v, t, -, -, hv, hpaint, rfl⟩
  · cases he
  · obtain ⟨bbox, hbbox, hstore, hqueue, hserver, hsurfaces⟩ :=
      Session.queue_of_paintImage (s := { s with store := s.store.share v }) hring hpaint
    refine ⟨v, bbox, hv, hbbox, ?_, hqueue, hserver, hsurfaces⟩
    have hdropped : (t.drop f).store = t.store.release f.block := rfl
    rw [hdropped, hstore]
    rfl

/-- What sending an image leaves behind: the renderer's frame is recoloured, and a command is queued
that copies its part inside `extents`. -/
structure Sent (o : Output) (p : PatternRenderer) (s : Session) (damage : Damage) (extents : Region)
    (p' : PatternRenderer) (s' : Session) (f : Frame) (c : Command) : Prop where
  recoloured : p.Recoloured s.store s.handles o.id damage f p' s'.store s'.handles
  queue : s'.queue = s.queue ++ [c]
  server : s'.server = s.server
  surfaces : s'.surfaces = s.surfaces
  surface : c.surface = o.surface
  drawable : c.record? = none
  colour : ∀ x y : Nat, c.colour? s'.store x y =
    if extents.Mem x y then some (f.colourAt s'.store x y) else none

theorem sent_of_blit {st st' : Stage PatternRenderer} {bounds : Region}
    (hsound : st.renderer.Sound st.session.store st.session.handles)
    (hsmall : st.renderer.width.toNat * 4 * st.renderer.height.toNat < 4294967296)
    (hring : st.session.ring.WellFormed) (hinside : extents.Inside bounds)
    (hb : o.blit st damage extents = .ok (.ok image, st')) :
    ∃ f c, Sent o st.renderer st.session damage extents st'.renderer st'.session f c := by
  obtain ⟨frame, renderer, store, hr, ⟨e, -, he, -⟩ | ⟨f, s', rfl, hs, rfl⟩⟩ := blit_cases hb
  · cases he
  · rcases hsound.repaint hsmall hr with ⟨e, he, -, -⟩ | ⟨f', hf, hrecoloured⟩
    · cases he
    · cases hf
      obtain ⟨v, bbox, hv, hbbox, hstore, hqueue, hserver, hsurfaces⟩ :=
        sendFrame_sent (s := { st.session with store }) hring hs
      obtain ⟨hblock, hstride⟩ := Frame.view_eq hv
      -- the hold on the frame ends, and the view's takes its place
      have hkeeps : store.Keeps (renderer.handles ++ (f.block :: st.session.handles)) s'.store := by
        rw [hstore, hblock]
        exact hrecoloured.sound.counts.retain_release (List.mem_append_right _ List.mem_cons_self)
      have hhandles : (f.block :: st.session.handles).Perm s'.handles := by
        rw [Session.handles, Session.handles, hqueue, hserver, List.append_assoc, blocks_append,
          blocks_append, List.singleton_append, ← hblock]
        exact List.perm_middle.symm
      refine ⟨f, _, ⟨hrecoloured.keeps (hkeeps.perm ?_) fun id hid => ?_, hqueue, hserver, hsurfaces, rfl,
        rfl, fun x y => ?_⟩⟩
      · exact List.perm_append_comm.trans (hhandles.append_right _)
      · exact hhandles.mem_iff.mp (List.mem_cons_of_mem _ hid)
      · obtain ⟨hleft, htop⟩ := Rect.origin_of_ofOrigin? hbbox
        have hmem : bbox.Mem x y ↔ extents.Mem x y := by
          have hwidth := hinside.width
          have hheight := hinside.height
          rw [Rect.mem_of_ofOrigin? hbbox, Region.Mem]
          omega
        rw [Session.colour?_blitCommand]
        by_cases hin : extents.Mem x y
        · rw [if_pos (hmem.mpr hin), if_pos hin, hleft, htop, hstride,
            Frame.colourAt_view hv _ hin.1 hin.2.2.1]
        · rw [if_neg fun hbox => hin (hmem.mp hbox), if_neg hin]

end Output

/-! ## Repaints -/

namespace Backend

variable {b b' : Backend PatternRenderer} {o : Output} {damage : Damage} {extents : Region} {f : Frame}
  {c : Command}

/-- What a repaint that sends an image of the extents of the damage changes. -/
structure Refreshed (b b' : Backend PatternRenderer) (o : Output) (damage : Damage) (extents : Region)
    (f : Frame) (c : Command) : Prop
    extends Output.Sent o b.renderer b.session damage extents b'.renderer b'.session f c where
  settings : b'.settings = b.settings
  nextOutput : b'.nextOutput = b.nextOutput
  screens : b'.screens = b.screens
  extents : damage.extents = some extents

/-- Pixels outside the extents keep their colour. -/
theorem Refreshed.unchanged (hr : Refreshed b b' o (damage.clipped o.geometry.bounds) extents f c)
    {g : Frame} (hg : b.renderer.frame? o.id = some g) {x y : Nat} (hx : x < b.renderer.width.toNat)
    (hy : y < b.renderer.height.toNat) (hout : ¬extents.Mem x y) :
    f.colourAt b'.session.store x y = g.colourAt b.session.store x y := by
  refine hr.recoloured.kept g hg x hx y hy fun hmem => hout ?_
  obtain ⟨r, hmem, hin⟩ := (Damage.mem_clipped.mp hmem).1
  exact (Damage.extents_clipped hr.extents).2 r hmem hin

theorem Tidy.refreshed (h : b.Tidy) (hr : Refreshed b b' o damage extents f c)
    (horder : ∃ sent shut, b'.session.InOrder 0 sent shut) : b'.Tidy where
  order := horder
  sound := hr.recoloured.sound
  ids := hr.screens ▸ h.ids
  surfaces := hr.screens ▸ h.surfaces
  below d hd := by
    rw [hr.nextOutput, hr.surfaces]
    exact h.below d (hr.screens ▸ hd)
  live x hx := by
    rw [hr.surfaces] at hx ⊢
    exact h.live x hx
  size d hd := by
    rw [hr.recoloured.width, hr.recoloured.height]
    exact h.size d (hr.screens ▸ hd)

/-- The bytes of a frame can be counted by a word. -/
theorem Tidy.small (h : b.Tidy) (ho : o ∈ b.outputs) :
    b.renderer.width.toNat * 4 * b.renderer.height.toNat < 4294967296 := by
  obtain ⟨hwidth, hheight, hwide, hhigh⟩ := h.size _ (List.mem_map_of_mem ho)
  rw [hwidth, UInt32.le_iff_toNat_le] at hwide
  rw [hheight, UInt32.le_iff_toNat_le] at hhigh
  have hmax : maxOutputWidth.toNat = 4096 ∧ maxOutputHeight.toNat = 4096 := ⟨rfl, rfl⟩
  have hbytes := Nat.mul_le_mul (Nat.mul_le_mul_right 4 (hmax.1 ▸ hwide)) (hmax.2 ▸ hhigh)
  omega

theorem Tidy.refreshed_of_repaint (h : b.Tidy) (ho : o ∈ b.outputs) {image : ImageId}
    (hr : Repaint b o damage (.ok (.sent image)) b') :
    ∃ extents f c, Refreshed b b' o (damage.clipped o.geometry.bounds) extents f c := by
  have hsent : ∀ {o' : Output} {st : Stage PatternRenderer},
      Output.Sending { o with state := .repainting } b.stage (damage.clipped o.geometry.bounds)
        (.ok (.sent image)) o' st →
      ∃ extents f c, (damage.clipped o.geometry.bounds).extents = some extents ∧
        Output.Sent o b.renderer b.session (damage.clipped o.geometry.bounds) extents st.renderer
          st.session f c := by
    intro o' st hs
    cases hs with
    | @sent extents image st' _ hextents hblit =>
        obtain ⟨f, c, hsent⟩ := Output.sent_of_blit h.sound (h.small ho) h.session.ring
          (Damage.extents_clipped hextents).1 hblit
        exact ⟨extents, f, c, hextents, hsent.recoloured, hsent.queue, hsent.server, hsent.surfaces,
          hsent.surface, hsent.drawable, hsent.colour⟩
  cases hr with
  | @awaiting _ o' st timers hstate hs hstart =>
      obtain ⟨extents, f, c, hextents, hsent⟩ := hsent hs
      have hscreens := screens_setOutput { o' with state := .awaitingWakeup } h.ids ho hs.kin.screen
      exact ⟨extents, f, c, hsent, rfl, rfl, hscreens, hextents⟩
  | @again _ o' st timers fault wakeupsMissed hstate hs hstart =>
      obtain ⟨extents, f, c, hextents, hsent⟩ := hsent hs
      have hscreens := screens_setOutput { o' with
        state := .repaintScheduled
        stats := { o'.stats with wakeupsMissed } } h.ids ho hs.kin.screen
      exact ⟨extents, f, c, hsent, rfl, rfl, hscreens, hextents⟩

end Backend

end RemoteDisplay
