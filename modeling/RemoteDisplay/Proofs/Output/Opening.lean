import RemoteDisplay.Proofs.Output.Screens

/-!
# New outputs

A new output gets a surface of its own. The surface is announced, and then filled with the background.
When the output cannot be made after all, only the announcement may be left, and nobody draws on that
surface.
-/

namespace RemoteDisplay.Backend

/-! ## A surface for a new output -/

/-- What a surface for a new output changes in the session: it is announced, at most fills of it
follow, and no pixels and nothing at the server's side change. -/
structure Prepared (s t : Session) (announced : Command) (fills : List Command) : Prop where
  sound : t.Sound
  store : t.store = s.store
  handles : t.handles = s.handles
  server : t.server = s.server
  next : s.surfaces.next < t.surfaces.next
  live : ∃ backing, t.surfaces.live = s.surfaces.live ++ [⟨⟨s.surfaces.next⟩, backing⟩]
  queue : t.queue = s.queue ++ announced :: fills
  announced : announced.record? ≠ none
  fills : ∀ c ∈ fills, c.surface = ⟨s.surfaces.next⟩

section Prepared

variable {s t : Session} {announced : Command} {fills : List Command} {sent : List Command}
  {shut : List Ticket}

theorem prepared_createSurface (h : s.InOrder 0 sent shut) {width height : UInt32} {backing : Backing}
    {id : SurfaceId} (hs : s.createSurface width height backing = .ok (.ok id, t)) :
    id = ⟨s.surfaces.next⟩ ∧ ∃ announced, Prepared s t announced [] := by
  obtain ⟨record, ticket, hnext, rfl, -, -, hqueue, hsurfaces, hserver, -⟩ :=
    Session.createSurface_ok h.sound.ring hs
  obtain ⟨hstore, hhandles⟩ := Session.createSurface_still h.sound hs
  refine ⟨rfl, _, ⟨((h.createSurface hs).2 _ rfl).sound, hstore, hhandles, hserver, ?_, ⟨backing, ?_⟩, hqueue,
    by rintro ⟨⟩, by simp⟩⟩
  · rw [hsurfaces]
    exact Session.lt_add_one hnext
  · rw [hsurfaces]

theorem Prepared.backgrounded (h : Prepared s t announced []) (background : UInt32) (g : Geometry)
    (ht : t.InOrder 1 sent shut) :
    ∃ fills, Prepared s (backgrounded t ⟨s.surfaces.next⟩ background g) announced fills := by
  obtain ⟨fills, -, hfills, hqueue, hsurfaces, hserver⟩ := t.fillRect_queue 0 ⟨s.surfaces.next⟩ background 0 0
    g.width g.height h.sound.ring
  obtain ⟨hstore, hhandles⟩ := Session.fillRect_still h.sound 0 ⟨s.surfaces.next⟩ background 0 0 g.width
    g.height
  refine ⟨fills, (ht.fillRect _ background 0 0 g.width g.height).sound, hstore.trans h.store,
    hhandles.trans h.handles, hserver.trans h.server, ?_, ?_, ?_, h.announced, fun c hc => ?_⟩
  · rw [Backend.backgrounded, hsurfaces]
    exact h.next
  · rw [Backend.backgrounded, hsurfaces]
    exact h.live
  · rw [Backend.backgrounded, hqueue, h.queue, List.append_assoc]
    rfl
  · obtain ⟨bbox, -, rfl⟩ := hfills c hc
    rfl

theorem Prepared.callAttached (h : Prepared s t announced fills) (call : WorkerCall) :
    Prepared s (t.callAttached call) announced fills := by
  rw [Session.callAttached_eq]
  exact ⟨⟨h.sound.ring, h.sound.held, h.sound.counted⟩, h.store, h.handles, h.server, h.next, h.live,
    h.queue, h.announced, h.fills⟩

/-- The other surfaces get no drawable. -/
theorem Prepared.drawables (h : Prepared s t announced fills) {surface : SurfaceId}
    (hne : surface ≠ ⟨s.surfaces.next⟩) : drawables surface (announced :: fills) = [] := by
  refine drawables_eq_nil fun c hc hr he => ?_
  rcases List.mem_cons.mp hc with rfl | hc
  · exact h.announced hr
  · exact hne (he.symm.trans (h.fills c hc))

end Prepared

/-! ## Outputs that are not made -/

section Calm

variable {b b' : Backend PatternRenderer}

/-- The surface of an output is not one that comes later. -/
theorem Tidy.surface_ne (h : b.Tidy) {d : Screen} (hd : d ∈ b.screens) :
    d.surface ≠ ⟨b.session.surfaces.next⟩ := by
  intro he
  have hlt := (h.below d hd).2
  rw [he] at hlt
  exact UInt32.lt_irrefl _ hlt

/-- An output that is not made leaves at most an announcement that nobody draws on. -/
theorem Tidy.notCreated (h : b.Tidy) {g : Geometry} {e : Fault} (hc : Creation b g (.error e) b') :
    Calm b b' [] := by
  obtain ⟨sent, shut, horder⟩ := h.order
  cases hc with
  | refused => exact h.still rfl rfl rfl rfl rfl rfl rfl rfl
  | @unannounced backing e s hsurface =>
      obtain ⟨hqueue, hnext, hlive, hserver⟩ := Session.createSurface_error h.session.ring hsurface
      have hstill : s.store = b.session.store ∧ s.handles = b.session.handles :=
        Session.createSurface_still h.session hsurface
      refine ⟨rfl, rfl, rfl, .refl _, hnext, fun x hx => .inl (hlive ▸ hx), ?_, fun d _ => ?_,
        fun c hc _ => ?_⟩
      · simp only [hstill.1, hstill.2]
        exact .refl h.counts
      · simp only [hqueue, List.nil_append]
      · rwa [List.nil_append, hqueue] at hc
  | @colourless backing surface e s hsurface hcolour =>
      obtain ⟨rfl, announced, hp⟩ := prepared_createSurface horder hsurface
      obtain ⟨backing, hlive⟩ := hp.live
      refine ⟨rfl, rfl, rfl, .refl _, UInt32.le_of_lt hp.next, fun x hx => ?_, ?_, fun d hd => ?_,
        fun c hc hr => ?_⟩
      · rw [hlive, List.mem_append, List.mem_singleton] at hx
        rcases hx with hx | rfl
        · exact .inl hx
        · exact .inr hp.next
      · simp only [hp.store, hp.handles]
        exact .refl h.counts
      · simp only [hp.queue, List.nil_append, drawables_append, hp.drawables (h.surface_ne hd),
          List.append_nil]
      · rw [List.nil_append, hp.queue, List.mem_append, List.mem_singleton] at hc
        rcases hc with hc | rfl
        · exact hc
        · exact absurd hr hp.announced
  | @rolledBack backing surface s background f hsurface hcolour hadd =>
      obtain ⟨rfl, announced, hp⟩ := prepared_createSurface horder hsurface
      obtain ⟨fills, hp⟩ := hp.backgrounded background g ((horder.createSurface hsurface).2 _ rfl)
      simp only [rollBack_session]
      generalize backgrounded s ⟨b.session.surfaces.next⟩ background g = t at hp
      obtain ⟨backing, hlive⟩ := hp.live
      obtain ⟨-, hqueue, -, hsurfaces, -⟩ := t.withdrawSurface_spec hp.sound.ring ⟨b.session.surfaces.next⟩
      have hcounts : t.store.Counts (t.handles ++ b.renderer.handles) := by
        rw [hp.store, hp.handles]
        exact h.counts
      have hkeeps := Session.withdrawSurface_keeps hp.sound.ring hcounts ⟨b.session.surfaces.next⟩
      rw [hp.store] at hkeeps
      refine ⟨rfl, rfl, rfl, .refl _, ?_, fun x hx => ?_, hkeeps, fun d hd => ?_, fun c hc hr => ?_⟩
      · simp only [hsurfaces]
        exact UInt32.le_of_lt hp.next
      · simp only [hsurfaces, hlive] at hx
        obtain ⟨hx, hne⟩ := List.mem_filter.mp hx
        rcases List.mem_append.mp hx with hx | hx
        · exact .inl hx
        · rw [List.mem_singleton.mp hx] at hne
          simp at hne
      · have hne := h.surface_ne hd
        simp only [List.nil_append]
        rw [hqueue, drawables_filter hne, hp.queue, drawables_append, hp.drawables hne, List.append_nil]
      · rw [List.nil_append, hqueue] at hc
        obtain ⟨hc, hne⟩ := List.mem_filter.mp hc
        rw [hp.queue, List.mem_append, List.mem_cons] at hc
        rcases hc with hc | rfl | hc
        · exact hc
        · exact absurd hr hp.announced
        · rw [hp.fills c hc] at hne
          simp at hne

end Calm

/-! ## Outputs that are made -/

section Opening

variable {b b' : Backend PatternRenderer} {g : Geometry}

/-- With room on the ring, the new surface is filled as a whole. -/
theorem Tidy.filled (h : b.Tidy) {backing : Backing} {surface : SurfaceId} {s : Session}
    {background : UInt32} (hwidth : g.width ≠ 0 ∧ g.width ≤ maxOutputWidth)
    (hheight : g.height ≠ 0 ∧ g.height ≤ maxOutputHeight)
    (hs : b.session.createSurface g.width g.height backing = .ok (.ok surface, s))
    (hroom : ∀ n ∈ (backgrounded s surface background g).notices.toList.drop b.session.notices.size,
      n.reason ≠ .rejected) :
    ∃ fill : Command, (backgrounded s surface background g).queue = s.queue ++ [fill] ∧
      fill.record? = none ∧ ∀ (store : PixelStore) (x y : Nat), x < g.width.toNat → y < g.height.toNat →
        fill.colour? store x y = some background := by
  obtain ⟨sent, shut, horder⟩ := h.order
  obtain ⟨record, ticket, -, rfl, hbw, hbh, -, hsurfaces, -, hnotices, -⟩ :=
    Session.createSurface_ok h.session.ring hs
  have hring := ((horder.createSurface hs).2 _ rfl).sound.ring
  have hlive : s.surfaces.find? ⟨b.session.surfaces.next⟩ = some ⟨⟨b.session.surfaces.next⟩, backing⟩ := by
    have hnone : b.session.surfaces.live.find? (·.id = ⟨b.session.surfaces.next⟩) = none := by
      refine List.find?_eq_none.mpr fun x hx he => ?_
      have hlt := h.live x hx
      rw [of_decide_eq_true he] at hlt
      exact UInt32.lt_irrefl _ hlt
    rw [hsurfaces, SurfaceTable.find?, List.find?_append, hnone]
    simp
  have hwide := UInt32.le_iff_toNat_le.mp hwidth.2
  have hhigh := UInt32.le_iff_toNat_le.mp hheight.2
  have hmax : maxOutputWidth.toNat = 4096 ∧ maxOutputHeight.toNat = 4096 := ⟨rfl, rfl⟩
  obtain ⟨bbox, hbbox, hfill⟩ := s.fillRect_whole 0 _ background g.width g.height hring hlive hbw hbh
    ⟨hwidth.1, by omega⟩ ⟨hheight.1, by omega⟩
  refine ⟨s.fillCommand 0 ⟨b.session.surfaces.next⟩ background bbox, ?_, rfl, fun store x y hx hy => ?_⟩
  · rcases hfill with hfill | hrejected
    · exact hfill
    · let fill := s.fillCommand 0 ⟨b.session.surfaces.next⟩ background bbox
      refine absurd ?_ (hroom (fill.notice .rejected) ?_)
      · rfl
      · rw [backgrounded, hrejected, hnotices, Array.toList_push, List.drop_left' (by simp)]
        exact List.mem_singleton.mpr rfl
  · have hzero : (0 : Int32).toInt = 0 := rfl
    rw [Session.colour?_fillCommand, if_pos ((Rect.mem_of_ofOrigin? hbbox).mpr (by omega))]

/-- What a new output changes: it has a surface of its own, which is announced and then filled with the
background. -/
structure Opening (b b' : Backend PatternRenderer) (g : Geometry) (announced fill : Command) : Prop where
  renderer : b'.renderer = b.renderer
  settings : b'.settings = b.settings
  screens : b'.screens = b.screens ++ [⟨⟨b.nextOutput⟩, g, ⟨b.session.surfaces.next⟩⟩]
  number : b.nextOutput < b'.nextOutput
  prepared : Prepared b.session b'.session announced [fill]
  drawable : fill.record? = none
  colour : ∃ background, b.settings.display.backgroundColour = .ok background ∧
    ∀ (store : PixelStore) (x y : Nat), x < g.width.toNat → y < g.height.toNat →
      fill.colour? store x y = some background
  size : g.width ≤ maxOutputWidth ∧ g.height ≤ maxOutputHeight

theorem Tidy.opening (h : b.Tidy) {id : OutputId} (hc : Creation b g (.ok id) b')
    (hroom : ∀ n ∈ b'.session.notices.toList.drop b.session.notices.size, n.reason ≠ .rejected) :
    ∃ announced fill, Opening b b' g announced fill := by
  cases hc with
  | @created backing surface s background hwidth hheight hsurface hcolour hadd hnumber =>
      obtain ⟨sent, shut, horder⟩ := h.order
      obtain ⟨fill, hqueue, hdrawable, hbackground⟩ :=
        h.filled hwidth hheight hsurface (by simpa [opened] using hroom)
      obtain ⟨rfl, announced, hp⟩ := prepared_createSurface horder hsurface
      obtain ⟨fills, hfills⟩ := hp.backgrounded background g ((horder.createSurface hsurface).2 _ rfl)
      have hfill : fills = [fill] := by
        rw [hfills.queue, hp.queue, List.append_assoc, List.append_cancel_left_eq] at hqueue
        exact List.tail_eq_of_cons_eq hqueue
      subst hfill
      exact ⟨announced, fill, rfl, rfl, by simp [screens, opened, newOutput, Output.screen],
        Session.lt_add_one hnumber, hfills.callAttached .start, hdrawable, ⟨background, hcolour, hbackground⟩,
        hwidth.2, hheight.2⟩

theorem Tidy.opened (h : b.Tidy) {announced fill : Command} (ho : Opening b b' g announced fill)
    (hsize : g.width = b.renderer.width ∧ g.height = b.renderer.height)
    (horder : ∃ sent shut, b'.session.InOrder 0 sent shut) : b'.Tidy := by
  have hp := ho.prepared
  obtain ⟨backing, hlive⟩ := hp.live
  refine ⟨horder, ?_, ?_, ?_, fun d hd => ?_, fun x hx => ?_, fun d hd => ?_⟩
  · rw [ho.renderer, hp.store, hp.handles]
    exact h.sound
  · rw [ho.screens, List.map_append]
    refine nodup_concat h.ids fun hmem => ?_
    obtain ⟨d, hd, he⟩ := List.mem_map.mp hmem
    have hlt := (h.below d hd).1
    rw [he] at hlt
    exact UInt32.lt_irrefl _ hlt
  · rw [ho.screens, List.map_append]
    refine nodup_concat h.surfaces fun hmem => ?_
    obtain ⟨d, hd, he⟩ := List.mem_map.mp hmem
    exact h.surface_ne hd he
  · rw [ho.screens, List.mem_append, List.mem_singleton] at hd
    rcases hd with hd | rfl
    · obtain ⟨hid, hsurface⟩ := h.below d hd
      exact ⟨UInt32.lt_trans hid ho.number, UInt32.lt_trans hsurface hp.next⟩
    · exact ⟨ho.number, hp.next⟩
  · rw [hlive, List.mem_append, List.mem_singleton] at hx
    rcases hx with hx | rfl
    · exact UInt32.lt_trans (h.live x hx) hp.next
    · exact hp.next
  · rw [ho.renderer]
    rw [ho.screens, List.mem_append, List.mem_singleton] at hd
    rcases hd with hd | rfl
    · exact h.size d hd
    · exact ⟨hsize.1, hsize.2, ho.size⟩

end Opening

end RemoteDisplay.Backend
