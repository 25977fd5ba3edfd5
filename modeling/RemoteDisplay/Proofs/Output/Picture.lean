import RemoteDisplay.Proofs.Output.Image
import RemoteDisplay.Proofs.Output.Opening
import RemoteDisplay.Proofs.Output.Scene

/-!
# The picture is the frame

Once the server executed everything that it was sent for an output, the picture of the output's surface
has the colours of the renderer's frame wherever a repaint reached, and the background elsewhere. On
the way this holds of the picture that the server will have: `Faithful` says so of the picture with
all drawables executed that wait or are still queued, and every move keeps it.
-/

namespace RemoteDisplay.Backend

/-- The colour that a pixel of an output should have: the frame's where it was repainted, else the
background. -/
def Expected (b : Backend PatternRenderer) (covered : Bool) (id : OutputId) (x y : Nat)
    (colour : UInt32) : Prop :=
  if covered then
    ∃ f, b.renderer.frame? id = some f ∧ f.colourAt b.session.store x y = colour
  else b.settings.display.backgroundColour = .ok colour

section Expected

variable {b b' : Backend PatternRenderer} {id : OutputId} {covered : Bool} {x y : Nat} {colour : UInt32}

/-- A pixel keeps its expected colour if the output's frame keeps its colour there. -/
theorem Expected.mono (h : b.Expected covered id x y colour) (hsettings : b'.settings = b.settings)
    (hframe : ∀ g, b.renderer.frame? id = some g → ∃ f, b'.renderer.frame? id = some f ∧
      f.colourAt b'.session.store x y = g.colourAt b.session.store x y) :
    b'.Expected covered id x y colour := by
  unfold Expected at h ⊢
  split
  · rename_i hcov
    rw [if_pos hcov] at h
    obtain ⟨g, hg, hcolour⟩ := h
    obtain ⟨f, hf, hsame⟩ := hframe g hg
    exact ⟨f, hf, hsame.trans hcolour⟩
  · rename_i hcov
    rw [if_neg hcov] at h
    rw [hsettings]
    exact h

end Expected

namespace Scene

def backend (sc : Scene) : Backend PatternRenderer := sc.history.backend

/-- The drawables for a surface that the server has to execute, those that it did not take yet at the
end. -/
def pending (sc : Scene) (surface : SurfaceId) : List Command :=
  drawables surface (sc.waiting ++ sc.backend.session.queue)

/-- With all pending drawables executed, every output has the expected picture. -/
structure Faithful (sc : Scene) : Prop where
  tidy : sc.backend.Tidy
  held : ∀ c ∈ sc.waiting, c ∈ sc.backend.session.server.held
  drawn : ∀ c ∈ sc.waiting ++ sc.backend.session.queue, c.record? = none →
    c.surface.raw < sc.backend.session.surfaces.next
  past : ∀ id bounds x y, sc.backend.nextOutput ≤ id.raw → sc.history.covered id bounds x y = false
  shown : ∀ d ∈ sc.backend.screens, ∀ x < sc.backend.renderer.width.toNat,
    ∀ y < sc.backend.renderer.height.toNat,
      sc.backend.Expected (sc.history.covered d.id d.geometry.bounds x y) d.id x y
        (painted sc.backend.session.store (sc.pending d.surface) (sc.pictures d.surface) x y)

variable {sc sc' : Scene}

/-- A pending command that waits or is queued still has its pixels. -/
theorem block_mem_handles (hheld : ∀ c ∈ sc.waiting, c ∈ sc.backend.session.server.held)
    {surface : SurfaceId} {c : Command} (hc : c ∈ sc.pending surface) {v : View} (hv : c.view? = some v) :
    v.block ∈ sc.backend.session.handles := by
  refine mem_blocks ?_ hv
  rcases List.mem_append.mp (mem_drawables.mp hc).1 with hw | hq
  · exact List.mem_append_right _ (hheld c hw)
  · exact List.mem_append_left _ hq

/-! ## Executing -/

/-- The first drawable that waits for a surface is executed, the others go on waiting. -/
theorem execute_cases {surface : SurfaceId} (hs : sc.execute surface = some sc') :
    ∃ before c after, sc.waiting = before ++ c :: after ∧ (∀ d ∈ before, d.surface ≠ surface) ∧
      c.surface = surface ∧ sc' = { sc with
        waiting := before ++ after
        pictures := fun id =>
          if id = surface then c.paint sc.store (sc.pictures id) else sc.pictures id } := by
  obtain ⟨c, hc, rfl⟩ := Option.map_eq_some_iff.mp hs
  obtain ⟨hsurface, before, after, hsplit, hbefore⟩ := List.find?_eq_some_iff_append.mp hc
  have hsurface : c.surface = surface := by simpa using hsurface
  have hothers : ∀ d ∈ before, d.surface ≠ surface := by simpa using hbefore
  refine ⟨before, c, after, hsplit, hothers, hsurface, ?_⟩
  rw [hsplit, List.eraseP_append_right _ (by simpa using hothers),
    List.eraseP_cons_of_pos (by simpa using hsurface)]

theorem Faithful.execute (h : sc.Faithful) {surface : SurfaceId} (hs : sc.execute surface = some sc') :
    sc'.Faithful := by
  obtain ⟨before, c, after, hsplit, hbefore, hc, rfl⟩ := execute_cases hs
  have hsub : ∀ d ∈ before ++ after, d ∈ sc.waiting := by
    intro d hd
    rw [hsplit]
    rcases List.mem_append.mp hd with hd | hd
    · exact List.mem_append_left _ hd
    · exact List.mem_append_right _ (List.mem_cons_of_mem c hd)
  refine ⟨h.tidy, fun d hd => h.held d (hsub d hd), fun d hd hr => ?_, h.past, fun d hd x hx y hy => ?_⟩
  · refine h.drawn d ?_ hr
    rcases List.mem_append.mp hd with hd | hd
    · exact List.mem_append_left _ (hsub d hd)
    · exact List.mem_append_right _ hd
  · have hexpected := h.shown d hd x hx y hy
    rw [pending, hsplit] at hexpected
    by_cases he : d.surface = surface
    · have hnone : drawables d.surface before = [] :=
        drawables_eq_nil fun e hmem _ => he ▸ hbefore e hmem
      rw [List.append_assoc, drawables_append, hnone, List.nil_append, List.cons_append,
        painted_drawables_cons (hc.trans he.symm)] at hexpected
      simp only [pending, if_pos he, List.append_assoc, drawables_append, hnone, List.nil_append]
      rw [drawables_append] at hexpected
      exact hexpected
    · have hnone : drawables d.surface [c] = [] :=
        drawables_eq_nil fun e hmem _ => by
          rw [List.mem_singleton.mp hmem, hc]
          exact Ne.symm he
      have hskip : drawables d.surface (c :: after) = drawables d.surface after := by
        rw [← List.singleton_append, drawables_append, hnone, List.nil_append]
      simp only [pending, if_neg he]
      rw [drawables_append, drawables_append, hskip, ← drawables_append, ← drawables_append] at hexpected
      exact hexpected

/-! ## Calm actions -/

theorem Faithful.calm (h : sc.Faithful) {taken : List Command} (hc : Calm sc.backend sc'.backend taken)
    (horder : ∃ sent shut, sc'.backend.session.InOrder 0 sent shut)
    (hwaiting : sc'.waiting = sc.waiting ++ taken)
    (hheld : ∀ c ∈ sc'.waiting, c ∈ sc'.backend.session.server.held)
    (hpictures : sc'.pictures = sc.pictures)
    (hcovered : ∀ id bounds x y, sc'.history.covered id bounds x y = sc.history.covered id bounds x y) :
    sc'.Faithful where
  tidy := h.tidy.calm hc horder
  held := hheld
  drawn c hmem hr := by
    rw [hwaiting, List.append_assoc] at hmem
    refine UInt32.lt_of_lt_of_le (h.drawn c ?_ hr) hc.next
    rcases List.mem_append.mp hmem with hw | hq
    · exact List.mem_append_left _ hw
    · exact List.mem_append_right _ (hc.drawn c hq hr)
  past id bounds x y hid := by
    rw [hcovered]
    exact h.past id bounds x y (hc.nextOutput ▸ hid)
  shown d hd x hx y hy := by
    have hpending : sc'.pending d.surface = sc.pending d.surface := by
      rw [pending, hwaiting, List.append_assoc, drawables_append, ← hc.drawables d hd, ← drawables_append,
        pending]
    have hbytes : ∀ id ∈ sc'.backend.session.handles,
        sc'.backend.session.store.bytes id = sc.backend.session.store.bytes id :=
      fun id hid => hc.pixels.bytes id (List.mem_append_left _ hid)
    have hpainted : painted sc'.backend.session.store (sc.pending d.surface) (sc.pictures d.surface) =
        painted sc.backend.session.store (sc.pending d.surface) (sc.pictures d.surface) :=
      painted_congr (fun c hmem v hv => hbytes _ (block_mem_handles hheld (hpending ▸ hmem) hv)) _
    rw [hc.renderer] at hx hy
    rw [hcovered, hpending, hpictures, hpainted]
    refine (h.shown d (hc.screens.subset hd) x hx y hy).mono hc.settings fun f hf => ⟨f, ?_, ?_⟩
    · rw [hc.renderer]
      exact hf
    · exact Frame.colourAt_congr (hc.pixels.bytes _
        (List.mem_append_right _ (PatternRenderer.block_mem_handles hf))) x y

/-! ## Repaints that send an image -/

theorem Faithful.refreshed (h : sc.Faithful) {o : Output} (ho : o ∈ sc.backend.outputs) {damage : Damage}
    {extents : Region} {f : Frame} {c : Command}
    (hr : Refreshed sc.backend sc'.backend o (damage.clipped o.geometry.bounds) extents f c)
    (horder : ∃ sent shut, sc'.backend.session.InOrder 0 sent shut)
    (hwaiting : sc'.waiting = sc.waiting) (hpictures : sc'.pictures = sc.pictures)
    (hcovered : ∀ id bounds x y, sc'.history.covered id bounds x y =
      (sc.history.covered id bounds x y ||
        (decide (o.id = id) && (damage.clipped bounds).extents.any fun e => decide (e.Mem x y)))) :
    sc'.Faithful := by
  have hscreen : o.screen ∈ sc.backend.screens := List.mem_map_of_mem ho
  have hrecoloured := hr.recoloured
  refine ⟨h.tidy.refreshed hr horder, fun d hd => ?_, fun d hd hnone => ?_, fun id bounds x y hid => ?_,
    fun d hd x hx y hy => ?_⟩
  · rw [hwaiting] at hd
    rw [hr.server]
    exact h.held d hd
  · rw [hwaiting, hr.queue, ← List.append_assoc] at hd
    rw [hr.surfaces]
    rcases List.mem_append.mp hd with hd | hd
    · exact h.drawn d hd hnone
    · rw [List.mem_singleton.mp hd, hr.surface]
      exact (h.tidy.below _ hscreen).2
  · rw [hr.nextOutput] at hid
    have hother : o.id ≠ id := by
      rintro rfl
      exact absurd (h.tidy.below _ hscreen).1 (UInt32.not_lt.mpr hid)
    rw [hcovered, h.past id bounds x y hid, decide_eq_false hother]
    rfl
  · rw [hr.screens] at hd
    rw [hrecoloured.width] at hx
    rw [hrecoloured.height] at hy
    have hexpected := h.shown d hd x hx y hy
    have hpending : sc'.pending d.surface = sc.pending d.surface ++ drawables d.surface [c] := by
      rw [pending, hwaiting, hr.queue, ← List.append_assoc, drawables_append, pending]
    have hold : painted sc'.backend.session.store (sc.pending d.surface) (sc.pictures d.surface) =
        painted sc.backend.session.store (sc.pending d.surface) (sc.pictures d.surface) :=
      painted_congr (fun e he v hv => hrecoloured.others _ (block_mem_handles h.held he hv)) _
    rw [hpending, hpictures, painted_append, hold, hcovered]
    generalize painted sc.backend.session.store (sc.pending d.surface) (sc.pictures d.surface) = p
      at hexpected ⊢
    by_cases he : d.id = o.id
    · -- the output itself: the image is executed last
      obtain rfl : d = o.screen := List.inj_on_of_nodup_map h.tidy.ids hd hscreen he
      have hlast : drawables o.surface [c] = [c] := by simp [drawables, hr.surface, hr.drawable]
      simp only [Output.screen] at hexpected ⊢
      rw [hlast, hr.extents]
      simp only [painted, List.foldl_cons, List.foldl_nil, Command.paint, hr.colour x y, Option.any_some]
      by_cases hin : extents.Mem x y
      · simp only [hin, decide_true, Bool.and_true, Bool.or_true, if_true]
        exact ⟨f, hrecoloured.frame, rfl⟩
      · simp only [hin, decide_false, Bool.and_false, Bool.or_false, if_false]
        exact hexpected.mono hr.settings fun g hg =>
          ⟨f, hrecoloured.frame, hr.unchanged hg hx hy hin⟩
    · have hother : drawables d.surface [c] = [] :=
        drawables_eq_nil fun e hmem _ hsame => by
          rw [List.mem_singleton.mp hmem, hr.surface] at hsame
          rw [List.inj_on_of_nodup_map h.tidy.surfaces hd hscreen hsame.symm] at he
          exact he rfl
      rw [hother, decide_eq_false (Ne.symm he), Bool.false_and, Bool.or_false]
      exact hexpected.mono hr.settings fun g hg => ⟨g, (hrecoloured.frames d.id he).trans hg,
        Frame.colourAt_congr (hrecoloured.unpainted d.id g he hg) x y⟩

/-! ## New outputs -/

/-- A new output starts with its background pending; nothing else is drawn on its surface. -/
theorem Faithful.created (h : sc.Faithful) {g : Geometry} {announced fill : Command}
    (ho : Opening sc.backend sc'.backend g announced fill)
    (hsize : g.width = sc.backend.renderer.width ∧ g.height = sc.backend.renderer.height)
    (horder : ∃ sent shut, sc'.backend.session.InOrder 0 sent shut)
    (hwaiting : sc'.waiting = sc.waiting) (hpictures : sc'.pictures = sc.pictures)
    (hcovered : ∀ id bounds x y, sc'.history.covered id bounds x y = sc.history.covered id bounds x y) :
    sc'.Faithful := by
  have hp := ho.prepared
  refine ⟨h.tidy.opened ho hsize horder, fun d hd => ?_, fun d hd hr => ?_, fun id bounds x y hid => ?_,
    fun d hd x hx y hy => ?_⟩
  · rw [hwaiting] at hd
    rw [hp.server]
    exact h.held d hd
  · rw [hwaiting, hp.queue, ← List.append_assoc] at hd
    rcases List.mem_append.mp hd with hd | hd
    · exact UInt32.lt_trans (h.drawn d hd hr) hp.next
    · rcases List.mem_cons.mp hd with rfl | hd
      · exact absurd hr hp.announced
      · rw [hp.fills d hd]
        exact hp.next
  · rw [hcovered]
    exact h.past id bounds x y (UInt32.le_trans (UInt32.le_of_lt ho.number) hid)
  · have hpending :
        sc'.pending d.surface = sc.pending d.surface ++ drawables d.surface [announced, fill] := by
      rw [pending, hwaiting, hp.queue, ← List.append_assoc, drawables_append, pending]
    rw [ho.renderer] at hx hy
    rw [hcovered, hpending, hpictures, hp.store]
    rw [ho.screens, List.mem_append, List.mem_singleton] at hd
    rcases hd with hd | rfl
    · rw [hp.drawables (h.tidy.surface_ne hd), List.append_nil]
      refine (h.shown d hd x hx y hy).mono ho.settings fun f hf => ⟨f, ?_, ?_⟩
      · rw [ho.renderer]
        exact hf
      · rw [hp.store]
    · -- nothing was drawn on the new surface before
      have hnone : sc.pending ⟨sc.backend.session.surfaces.next⟩ = [] :=
        drawables_eq_nil fun e hmem hr he => by
          have hlt := h.drawn e hmem hr
          rw [he] at hlt
          exact UInt32.lt_irrefl _ hlt
      have hfill : drawables ⟨sc.backend.session.surfaces.next⟩ [announced, fill] = [fill] := by
        simp [drawables, hp.announced, hp.fills, ho.drawable]
      obtain ⟨background, hbackground, hcolour⟩ := ho.colour
      have hpixel := hcolour sc.backend.session.store x y (hsize.1 ▸ hx) (hsize.2 ▸ hy)
      rw [h.past ⟨sc.backend.nextOutput⟩ _ x y (UInt32.le_refl _), hnone, hfill, List.nil_append]
      simp only [Expected, painted, List.foldl_cons, List.foldl_nil, Command.paint, hpixel,
        Option.getD_some, Bool.false_eq_true, if_false]
      rw [ho.settings]
      exact hbackground

/-! ## Runs -/

/-- An action is carried out, and what the server took waits, with everything that waited before. -/
theorem act_cases {action : Action} (hs : sc.act action = some sc') :
    ∃ answer, sc.backend.perform action = .ok (answer, sc'.backend) ∧
      sc'.history.steps = sc.history.steps ++ [⟨sc.backend, action, answer, sc'.backend⟩] ∧
      sc'.waiting = sc.waiting ++ Step.taken ⟨sc.backend, action, answer, sc'.backend⟩ ∧
      (∀ c ∈ sc'.waiting, c ∈ sc'.backend.session.server.held) ∧ sc'.pictures = sc.pictures := by
  unfold act at hs
  split at hs
  · cases hs
  · rename_i history hp
    obtain ⟨answer, hb, hsteps⟩ := History.step_of_perform hp
    simp only at hs
    split at hs
    · rename_i hheld
      cases hs
      refine ⟨answer, hb, hsteps, ?_, hheld, rfl⟩
      rw [hsteps, List.getLast?_concat]
      rfl
    · cases hs

theorem Faithful.act (h : sc.Faithful) {action : Action} (hs : sc.act action = some sc')
    (hsmooth : ∀ step ∈ sc'.history.steps, step.Smooth) : sc'.Faithful := by
  obtain ⟨answer, hp, hsteps, hwaiting, hheld, hpictures⟩ := act_cases hs
  have hstep := hsmooth ⟨sc.backend, action, answer, sc'.backend⟩ (by simp [hsteps])
  have hcovers : ∀ id bounds x y, sc'.history.covered id bounds x y =
      (sc.history.covered id bounds x y ||
        Step.covers ⟨sc.backend, action, answer, sc'.backend⟩ id bounds x y) := by
    intro id bounds x y
    simp [History.covered, hsteps]
  have horder : ∃ sent shut, sc'.backend.session.InOrder 0 sent shut := by
    obtain ⟨sent, shut, hbefore⟩ := h.tidy.order
    obtain ⟨taken, hafter, -⟩ := perform_inOrder hbefore hp hstep.worker
    exact ⟨_, _, hafter⟩
  have hcalm : ∀ taken, Step.taken ⟨sc.backend, action, answer, sc'.backend⟩ = taken →
      Calm sc.backend sc'.backend taken →
      (∀ id bounds x y, Step.covers ⟨sc.backend, action, answer, sc'.backend⟩ id bounds x y = false) →
      sc'.Faithful := by
    intro taken htaken hcalm hnone
    refine h.calm hcalm horder (htaken ▸ hwaiting) hheld hpictures fun id bounds x y => ?_
    rw [hcovers, hnone, Bool.or_false]
  generalize hb : sc'.backend = b' at hp hcalm hstep horder hcovers hwaiting hheld
  cases action with
  | createOutput g =>
      obtain ⟨r, hc, rfl⟩ := of_map_ok hp
      cases r with
      | error e =>
          exact hcalm [] rfl (h.tidy.notCreated (creation_of_createOutput hc)) fun _ _ _ _ => rfl
      | ok id =>
          have hroom : ∀ n ∈ b'.session.notices.toList.drop sc.backend.session.notices.size,
              n.reason ≠ .rejected := by
            intro n hn he
            have hnone := List.filter_eq_nil_iff.mp (List.isEmpty_iff.mp hstep.room) n hn
            simp [he] at hnone
          have hfits : g.width = sc.backend.renderer.width ∧ g.height = sc.backend.renderer.height := by
            simpa [Step.fits] using hstep.size
          obtain ⟨announced, fill, ho⟩ := h.tidy.opening (creation_of_createOutput hc) hroom
          exact h.created (hb ▸ ho) hfits (hb ▸ horder) (hwaiting.trans (List.append_nil _))
            hpictures fun id bounds x y => (hcovers id bounds x y).trans (Bool.or_false _)
  | repaintOutput id damage =>
      obtain ⟨r, hr, rfl⟩ := of_map_ok hp
      rcases repaint_of_repaintOutput hr with ⟨-, rfl, -⟩ | ⟨o, ho, hrepaint⟩
      · cases hstep.painted
      · obtain ⟨hmem, rfl⟩ := mem_of_output? ho
        match r with
        | .ok (.sent image) =>
            obtain ⟨extents, f, c, hrefreshed⟩ := h.tidy.refreshed_of_repaint hmem hrepaint
            exact h.refreshed hmem (hb ▸ hrefreshed) (hb ▸ horder) (hwaiting.trans (List.append_nil _))
              hpictures hcovers
        | .ok .skipped | .ok .notScheduled =>
            exact hcalm [] rfl (h.tidy.unsent hmem hrepaint (by simp) (by simp)) fun _ _ _ _ => rfl
        | .ok (.dropped _) | .error _ => cases hstep.painted
  | destroyOutput id =>
      cases hp
      exact hcalm [] rfl (h.tidy.destroyed id) fun _ _ _ _ => rfl
  | requestRepaint id =>
      cases hp
      exact hcalm [] rfl (h.tidy.requested id) fun _ _ _ _ => rfl
  | expire timer =>
      obtain ⟨he, rfl⟩ := of_expire_ok hp
      exact hcalm [] rfl (h.tidy.expired he) fun _ _ _ _ => rfl
  | takePending | refuseAdd | refuseStart | setClock | setCompression =>
      cases hp
      exact hcalm [] rfl (h.tidy.still rfl rfl rfl rfl rfl rfl rfl rfl) fun _ _ _ _ => rfl
  | attachWorker name =>
      cases hp
      exact hcalm [] rfl (h.tidy.attached name) fun _ _ _ _ => rfl
  | getCommand =>
      cases hp
      exact hcalm _ rfl h.tidy.fetched fun _ _ _ _ => rfl
  | releaseResource id group =>
      cases hp
      exact hcalm [] rfl (h.tidy.givenBack id group) fun _ _ _ _ => rfl
  | refuseMemory refuses =>
      cases hp
      exact hcalm [] rfl (h.tidy.refused refuses) fun _ _ _ _ => rfl
  | shutdown => exact absurd rfl hstep.running.1
  | closeSession => exact absurd rfl hstep.running.2

theorem move_steps {m : Move} (hs : sc.move m = some sc') : sc.history.steps <+: sc'.history.steps := by
  cases m with
  | act action =>
      obtain ⟨answer, -, hsteps, -⟩ := act_cases hs
      rw [hsteps]
      exact List.prefix_append _ _
  | execute surface =>
      obtain ⟨_, _, _, -, -, -, rfl⟩ := execute_cases hs
      exact List.prefix_refl _

theorem run_steps {moves : List Move} (hs : sc.run moves = some sc') :
    sc.history.steps <+: sc'.history.steps := by
  induction moves generalizing sc with
  | nil =>
      cases hs
      exact List.prefix_refl _
  | cons m ms ih =>
      obtain ⟨sc₁, hm, hms⟩ := Option.bind_eq_some_iff.mp hs
      exact (move_steps hm).trans (ih hms)

theorem Faithful.move (h : sc.Faithful) {m : Move} (hs : sc.move m = some sc')
    (hsmooth : ∀ step ∈ sc'.history.steps, step.Smooth) : sc'.Faithful := by
  cases m with
  | act action => exact h.act hs hsmooth
  | execute surface => exact h.execute hs

theorem Faithful.run (h : sc.Faithful) {moves : List Move} (hs : sc.run moves = some sc')
    (hsmooth : ∀ step ∈ sc'.history.steps, step.Smooth) : sc'.Faithful := by
  induction moves generalizing sc with
  | nil =>
      cases hs
      exact h
  | cons m ms ih =>
      obtain ⟨sc₁, hm, hms⟩ := Option.bind_eq_some_iff.mp hs
      exact ih (h.move hm fun step hstep => hsmooth step ((run_steps hms).subset hstep)) hms

end Scene

/-! ## From the beginning -/

/-- A backend that nothing was done with yet. -/
structure Blank (b : Backend PatternRenderer) : Prop where
  session : b.session.Untouched
  store : b.session.store.blocks = #[]
  outputs : b.outputs = []
  frames : b.renderer.frames = []

theorem blank_new {settings : Settings} {skews : List UInt32} {s : Session} {renderer : PatternRenderer}
    {b : Backend PatternRenderer} (hs : Session.ofSettings settings.display skews = .ok (.ok s))
    (hframes : renderer.frames = []) (hb : Backend.new settings s renderer = .ok b) : b.Blank := by
  have huntouched := untouched_new hs hb
  obtain ⟨capacity, retries, surfaceCapacity, rfl⟩ := ofRing_of_ofSettings hs
  simp only [Backend.new, bind, Except.bind] at hb
  split at hb
  · cases hb
  · cases hb
    exact ⟨huntouched, rfl, rfl, hframes⟩

theorem Blank.tidy {b : Backend PatternRenderer} (h : b.Blank) : b.Tidy := by
  have hscreens : b.screens = [] := by rw [screens, h.outputs, List.map_nil]
  have hhandles : b.session.handles = [] := by
    rw [Session.handles, h.session.queue, h.session.held]
    rfl
  have hnone : ∀ d ∈ b.screens, False := by simp [hscreens]
  refine ⟨⟨_, _, h.session.inOrder⟩, ⟨by simp [h.frames], ?_, by simp [h.frames]⟩, by simp [hscreens],
    by simp [hscreens], fun d hd => (hnone d hd).elim, by simp [h.session.live],
    fun d hd => (hnone d hd).elim⟩
  rw [PatternRenderer.handles, h.frames, hhandles]
  exact PixelStore.counts_of_blocks h.store

/-- Nothing is shown yet, so the pictures may be anything. -/
theorem Blank.faithful {b : Backend PatternRenderer} (h : b.Blank) (pictures : SurfaceId → Picture) :
    Scene.Faithful { history := { backend := b }, pictures } where
  tidy := h.tidy
  held c hc := absurd hc List.not_mem_nil
  drawn c hc := by
    rw [List.nil_append] at hc
    change c ∈ b.session.queue at hc
    rw [h.session.queue] at hc
    exact absurd hc List.not_mem_nil
  past _ _ _ _ _ := rfl
  shown d hd := by
    change d ∈ b.outputs.map _ at hd
    rw [h.outputs] at hd
    exact absurd hd List.not_mem_nil

/-- Once nothing is pending for a live output, the picture of its surface has the colours of the
renderer's frame on every pixel in the extents of a damage repainted on it, and the background on every
other pixel. -/
theorem Blank.picture_is_frame {b : Backend PatternRenderer} (h : b.Blank)
    {pictures : SurfaceId → Picture} {moves : List Move} {sc : Scene}
    (hrun : Scene.run { history := { backend := b }, pictures } moves = some sc)
    (hsmooth : ∀ step ∈ sc.history.steps, step.Smooth) {o : Output} (ho : o ∈ sc.history.backend.outputs)
    (hqueue : ∀ c ∈ sc.history.backend.session.queue, c.surface ≠ o.surface)
    (hwaiting : ∀ c ∈ sc.waiting, c.surface ≠ o.surface) {x y : UInt32}
    (hx : x < o.geometry.width) (hy : y < o.geometry.height) :
    if sc.history.covered o.id o.geometry.bounds x.toNat y.toNat then
      ∃ f, sc.history.backend.renderer.frame? o.id = some f ∧
        f.pixel sc.store x y = .ok (some (sc.pictures o.surface x.toNat y.toNat))
    else
      sc.history.backend.settings.display.backgroundColour =
        .ok (sc.pictures o.surface x.toNat y.toNat) := by
  have hfaithful := (h.faithful pictures).run hrun hsmooth
  have hscreen : o.screen ∈ sc.backend.screens := List.mem_map_of_mem ho
  have hpending : sc.pending o.surface = [] := by
    refine drawables_eq_nil fun c hc _ => ?_
    rcases List.mem_append.mp hc with hc | hc
    · exact hwaiting c hc
    · exact hqueue c hc
  obtain ⟨hwidth, hheight, -⟩ := hfaithful.tidy.size o.screen hscreen
  change o.geometry.width = _ at hwidth
  change o.geometry.height = _ at hheight
  rw [hwidth] at hx
  rw [hheight] at hy
  have hshown := hfaithful.shown o.screen hscreen x.toNat (UInt32.lt_iff_toNat_lt.mp hx) y.toNat
    (UInt32.lt_iff_toNat_lt.mp hy)
  change sc.backend.Expected (sc.history.covered o.id o.geometry.bounds x.toNat y.toNat) o.id x.toNat y.toNat
    (painted _ (sc.pending o.surface) (sc.pictures o.surface) x.toNat y.toNat) at hshown
  rw [hpending] at hshown
  unfold Expected at hshown
  split
  · rename_i hcov
    rw [if_pos hcov] at hshown
    obtain ⟨f, hf, hcolour⟩ := hshown
    obtain ⟨hwhole, hfw, hfh⟩ := hfaithful.tidy.sound.frame hf
    have hpixel := hwhole.pixel (hfw ▸ hx) (hfh ▸ hy)
    rw [hcolour] at hpixel
    exact ⟨f, hf, hpixel⟩
  · rename_i hcov
    rw [if_neg hcov] at hshown
    exact hshown

/-- The second repaint copies the frame while the first one is in flight. It reaches the upper two
pixels, and the lower ones keep the background. -/
theorem picture_is_frame_in_flight :
    ∃ b : Backend PatternRenderer, b.Blank ∧ ∃ sc,
      Scene.run { history := { backend := b }, pictures := fun _ _ _ => 0 } [.act (.attachWorker 0),
        .act (.createOutput ⟨0, 0, 2, 2⟩), .act (.createOutput ⟨2, 0, 2, 2⟩), .act .getCommand,
        .act (.repaintOutput ⟨0⟩ ⟨[⟨0, 0, 1, 1⟩]⟩), .act .getCommand, .act (.destroyOutput ⟨1⟩),
        .execute ⟨0⟩, .act (.expire ⟨1⟩), .act .getCommand, .act (.repaintOutput ⟨0⟩ ⟨[⟨0, 0, 2, 1⟩]⟩),
        .execute ⟨0⟩, .act (.releaseResource ⟨5⟩ 0), .act .getCommand, .execute ⟨0⟩] = some sc ∧
      (∀ step ∈ sc.history.steps, step.Smooth) ∧ ∃ o ∈ sc.history.backend.outputs,
      (∀ c ∈ sc.history.backend.session.queue, c.surface ≠ o.surface) ∧
      (∀ c ∈ sc.waiting, c.surface ≠ o.surface) ∧ 1 < o.geometry.width ∧ 1 < o.geometry.height ∧
      (∃ f, sc.history.backend.renderer.frame? o.id = some f ∧
        f.pixel sc.store 1 0 = .ok (some (sc.pictures o.surface 1 0))) ∧
      sc.history.backend.settings.display.backgroundColour = .ok (sc.pictures o.surface 1 1) := by
  let b : Backend PatternRenderer :=
    { settings := { display := { background := "#123456" } }
      session := .ofRing (.ofCapacity 8 0) 0 8 [0]
      renderer := { width := 2, height := 2 } }
  have hblank : b.Blank :=
    ⟨Session.untouched_ofRing (Ring.wellFormed_ofCapacity 8 0) (Ring.toList_ofCapacity 8 0) 0 8 (by simp),
      rfl, rfl, rfl⟩
  have hmade : ((Scene.run { history := { backend := b }, pictures := fun _ _ _ => 0 }
        [.act (.attachWorker 0), .act (.createOutput ⟨0, 0, 2, 2⟩), .act (.createOutput ⟨2, 0, 2, 2⟩),
        .act .getCommand, .act (.repaintOutput ⟨0⟩ ⟨[⟨0, 0, 1, 1⟩]⟩), .act .getCommand,
        .act (.destroyOutput ⟨1⟩), .execute ⟨0⟩, .act (.expire ⟨1⟩), .act .getCommand,
        .act (.repaintOutput ⟨0⟩ ⟨[⟨0, 0, 2, 1⟩]⟩), .execute ⟨0⟩, .act (.releaseResource ⟨5⟩ 0),
        .act .getCommand, .execute ⟨0⟩]).map fun sc =>
      (sc.history.steps.all fun step => decide step.Smooth,
        sc.history.backend.screens, sc.history.backend.session.queue.map (·.surface),
        sc.waiting.map (·.surface), sc.history.covered ⟨0⟩ ⟨0, 0, 2, 2⟩ 1 0,
        sc.history.covered ⟨0⟩ ⟨0, 0, 2, 2⟩ 1 1)) =
      some (true, [⟨⟨0⟩, ⟨0, 0, 2, 2⟩, ⟨0⟩⟩], [], [⟨1⟩], true, false) := by
    decide +kernel
  generalize hrun : Scene.run _ _ = r at hmade
  cases r with
  | none => cases hmade
  | some sc =>
      obtain ⟨hsteps, hscreens, hqueue, hwaiting, hcovered, huncovered⟩ :
          (∀ step ∈ sc.history.steps, step.Smooth) ∧
          sc.history.backend.screens = [⟨⟨0⟩, ⟨0, 0, 2, 2⟩, ⟨0⟩⟩] ∧
          sc.history.backend.session.queue = [] ∧ sc.waiting.map (·.surface) = [⟨1⟩] ∧
          sc.history.covered ⟨0⟩ ⟨0, 0, 2, 2⟩ 1 0 = true ∧
          sc.history.covered ⟨0⟩ ⟨0, 0, 2, 2⟩ 1 1 = false := by
        simpa using hmade
      obtain ⟨o, houtputs, hscreen⟩ := List.map_eq_singleton_iff.mp hscreens
      obtain ⟨hid, hgeometry, hsurface⟩ := Screen.mk.inj hscreen
      have hbounds : o.geometry.bounds = ⟨0, 0, 2, 2⟩ := by rw [hgeometry]; rfl
      have hmem : o ∈ sc.history.backend.outputs := by simp [houtputs]
      have hnone : ∀ c ∈ sc.history.backend.session.queue, c.surface ≠ o.surface := by simp [hqueue]
      have hexecuted : ∀ c ∈ sc.waiting, c.surface ≠ o.surface := by
        intro c hc
        have hone := List.mem_map_of_mem (f := (·.surface)) hc
        rw [hwaiting, List.mem_singleton] at hone
        rw [hone, hsurface]
        decide
      have hwide : 1 < o.geometry.width ∧ 1 < o.geometry.height := by
        rw [hgeometry]
        decide
      have hpainted := hblank.picture_is_frame hrun hsteps hmem hnone hexecuted hwide.1
        (UInt32.lt_trans (by decide : (0 : UInt32) < 1) hwide.2)
      have hbackground := hblank.picture_is_frame hrun hsteps hmem hnone hexecuted hwide.1 hwide.2
      rw [hid, hbounds] at hpainted hbackground
      have hreached : sc.history.covered ⟨0⟩ ⟨0, 0, 2, 2⟩ (1 : UInt32).toNat (0 : UInt32).toNat = true :=
        hcovered
      have hmissed : ¬sc.history.covered ⟨0⟩ ⟨0, 0, 2, 2⟩ (1 : UInt32).toNat (1 : UInt32).toNat = true :=
        Bool.eq_false_iff.mp huncovered
      rw [if_pos hreached] at hpainted
      rw [if_neg hmissed] at hbackground
      exact ⟨b, hblank, sc, hrun, hsteps, o, hmem, hnone, hexecuted, hwide.1, hwide.2, hid ▸ hpainted,
        hbackground⟩

end RemoteDisplay.Backend
