import RemoteDisplay.Proofs.Frame.Pattern

/-!
# A long animation

A pattern renderer is asked for repaints, of any outputs and with any damage, by somebody who keeps the
frames that it answers for as long as he likes. All outputs share one tick. Still each of them has a
picture of its own, which changes only where its damage says so, and the frames that were answered do not
change at all.
-/

namespace RemoteDisplay

/-- What a pixel answers depends on the bytes of the frame alone. -/
theorem Frame.pixel_of_bytes {f : Frame} {s s' : PixelStore} (h : s'.bytes f.block = s.bytes f.block)
    (x y : UInt32) : f.pixel s' x y = f.pixel s x y := by
  simp only [Frame.pixel, h]

namespace PatternRenderer

variable {p : PatternRenderer} {s : PixelStore} {id : BlockId} {others others' : List BlockId}

theorem Sound.perm (h : p.Sound s others) (hperm : others.Perm others') : p.Sound s others' :=
  { h with counts := h.counts.perm (hperm.append_left _) }

theorem Sound.release (h : p.Sound s (id :: others)) : s.Keeps (others ++ p.handles) (s.release id) := by
  have hcounts : s.Counts (id :: (others ++ p.handles)) := h.counts.perm List.perm_append_comm
  obtain ⟨hreleased, hbytes⟩ := hcounts.release
  exact ⟨hreleased, hbytes⟩

end PatternRenderer

/-- A renderer, its pixel memory and the frames that it answered, one place for each repaint. The place is
empty if the repaint failed or the frame was dropped. -/
structure Studio where
  renderer : PatternRenderer
  store : PixelStore := {}
  answered : List (Option Frame) := []

namespace Studio

inductive Request where
  /-- A repaint of an output, during which the allocator may refuse numbers of bytes. -/
  | repaint (refusal : Nat → Option String) (output : OutputId) (damage : Damage)
  /-- The frame that an earlier repaint answered is dropped. -/
  | drop (place : Nat)

/-- The frame at a place is dropped. -/
def drop (st : Studio) (i : Nat) (f : Frame) : Studio :=
  { st with store := st.store.release f.block, answered := st.answered.set i none }

def perform (st : Studio) : Request → Except Trap Studio
  | .repaint refusal output damage => do
    let (answer, renderer, store) ← st.renderer.repaintFrom refusal st.store output damage
    return { renderer, store, answered := st.answered ++ [answer.toOption] }
  | .drop i =>
    match st.answered[i]? with
    | some (some f) => .ok (st.drop i f)
    | _ => .ok st

def run (st : Studio) (requests : List Request) : Except Trap Studio := requests.foldlM perform st

/-! ## What a repaint answers -/

/-- What the previous frame of the output shows; there is black where there was no frame. -/
def before (st : Studio) (output : OutputId) (x y : UInt32) : Except Trap (Option UInt32) :=
  match st.renderer.frame? output with
  | some g => g.pixel st.store x y
  | none => .ok (some 0)

/-- The frame of the output went one step on where there is damage. -/
structure Painted (st : Studio) (output : OutputId) (damage : Damage) (f : Frame) (p : PatternRenderer)
    (s : PixelStore) : Prop where
  renderer : p.width = st.renderer.width ∧ p.height = st.renderer.height
  size : f.width = st.renderer.width ∧ f.height = st.renderer.height
  tick : p.tick = st.renderer.tick + 1
  frame : p.frame? output = some f
  pixels : ∀ x y, x < f.width → y < f.height → ∃ c, st.before output x y = .ok (some c) ∧
    f.pixel s x y = .ok (some (if ∃ r ∈ (damage.clipped f.bounds).regions, r.Mem x.toNat y.toNat then
      PatternRenderer.pattern x y st.renderer.tick else c))
  frames : ∀ o, o ≠ output → p.frame? o = st.renderer.frame? o
  unpainted : ∀ o g, o ≠ output → st.renderer.frame? o = some g →
    ∀ x y, g.pixel s x y = g.pixel st.store x y
  answered : ∀ (i : Nat) g, st.answered[i]? = some (some g) →
    ∀ x y, g.pixel s x y = g.pixel st.store x y

/-- A repaint that is refused says why, and leaves everything as it was. All others paint. -/
inductive Outcome (st : Studio) (output : OutputId) (damage : Damage) :
    Option Fault → Except Trap (Except Fault Frame × PatternRenderer × PixelStore) → Prop where
  | refused (e : Fault) : Outcome st output damage (some e) (.ok (.error e, st.renderer, st.store))
  | painted {f : Frame} {p : PatternRenderer} {s : PixelStore} (h : st.Painted output damage f p s) :
      Outcome st output damage none (.ok (.ok f, p, s))

/-- While the requests were met, the frames that were answered stayed as they are unless they were dropped,
and so did the frames of the outputs that were not repainted. -/
structure Keeps (st : Studio) (requests : List Request) (st' : Studio) : Prop where
  size : st'.renderer.width = st.renderer.width ∧ st'.renderer.height = st.renderer.height
  answered : ∀ (i : Nat) g, st.answered[i]? = some (some g) → .drop i ∉ requests →
    st'.answered[i]? = some (some g) ∧ ∀ x y, g.pixel st'.store x y = g.pixel st.store x y
  frames : ∀ o, (∀ refusal damage, .repaint refusal o damage ∉ requests) →
    st'.renderer.frame? o = st.renderer.frame? o ∧
      ∀ g, st.renderer.frame? o = some g → ∀ x y, g.pixel st'.store x y = g.pixel st.store x y

/-! ## One request -/

/-- The blocks of the answered frames that were not dropped. -/
def held (st : Studio) : List BlockId := st.answered.flatMap fun f => (f.map (·.block)).toList

structure Sound (st : Studio) : Prop where
  renderer : st.renderer.Sound st.store st.held
  small : st.renderer.width.toNat * 4 * st.renderer.height.toNat < 4294967296

variable {st st' st'' : Studio} {output : OutputId} {damage : Damage} {f g : Frame} {s₀ s₁ : PixelStore}
  {i : Nat}

theorem mem_held (h : st.answered[i]? = some (some g)) : g.block ∈ st.held :=
  List.mem_flatMap.mpr ⟨some g, List.mem_of_getElem? h, by simp⟩

theorem held_perm (h : st.answered[i]? = some (some g)) : st.held.Perm (g.block :: (st.drop i g).held) :=
  flatMap_perm_set _ h rfl

theorem held_append (st : Studio) (p : PatternRenderer) (s : PixelStore) (f : Option Frame) :
    (⟨p, s, st.answered ++ [f]⟩ : Studio).held = st.held ++ (f.map (·.block)).toList := by
  simp [held]

theorem sound_start {width height : UInt32} (hsmall : width.toNat * 4 * height.toNat < 4294967296) :
    ({ renderer := { width, height } } : Studio).Sound where
  renderer := ⟨List.nodup_nil, PixelStore.counts_empty, fun _ he => nomatch he⟩
  small := hsmall

theorem before_of_begins (hb : st.renderer.Begins st.store st.held output g s₀) {x y : UInt32}
    (hx : x < g.width) (hy : y < g.height) :
    st.before output x y = .ok (some (g.colourAt s₀ x.toNat y.toNat)) := by
  unfold before
  cases hf : st.renderer.frame? output with
  | some g' =>
      obtain ⟨rfl, rfl⟩ := hb.kept g' hf
      exact hb.whole.pixel hx hy
  | none => rw [hb.black hf]

theorem Sound.painted (h : st.Sound) (hb : st.renderer.Begins st.store st.held output g s₀)
    (hc : Coloured (st.renderer.otherHandles output ++ st.held) g s₀ f s₁
      (fun x y => ∃ r ∈ (damage.clipped g.bounds).regions, r.Mem x y)
      (PatternRenderer.picture st.renderer.tick)) :
    st.Painted output damage f { st.renderer.keep output f with tick := st.renderer.tick + 1 }
      (s₁.retain f.block) := by
  have hr := h.renderer.painted hb hc.toRepainted
  have hwhole := (hr.sound.frame hr.frame).1
  have hbounds : f.bounds = g.bounds := by rw [Frame.bounds, hc.width, hc.height, Frame.bounds]
  refine ⟨⟨rfl, rfl⟩, ⟨hc.width.trans hb.size.1, hc.height.trans hb.size.2⟩, rfl, hr.frame, ?_, hr.frames, ?_, ?_⟩
  · intro x y hx hy
    have hx' : x < g.width := hc.width ▸ hx
    have hy' : y < g.height := hc.height ▸ hy
    refine ⟨_, before_of_begins hb hx' hy', ?_⟩
    rw [hwhole.pixel hx hy, Frame.colourAt_congr (PixelStore.bytes_retain _), hbounds]
    split
    · rename_i hdamaged
      rw [hc.painted x.toNat hx' y.toNat hy' hdamaged, PatternRenderer.picture_toNat]
    · rename_i hnot
      rw [hc.kept x.toNat hx' y.toNat hy' hnot]
  · intro o e ho he x y
    exact Frame.pixel_of_bytes (hr.unpainted o e ho he) x y
  · intro i e he x y
    exact Frame.pixel_of_bytes (hr.others _ (mem_held he)) x y

/-- A repaint is refused, or it paints and leaves the renderer sound. -/
theorem Sound.repaint_cases (h : st.Sound) (refusal : Nat → Option String) (output : OutputId)
    (damage : Damage) :
    (∃ e, st.renderer.refused? refusal output = some e ∧
      st.renderer.repaintFrom refusal st.store output damage = .ok (.error e, st.renderer, st.store)) ∨
    st.renderer.refused? refusal output = none ∧ ∃ f p s,
      st.renderer.repaintFrom refusal st.store output damage = .ok (.ok f, p, s) ∧
      st.Painted output damage f p s ∧ p.Sound s (f.block :: st.held) := by
  rcases h.renderer.repaintFrom_cases h.small refusal output damage with
    hrefused | ⟨hnone, g, s₀, f, s₁, hok, hb, hc⟩
  · exact .inl hrefused
  · have hsound := (h.renderer.painted hb hc.toRepainted).sound
    exact .inr ⟨hnone, f, _, _, hok, h.painted hb hc, hsound⟩

theorem Sound.outcome (h : st.Sound) (refusal : Nat → Option String) (output : OutputId)
    (damage : Damage) : st.Outcome output damage (st.renderer.refused? refusal output)
      (st.renderer.repaintFrom refusal st.store output damage) := by
  rcases h.repaint_cases refusal output damage with ⟨e, hrefused, hok⟩ | ⟨hnone, f, p, s, hok, hpainted, -⟩
  · rw [hrefused, hok]
    exact .refused e
  · rw [hnone, hok]
    exact .painted hpainted

/-! ## All requests -/

theorem Keeps.refl (st : Studio) (requests : List Request) : st.Keeps requests st where
  size := ⟨rfl, rfl⟩
  answered _ _ h _ := ⟨h, fun _ _ => rfl⟩
  frames _ _ := ⟨rfl, fun _ _ _ _ => rfl⟩

theorem Keeps.cons {a : Request} {requests : List Request} (h : st.Keeps [a] st')
    (h' : st'.Keeps requests st'') : st.Keeps (a :: requests) st'' where
  size := ⟨h'.size.1.trans h.size.1, h'.size.2.trans h.size.2⟩
  answered i g hg hnot := by
    simp only [List.mem_cons, not_or] at hnot
    obtain ⟨hthere, hpixels⟩ := h.answered i g hg (by simpa using hnot.1)
    obtain ⟨hthere', hpixels'⟩ := h'.answered i g hthere hnot.2
    exact ⟨hthere', fun x y => (hpixels' x y).trans (hpixels x y)⟩
  frames o hnot := by
    simp only [List.mem_cons, not_or] at hnot
    obtain ⟨hframe, hpixels⟩ := h.frames o fun refusal damage => by simpa using (hnot refusal damage).1
    obtain ⟨hframe', hpixels'⟩ := h'.frames o fun refusal damage => (hnot refusal damage).2
    exact ⟨hframe'.trans hframe, fun g hg x y => (hpixels' g (hframe.trans hg) x y).trans (hpixels g hg x y)⟩

theorem Sound.repaint (h : st.Sound) (refusal : Nat → Option String) (output : OutputId)
    (damage : Damage) : ∃ st', st.perform (.repaint refusal output damage) = .ok st' ∧ st'.Sound ∧
      st.Keeps [.repaint refusal output damage] st' := by
  have hplace : ∀ {i : Nat} {g : Frame} (f : Option Frame), st.answered[i]? = some (some g) →
      (st.answered ++ [f])[i]? = some (some g) := by
    intro i g f hg
    rw [List.getElem?_append_left (List.getElem?_eq_some_iff.mp hg).1, hg]
  simp only [perform]
  rcases h.repaint_cases refusal output damage with ⟨e, -, hok⟩ | ⟨-, f, p, s, hok, hpainted, hsound⟩
  · rw [hok]
    have hheld := st.held_append st.renderer st.store none
    rw [Option.map_none, Option.toList_none, List.append_nil] at hheld
    refine ⟨⟨st.renderer, st.store, st.answered ++ [none]⟩, rfl, ⟨?_, h.small⟩, ⟨rfl, rfl⟩, ?_, ?_⟩
    · rw [hheld]
      exact h.renderer
    · intro i g hg _
      exact ⟨hplace none hg, fun _ _ => rfl⟩
    · intro o _
      exact ⟨rfl, fun _ _ _ _ => rfl⟩
  · rw [hok]
    refine ⟨⟨p, s, st.answered ++ [some f]⟩, rfl, ⟨?_, ?_⟩, hpainted.renderer, ?_, ?_⟩
    · rw [held_append]
      exact hsound.perm (List.perm_append_singleton f.block st.held).symm
    · rw [hpainted.renderer.1, hpainted.renderer.2]
      exact h.small
    · intro i g hg _
      exact ⟨hplace (some f) hg, hpainted.answered i g hg⟩
    · intro o hnot
      have ho : o ≠ output := by
        rintro rfl
        exact hnot refusal damage List.mem_cons_self
      exact ⟨hpainted.frames o ho, fun g hg => hpainted.unpainted o g ho hg⟩

theorem Sound.drop (h : st.Sound) (i : Nat) :
    ∃ st', st.perform (.drop i) = .ok st' ∧ st'.Sound ∧ st.Keeps [.drop i] st' := by
  simp only [perform]
  cases hi : st.answered[i]? with
  | none => exact ⟨st, rfl, h, .refl st _⟩
  | some place =>
      cases place with
      | none => exact ⟨st, rfl, h, .refl st _⟩
      | some f =>
          -- One handle less is there, and all that remain see what they saw.
          have hkeeps := (h.renderer.perm (held_perm hi)).release
          refine ⟨st.drop i f, rfl, ⟨h.renderer.keeps hkeeps, h.small⟩, ⟨rfl, rfl⟩, ?_, ?_⟩
          · intro j g hg hnot
            have hne : i ≠ j := by
              rintro rfl
              exact hnot List.mem_cons_self
            have hthere : (st.drop i f).answered[j]? = some (some g) :=
              (List.getElem?_set_ne hne).trans hg
            have hbytes := hkeeps.bytes _ (List.mem_append_left _ (mem_held hthere))
            exact ⟨hthere, Frame.pixel_of_bytes hbytes⟩
          · intro o _
            refine ⟨rfl, fun g hg => ?_⟩
            have hkept := PatternRenderer.block_mem_handles hg
            exact Frame.pixel_of_bytes (hkeeps.bytes _ (List.mem_append_right _ hkept))

theorem Sound.run (h : st.Sound) (requests : List Request) :
    ∃ st', st.run requests = .ok st' ∧ st'.Sound ∧ st.Keeps requests st' := by
  induction requests generalizing st with
  | nil => exact ⟨st, rfl, h, .refl st []⟩
  | cons a requests ih =>
      have hfirst : ∃ st', st.perform a = .ok st' ∧ st'.Sound ∧ st.Keeps [a] st' := by
        cases a with
        | repaint refusal output damage => exact h.repaint refusal output damage
        | drop i => exact h.drop i
      obtain ⟨st₁, hok, hsound, hkeeps⟩ := hfirst
      obtain ⟨st', hrun, hsound', hkeeps'⟩ := ih hsound
      refine ⟨st', ?_, hsound', hkeeps.cons hkeeps'⟩
      unfold Studio.run
      rw [List.foldlM_cons, hok]
      exact hrun

/-- Whatever was asked before and is asked afterwards: a repaint paints the damage and nothing else, and
one that gets no memory changes nothing. -/
theorem repaints_damage_only (width height : UInt32)
    (hsmall : width.toNat * 4 * height.toNat < 4294967296) (past : List Request) :
    ∃ st, ({ renderer := { width, height } } : Studio).run past = .ok st ∧
      st.renderer.width = width ∧ st.renderer.height = height ∧
      (∀ output damage,
        st.Outcome output damage (st.renderer.refused? st.store.reservationError output)
          (st.renderer.repaint st.store output damage) ∧
        ∀ refusal, st.Outcome output damage (st.renderer.refused? refusal output)
          (st.renderer.repaintFrom refusal st.store output damage)) ∧
      ∀ later, ∃ st', st.run later = .ok st' ∧ st.Keeps later st' := by
  obtain ⟨st, hrun, hsound, hkeeps⟩ := (sound_start hsmall).run past
  refine ⟨st, hrun, hkeeps.size.1, hkeeps.size.2, fun output damage => ⟨?_, fun refusal => ?_⟩, fun later => ?_⟩
  · rw [PatternRenderer.repaint_eq]
    exact hsound.outcome st.store.reservationError output damage
  · exact hsound.outcome refusal output damage
  · obtain ⟨st', hlater, -, hkept⟩ := hsound.run later
    exact ⟨st', hlater, hkept⟩

/-- Two outputs of four pixels; the second one got no memory, and the frame of the first was dropped. -/
theorem repaints_damage_only_refused_once :
    ∃ st, ({ renderer := { width := 2, height := 2 } } : Studio).run
        [.repaint (fun _ => none) ⟨0⟩ (Damage.full 2 2),
          .repaint (fun _ => some "exhausted") ⟨1⟩ Damage.empty, .drop 0] = .ok st ∧
      ∃ f p s, st.renderer.repaintFrom (fun _ => none) st.store ⟨1⟩ (Damage.full 2 1) = .ok (.ok f, p, s) ∧
        f.pixel s 1 0 = .ok (some (PatternRenderer.pattern 1 0 st.renderer.tick)) := by
  obtain ⟨st, hrun, hwidth, hheight, hrepaint, -⟩ := repaints_damage_only 2 2 (by decide)
    [.repaint (fun _ => none) ⟨0⟩ (Damage.full 2 2),
      .repaint (fun _ => some "exhausted") ⟨1⟩ Damage.empty, .drop 0]
  have hnone : st.renderer.refused? (fun _ => none) ⟨1⟩ = none := by
    unfold PatternRenderer.refused?
    rw [hwidth, hheight]
    cases st.renderer.frame? ⟨1⟩ <;> rfl
  have houtcome := (hrepaint ⟨1⟩ (Damage.full 2 1)).2 fun _ => none
  rw [hnone] at houtcome
  generalize hanswer :
    st.renderer.repaintFrom (fun _ => none) st.store ⟨1⟩ (Damage.full 2 1) = answer at houtcome
  cases houtcome with
  | painted h =>
      rename_i f p s
      have hw : f.width = 2 := h.size.1.trans hwidth
      have hh : f.height = 2 := h.size.2.trans hheight
      obtain ⟨c, -, hpixel⟩ := h.pixels 1 0 (by rw [hw]; decide) (by rw [hh]; decide)
      rw [Frame.bounds, hw, hh, if_pos (by decide)] at hpixel
      exact ⟨st, hrun, f, p, s, hanswer, hpixel⟩

end Studio

end RemoteDisplay
