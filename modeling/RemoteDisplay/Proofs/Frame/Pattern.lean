import RemoteDisplay.Proofs.Frame.Painting
import RemoteDisplay.Proofs.Table

/-!
# What a repaint of the pattern changes

The pattern renderer holds a handle on one frame for each output that it ever painted. A repaint
recolours damaged pixels of one of them; the frames of the other outputs, and whatever anyone else
holds, stay as they were. All it takes is memory for the frame of an output that has none, and whether
there is any may change from one repaint to the next: `repaintFrom` leaves this to an allocator.
-/

namespace RemoteDisplay

/-! ## New frames -/

theorem size_zeros (n : Nat) : (zeros n).size = n := by
  induction n using zeros.induct with
  | case1 => simp [zeros]
  | case2 n hn heven ih =>
      rw [zeros, if_neg hn]
      simp only [heven, if_true, ByteArray.size_append, ih]
      omega
  | case3 n hn hodd ih =>
      rw [zeros, if_neg hn]
      simp only [hodd, if_false, ByteArray.size_push, ByteArray.size_append, ih]
      omega

theorem data_zeros (n : Nat) : (zeros n).data = Array.replicate n 0 := by
  induction n using zeros.induct with
  | case1 =>
      rw [zeros, if_pos rfl]
      rfl
  | case2 n hn heven ih =>
      rw [zeros, if_neg hn]
      simp only [heven, if_true, ByteArray.data_append, ih, Array.replicate_append_replicate]
      congr 1
      omega
  | case3 n hn hodd ih =>
      rw [zeros, if_neg hn]
      simp only [hodd, if_false, ByteArray.data_push, ByteArray.data_append, ih,
        Array.replicate_append_replicate, ← Array.replicate_succ]
      congr 1
      omega

theorem getWord_zeros (n offset : Nat) : getWord (zeros n) offset = 0 := by
  have hbyte : ∀ i, byteAt (zeros n) i = 0 := by
    intro i
    rw [byteAt_eq, data_zeros, Array.getElem?_replicate]
    split <;> rfl
  rw [getWord_eq, hbyte, hbyte, hbyte, hbyte]
  rfl

namespace Frame

variable {s s' : PixelStore} {handles : List BlockId} {width height : UInt32} {f : Frame}
  {refusal : Nat → Option String}

/-- The longest stride there is, and a row that is longer. The frame is taken all the same. -/
theorem exists_stride_below_row : ∃ s, Frame.ofBytes {} 1073741834 1 4294967295 (zeros 4294967295) =
    .ok (⟨⟨0⟩, 1073741834, 1, 4294967295⟩, s) ∧ (s.bytes ⟨0⟩).size = 4294967295 := by
  have hsize : (zeros 4294967295).size = 4294967295 := size_zeros _
  refine ⟨(PixelStore.allocate {} (zeros 4294967295)).2, ?_, hsize⟩
  rw [Frame.ofBytes, if_neg (by decide), if_neg (by rw [hsize]; decide)]
  rfl

/-- Why there can be no new frame of a size, if there cannot. The allocator may refuse numbers of bytes. -/
def refused? (refusal : Nat → Option String) (width height : UInt32) : Option Fault :=
  if width.toNat * bytesPerPixel ≥ 4294967296 then some (.strideOverflow width)
  else (refusal (width.toNat * bytesPerPixel * height.toNat)).map (.frameMemory width height)

/-- A black frame, as far as the allocator lets it be. -/
def newFrom (refusal : Nat → Option String) (s : PixelStore) (width height : UInt32) :
    Except Fault (Frame × PixelStore) :=
  match refused? refusal width height with
  | some e => .error e
  | none =>
    let (block, s) := s.allocate (zeros (width.toNat * bytesPerPixel * height.toNat))
    .ok ({ block, width, height, stride := UInt32.ofNat (width.toNat * bytesPerPixel) }, s)

theorem new_eq (s : PixelStore) (width height : UInt32) :
    Frame.new s width height = newFrom s.reservationError s width height := by
  simp only [Frame.new, newFrom, refused?]
  split
  · rfl
  · cases s.reservationError (width.toNat * bytesPerPixel * height.toNat) <;> rfl

/-- The frame is new and black, and the other handles see what they saw before. -/
structure Fresh (s : PixelStore) (handles : List BlockId) (width height : UInt32) (f : Frame)
    (s' : PixelStore) : Prop where
  size : f.width = width ∧ f.height = height
  stride : f.stride.toNat = width.toNat * 4
  counts : s'.Counts (f.block :: handles)
  bytes : s'.bytes f.block = zeros (f.stride.toNat * height.toNat)
  others : ∀ id ∈ handles, s'.bytes id = s.bytes id

/-- A new frame is refused, or it is fresh. -/
theorem newFrom_cases (hc : s.Counts handles) (refusal : Nat → Option String) (width height : UInt32) :
    (∃ e, refused? refusal width height = some e ∧ newFrom refusal s width height = .error e) ∨
    refused? refusal width height = none ∧
      ∃ f s', newFrom refusal s width height = .ok (f, s') ∧ Fresh s handles width height f s' := by
  unfold newFrom
  cases h : refused? refusal width height with
  | some e => exact .inl ⟨e, rfl, rfl⟩
  | none =>
      have hstride : width.toNat * bytesPerPixel < 4294967296 := by
        unfold refused? at h
        split at h
        · cases h
        · omega
      have hs := UInt32.toNat_ofNat_of_lt' hstride
      obtain ⟨hcounts, hbytes, -, hothers⟩ :=
        hc.allocate (zeros (width.toNat * bytesPerPixel * height.toNat))
      refine .inr ⟨rfl, _, _, rfl, ⟨rfl, rfl⟩, hs, hcounts, ?_, hothers⟩
      rw [hs]
      exact hbytes

theorem new_fresh (hc : s.Counts handles) (h : Frame.new s width height = .ok (f, s')) :
    Fresh s handles width height f s' := by
  rw [new_eq] at h
  rcases newFrom_cases hc s.reservationError width height with ⟨e, -, he⟩ | ⟨-, f₁, s₁, hok, hfresh⟩
  · cases he.symm.trans h
  · cases hok.symm.trans h
    exact hfresh

namespace Fresh

variable (h : Fresh s handles width height f s')

include h

theorem whole (hsmall : width.toNat * 4 * height.toNat < 4294967296) : f.Whole s' := by
  refine ⟨?_, ?_, ?_⟩
  · rw [h.stride, h.size.1]
  · rw [h.bytes, size_zeros, h.size.2]
  · rw [h.stride, h.size.2]
    exact hsmall

theorem colourAt (x y : Nat) : f.colourAt s' x y = 0 := by
  rw [Frame.colourAt, h.bytes, getWord_zeros]

end Fresh

end Frame

/-! ## Repaints -/

namespace PatternRenderer

variable {p p' : PatternRenderer} {s s' : PixelStore} {others : List BlockId} {output : OutputId}
  {damage : Damage} {f : Frame}

def handles (p : PatternRenderer) : List BlockId := p.frames.map (·.2.block)

/-- The handles on the frames of the other outputs. -/
def otherHandles (p : PatternRenderer) (output : OutputId) : List BlockId :=
  (p.frames.filter (·.1 ≠ output)).map (·.2.block)

theorem handles_perm (hkeys : (p.frames.map (·.1)).Nodup) (hf : p.frame? output = some f) :
    p.handles.Perm (f.block :: p.otherHandles output) :=
  (perm_of_lookup hkeys hf).map fun e : OutputId × Frame => e.2.block

/-- The renderer has one whole frame of its size for each output that it ever painted, and the store
counts its handles besides the others. -/
structure Sound (p : PatternRenderer) (s : PixelStore) (others : List BlockId) : Prop where
  keys : (p.frames.map (·.1)).Nodup
  counts : s.Counts (p.handles ++ others)
  whole : ∀ e ∈ p.frames, e.2.Whole s ∧ e.2.width = p.width ∧ e.2.height = p.height

theorem mem_of_frame? (h : p.frame? output = some f) : (output, f) ∈ p.frames := by
  have hsplit := List.lookup_eq_some_iff.mp h
  obtain ⟨l₁, l₂, hl, -⟩ := hsplit
  rw [hl]
  exact List.mem_append_right _ List.mem_cons_self

theorem Sound.frame (h : p.Sound s others) (hf : p.frame? output = some f) :
    f.Whole s ∧ f.width = p.width ∧ f.height = p.height :=
  h.whole _ (mem_of_frame? hf)

theorem frame?_keep (p : PatternRenderer) (output : OutputId) (f : Frame) (o : OutputId) :
    (p.keep output f).frame? o = if o = output then some f else p.frame? o :=
  lookup_cons_filter p.frames output f o

theorem nodup_keep (hkeys : (p.frames.map (·.1)).Nodup) (output : OutputId) (f : Frame) :
    ((p.keep output f).frames.map (·.1)).Nodup := by
  refine List.nodup_cons.mpr ⟨fun hin => ?_, hkeys.sublist (List.filter_sublist.map _)⟩
  obtain ⟨e, he, hk⟩ := List.mem_map.mp hin
  exact absurd hk (by simpa using (List.mem_filter.mp he).2)

theorem mem_otherHandles {o : OutputId} (ho : o ≠ output) (hf : p.frame? o = some f) :
    f.block ∈ p.otherHandles output :=
  List.mem_map.mpr ⟨_, List.mem_filter.mpr ⟨mem_of_frame? hf, by simpa using ho⟩, rfl⟩

/-- Whoever keeps its handles and lets the frames be leaves the renderer sound. -/
theorem Sound.keeps {others' : List BlockId} (h : p.Sound s others)
    (hk : s.Keeps (others' ++ p.handles) s') : p.Sound s' others' where
  keys := h.keys
  counts := hk.counts.perm List.perm_append_comm
  whole e he := by
    obtain ⟨hw, hwidth, hheight⟩ := h.whole e he
    have hin : e.2.block ∈ others' ++ p.handles :=
      List.mem_append_right _ (List.mem_map.mpr ⟨e, he, rfl⟩)
    exact ⟨hw.congr (hk.bytes _ hin), hwidth, hheight⟩

/-- What a repaint does: the frame `f` is kept for the output, and its pixels outside the damage have
the colours of the frame before; the other handles see what they saw before. Afterwards there are
the handles `others'` besides the renderer's. -/
structure Recoloured (p : PatternRenderer) (s : PixelStore) (others : List BlockId) (output : OutputId)
    (damage : Damage) (f : Frame) (p' : PatternRenderer) (s' : PixelStore) (others' : List BlockId) :
    Prop where
  sound : p'.Sound s' others'
  width : p'.width = p.width
  height : p'.height = p.height
  frame : p'.frame? output = some f
  frames : ∀ o, o ≠ output → p'.frame? o = p.frame? o
  others : ∀ id ∈ others, s'.bytes id = s.bytes id
  unpainted : ∀ o g, o ≠ output → p.frame? o = some g → s'.bytes g.block = s.bytes g.block
  kept : ∀ g, p.frame? output = some g → ∀ x < p.width.toNat, ∀ y < p.height.toNat,
    (¬∃ r ∈ (damage.clipped f.bounds).regions, r.Mem x y) → f.colourAt s' x y = g.colourAt s x y

theorem block_mem_handles (h : p.frame? output = some f) : f.block ∈ p.handles :=
  List.mem_map.mpr ⟨_, mem_of_frame? h, rfl⟩

/-- A repaint of the output can begin with the frame `g`: it is the one that the output has, or a new black
one. The other handles see what they saw before. -/
structure Begins (p : PatternRenderer) (s : PixelStore) (others : List BlockId) (output : OutputId)
    (g : Frame) (s₀ : PixelStore) : Prop where
  size : g.width = p.width ∧ g.height = p.height
  counts : s₀.Counts (g.block :: (p.otherHandles output ++ others))
  whole : g.Whole s₀
  others : ∀ id ∈ p.otherHandles output ++ others, s₀.bytes id = s.bytes id
  kept : ∀ g', p.frame? output = some g' → g' = g ∧ s₀ = s
  black : p.frame? output = none → ∀ x y, g.colourAt s₀ x y = 0

theorem Sound.painted (h : p.Sound s others) {g f : Frame} {s₀ s₁ : PixelStore}
    (hb : Begins p s others output g s₀) (hr : Repainted (p.otherHandles output ++ others) g s₀ f s₁
      (fun x y => ∃ r ∈ (damage.clipped g.bounds).regions, r.Mem x y)) :
    Recoloured p s others output damage f { p.keep output f with tick := p.tick + 1 }
      (s₁.retain f.block) (f.block :: others) := by
  obtain ⟨hwidth, hheight⟩ := hb.size
  obtain ⟨hretained, hbytes⟩ := hr.counts.retain List.mem_cons_self
  have hkept : ∀ id ∈ p.otherHandles output ++ others, (s₁.retain f.block).bytes id = s.bytes id := by
    intro id hid
    rw [hbytes, hr.others id hid, hb.others id hid]
  refine ⟨⟨nodup_keep h.keys output f, ?_, ?_⟩, rfl, rfl, ?_, fun o ho => ?_, fun id hid => ?_,
    fun o e ho he => ?_, fun g' hg' x hx y hy hnot => ?_⟩
  · refine hretained.perm ?_
    simp only [handles, keep, List.map_cons, List.cons_append]
    exact List.Perm.cons _ List.perm_middle.symm
  · intro e he
    rcases List.mem_cons.mp he with rfl | he
    · exact ⟨hr.whole.congr (hbytes _), hr.width.trans hwidth, hr.height.trans hheight⟩
    · obtain ⟨hw, hwid, hhei⟩ := h.whole e (List.mem_filter.mp he).1
      have hin : e.2.block ∈ p.otherHandles output := List.mem_map.mpr ⟨e, he, rfl⟩
      exact ⟨hw.congr (hkept _ (List.mem_append_left _ hin)), hwid, hhei⟩
  · exact (frame?_keep p output f output).trans (if_pos rfl)
  · exact (frame?_keep p output f o).trans (if_neg ho)
  · exact hkept id (List.mem_append_right _ hid)
  · exact hkept e.block (List.mem_append_left _ (mem_otherHandles ho he))
  · obtain ⟨rfl, rfl⟩ := hb.kept g' hg'
    have hbounds : f.bounds = g'.bounds := by rw [Frame.bounds, hr.width, hr.height, Frame.bounds]
    rw [hbounds] at hnot
    exact (Frame.colourAt_congr (hbytes _) x y).trans
      (hr.kept x (hwidth ▸ hx) y (hheight ▸ hy) hnot)

/-- Afterwards the handles may change, as long as the others are still among them. -/
theorem Recoloured.keeps {s'' : PixelStore} {others' others'' : List BlockId}
    (h : Recoloured p s others output damage f p' s' others')
    (hk : s'.Keeps (others'' ++ p'.handles) s'') (hsub : others ⊆ others'') :
    Recoloured p s others output damage f p' s'' others'' where
  sound := h.sound.keeps hk
  width := h.width
  height := h.height
  frame := h.frame
  frames := h.frames
  others id hid := (hk.bytes id (List.mem_append_left _ (hsub hid))).trans (h.others id hid)
  unpainted o g ho hg := by
    have hg' : p'.frame? o = some g := (h.frames o ho).trans hg
    exact (hk.bytes _ (List.mem_append_right _ (block_mem_handles hg'))).trans (h.unpainted o g ho hg)
  kept g hg x hx y hy hnot := by
    have hbytes := hk.bytes _ (List.mem_append_right _ (block_mem_handles h.frame))
    exact (Frame.colourAt_congr hbytes x y).trans (h.kept g hg x hx y hy hnot)

/-- A repaint fails and changes nothing, or paints the frame of the output, old or new. -/
theorem repaint_cases {r : Except Fault Frame} (hr : p.repaint s output damage = .ok (r, p', s')) :
    (∃ e, r = .error e ∧ p' = p ∧ s' = s) ∨
    ∃ g s₀ f s₁, p.frameFor s output = .ok (g, s₀) ∧
      PatternRenderer.paint g s₀ p.tick damage = .ok (f, s₁) ∧ r = .ok f ∧
      p' = { p.keep output f with tick := p.tick + 1 } ∧ s' = s₁.retain f.block := by
  unfold PatternRenderer.repaint at hr
  cases hframe : p.frameFor s output with
  | error e =>
      simp only [hframe] at hr
      cases hr
      exact .inl ⟨e, rfl, rfl, rfl⟩
  | ok x =>
      obtain ⟨g, s₀⟩ := x
      simp only [hframe, bind, Except.bind] at hr
      split at hr
      · cases hr
      · rename_i x hp
        obtain ⟨f, s₁⟩ := x
        cases hr
        exact .inr ⟨g, s₀, f, s₁, rfl, hp, rfl, rfl, rfl⟩

theorem frameFor_of_some {g : Frame} (hf : p.frame? output = some g) :
    p.frameFor s output = .ok (g, s) := by
  rw [frameFor, hf]

theorem frameFor_of_none (hf : p.frame? output = none) :
    p.frameFor s output = Frame.new s p.width p.height := by
  rw [frameFor, hf]

theorem otherHandles_of_none (hf : p.frame? output = none) : p.otherHandles output = p.handles := by
  rw [otherHandles, filter_of_lookup hf, handles]

/-! ## Repaints with an allocator at will -/

/-- The frame kept for an output, or a new black one, as far as the allocator lets it be. -/
def frameFrom (refusal : Nat → Option String) (p : PatternRenderer) (s : PixelStore) (output : OutputId) :
    Except Fault (Frame × PixelStore) :=
  match p.frame? output with
  | some f => .ok (f, s)
  | none => Frame.newFrom refusal s p.width p.height

/-- A repaint that takes the memory for a new frame from an allocator of its own. -/
def repaintFrom (refusal : Nat → Option String) (p : PatternRenderer) (s : PixelStore) (output : OutputId)
    (damage : Damage) : Except Trap (Except Fault Frame × PatternRenderer × PixelStore) :=
  match p.frameFrom refusal s output with
  | .error e => .ok (.error e, p, s)
  | .ok (f, s) => do
    let (f, s) ← paint f s p.tick damage
    return (.ok f, { p.keep output f with tick := p.tick + 1 }, s.retain f.block)

/-- Why a repaint of the output is refused, if it is. An output that has a frame needs no new one. -/
def refused? (refusal : Nat → Option String) (p : PatternRenderer) (output : OutputId) : Option Fault :=
  match p.frame? output with
  | some _ => none
  | none => Frame.refused? refusal p.width p.height

/-- A repaint takes the memory from the allocator of the store. -/
theorem repaint_eq (p : PatternRenderer) (s : PixelStore) (output : OutputId) (damage : Damage) :
    p.repaint s output damage = p.repaintFrom s.reservationError s output damage := by
  have hframe : p.frameFor s output = p.frameFrom s.reservationError s output := by
    unfold frameFor frameFrom
    cases p.frame? output with
    | some f => rfl
    | none => exact Frame.new_eq s p.width p.height
  unfold PatternRenderer.repaint repaintFrom
  generalize p.frameFor s output = answer at hframe
  subst hframe
  rfl

theorem Sound.frameFrom_cases (h : p.Sound s others)
    (hsmall : p.width.toNat * 4 * p.height.toNat < 4294967296) (refusal : Nat → Option String)
    (output : OutputId) :
    (∃ e, p.refused? refusal output = some e ∧ p.frameFrom refusal s output = .error e) ∨
    p.refused? refusal output = none ∧
      ∃ g s₀, p.frameFrom refusal s output = .ok (g, s₀) ∧ Begins p s others output g s₀ := by
  unfold refused? frameFrom
  cases hf : p.frame? output with
  | some g =>
      obtain ⟨hw, hsize⟩ := h.frame hf
      have hcounts := h.counts.perm ((handles_perm h.keys hf).append_right others)
      refine .inr ⟨rfl, g, s, rfl, hsize, hcounts, hw, fun _ _ => rfl, fun g' hg' => ?_, fun hnone => ?_⟩
      · exact ⟨Option.some.inj (hg'.symm.trans hf), rfl⟩
      · cases hnone.symm.trans hf
  | none =>
      rcases Frame.newFrom_cases h.counts refusal p.width p.height with hrefused | ⟨hnone, f, s₀, hok, hfresh⟩
      · exact .inl hrefused
      · have hother := otherHandles_of_none hf
        refine .inr ⟨hnone, f, s₀, hok, hfresh.size, hother ▸ hfresh.counts, hfresh.whole hsmall,
          hother ▸ hfresh.others, fun g' hg' => ?_, fun _ => hfresh.colourAt⟩
        cases hg'.symm.trans hf

/-- A repaint is refused and changes nothing, or the damage shows the next picture. -/
theorem Sound.repaintFrom_cases (h : p.Sound s others)
    (hsmall : p.width.toNat * 4 * p.height.toNat < 4294967296) (refusal : Nat → Option String)
    (output : OutputId) (damage : Damage) :
    (∃ e, p.refused? refusal output = some e ∧
      p.repaintFrom refusal s output damage = .ok (.error e, p, s)) ∨
    p.refused? refusal output = none ∧ ∃ g s₀ f s₁,
      p.repaintFrom refusal s output damage =
        .ok (.ok f, { p.keep output f with tick := p.tick + 1 }, s₁.retain f.block) ∧
      Begins p s others output g s₀ ∧ Coloured (p.otherHandles output ++ others) g s₀ f s₁
        (fun x y => ∃ r ∈ (damage.clipped g.bounds).regions, r.Mem x y) (picture p.tick) := by
  unfold repaintFrom
  rcases h.frameFrom_cases hsmall refusal output with ⟨e, he, hframe⟩ | ⟨hnone, g, s₀, hframe, hb⟩
  · rw [hframe]
    exact .inl ⟨e, he, rfl⟩
  · obtain ⟨f, s₁, hpaint, hcoloured⟩ := paint_coloured hb.counts hb.whole p.tick damage
    rw [hframe]
    simp only [hpaint]
    exact .inr ⟨hnone, g, s₀, f, s₁, rfl, hb, hcoloured⟩

/-- A repaint fails and changes nothing, or recolours the frame of the output. -/
theorem Sound.repaint (h : p.Sound s others)
    (hsmall : p.width.toNat * 4 * p.height.toNat < 4294967296) {r : Except Fault Frame}
    (hr : p.repaint s output damage = .ok (r, p', s')) :
    (∃ e, r = .error e ∧ p' = p ∧ s' = s) ∨
    ∃ f, r = .ok f ∧ Recoloured p s others output damage f p' s' (f.block :: others) := by
  rw [repaint_eq] at hr
  rcases h.repaintFrom_cases hsmall s.reservationError output damage with
    ⟨e, -, hok⟩ | ⟨-, g, s₀, f, s₁, hok, hb, hcoloured⟩
  · cases hok.symm.trans hr
    exact .inl ⟨e, rfl, rfl, rfl⟩
  · cases hok.symm.trans hr
    exact .inr ⟨f, rfl, h.painted hb hcoloured.toRepainted⟩

end PatternRenderer

end RemoteDisplay
