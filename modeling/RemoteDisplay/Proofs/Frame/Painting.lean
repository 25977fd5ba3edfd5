import RemoteDisplay.Frame.Renderer
import RemoteDisplay.Proofs.Checked
import RemoteDisplay.Proofs.Frame.Holders
import RemoteDisplay.Proofs.Frame.Words

/-!
# What painting a frame changes

A frame is painted through its own handle. Wherever other handles exist on the same pixels, those
keep what they had, and in the frame itself nothing changes but the pixels that were painted: this is
`Repainted`. `Coloured` says besides which colours the painted pixels have. A frame that is whole can be
painted, pixel after pixel, so rows, regions and damage are coloured without a trap.
-/

namespace RemoteDisplay

namespace Frame

variable {f : Frame} {s : PixelStore}

/-- The frame has all of its rows, without gaps, and a word can say how many bytes that is. -/
structure Whole (f : Frame) (s : PixelStore) : Prop where
  stride : f.stride.toNat = f.width.toNat * 4
  size : (s.bytes f.block).size = f.stride.toNat * f.height.toNat
  small : f.stride.toNat * f.height.toNat < 4294967296

def colourAt (f : Frame) (s : PixelStore) (x y : Nat) : UInt32 :=
  getWord (s.bytes f.block) (y * f.stride.toNat + x * 4)

/-- Only the bytes of the frame matter. -/
theorem Whole.congr {s' : PixelStore} (h : f.Whole s) (hbytes : s'.bytes f.block = s.bytes f.block) :
    f.Whole s' :=
  ⟨h.stride, by rw [hbytes]; exact h.size, h.small⟩

theorem colourAt_congr {s' : PixelStore} (hbytes : s'.bytes f.block = s.bytes f.block) (x y : Nat) :
    f.colourAt s' x y = f.colourAt s x y := by
  rw [colourAt, hbytes, colourAt]

/-- Where the rows hold their pixels, a pixel ends before the rows do. -/
theorem offset_le (hstride : f.width.toNat * 4 ≤ f.stride.toNat) {x y : Nat} (hx : x < f.width.toNat)
    (hy : y < f.height.toNat) :
    y * f.stride.toNat + x * 4 + 4 ≤ f.stride.toNat * f.height.toNat := by
  have hrow : y * f.stride.toNat + f.stride.toNat ≤ f.stride.toNat * f.height.toNat := by
    rw [← Nat.succ_mul, Nat.mul_comm]
    exact Nat.mul_le_mul_left _ hy
  omega

theorem Whole.offset_le (h : f.Whole s) {x y : Nat} (hx : x < f.width.toNat) (hy : y < f.height.toNat) :
    y * f.stride.toNat + x * 4 + 4 ≤ (s.bytes f.block).size := by
  rw [h.size]
  exact Frame.offset_le (Nat.le_of_eq h.stride.symm) hx hy

/-- Different pixels have different bytes. -/
theorem offsets_disjoint (hstride : f.width.toNat * 4 ≤ f.stride.toNat) {x y x' y' : Nat}
    (hx : x < f.width.toNat) (hx' : x' < f.width.toNat) (hne : ¬(x' = x ∧ y' = y)) :
    y' * f.stride.toNat + x' * 4 + 4 ≤ y * f.stride.toNat + x * 4 ∨
      y * f.stride.toNat + x * 4 + 4 ≤ y' * f.stride.toNat + x' * 4 := by
  rcases Nat.lt_trichotomy y y' with hlt | rfl | hlt
  · have hrow : y * f.stride.toNat + f.stride.toNat ≤ y' * f.stride.toNat := by
      rw [← Nat.succ_mul]
      exact Nat.mul_le_mul_right _ hlt
    omega
  · omega
  · have hrow : y' * f.stride.toNat + f.stride.toNat ≤ y * f.stride.toNat := by
      rw [← Nat.succ_mul]
      exact Nat.mul_le_mul_right _ hlt
    omega

/-- The offset of a pixel is found just when a word can say it. -/
theorem offset_eq_ok {x y : UInt32} {n : Nat} : f.offset x y = .ok n ↔
    n = y.toNat * f.stride.toNat + x.toNat * 4 ∧ n < 4294967296 := by
  simp only [offset, bind, Except.bind]
  constructor
  · intro h
    split at h
    · cases h
    · rename_i row hrow
      split at h
      · cases h
      · rename_i column hcolumn
        split at h
        · cases h
        · rename_i sum hsum
          cases h
          refine ⟨?_, sum.toNat_lt⟩
          rw [Checked.toNat_of_u32 hsum, Checked.toNat_of_u32 hrow, Checked.toNat_of_u32 hcolumn]
          rfl
  · rintro ⟨rfl, hlt⟩
    have hrow : y.toNat * f.stride.toNat < 4294967296 := by omega
    have hcolumn : x.toNat * bytesPerPixel < 4294967296 := by
      simp only [bytesPerPixel]
      omega
    have hsum : (UInt32.ofNat (y.toNat * f.stride.toNat)).toNat +
        (UInt32.ofNat (x.toNat * bytesPerPixel)).toNat = y.toNat * f.stride.toNat + x.toNat * 4 := by
      rw [UInt32.toNat_ofNat_of_lt' hrow, UInt32.toNat_ofNat_of_lt' hcolumn]
      rfl
    simp only [Checked.u32_of_lt hrow, Checked.u32_of_lt hcolumn, hsum, Checked.u32_of_lt hlt]
    rw [UInt32.toNat_ofNat_of_lt' hlt]
    rfl

theorem view_eq {r : Region} {v : View} (h : f.view r = .ok v) :
    v.block = f.block ∧ v.stride = f.stride := by
  unfold view at h
  split at h
  · cases h
  · cases h
    exact ⟨rfl, rfl⟩

theorem pixel_of_lt {x y : UInt32} (hpixel : f.hasPixel x y = true)
    (hlt : y.toNat * f.stride.toNat + x.toNat * 4 < 4294967296)
    (hle : y.toNat * f.stride.toNat + x.toNat * 4 + 4 ≤ (s.bytes f.block).size) :
    f.pixel s x y = .ok (some (f.colourAt s x.toNat y.toNat)) := by
  have hoffset : f.offset x y = .ok (y.toNat * f.stride.toNat + x.toNat * 4) :=
    offset_eq_ok.mpr ⟨rfl, hlt⟩
  have hword : checkWord (s.bytes f.block).size (y.toNat * f.stride.toNat + x.toNat * 4) = .ok () :=
    if_pos hle
  simp only [Frame.pixel, hpixel, if_true, hoffset, bind, Except.bind, hword]
  rfl

/-- A word can say where the pixels of a whole frame lie. -/
theorem Whole.offset_lt (h : f.Whole s) {x y : UInt32} (hpixel : f.hasPixel x y = true) :
    y.toNat * f.stride.toNat + x.toNat * 4 < 4294967296 ∧
      y.toNat * f.stride.toNat + x.toNat * 4 + 4 ≤ (s.bytes f.block).size := by
  simp only [hasPixel, decide_eq_true_eq, UInt32.lt_iff_toNat_lt] at hpixel
  have hle := h.offset_le hpixel.1 hpixel.2
  have hsize := h.size
  have hsmall := h.small
  exact ⟨by omega, hle⟩

/-- The pixels of a whole frame can be read. -/
theorem Whole.pixel (h : f.Whole s) {x y : UInt32} (hx : x < f.width) (hy : y < f.height) :
    f.pixel s x y = .ok (some (f.colourAt s x.toNat y.toNat)) := by
  have hpixel : f.hasPixel x y = true := by simp [hasPixel, hx, hy]
  obtain ⟨hlt, hle⟩ := h.offset_lt hpixel
  exact pixel_of_lt hpixel hlt hle

end Frame

/-! ## Painting -/

/-- The frame was painted, and only the pixels in `changed` may have another colour than before. What
the other handles see is unchanged. -/
structure Repainted (handles : List BlockId) (f : Frame) (s : PixelStore) (f' : Frame) (s' : PixelStore)
    (changed : Nat → Nat → Prop) : Prop where
  frame : f' = { f with block := f'.block }
  counts : s'.Counts (f'.block :: handles)
  whole : f'.Whole s'
  others : ∀ id ∈ handles, s'.bytes id = s.bytes id
  kept : ∀ x < f.width.toNat, ∀ y < f.height.toNat, ¬changed x y →
    f'.colourAt s' x y = f.colourAt s x y

namespace Repainted

variable {handles : List BlockId} {f f' f'' : Frame} {s s' s'' : PixelStore}
  {changed changed' : Nat → Nat → Prop}

theorem refl (hc : s.Counts (f.block :: handles)) (hw : f.Whole s) : Repainted handles f s f s changed :=
  ⟨rfl, hc, hw, fun _ _ => rfl, fun _ _ _ _ _ => rfl⟩

theorem width (h : Repainted handles f s f' s' changed) : f'.width = f.width := by
  rw [h.frame]

theorem height (h : Repainted handles f s f' s' changed) : f'.height = f.height := by
  rw [h.frame]

theorem trans (h : Repainted handles f s f' s' changed) (h' : Repainted handles f' s' f'' s'' changed') :
    Repainted handles f s f'' s'' (fun x y => changed x y ∨ changed' x y) where
  frame := by
    rw [h'.frame, h.frame]
  counts := h'.counts
  whole := h'.whole
  others id hid := (h'.others id hid).trans (h.others id hid)
  kept x hx y hy hnot := by
    rw [not_or] at hnot
    exact (h'.kept x (h.width ▸ hx) y (h.height ▸ hy) hnot.2).trans (h.kept x hx y hy hnot.1)

theorem mono (h : Repainted handles f s f' s' changed) (himp : ∀ x y, changed x y → changed' x y) :
    Repainted handles f s f' s' changed' :=
  { h with kept := fun x hx y hy hnot => h.kept x hx y hy fun hc => hnot (himp x y hc) }

end Repainted

/-- The frame was repainted, and the pixels in `changed` have the colours of a picture. -/
structure Coloured (handles : List BlockId) (f : Frame) (s : PixelStore) (f' : Frame) (s' : PixelStore)
    (changed : Nat → Nat → Prop) (colour : Nat → Nat → UInt32) : Prop extends
    Repainted handles f s f' s' changed where
  painted : ∀ x < f.width.toNat, ∀ y < f.height.toNat, changed x y → f'.colourAt s' x y = colour x y

namespace Coloured

variable {handles : List BlockId} {f f' f'' : Frame} {s s' s'' : PixelStore}
  {changed changed' : Nat → Nat → Prop} {colour : Nat → Nat → UInt32}

theorem trans (h : Coloured handles f s f' s' changed colour)
    (h' : Coloured handles f' s' f'' s'' changed' colour) :
    Coloured handles f s f'' s'' (fun x y => changed x y ∨ changed' x y) colour where
  toRepainted := h.toRepainted.trans h'.toRepainted
  painted x hx y hy hxy := by
    -- A pixel that was painted once keeps its colour, and one that was painted again takes the same.
    by_cases hagain : changed' x y
    · exact h'.painted x (h.width ▸ hx) y (h.height ▸ hy) hagain
    · have hfirst : changed x y := hxy.resolve_right hagain
      exact (h'.kept x (h.width ▸ hx) y (h.height ▸ hy) hagain).trans (h.painted x hx y hy hfirst)

theorem congr (h : Coloured handles f s f' s' changed colour) (hiff : ∀ x y, changed x y ↔ changed' x y) :
    Coloured handles f s f' s' changed' colour where
  toRepainted := h.toRepainted.mono fun x y => (hiff x y).mp
  painted x hx y hy hxy := h.painted x hx y hy ((hiff x y).mpr hxy)

/-- Pieces of a picture are painted one after the other. -/
theorem foldlM {α : Type} {step : Frame × PixelStore → α → Except Trap (Frame × PixelStore)}
    {painted : α → Nat → Nat → Prop}
    (hstep : ∀ {f : Frame} {s : PixelStore} (a : α), s.Counts (f.block :: handles) → f.Whole s →
      ∃ f' s', step (f, s) a = .ok (f', s') ∧ Coloured handles f s f' s' (painted a) colour)
    (as : List α) (hc : s.Counts (f.block :: handles)) (hw : f.Whole s) :
    ∃ f' s', as.foldlM step (f, s) = .ok (f', s') ∧
      Coloured handles f s f' s' (fun x y => ∃ a ∈ as, painted a x y) colour := by
  induction as generalizing f s with
  | nil =>
      refine ⟨f, s, rfl, .refl hc hw, fun x hx y hy hxy => ?_⟩
      obtain ⟨a, ha, -⟩ := hxy
      cases ha
  | cons a as ih =>
      obtain ⟨f₁, s₁, hok, hfirst⟩ := hstep a hc hw
      obtain ⟨f', s', hrun, hrest⟩ := ih hfirst.counts hfirst.whole
      refine ⟨f', s', ?_, (hfirst.trans hrest).congr fun x y => ?_⟩
      · rw [List.foldlM_cons, hok]
        exact hrun
      · simp only [List.mem_cons, exists_eq_or_imp]

end Coloured

section Paint

variable {handles : List BlockId} {f f' : Frame} {s s' : PixelStore}

/-- A put outside the frame does nothing. Inside it writes one word, where nobody else has a handle. -/
theorem Frame.put_cases (hc : s.Counts (f.block :: handles)) {x y colour : UInt32}
    (hp : f.put s x y colour = .ok (f', s')) :
    (f.hasPixel x y = false ∧ f' = f ∧ s' = s) ∨
    (f.hasPixel x y = true ∧ f' = { f with block := f'.block } ∧ s'.Counts (f'.block :: handles) ∧
      s'.bytes f'.block =
        putWord (s.bytes f.block) (y.toNat * f.stride.toNat + x.toNat * 4) colour ∧
      ∀ id ∈ handles, s'.bytes id = s.bytes id) := by
  unfold Frame.put at hp
  cases hpixel : f.hasPixel x y with
  | false =>
      rw [hpixel, if_neg (by simp)] at hp
      cases hp
      exact .inl ⟨rfl, rfl, rfl⟩
  | true =>
      rw [hpixel, if_pos rfl] at hp
      cases hoffset : f.offset x y with
      | error t =>
          rw [hoffset] at hp
          cases hp
      | ok offset =>
          obtain ⟨hcounts, hbytes, hnew, hothers⟩ := hc.exclusive
          rw [hoffset] at hp
          generalize s.exclusive f.block = r at hcounts hbytes hnew hothers hp
          obtain ⟨block, s₁⟩ := r
          simp only at hcounts hbytes hnew hothers hp
          obtain ⟨hcounts', hwritten, hothers'⟩ := hcounts.write hnew (putWord · offset colour)
          split at hp
          · cases hp
          · cases hp
            obtain ⟨rfl, -⟩ := Frame.offset_eq_ok.mp hoffset
            refine .inr ⟨rfl, rfl, hcounts', ?_, fun id hid => ?_⟩
            · simp only [hwritten, hbytes]
            · rw [hothers' id hid, hothers id hid]

/-- A pixel can be written where a word can say and the bytes are there. -/
theorem Frame.put_of_lt (hc : s.Counts (f.block :: handles)) {x y : UInt32} (colour : UInt32)
    (hlt : y.toNat * f.stride.toNat + x.toNat * 4 < 4294967296)
    (hle : y.toNat * f.stride.toNat + x.toNat * 4 + 4 ≤ (s.bytes f.block).size) :
    ∃ f' s', f.put s x y colour = .ok (f', s') := by
  obtain ⟨-, hbytes, -, -⟩ := hc.exclusive
  have hoffset : f.offset x y = .ok (y.toNat * f.stride.toNat + x.toNat * 4) :=
    Frame.offset_eq_ok.mpr ⟨rfl, hlt⟩
  have hword : Frame.checkWord ((s.exclusive f.block).2.bytes (s.exclusive f.block).1).size
      (y.toNat * f.stride.toNat + x.toNat * 4) = .ok () := by
    rw [hbytes]
    exact if_pos hle
  unfold Frame.put
  split
  · simp only [hoffset, hword]
    exact ⟨_, _, rfl⟩
  · exact ⟨f, s, rfl⟩

theorem Frame.put_repainted (hc : s.Counts (f.block :: handles)) (hw : f.Whole s)
    {x y colour : UInt32} (hp : f.put s x y colour = .ok (f', s')) :
    Repainted handles f s f' s' (fun px py => px = x.toNat ∧ py = y.toNat) := by
  rcases Frame.put_cases hc hp with ⟨-, rfl, rfl⟩ | ⟨hpixel, hframe, hcounts, hbytes, hothers⟩
  · exact .refl hc hw
  · simp only [Frame.hasPixel, decide_eq_true_eq, UInt32.lt_iff_toNat_lt] at hpixel
    have hle := hw.offset_le hpixel.1 hpixel.2
    have hstride : f'.stride = f.stride := by rw [hframe]
    have hheight : f'.height = f.height := by rw [hframe]
    have hwidth : f'.width = f.width := by rw [hframe]
    refine ⟨hframe, hcounts, ⟨?_, ?_, ?_⟩, hothers, fun px hpx py hpy hnot => ?_⟩
    · rw [hstride, hwidth]
      exact hw.stride
    · rw [hbytes, size_putWord, hstride, hheight]
      exact hw.size
    · rw [hstride, hheight]
      exact hw.small
    · rw [Frame.colourAt, Frame.colourAt, hbytes, hstride]
      have hdisjoint := Frame.offsets_disjoint (Nat.le_of_eq hw.stride.symm) hpixel.1 hpx hnot
      exact getWord_putWord_of_disjoint hle hdisjoint

/-- A pixel of a whole frame takes the colour that the picture has there. -/
theorem Frame.put_coloured (hc : s.Counts (f.block :: handles)) (hw : f.Whole s) {x y : UInt32}
    {colour : Nat → Nat → UInt32} :
    ∃ f' s', f.put s x y (colour x.toNat y.toNat) = .ok (f', s') ∧
      Coloured handles f s f' s' (fun px py => px = x.toNat ∧ py = y.toNat) colour := by
  cases hpixel : f.hasPixel x y with
  | false =>
      refine ⟨f, s, ?_, .refl hc hw, ?_⟩
      · rw [Frame.put, hpixel, if_neg (by simp)]
      · rintro px hpx py hpy ⟨rfl, rfl⟩
        simp only [Frame.hasPixel, decide_eq_false_iff_not, UInt32.lt_iff_toNat_lt] at hpixel
        exact absurd ⟨hpx, hpy⟩ hpixel
  | true =>
      obtain ⟨hlt, hle⟩ := hw.offset_lt hpixel
      obtain ⟨f', s', hp⟩ := Frame.put_of_lt hc (colour x.toNat y.toNat) hlt hle
      refine ⟨f', s', hp, Frame.put_repainted hc hw hp, ?_⟩
      rintro px - py - ⟨rfl, rfl⟩
      rcases Frame.put_cases hc hp with ⟨hout, -, -⟩ | ⟨-, hframe, -, hbytes, -⟩
      · rw [hpixel] at hout
        cases hout
      · have hstride : f'.stride = f.stride := by rw [hframe]
        rw [Frame.colourAt, hbytes, hstride]
        exact getWord_putWord hle

namespace PatternRenderer

/-- The picture at a step of the animation. -/
def picture (tick : UInt32) (x y : Nat) : UInt32 := pattern (UInt32.ofNat x) (UInt32.ofNat y) tick

theorem picture_toNat (tick x y : UInt32) : picture tick x.toNat y.toNat = pattern x y tick := by
  rw [picture, UInt32.ofNat_toNat, UInt32.ofNat_toNat]

theorem mem_between {first last : Int32} {n : UInt32} :
    n ∈ between first last ↔ first.toInt ≤ n.toNat ∧ (n.toNat : Int) < last.toInt := by
  have hbound := last.toInt_lt
  simp only [between, List.mem_map, List.mem_range'_1]
  constructor
  · rintro ⟨k, ⟨hfirst, hlast⟩, rfl⟩
    have hk : (UInt32.ofNat k).toNat = k :=
      UInt32.toNat_ofNat_of_lt' (by simp only [UInt32.size]; omega)
    rw [hk]
    omega
  · rintro ⟨hfirst, hlast⟩
    exact ⟨n.toNat, by omega, UInt32.ofNat_toNat⟩

/-- The columns of a region, row by row, are its pixels. -/
theorem mem_iff_between {r : Region} {px py : Nat} :
    (∃ y ∈ between r.y r.bottom, ∃ x ∈ between r.x r.right, px = x.toNat ∧ py = y.toNat) ↔
      r.Mem px py := by
  have hright := r.right.toInt_lt
  have hbottom := r.bottom.toInt_lt
  constructor
  · rintro ⟨y, hy, x, hx, rfl, rfl⟩
    obtain ⟨hleft, hright⟩ := mem_between.mp hx
    obtain ⟨htop, hbottom⟩ := mem_between.mp hy
    exact ⟨hleft, hright, htop, hbottom⟩
  · rintro ⟨hleft, hx, htop, hy⟩
    have hpx : (UInt32.ofNat px).toNat = px :=
      UInt32.toNat_ofNat_of_lt' (by simp only [UInt32.size]; omega)
    have hpy : (UInt32.ofNat py).toNat = py :=
      UInt32.toNat_ofNat_of_lt' (by simp only [UInt32.size]; omega)
    refine ⟨UInt32.ofNat py, mem_between.mpr ?_, UInt32.ofNat px, mem_between.mpr ?_, hpx.symm, hpy.symm⟩
    · rw [hpy]
      exact ⟨htop, hy⟩
    · rw [hpx]
      exact ⟨hleft, hx⟩

theorem paintRow_coloured (hc : s.Counts (f.block :: handles)) (hw : f.Whole s) (tick y : UInt32)
    (columns : List UInt32) :
    ∃ f' s', paintRow f s tick y columns = .ok (f', s') ∧ Coloured handles f s f' s'
      (fun px py => ∃ x ∈ columns, px = x.toNat ∧ py = y.toNat) (picture tick) := by
  have hpixel : ∀ {f : Frame} {s : PixelStore} (x : UInt32), s.Counts (f.block :: handles) → f.Whole s →
      ∃ f' s', f.put s x y (pattern x y tick) = .ok (f', s') ∧
        Coloured handles f s f' s' (fun px py => px = x.toNat ∧ py = y.toNat) (picture tick) := by
    intro f s x hc hw
    rw [← picture_toNat]
    exact Frame.put_coloured hc hw
  exact Coloured.foldlM hpixel columns hc hw

theorem paintRegion_coloured (hc : s.Counts (f.block :: handles)) (hw : f.Whole s) (tick : UInt32)
    (r : Region) :
    ∃ f' s', paintRegion f s tick r = .ok (f', s') ∧
      Coloured handles f s f' s' (fun x y => r.Mem x y) (picture tick) := by
  have hrow : ∀ {f : Frame} {s : PixelStore} (y : UInt32), s.Counts (f.block :: handles) → f.Whole s →
      ∃ f' s', paintRow f s tick y (between r.x r.right) = .ok (f', s') ∧ Coloured handles f s f' s'
        (fun px py => ∃ x ∈ between r.x r.right, px = x.toNat ∧ py = y.toNat) (picture tick) :=
    fun y hc hw => paintRow_coloured hc hw tick y _
  have hrows : ∃ f' s', paintRegion f s tick r = .ok (f', s') ∧ Coloured handles f s f' s'
      (fun px py => ∃ y ∈ between r.y r.bottom, ∃ x ∈ between r.x r.right, px = x.toNat ∧ py = y.toNat)
      (picture tick) := Coloured.foldlM hrow _ hc hw
  obtain ⟨f', s', hok, hcoloured⟩ := hrows
  exact ⟨f', s', hok, hcoloured.congr fun _ _ => mem_iff_between⟩

/-- The damaged regions, as far as they lie in the frame, show the picture, and the rest is as before. -/
theorem paint_coloured (hc : s.Counts (f.block :: handles)) (hw : f.Whole s) (tick : UInt32)
    (damage : Damage) :
    ∃ f' s', paint f s tick damage = .ok (f', s') ∧ Coloured handles f s f' s'
      (fun x y => ∃ r ∈ (damage.clipped f.bounds).regions, r.Mem x y) (picture tick) :=
  Coloured.foldlM (fun r hc hw => paintRegion_coloured hc hw tick r) _ hc hw

end PatternRenderer

end Paint

end RemoteDisplay
