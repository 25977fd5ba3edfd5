import RemoteDisplay.Proofs.Frame.Views
import RemoteDisplay.Proofs.Frame.Writing
import RemoteDisplay.Proofs.Geometry.Coverage
import RemoteDisplay.Proofs.Wire.Layout

/-!
# Single pixels and rows

A frame is read and written pixel by pixel, or read row by row through a view. Both ways find the same
bytes. The offset of a single pixel has to fit a word, though, which that of a row need not, so pixels
that lie further down in a very large frame can only be seen in a row.
-/

namespace RemoteDisplay

open PixelStore (Counts)

/-! ## Bytes of a word -/

theorem toNat_getWord (bytes : ByteArray) (offset : Nat) : (getWord bytes offset).toNat =
    Wire.ofLowBytes [byteAt bytes offset, byteAt bytes (offset + 1), byteAt bytes (offset + 2),
      byteAt bytes (offset + 3)] := by
  rw [getWord_eq, toNat_of_bytes]
  simp only [Wire.ofLowBytes]
  omega

theorem lowBytes_getWord {bytes : ByteArray} {offset i : Nat} (hi : i < 4) :
    (Wire.lowBytes 4 (getWord bytes offset).toNat)[i]? = some (byteAt bytes (offset + i)) := by
  rw [toNat_getWord]
  have hbytes := Wire.lowBytes_ofLowBytes [byteAt bytes offset, byteAt bytes (offset + 1),
    byteAt bytes (offset + 2), byteAt bytes (offset + 3)]
  simp only [List.length_cons, List.length_nil] at hbytes
  rw [hbytes]
  match i, hi with
  | 0, _ => rfl
  | 1, _ => rfl
  | 2, _ => rfl
  | 3, _ => rfl

theorem getElem?_eq_byteAt {bytes : ByteArray} {i : Nat} (h : i < bytes.size) :
    bytes[i]? = some (byteAt bytes i) := by
  rw [byteAt, getElem?_pos bytes i h, Option.getD_some]

namespace Frame

/-! ## Frames that are in use -/

/-- A frame, and the other handles that there are. It was made black or over given bytes; its pixels were
written, and other handles came, were used and went. -/
inductive Made : Frame → PixelStore → List BlockId → Prop where
  | new {f : Frame} {s s' : PixelStore} {handles : List BlockId} {width height : UInt32}
      (hc : s.Counts handles) (h : Frame.new s width height = .ok (f, s')) : Made f s' handles
  | ofBytes {f : Frame} {s s' : PixelStore} {handles : List BlockId} {width height stride : UInt32}
      {bytes : ByteArray} (hc : s.Counts handles)
      (h : Frame.ofBytes s width height stride bytes = .ok (f, s')) : Made f s' handles
  | put {f f' : Frame} {s s' : PixelStore} {handles : List BlockId} {x y colour : UInt32}
      (h : Made f s handles) (hp : f.put s x y colour = .ok (f', s')) : Made f' s' handles
  | other {f : Frame} {s s' : PixelStore} {handles handles' : List BlockId} (h : Made f s handles)
      (hc : s'.Counts (f.block :: handles')) (hbytes : s'.bytes f.block = s.bytes f.block) :
      Made f s' handles'

variable {f : Frame} {s s' : PixelStore} {handles : List BlockId} {r : Region} {v : View} {x y : UInt32}

/-- The bytes of all rows are there, and a row holds its pixels as far as a word can say how many bytes
these are. -/
structure Rows (f : Frame) (s : PixelStore) : Prop where
  stride : min (f.width.toNat * 4) 4294967295 ≤ f.stride.toNat
  bytes : f.stride.toNat * f.height.toNat ≤ (s.bytes f.block).size

theorem Made.sound (h : Made f s handles) : s.Counts (f.block :: handles) ∧ f.Rows s := by
  induction h with
  | new hc h =>
      have hfresh := new_fresh hc h
      refine ⟨hfresh.counts, ?_, ?_⟩
      · rw [hfresh.stride, hfresh.size.1]
        exact Nat.min_le_left _ _
      · exact Nat.le_of_eq (by rw [hfresh.bytes, size_zeros, hfresh.size.2])
  | ofBytes hc h =>
      have hover := ofBytes_over hc h
      refine ⟨hover.counts, hover.stride, ?_⟩
      rw [hover.bytes]
      exact hover.rows
  | put h hp ih =>
      rcases put_cases ih.1 hp with ⟨-, rfl, rfl⟩ | ⟨-, hframe, hcounts, hbytes, -⟩
      · exact ih
      · refine ⟨hcounts, ?_⟩
        rw [hframe]
        refine ⟨ih.2.stride, ?_⟩
        simp only [hbytes, size_putWord]
        exact ih.2.bytes
  | other h hc hbytes ih => exact ⟨hc, ih.2.stride, by rw [hbytes]; exact ih.2.bytes⟩

/-! ## Pixels within reach -/

/-- A word can say where the pixel lies, and its bytes are there. -/
def Reaches (f : Frame) (s : PixelStore) (x y : UInt32) : Prop :=
  y.toNat * f.stride.toNat + x.toNat * 4 < 4294967296 ∧
    y.toNat * f.stride.toNat + x.toNat * 4 + 4 ≤ (s.bytes f.block).size

theorem hasPixel_iff : f.hasPixel x y = true ↔ x.toNat < f.width.toNat ∧ y.toNat < f.height.toNat := by
  simp only [hasPixel, decide_eq_true_eq, UInt32.lt_iff_toNat_lt]

/-- The rows of a frame that is not extremely wide hold all their pixels. -/
theorem Rows.narrow (h : f.Rows s) (hnarrow : f.width.toNat < 1073741824) :
    f.width.toNat * 4 ≤ f.stride.toNat := by
  have hstride := h.stride
  omega

theorem pixel_of_reaches (hpixel : f.hasPixel x y = true) (h : f.Reaches s x y) :
    f.pixel s x y = .ok (some (f.colourAt s x.toNat y.toNat)) :=
  pixel_of_lt hpixel h.1 h.2

theorem reaches_of_pixel {c : UInt32} (h : f.pixel s x y = .ok (some c)) :
    f.hasPixel x y = true ∧ f.Reaches s x y := by
  unfold Frame.pixel at h
  split at h
  · rename_i hpixel
    refine ⟨hpixel, ?_⟩
    simp only [bind, Except.bind] at h
    split at h
    · cases h
    · rename_i n hoffset
      obtain ⟨rfl, hlt⟩ := offset_eq_ok.mp hoffset
      split at h
      · cases h
      · rename_i hword
        unfold checkWord at hword
        split at hword
        · rename_i hle
          exact ⟨hlt, hle⟩
        · cases hword
  · cases h

/-- Out of reach a pixel is neither read nor written. -/
theorem traps_of_not_reaches (hc : s.Counts (f.block :: handles)) (hpixel : f.hasPixel x y = true)
    (h : ¬f.Reaches s x y) :
    ∃ t, f.pixel s x y = .error t ∧ ∀ colour, f.put s x y colour = .error t := by
  obtain ⟨-, hbytes, -, -⟩ := hc.exclusive
  cases hoffset : f.offset x y with
  | error t =>
      refine ⟨t, ?_, fun colour => ?_⟩
      · simp only [Frame.pixel, hpixel, if_true, hoffset, bind, Except.bind]
      · simp only [Frame.put, hpixel, if_true, hoffset]
  | ok n =>
      obtain ⟨hn, hlt⟩ := offset_eq_ok.mp hoffset
      have hpast : ¬n + bytesPerPixel ≤ (s.bytes f.block).size := by
        intro hle
        rw [Reaches, ← hn] at h
        exact h ⟨hlt, hle⟩
      refine ⟨.pastEnd (n + bytesPerPixel) (s.bytes f.block).size, ?_, fun colour => ?_⟩
      · simp only [Frame.pixel, hpixel, if_true, hoffset, bind, Except.bind, checkWord, if_neg hpast]
      · simp only [Frame.put, hpixel, if_true, hoffset, checkWord, hbytes, if_neg hpast]

/-! ## Writing a pixel -/

/-- What a pixel answers depends on its bytes and on how many there are. -/
theorem pixel_congr {block : BlockId} (hsize : (s'.bytes block).size = (s.bytes f.block).size)
    (hcolour : f.hasPixel x y = true →
      ({ f with block } : Frame).colourAt s' x.toNat y.toNat = f.colourAt s x.toNat y.toNat) :
    ({ f with block } : Frame).pixel s' x y = f.pixel s x y := by
  have hpixel : ({ f with block } : Frame).hasPixel x y = f.hasPixel x y := rfl
  have hoffset : ({ f with block } : Frame).offset x y = f.offset x y := rfl
  unfold Frame.pixel
  rw [hpixel]
  split
  · rename_i hthere
    cases ho : f.offset x y with
    | error t => simp only [hoffset, ho, bind, Except.bind]
    | ok n =>
        obtain ⟨rfl, -⟩ := offset_eq_ok.mp ho
        have hword := hcolour hthere
        simp only [colourAt] at hword
        simp only [hoffset, ho, hsize, bind, Except.bind]
        rw [hword]
  · rfl

/-- A pixel within reach takes the colour that is put, and no other pixel changes. -/
theorem put_of_reaches (hc : s.Counts (f.block :: handles)) (hstride : f.width.toNat * 4 ≤ f.stride.toNat)
    (hpixel : f.hasPixel x y = true) (h : f.Reaches s x y) (colour : UInt32) :
    ∃ f' s', f.put s x y colour = .ok (f', s') ∧ f'.pixel s' x y = .ok (some colour) ∧
      ∀ x' y', ¬(x' = x ∧ y' = y) → f'.pixel s' x' y' = f.pixel s x' y' := by
  obtain ⟨f', s', hp⟩ := put_of_lt hc colour h.1 h.2
  obtain ⟨hout, -, -⟩ | ⟨-, hframe, -, hbytes, -⟩ := put_cases hc hp
  · rw [hpixel] at hout
    cases hout
  · generalize f'.block = block at hframe hbytes
    subst hframe
    have hsize : (s'.bytes block).size = (s.bytes f.block).size := by rw [hbytes, size_putWord]
    refine ⟨_, s', hp, ?_, fun x' y' hne => pixel_congr hsize fun hpixel' => ?_⟩
    · have hthere : ({ f with block } : Frame).Reaches s' x y := ⟨h.1, by rw [hsize]; exact h.2⟩
      have hread := pixel_of_reaches (f := { f with block }) hpixel hthere
      rwa [colourAt, hbytes, getWord_putWord h.2] at hread
    · obtain ⟨hx, -⟩ := hasPixel_iff.mp hpixel
      obtain ⟨hx', -⟩ := hasPixel_iff.mp hpixel'
      have hne' : ¬(x'.toNat = x.toNat ∧ y'.toNat = y.toNat) := by
        rwa [UInt32.toNat_inj, UInt32.toNat_inj]
      simp only [colourAt, hbytes]
      exact getWord_putWord_of_disjoint h.2 (offsets_disjoint hstride hx hx' hne')

/-! ## Rows of views -/

/-- The regions of which there are views: they begin in the frame, and as long as nothing is clamped they
end in it. -/
theorem view_eq_ok (h : f.view r = .ok v) : v = f.part r ∧ f.bounds.contains r = true := by
  unfold view at h
  split at h
  · cases h
  · rename_i hinside
    cases h
    exact ⟨rfl, by_contra fun hout => hinside (.inr hout)⟩

theorem columns_of_contains (h : f.bounds.contains r = true) (hnarrow : f.width.toNat < 2147483647) :
    0 ≤ r.x.toInt ∧ r.x.toInt.toNat + r.width.toNat ≤ f.width.toNat := by
  have hzero : (0 : Int32).toInt = 0 := rfl
  simp only [bounds, Region.contains, decide_eq_true_eq, Int32.le_iff_toInt_le, Region.right_eq, hzero] at h
  omega

theorem rows_of_contains (h : f.bounds.contains r = true) :
    0 ≤ r.y.toInt ∧ (f.height.toNat < 2147483647 → r.y.toInt.toNat + r.height.toNat ≤ f.height.toNat) := by
  have hzero : (0 : Int32).toInt = 0 := rfl
  simp only [bounds, Region.contains, decide_eq_true_eq, Int32.le_iff_toInt_le, Region.bottom_eq, hzero] at h
  omega

/-- The row of a view that a pixel of its region is in. -/
def rowOf (r : Region) (y : UInt32) : UInt32 := UInt32.ofNat (y.toNat - r.y.toInt.toNat)

theorem Rows.row (h : f.Rows s) (hnarrow : f.width.toNat < 1073741824) (hv : f.view r = .ok v)
    (hhas : r.Has x.toNat y.toNat) (hpixel : f.hasPixel x y = true) :
    ∃ row, v.row s (rowOf r y) = .ok (some row) ∧ row.size = 4 * r.width.toNat ∧
      ∀ c, f.pixel s x y = .ok (some c) → ∀ i < 4,
        row[4 * (x.toNat - r.x.toInt.toNat) + i]? = (Wire.lowBytes 4 c.toNat)[i]? := by
  obtain ⟨rfl, hcontains⟩ := view_eq_ok hv
  obtain ⟨hleft, hcolumns⟩ := columns_of_contains hcontains (by omega)
  obtain ⟨htop, -⟩ := rows_of_contains hcontains
  obtain ⟨hx, hy⟩ := hasPixel_iff.mp hpixel
  have hstride := h.narrow hnarrow
  simp only [Region.Has] at hhas
  have hrow : (rowOf r y).toNat = y.toNat - r.y.toInt.toNat :=
    UInt32.toNat_ofNat_of_lt' (Nat.lt_of_le_of_lt (Nat.sub_le _ _) y.toNat_lt)
  have hend := part_row_le (y := (rowOf r y).toNat) hstride h.bytes hcolumns (by omega)
  have hwide : r.width.toNat * bytesPerPixel ≤ f.stride.toNat :=
    Nat.le_trans (Nat.mul_le_mul_right _ (by omega)) hstride
  obtain ⟨row, hsome, hsize, hbytes⟩ := part_row hwide (by omega) hend
  refine ⟨row, hsome, hsize, fun c hc i hi => ?_⟩
  obtain ⟨-, hreach⟩ := reaches_of_pixel hc
  rw [pixel_of_reaches hpixel hreach] at hc
  cases hc
  have hcolumn : r.x.toInt.toNat + (x.toNat - r.x.toInt.toNat) = x.toNat := by omega
  have hline : r.y.toInt.toNat + (rowOf r y).toNat = y.toNat := by omega
  have hoffset : y.toNat * f.stride.toNat + 4 * x.toNat + i = y.toNat * f.stride.toNat + x.toNat * 4 + i := by
    omega
  rw [hbytes _ (by omega) i hi, hcolumn, hline, colourAt, lowBytes_getWord hi, hoffset,
    getElem?_eq_byteAt (by have := hreach.2; omega)]

/-! ## Agreement -/

/-- Pixels that a word can reach are read and written, each alone, and all others trap. A row of a view
has the bytes of its pixels. -/
structure Agreement (f : Frame) (s : PixelStore) : Prop where
  reads : ∀ x y, f.hasPixel x y = true → f.Reaches s x y → ∃ c, f.pixel s x y = .ok (some c)
  traps : ∀ x y, f.hasPixel x y = true → ¬f.Reaches s x y →
    ∃ t, f.pixel s x y = .error t ∧ ∀ colour, f.put s x y colour = .error t
  writes : f.width.toNat < 1073741824 → ∀ x y colour, f.hasPixel x y = true → f.Reaches s x y →
    ∃ f' s', f.put s x y colour = .ok (f', s') ∧ f'.pixel s' x y = .ok (some colour) ∧
      ∀ x' y', ¬(x' = x ∧ y' = y) → f'.pixel s' x' y' = f.pixel s x' y'
  rows : f.width.toNat < 1073741824 → ∀ r v x y, f.view r = .ok v → r.Has x.toNat y.toNat →
    f.hasPixel x y = true → ∃ row, v.row s (rowOf r y) = .ok (some row) ∧ row.size = 4 * r.width.toNat ∧
      ∀ c, f.pixel s x y = .ok (some c) → ∀ i < 4,
        row[4 * (x.toNat - r.x.toInt.toNat) + i]? = (Wire.lowBytes 4 c.toNat)[i]?
  /-- Nothing lies out of reach in a frame whose rows have no more bytes than a word can count. -/
  small : f.width.toNat < 1073741824 → f.stride.toNat * f.height.toNat ≤ 4294967296 →
    ∀ r v x y, f.view r = .ok v → r.Has x.toNat y.toNat → f.hasPixel x y = true ∧ f.Reaches s x y

/-- Where the rows hold their pixels and have no more bytes than a word can count, every pixel that is
part of a view is one of the frame's, and within reach. -/
theorem Rows.reaches (h : f.Rows s) (hnarrow : f.width.toNat < 1073741824)
    (hsmall : f.stride.toNat * f.height.toNat ≤ 4294967296) (hv : f.view r = .ok v)
    (hhas : r.Has x.toNat y.toNat) : f.hasPixel x y = true ∧ f.Reaches s x y := by
  have hcontains := (view_eq_ok hv).2
  have hstride := h.narrow hnarrow
  have hbytes := h.bytes
  obtain ⟨hleft, hcolumns⟩ := columns_of_contains hcontains (by omega)
  obtain ⟨htop, hrows⟩ := rows_of_contains hcontains
  simp only [Region.Has] at hhas
  have hx : x.toNat < f.width.toNat := by omega
  have hlow : f.height.toNat < 2147483647 := by
    have hfour : 4 * f.height.toNat ≤ f.stride.toNat * f.height.toNat := Nat.mul_le_mul_right _ (by omega)
    omega
  have hy : y.toNat < f.height.toNat := by
    have hend := hrows hlow
    omega
  have hle := offset_le hstride hx hy
  exact ⟨hasPixel_iff.mpr ⟨hx, hy⟩, by omega, by omega⟩

theorem Made.pixels_agree (h : Made f s handles) : f.Agreement s := by
  obtain ⟨hc, hrows⟩ := h.sound
  refine ⟨fun x y hpixel hreach => ⟨_, pixel_of_reaches hpixel hreach⟩,
    fun x y hpixel hreach => traps_of_not_reaches hc hpixel hreach, ?_, ?_, ?_⟩
  · intro hnarrow x y colour hpixel hreach
    exact put_of_reaches hc (hrows.narrow hnarrow) hpixel hreach colour
  · intro hnarrow r v x y hv hhas hpixel
    exact hrows.row hnarrow hv hhas hpixel
  · intro hnarrow hsmall r v x y hv hhas
    exact hrows.reaches hnarrow hsmall hv hhas

/-- Two rows of two pixels and a byte that belongs to neither. -/
theorem pixels_agree_padded : ∃ f s, Made f s [] ∧ f.Agreement s ∧
    f.pixel s 1 1 = .ok (some 0x100f0e0d) := by
  have hframe : ofBytes {} 2 2 9 ⟨#[0, 1, 2, 3, 4, 5, 6, 7, 8, 9, 10, 11, 12, 13, 14, 15, 16, 17]⟩ =
      .ok (⟨⟨0⟩, 2, 2, 9⟩,
        { blocks := #[⟨⟨#[0, 1, 2, 3, 4, 5, 6, 7, 8, 9, 10, 11, 12, 13, 14, 15, 16, 17]⟩, 1⟩] }) := rfl
  have hmade := Made.ofBytes PixelStore.counts_empty hframe
  exact ⟨_, _, hmade, hmade.pixels_agree, rfl⟩

/-- A pixel can be too far down for its offset, though its row is there. -/
theorem pixel_out_of_reach : ∃ f s v row, Frame.new {} 65536 16385 = .ok (f, s) ∧
    f.view ⟨0, 16384, 1, 1⟩ = .ok v ∧ v.row s 0 = .ok (some row) ∧ (⟨0, 16384, 1, 1⟩ : Region).Has 0 16384 ∧
    f.pixel s 0 16384 = .error .multiplyOverflow ∧
    ∀ colour, f.put s 0 16384 colour = .error .multiplyOverflow := by
  have hnew : Frame.new {} 65536 16385 =
      .ok (⟨⟨0⟩, 65536, 16385, 262144⟩, (PixelStore.allocate {} (zeros (262144 * 16385))).2) := rfl
  have hview : (⟨⟨0⟩, 65536, 16385, 262144⟩ : Frame).view ⟨0, 16384, 1, 1⟩ =
      .ok ((⟨⟨0⟩, 65536, 16385, 262144⟩ : Frame).part ⟨0, 16384, 1, 1⟩) := rfl
  have hrows := (Made.new PixelStore.counts_empty hnew).sound.2
  obtain ⟨row, hrow, -, -⟩ := hrows.row (x := 0) (y := 16384) (by decide) hview (by decide) (by decide)
  exact ⟨_, _, _, row, hnew, hview, hrow, by decide, rfl, fun _ => rfl⟩

end Frame

end RemoteDisplay
