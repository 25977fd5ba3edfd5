import RemoteDisplay.Proofs.Frame.Covering
import RemoteDisplay.Proofs.Frame.Holders
import RemoteDisplay.Proofs.Frame.Words
import RemoteDisplay.Proofs.Geometry.Region

/-!
# Views of a complete frame

A frame whose rows are all there has a view of every region inside it. The view can be copied with the
frame's own stride, and its rows are parts of the frame's.
-/

namespace RemoteDisplay

namespace Region

/-- A region inside an area that starts at zero begins and ends inside it. -/
theorem Inside.of_zero {r : Region} {width height : UInt32} (h : r.Inside ⟨0, 0, width, height⟩) :
    0 ≤ r.x.toInt ∧ 0 < r.width.toNat ∧ r.x.toInt.toNat + r.width.toNat ≤ width.toNat ∧
      0 ≤ r.y.toInt ∧ 0 < r.height.toNat ∧ r.y.toInt.toNat + r.height.toNat ≤ height.toNat := by
  have hzero : (0 : Int32).toInt = 0 := rfl
  have hright := right_eq ⟨0, 0, width, height⟩
  have hbottom := bottom_eq ⟨0, 0, width, height⟩
  obtain ⟨hleft, htop, hr, hb, hwidth, hheight, hwide, hhigh⟩ := h
  simp only [hzero] at hleft htop hright hbottom
  omega

/-- Nothing is clamped when such a region is placed. -/
theorem Inside.rect {r : Region} {width height : UInt32} (h : r.Inside ⟨0, 0, width, height⟩) :
    Rect.ofOrigin? r.x r.y r.width r.height = some ⟨r.y, r.x, r.bottom, r.right⟩ := by
  obtain ⟨hx, -, -, hy, -, -⟩ := h.of_zero
  have hwidth := h.width
  have hheight := h.height
  have hright := r.right.toInt_lt
  have hbottom := r.bottom.toInt_lt
  apply Rect.ofOrigin?_eq_some_iff.mpr
  refine ⟨⟨rfl, rfl, ?_, ?_⟩, by omega, by omega⟩ <;>
    · simp only
      omega

end Region

namespace Frame

/-- The frame has a size, its rows are there and do not overlap, and somebody holds it. -/
structure Complete (f : Frame) (s : PixelStore) (width height : UInt32) : Prop where
  size : f.width = width ∧ f.height = height
  stride : width.toNat * bytesPerPixel ≤ f.stride.toNat
  bytes : f.stride.toNat * height.toNat ≤ (s.bytes f.block).size
  held : 0 < s.holders f.block

/-- The view of a region of the frame. -/
def part (f : Frame) (r : Region) : View where
  block := f.block
  offset := r.y.toInt.toNat * f.stride.toNat + r.x.toInt.toNat * bytesPerPixel
  width := r.width
  height := r.height
  stride := f.stride

variable {f : Frame} {s : PixelStore} {width height : UInt32} {r : Region}

/-- One holder more does not change the frame. -/
theorem Complete.retain (h : f.Complete s width height) : f.Complete (s.retain f.block) width height where
  size := h.size
  stride := h.stride
  bytes := by
    rw [PixelStore.bytes_retain]
    exact h.bytes
  held := by
    obtain ⟨b, hb, -⟩ := PixelStore.block_of_holders h.held
    have hholders := (PixelStore.modify_self hb fun b => { b with holders := b.holders + 1 }).2
    exact Nat.lt_of_lt_of_eq (Nat.succ_pos _) hholders.symm

theorem Complete.view (h : f.Complete s width height) (hr : r.Inside ⟨0, 0, width, height⟩) :
    f.view r = .ok (f.part r) := by
  have hcontains : f.bounds.contains r = true := by
    simp only [bounds, h.size.1, h.size.2, Region.contains, decide_eq_true_eq, Int32.le_iff_toInt_le]
    exact ⟨hr.left, hr.top, hr.right, hr.bottom⟩
  rw [Frame.view, if_neg]
  · rfl
  · simp [hr.isEmpty, hcontains]

/-- If the rows of the frame hold its pixels, the last one in a row of the part lies in the frame. -/
theorem part_row_le (hstride : f.width.toNat * 4 ≤ f.stride.toNat)
    (hbytes : f.stride.toNat * f.height.toNat ≤ (s.bytes f.block).size)
    (hcolumns : r.x.toInt.toNat + r.width.toNat ≤ f.width.toNat) {y : Nat}
    (hy : r.y.toInt.toNat + y < f.height.toNat) :
    (f.part r).offset + (y * f.stride.toNat + r.width.toNat * bytesPerPixel) ≤
      (s.bytes f.block).size := by
  have hrows : (r.y.toInt.toNat + y + 1) * f.stride.toNat ≤ f.height.toNat * f.stride.toNat :=
    Nat.mul_le_mul_right _ hy
  rw [Nat.mul_comm f.stride.toNat] at hbytes
  rw [Nat.add_mul, Nat.add_mul, Nat.one_mul] at hrows
  simp only [part, bytesPerPixel]
  omega

theorem Complete.row_le (h : f.Complete s width height) (hr : r.Inside ⟨0, 0, width, height⟩) {y : Nat}
    (hy : y < r.height.toNat) :
    (f.part r).offset + (y * f.stride.toNat + r.width.toNat * bytesPerPixel) ≤
      (s.bytes f.block).size := by
  obtain ⟨-, -, hwidth, -, -, hheight⟩ := hr.of_zero
  obtain ⟨hw, hh⟩ := h.size
  exact part_row_le (hw ▸ h.stride) (hh ▸ h.bytes) (hw ▸ hwidth) (by rw [hh]; omega)

theorem Complete.narrow (h : f.Complete s width height) (hr : r.Inside ⟨0, 0, width, height⟩) :
    r.width.toNat * bytesPerPixel ≤ f.stride.toNat := by
  obtain ⟨-, -, hwidth, -⟩ := hr.of_zero
  exact Nat.le_trans (Nat.mul_le_mul_right _ (by omega)) h.stride

theorem Complete.covers (h : f.Complete s width height) (hr : r.Inside ⟨0, 0, width, height⟩) :
    (f.part r).covers s r.width r.height f.stride = .ok true := by
  obtain ⟨-, hw, -, -, hh, -⟩ := hr.of_zero
  have hlast := h.row_le hr (y := r.height.toNat - 1) (by omega)
  have hwide := h.narrow hr
  have hblock : (f.part r).block = f.block := rfl
  rw [View.covers_iff, hblock, lastEnd]
  refine ⟨⟨?_, ?_, hwide⟩, by omega, by omega⟩
  · intro hzero
    simp [hzero] at hw
  · intro hzero
    simp [hzero] at hh

/-- A row of the part is a piece of the frame's row. -/
theorem part_row {y : UInt32} (hwidth : r.width.toNat * bytesPerPixel ≤ f.stride.toNat) (hy : y.toNat < r.height.toNat)
    (hend : (f.part r).offset + (y.toNat * f.stride.toNat + r.width.toNat * bytesPerPixel) ≤
      (s.bytes f.block).size) :
    ∃ row, (f.part r).row s y = .ok (some row) ∧ row.size = 4 * r.width.toNat ∧
      ∀ x < r.width.toNat, ∀ i < 4, row[4 * x + i]? = (s.bytes f.block)[
        (r.y.toInt.toNat + y.toNat) * f.stride.toNat + 4 * (r.x.toInt.toNat + x) + i]? := by
  have hpixel : bytesPerPixel = 4 := rfl
  have hwide : r.width.toNat * bytesPerPixel = 4 * r.width.toNat := Nat.mul_comm _ _
  have hblock : (f.part r).block = f.block := rfl
  have hrow : (f.part r).row s y = .ok (some ((s.bytes f.block).extract
      ((f.part r).offset + y.toNat * f.stride.toNat)
      ((f.part r).offset + (y.toNat * f.stride.toNat + r.width.toNat * bytesPerPixel)))) := by
    -- The row starts a row of the frame or more before the limit of a product of words.
    have hproduct : y.toNat * f.stride.toNat ≤ 4294967294 * 4294967295 :=
      Nat.mul_le_mul (by have := r.height.toNat_lt; omega) (by have := f.stride.toNat_lt; omega)
    have hstride := f.stride.toNat_lt
    obtain ⟨stop, hstop, hvalue⟩ := Checked.exists_u64 .addOverflow
      (n := y.toNat * f.stride.toNat + r.width.toNat * bytesPerPixel) (by omega)
    have hlength := View.length_of_le (v := f.part r) (s := s) (by rw [hblock]; omega)
    rw [hblock] at hlength
    rw [View.row, if_pos (show y < (f.part r).height from UInt32.lt_iff_toNat_lt.mpr hy), hlength]
    simp only [bind, Except.bind]
    rw [show (f.part r).stride = f.stride from rfl, show (f.part r).width = r.width from rfl, hstop]
    simp only [hvalue, hblock]
    rw [if_pos (by omega)]
    rfl
  refine ⟨_, hrow, ?_, ?_⟩
  · rw [ByteArray.size_extract]
    omega
  · intro x hx i hi
    rw [getElem?_extract (by omega) hend]
    congr 1
    simp only [part, hpixel]
    rw [Nat.add_mul]
    omega

theorem Complete.row (h : f.Complete s width height) (hr : r.Inside ⟨0, 0, width, height⟩) {y : UInt32}
    (hy : y.toNat < r.height.toNat) :
    ∃ row, (f.part r).row s y = .ok (some row) ∧ row.size = 4 * r.width.toNat ∧
      ∀ x < r.width.toNat, ∀ i < 4, row[4 * x + i]? = (s.bytes f.block)[
        (r.y.toInt.toNat + y.toNat) * f.stride.toNat + 4 * (r.x.toInt.toNat + x) + i]? :=
  part_row (h.narrow hr) hy (h.row_le hr hy)

end Frame

end RemoteDisplay
