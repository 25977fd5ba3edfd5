import RemoteDisplay.Frame.Basic
import RemoteDisplay.Proofs.Checked

/-!
# Rows that a view covers

A view covers rows when the last of them ends inside it, and then each of them does. The end of the
last row is computed in 64 bits. With rows as long as words allow the sum is close to the limit, and it
stays below because a row that is longer than the stride was refused before.
-/

namespace RemoteDisplay

/-! ## Rows and their ends -/

/-- That many bytes have rows of pixels to read: there are some, one does not reach into the next, and
none ends past the last byte. -/
structure RowsFit (length : Nat) (width height stride : UInt32) : Prop where
  wide : width ≠ 0
  high : height ≠ 0
  apart : 4 * width.toNat ≤ stride.toNat
  inside : ∀ row < height.toNat, row * stride.toNat + 4 * width.toNat ≤ length

/-- Where the last row ends. -/
def lastEnd (width height stride : UInt32) : Nat :=
  (height.toNat - 1) * stride.toNat + width.toNat * bytesPerPixel

variable {width height stride : UInt32} {length : Nat}

theorem toNat_pos_of_ne_zero {n : UInt32} (h : n ≠ 0) : 0 < n.toNat := by
  rw [Nat.pos_iff_ne_zero, ne_eq, ← UInt32.toNat_zero, UInt32.toNat_inj]
  exact h

/-- The last row ends last. -/
theorem rowsFit_iff : RowsFit length width height stride ↔
    width ≠ 0 ∧ height ≠ 0 ∧ width.toNat * bytesPerPixel ≤ stride.toNat ∧
      lastEnd width height stride ≤ length := by
  have hrow : width.toNat * bytesPerPixel = 4 * width.toNat := Nat.mul_comm _ _
  rw [lastEnd, hrow]
  constructor
  · rintro ⟨hwide, hhigh, hapart, hinside⟩
    have hpos := toNat_pos_of_ne_zero hhigh
    exact ⟨hwide, hhigh, hapart, hinside (height.toNat - 1) (by omega)⟩
  · rintro ⟨hwide, hhigh, hapart, hlast⟩
    refine ⟨hwide, hhigh, hapart, fun row hlt => ?_⟩
    have hstart : row * stride.toNat ≤ (height.toNat - 1) * stride.toNat :=
      Nat.mul_le_mul_right _ (by omega)
    omega

/-- The product alone is below (2^32 - 1)^2, and the stride leaves room for one row more. -/
theorem lastEnd_lt (hapart : width.toNat * bytesPerPixel ≤ stride.toNat) :
    lastEnd width height stride < 18446744073709551616 := by
  have hheight := height.toNat_lt
  have hstride := stride.toNat_lt
  have hproduct : (height.toNat - 1) * stride.toNat ≤ 4294967294 * 4294967295 :=
    Nat.mul_le_mul (by omega) (by omega)
  rw [lastEnd]
  omega

namespace View

variable {v : View} {s : PixelStore} {bytes : ByteArray} {trap : Trap}

theorem length_of_le (h : v.offset ≤ (s.bytes v.block).size) :
    v.length s = .ok ((s.bytes v.block).size - v.offset) := if_pos h

/-- Only a view that starts past the end of its memory has no bytes, not even none. -/
theorem bytes_eq_ok : v.bytes s = .ok bytes ↔
    v.offset ≤ (s.bytes v.block).size ∧
      bytes = (s.bytes v.block).extract v.offset (s.bytes v.block).size := by
  by_cases h : v.offset ≤ (s.bytes v.block).size
  · rw [View.bytes, length_of_le h]
    have hend : v.offset + ((s.bytes v.block).size - v.offset) = (s.bytes v.block).size := by omega
    simp only [bind, Except.bind, pure, Except.pure, hend, Except.ok.injEq, h, true_and]
    exact eq_comm
  · simp [View.bytes, length, h, bind, Except.bind]

theorem bytes_eq_error : v.bytes s = .error trap ↔
    (s.bytes v.block).size < v.offset ∧ trap = .pastStart v.offset (s.bytes v.block).size := by
  by_cases h : v.offset ≤ (s.bytes v.block).size
  · simp [View.bytes, length_of_le h, bind, Except.bind, pure, Except.pure, Nat.not_lt.mpr h]
  · simp [View.bytes, length, if_neg h, bind, Except.bind, Nat.lt_of_not_le h, eq_comm]

/-! ## The computation -/

/-- Without pixels, or with rows that reach into each other, nothing is computed. -/
theorem covers_of_refused
    (h : width = 0 ∨ height = 0 ∨ stride.toNat < width.toNat * bytesPerPixel) :
    v.covers s width height stride = .ok false := by
  by_cases hempty : width = 0 ∨ height = 0
  · rw [covers, if_pos hempty]
  · have hshort := (h.resolve_left fun hwide => hempty (.inl hwide)).resolve_left
      fun hhigh => hempty (.inr hhigh)
    have hwidth := width.toNat_lt
    obtain ⟨row, hrow, hvalue⟩ := Checked.exists_u64 .multiplyOverflow
      (n := width.toNat * bytesPerPixel) (by simp only [bytesPerPixel]; omega)
    rw [covers, if_neg hempty]
    simp only [hrow, bind, Except.bind]
    rw [if_pos (hvalue ▸ hshort)]

/-- Otherwise every step stays in range, and the end of the last row is compared. -/
theorem covers_of_apart (hwide : width ≠ 0) (hhigh : height ≠ 0)
    (hapart : width.toNat * bytesPerPixel ≤ stride.toNat) :
    v.covers s width height stride =
      (v.length s).map fun length => decide (lastEnd width height stride ≤ length) := by
  have hlast : lastEnd width height stride < 18446744073709551616 := lastEnd_lt hapart
  have hstride := stride.toNat_lt
  have hheight := height.toNat_lt
  have hpos := toNat_pos_of_ne_zero hhigh
  unfold lastEnd at hlast ⊢
  obtain ⟨row, hrow, hrowValue⟩ := Checked.exists_u64 .multiplyOverflow
    (n := width.toNat * bytesPerPixel) (by omega)
  obtain ⟨above, habove, haboveValue⟩ := Checked.exists_minus (m := height.toNat) hpos (by omega)
  obtain ⟨skipped, hskipped, hskippedValue⟩ := Checked.exists_u64 .multiplyOverflow
    (n := (height.toNat - 1) * stride.toNat) (by omega)
  obtain ⟨needed, hneeded, hneededValue⟩ := Checked.exists_u64 .addOverflow hlast
  rw [covers, if_neg (by simp [hwide, hhigh])]
  simp only [hrow, bind, Except.bind]
  rw [if_neg (by omega), habove]
  simp only [haboveValue, hskipped, hskippedValue, hrowValue, hneeded, hneededValue]
  cases v.length s <;> rfl

/-- Some pixels are asked for, in rows that do not reach into each other. -/
def Apart (width height stride : UInt32) : Prop :=
  width ≠ 0 ∧ height ≠ 0 ∧ width.toNat * bytesPerPixel ≤ stride.toNat

theorem refused_of_not_apart (h : ¬Apart width height stride) :
    width = 0 ∨ height = 0 ∨ stride.toNat < width.toNat * bytesPerPixel := by
  by_cases hwide : width = 0
  · exact .inl hwide
  · by_cases hhigh : height = 0
    · exact .inr (.inl hhigh)
    · exact .inr (.inr (Nat.lt_of_not_le fun hapart => h ⟨hwide, hhigh, hapart⟩))

/-! ## The answer -/

theorem covers_iff : v.covers s width height stride = .ok true ↔
    Apart width height stride ∧ v.offset ≤ (s.bytes v.block).size ∧
      lastEnd width height stride ≤ (s.bytes v.block).size - v.offset := by
  by_cases hapart : Apart width height stride
  · rw [covers_of_apart hapart.1 hapart.2.1 hapart.2.2]
    by_cases hstart : v.offset ≤ (s.bytes v.block).size
    · simp [length_of_le hstart, Except.map, hapart, hstart]
    · simp [length, Except.map, hstart]
  · simp [covers_of_refused (refused_of_not_apart hapart), hapart]

/-- Every question has an answer, unless bytes are asked of a view that has none. -/
theorem covers_eq_error : v.covers s width height stride = .error trap ↔
    Apart width height stride ∧ v.bytes s = .error trap := by
  rw [bytes_eq_error]
  by_cases hapart : Apart width height stride
  · rw [covers_of_apart hapart.1 hapart.2.1 hapart.2.2]
    by_cases hstart : v.offset ≤ (s.bytes v.block).size
    · simp [length_of_le hstart, Except.map, Nat.not_lt.mpr hstart]
    · simp [length, if_neg hstart, Except.map, hapart, Nat.lt_of_not_le hstart, eq_comm]
  · simp [covers_of_refused (refused_of_not_apart hapart), hapart]

theorem covers_iff_rowsFit : v.covers s width height stride = .ok true ↔
    ∃ bytes, v.bytes s = .ok bytes ∧ RowsFit bytes.size width height stride := by
  have hsize : ((s.bytes v.block).extract v.offset (s.bytes v.block).size).size =
      (s.bytes v.block).size - v.offset := by rw [ByteArray.size_extract, Nat.min_self]
  simp only [covers_iff, bytes_eq_ok, rowsFit_iff, Apart]
  constructor
  · rintro ⟨⟨hwide, hhigh, hapart⟩, hstart, hlast⟩
    exact ⟨_, ⟨hstart, rfl⟩, hwide, hhigh, hapart, hsize ▸ hlast⟩
  · rintro ⟨-, ⟨hstart, rfl⟩, hwide, hhigh, hapart, hlast⟩
    exact ⟨⟨hwide, hhigh, hapart⟩, hstart, hsize ▸ hlast⟩

/-- What a view answers about rows. -/
structure Covering (v : View) (s : PixelStore) (width height stride : UInt32) : Prop where
  rows : v.covers s width height stride = .ok true ↔
    ∃ bytes, v.bytes s = .ok bytes ∧ RowsFit bytes.size width height stride
  /-- Nothing leaves its range. There is no answer only if the view has no bytes, not even none. -/
  trapped : ∀ trap, v.covers s width height stride = .error trap ↔
    Apart width height stride ∧ (s.bytes v.block).size < v.offset ∧
      trap = .pastStart v.offset (s.bytes v.block).size

theorem covering (v : View) (s : PixelStore) (width height stride : UInt32) :
    v.Covering s width height stride :=
  ⟨covers_iff_rowsFit, fun _ => by rw [covers_eq_error, bytes_eq_error]⟩

end View

end RemoteDisplay
