import RemoteDisplay.Geometry.Region
import RemoteDisplay.Proofs.Geometry.Rect

/-!
# Intersections and unions by their pixels

The far edge of a region is clamped, so it is at most the largest coordinate away from the near one.
Hence the common part of two regions has the edges of its corners without any more clamping, and so
has a union inside a third region.
-/

namespace RemoteDisplay

/-! ## Edges -/

theorem toInt_max (m n : Int32) : (max m n).toInt = max m.toInt n.toInt := by
  have hmax : max m n = if m ≤ n then n else m := rfl
  rw [hmax]
  split
  · rename_i hle
    rw [Int32.le_iff_toInt_le] at hle
    omega
  · rename_i hlt
    rw [Int32.le_iff_toInt_le] at hlt
    omega

theorem toInt_min (m n : Int32) : (min m n).toInt = min m.toInt n.toInt := by
  have hmin : min m n = if m ≤ n then m else n := rfl
  rw [hmin]
  split
  · rename_i hle
    rw [Int32.le_iff_toInt_le] at hle
    omega
  · rename_i hlt
    rw [Int32.le_iff_toInt_le] at hlt
    omega

namespace Region

variable {a b r : Region} {px py : Int}

theorem right_eq (r : Region) :
    r.right.toInt = min (r.x.toInt + min (r.width.toNat : Int) 2147483647) 2147483647 :=
  Rect.toInt_clampedEdge r.x r.width

theorem bottom_eq (r : Region) :
    r.bottom.toInt = min (r.y.toInt + min (r.height.toNat : Int) 2147483647) 2147483647 :=
  Rect.toInt_clampedEdge r.y r.height

theorem isEmpty_eq_false : r.isEmpty = false ↔ 0 < r.width.toNat ∧ 0 < r.height.toNat := by
  have hzero : ∀ n : UInt32, 0 < n.toNat ↔ n ≠ 0 := by
    intro n
    rw [Nat.pos_iff_ne_zero, ne_eq, ne_eq, ← UInt32.toNat_inj, UInt32.toNat_zero]
  rw [hzero, hzero]
  simp [isEmpty]

theorem eq_of_size {a b : Region} (hx : a.x.toInt = b.x.toInt) (hy : a.y.toInt = b.y.toInt)
    (hwidth : a.width.toNat = b.width.toNat) (hheight : a.height.toNat = b.height.toNat) : a = b := by
  cases a
  cases b
  simp_all [Int32.toInt_inj, UInt32.toNat_inj]

/-! ## Corners -/

/-- The region reaches from one corner to the other, and nothing of it is clamped. -/
structure Reaches (r : Region) (x1 y1 x2 y2 : Int) : Prop where
  x : r.x.toInt = x1
  y : r.y.toInt = y1
  right : r.right.toInt = x2
  bottom : r.bottom.toInt = y2
  width : (r.width.toNat : Int) = x2 - x1
  height : (r.height.toNat : Int) = y2 - y1

theorem length_between {m n : Int32} (hle : m.toInt ≤ n.toInt) :
    (min m n).toInt = m.toInt ∧
    ((UInt32.ofNat ((max m n).toInt - (min m n).toInt).toNat).toNat : Int) = n.toInt - m.toInt := by
  have hlow := m.le_toInt
  have hhigh := n.toInt_lt
  have hmin : (min m n).toInt = m.toInt := by
    rw [toInt_min]
    omega
  have hmax : (max m n).toInt = n.toInt := by
    rw [toInt_max]
    omega
  have hlength : (UInt32.ofNat (n.toInt - m.toInt).toNat).toNat = (n.toInt - m.toInt).toNat :=
    UInt32.toNat_ofNat_of_lt' (by simp only [UInt32.size]; omega)
  rw [hmin, hmax, hlength]
  omega

/-- The length between two coordinates reaches from one to the other. -/
theorem clampedEdge_between {m n : Int32} (hle : m.toInt ≤ n.toInt)
    (hspan : n.toInt - m.toInt ≤ 2147483647) :
    (min m n).toInt = m.toInt ∧
    ((UInt32.ofNat ((max m n).toInt - (min m n).toInt).toNat).toNat : Int) = n.toInt - m.toInt ∧
    (Rect.clampedEdge (min m n)
      (UInt32.ofNat ((max m n).toInt - (min m n).toInt).toNat)).toInt = n.toInt := by
  have hhigh := n.toInt_lt
  obtain ⟨hmin, hlength⟩ := length_between hle
  refine ⟨hmin, hlength, ?_⟩
  rw [Rect.toInt_clampedEdge, hlength, hmin]
  omega

theorem reaches_ofCorners (x1 y1 x2 y2 : Int32) (hx : x1.toInt ≤ x2.toInt)
    (hwide : x2.toInt - x1.toInt ≤ 2147483647) (hy : y1.toInt ≤ y2.toInt)
    (hhigh : y2.toInt - y1.toInt ≤ 2147483647) :
    (ofCorners x1 y1 x2 y2).Reaches x1.toInt y1.toInt x2.toInt y2.toInt := by
  obtain ⟨hleft, hwidth, hright⟩ := clampedEdge_between hx hwide
  obtain ⟨htop, hheight, hbottom⟩ := clampedEdge_between hy hhigh
  exact ⟨hleft, htop, hright, hbottom, hwidth, hheight⟩

/-! ## Intersections -/

/-- On one axis: two lengths overlap if neither is zero and each starts before the other ends. -/
theorem overlap_iff (s t : Int32) (m n : UInt32) :
    max s.toInt t.toInt < min (Rect.clampedEdge s m).toInt (Rect.clampedEdge t n).toInt ↔
      0 < m.toNat ∧ 0 < n.toNat ∧ t.toInt < (Rect.clampedEdge s m).toInt ∧
        s.toInt < (Rect.clampedEdge t n).toInt := by
  have hm := Rect.toInt_clampedEdge s m
  have hn := Rect.toInt_clampedEdge t n
  constructor
  · intro h
    omega
  · rintro ⟨hpos, hpos', hst, hts⟩
    omega

theorem intersects_iff : a.intersects b = true ↔
    max a.x.toInt b.x.toInt < min a.right.toInt b.right.toInt ∧
      max a.y.toInt b.y.toInt < min a.bottom.toInt b.bottom.toInt := by
  simp only [right, bottom, overlap_iff, intersects, Bool.not_eq_true', Bool.or_eq_false_iff,
    isEmpty_eq_false, decide_eq_false_iff_not, Int32.le_iff_toInt_le, Int.not_le]
  constructor
  · rintro ⟨⟨⟨⟨⟨⟨haw, hah⟩, hbw, hbh⟩, hab⟩, hba⟩, hab'⟩, hba'⟩
    exact ⟨⟨haw, hbw, hab, hba⟩, hah, hbh, hab', hba'⟩
  · rintro ⟨⟨haw, hbw, hab, hba⟩, hah, hbh, hab', hba'⟩
    exact ⟨⟨⟨⟨⟨⟨haw, hah⟩, hbw, hbh⟩, hab⟩, hba⟩, hab'⟩, hba'⟩

theorem reaches_intersection (h : a.intersection b = some r) :
    r.Reaches (max a.x.toInt b.x.toInt) (max a.y.toInt b.y.toInt) (min a.right.toInt b.right.toInt)
        (min a.bottom.toInt b.bottom.toInt) ∧
      r.x.toInt < r.right.toInt ∧ r.y.toInt < r.bottom.toInt := by
  unfold intersection at h
  split at h
  · rename_i hmeet
    obtain ⟨hwide, hhigh⟩ := intersects_iff.mp hmeet
    have hright := a.right_eq
    have hbottom := a.bottom_eq
    cases h
    have hr := reaches_ofCorners (max a.x b.x) (max a.y b.y) (min a.right b.right) (min a.bottom b.bottom)
      (by rw [toInt_max, toInt_min]; omega)
      (by rw [toInt_max, toInt_min]; omega) (by rw [toInt_max, toInt_min]; omega)
      (by rw [toInt_max, toInt_min]; omega)
    rw [toInt_max, toInt_max, toInt_min, toInt_min] at hr
    exact ⟨hr, by rw [hr.x, hr.right]; exact hwide, by rw [hr.y, hr.bottom]; exact hhigh⟩
  · cases h

theorem mem_intersection (h : a.intersection b = some r) :
    r.Mem px py ↔ a.Mem px py ∧ b.Mem px py := by
  obtain ⟨hr, -, -⟩ := reaches_intersection h
  simp only [Mem, hr.x, hr.y, hr.right, hr.bottom]
  omega

theorem intersection_of_mem (ha : a.Mem px py) (hb : b.Mem px py) : ∃ r, a.intersection b = some r := by
  have hmeet : a.intersects b = true := by
    rw [intersects_iff]
    simp only [Mem] at ha hb
    omega
  exact ⟨_, by rw [intersection, if_pos hmeet]⟩

/-! ## Regions inside another -/

/-- A region that has pixels, all of them in `bounds`, with far edges that are not clamped. -/
structure Inside (r bounds : Region) : Prop where
  left : bounds.x.toInt ≤ r.x.toInt
  top : bounds.y.toInt ≤ r.y.toInt
  right : r.right.toInt ≤ bounds.right.toInt
  bottom : r.bottom.toInt ≤ bounds.bottom.toInt
  width : (r.width.toNat : Int) = r.right.toInt - r.x.toInt
  height : (r.height.toNat : Int) = r.bottom.toInt - r.y.toInt
  wide : r.x.toInt < r.right.toInt
  high : r.y.toInt < r.bottom.toInt

theorem inside_of_intersection {bounds : Region} (h : a.intersection bounds = some r) :
    r.Inside bounds := by
  obtain ⟨hr, hwide, hhigh⟩ := reaches_intersection h
  refine ⟨?_, ?_, ?_, ?_, by rw [hr.width, hr.x, hr.right], by rw [hr.height, hr.y, hr.bottom], hwide, hhigh⟩
  · rw [hr.x]
    omega
  · rw [hr.y]
    omega
  · rw [hr.right]
    omega
  · rw [hr.bottom]
    omega

theorem Inside.isEmpty {bounds : Region} (h : r.Inside bounds) : r.isEmpty = false := by
  have hwidth := h.width
  have hheight := h.height
  have hwide := h.wide
  have hhigh := h.high
  rw [isEmpty_eq_false]
  omega

/-- Inside a third region nothing of a union is clamped. -/
theorem Inside.reaches_union {bounds : Region} (ha : a.Inside bounds) (hb : b.Inside bounds) :
    (a.union b).Reaches (min a.x.toInt b.x.toInt) (min a.y.toInt b.y.toInt)
      (max a.right.toInt b.right.toInt) (max a.bottom.toInt b.bottom.toInt) := by
  have hright := bounds.right_eq
  have hbottom := bounds.bottom_eq
  have hunion : a.union b =
      ofCorners (min a.x b.x) (min a.y b.y) (max a.right b.right) (max a.bottom b.bottom) := by
    rw [Region.union, ha.isEmpty, hb.isEmpty]
    rfl
  obtain ⟨haleft, hatop, haright, habottom, -, -, hawide, hahigh⟩ := ha
  obtain ⟨hbleft, hbtop, hbright, hbbottom, -, -, hbwide, hbhigh⟩ := hb
  have hr := reaches_ofCorners (min a.x b.x) (min a.y b.y) (max a.right b.right) (max a.bottom b.bottom)
    (by rw [toInt_max, toInt_min]; omega)
    (by rw [toInt_max, toInt_min]; omega) (by rw [toInt_max, toInt_min]; omega)
    (by rw [toInt_max, toInt_min]; omega)
  rw [toInt_max, toInt_max, toInt_min, toInt_min, ← hunion] at hr
  exact hr

/-- The union of two regions inside another is inside it and has the pixels of both. -/
theorem Inside.union {bounds : Region} (ha : a.Inside bounds) (hb : b.Inside bounds) :
    (a.union b).Inside bounds ∧ ∀ {px py : Int}, a.Mem px py ∨ b.Mem px py → (a.union b).Mem px py := by
  obtain ⟨hx, hy, hr, hb', hwidth, hheight⟩ := ha.reaches_union hb
  obtain ⟨haleft, hatop, haright, habottom, -, -, hawide, hahigh⟩ := ha
  obtain ⟨hbleft, hbtop, hbright, hbbottom, -, -, hbwide, hbhigh⟩ := hb
  constructor
  · constructor <;> omega
  · simp only [Mem, hx, hy, hr, hb']
    omega

end Region

end RemoteDisplay
