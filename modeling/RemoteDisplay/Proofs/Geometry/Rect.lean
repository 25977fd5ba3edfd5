import RemoteDisplay.Geometry.Rect

/-!
# Rectangles by origin and size

An edge that exists is where the length says, and a clamped one is not further away. `Rect.Mem` says
which pixels a rectangle has.
-/

namespace RemoteDisplay.Rect

variable {x y start edge : Int32} {length width height : UInt32} {r : Rect} {px py : Int}

theorem toInt_clampedEdge (start : Int32) (length : UInt32) :
    (clampedEdge start length).toInt =
      min (start.toInt + min (length.toNat : Int) 2147483647) 2147483647 := by
  have hlow := start.le_toInt
  simp only [clampedEdge, span, maxCoordinate]
  exact Int32.toInt_ofInt_of_le (by omega) (by omega)

theorem edge?_eq_some_iff : edge? start length = some edge ↔
    edge.toInt = start.toInt + length.toNat ∧ length.toNat ≤ 2147483647 := by
  have hlow := start.le_toInt
  constructor
  · intro h
    unfold edge? at h
    split at h
    · rename_i hfits
      simp only [maxCoordinate] at hfits
      cases h
      exact ⟨Int32.toInt_ofInt_of_le (by omega) (by omega), by omega⟩
    · cases h
  · rintro ⟨hedge, hsmall⟩
    have hhigh := edge.toInt_lt
    have hfits : (length.toNat : Int) ≤ maxCoordinate ∧ start.toInt + length.toNat ≤ maxCoordinate := by
      simp only [maxCoordinate]
      omega
    rw [edge?, if_pos hfits, ← hedge, Int32.ofInt_toInt]

theorem toInt_of_edge? (h : edge? start length = some edge) :
    edge.toInt = start.toInt + length.toNat :=
  (edge?_eq_some_iff.mp h).1

theorem edge?_zero (h : length.toNat ≤ 2147483647) : edge? 0 length = some (clampedEdge 0 length) := by
  have hfits : (length.toNat : Int) ≤ maxCoordinate := by
    simp only [maxCoordinate]
    omega
  have hzero : (0 : Int32).toInt = 0 := rfl
  rw [edge?, clampedEdge, span, hzero, Int.zero_add, Int.zero_add, if_pos ⟨hfits, hfits⟩,
    Int.min_eq_left hfits, Int.min_eq_left hfits]

theorem ofOrigin?_zero (hw : width.toNat ≤ 2147483647) (hh : height.toNat ≤ 2147483647) :
    ofOrigin? 0 0 width height = some (ofOrigin 0 0 width height) := by
  rw [ofOrigin?, edge?_zero hw, edge?_zero hh]
  rfl

theorem origin_of_ofOrigin? (h : ofOrigin? x y width height = some r) : r.left = x ∧ r.top = y := by
  unfold ofOrigin? at h
  split at h
  · cases h
    exact ⟨rfl, rfl⟩
  · cases h

/-- The rectangle starts at an origin and reaches as far as a size, without clamping. -/
structure Spans (r : Rect) (x y : Int32) (width height : UInt32) : Prop where
  left : r.left = x
  top : r.top = y
  right : r.right.toInt = x.toInt + width.toNat
  bottom : r.bottom.toInt = y.toInt + height.toNat

theorem ofOrigin?_eq_some_iff : ofOrigin? x y width height = some r ↔
    r.Spans x y width height ∧ width.toNat ≤ 2147483647 ∧ height.toNat ≤ 2147483647 := by
  constructor
  · intro h
    unfold ofOrigin? at h
    split at h
    · rename_i hright hbottom
      cases h
      obtain ⟨hr, hw⟩ := edge?_eq_some_iff.mp hright
      obtain ⟨hb, hh⟩ := edge?_eq_some_iff.mp hbottom
      exact ⟨⟨rfl, rfl, hr, hb⟩, hw, hh⟩
    · cases h
  · rintro ⟨h, hw, hh⟩
    have hright : edge? x width = some r.right := edge?_eq_some_iff.mpr ⟨h.right, hw⟩
    have hbottom : edge? y height = some r.bottom := edge?_eq_some_iff.mpr ⟨h.bottom, hh⟩
    rw [ofOrigin?, hright, hbottom, ← h.left, ← h.top]

theorem spans_of_ofOrigin? (h : ofOrigin? x y width height = some r) : r.Spans x y width height :=
  (ofOrigin?_eq_some_iff.mp h).1

theorem size_of_ofOrigin? (h : ofOrigin? x y width height = some r) :
    width.toNat ≤ 2147483647 ∧ height.toNat ≤ 2147483647 :=
  (ofOrigin?_eq_some_iff.mp h).2

/-- The rectangle lies on an area of a size that starts at zero. -/
structure Within (r : Rect) (width height : UInt32) : Prop where
  left : 0 ≤ r.left.toInt
  top : 0 ≤ r.top.toInt
  right : r.right.toInt ≤ width.toNat
  bottom : r.bottom.toInt ≤ height.toNat

/-- Clamping the area cuts off nothing that a rectangle can reach. -/
theorem inside_ofOrigin_zero :
    r.inside (ofOrigin 0 0 width height) = true ↔ r.Within width height := by
  have hzero : (0 : Int32).toInt = 0 := rfl
  have hright := toInt_clampedEdge 0 width
  have hbottom := toInt_clampedEdge 0 height
  have hr := r.right.toInt_lt
  have hb := r.bottom.toInt_lt
  simp only [inside, ofOrigin, decide_eq_true_eq, Int32.le_iff_toInt_le, hzero, hright, hbottom]
  constructor
  · rintro ⟨h₁, h₂, h₃, h₄⟩
    exact ⟨h₁, h₂, by omega, by omega⟩
  · intro h
    exact ⟨h.left, h.top, by have := h.right; omega, by have := h.bottom; omega⟩

def Mem (r : Rect) (px py : Int) : Prop :=
  r.left.toInt ≤ px ∧ px < r.right.toInt ∧ r.top.toInt ≤ py ∧ py < r.bottom.toInt

instance (r : Rect) (px py : Int) : Decidable (r.Mem px py) :=
  inferInstanceAs (Decidable (_ ∧ _ ∧ _ ∧ _))

/-- The pixels of a rectangle are those of its origin and size. -/
theorem mem_of_ofOrigin? (h : ofOrigin? x y width height = some r) : r.Mem px py ↔
    x.toInt ≤ px ∧ px < x.toInt + width.toNat ∧ y.toInt ≤ py ∧ py < y.toInt + height.toNat := by
  unfold ofOrigin? at h
  split at h
  · rename_i right bottom hright hbottom
    cases h
    simp only [Mem, toInt_of_edge? hright, toInt_of_edge? hbottom]
  · cases h

end RemoteDisplay.Rect
