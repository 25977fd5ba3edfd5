import RemoteDisplay.Proofs.Checked
import RemoteDisplay.Proofs.Geometry.Region

/-!
# Where the far edges are

A far edge is the origin plus the length, over the integers. The strict constructor has it exactly or
makes no rectangle, and the clamped one stops at the largest coordinate. Both read the length as a
coordinate first, though. From an origin that is not negative this changes nothing, for a longer length
ends past the largest coordinate anyway. From a negative origin it cuts the length, and an edge that has
a coordinate is refused, or put too near.
-/

namespace RemoteDisplay.Rect

variable {x y start edge : Int32} {length width height : UInt32} {r : Rect}

/-! ## One axis -/

/-- The far edge of a length laid off from `start`. -/
def farEdge (start : Int32) (length : UInt32) : Int := start.toInt + length.toNat

/-- The length is no coordinate, but it is laid off from a negative one. -/
def Cut (start : Int32) (length : UInt32) : Prop :=
  start.toInt < 0 ∧ maxCoordinate < length.toNat

instance (start : Int32) (length : UInt32) : Decidable (Cut start length) :=
  inferInstanceAs (Decidable (_ ∧ _))

theorem edge?_eq_some_iff_not_cut : edge? start length = some edge ↔
    edge.toInt = farEdge start length ∧ ¬ Cut start length := by
  have hhigh := edge.toInt_lt
  rw [edge?_eq_some_iff]
  simp only [farEdge, Cut, maxCoordinate]
  omega

theorem edge?_eq_none_iff :
    edge? start length = none ↔ maxCoordinate < farEdge start length ∨ Cut start length := by
  rw [edge?, ite_eq_right_iff]
  simp only [farEdge, Cut, maxCoordinate, reduceCtorEq, imp_false]
  omega

theorem toInt_clampedEdge_of_not_cut (h : ¬ Cut start length) :
    (clampedEdge start length).toInt = min (farEdge start length) maxCoordinate := by
  rw [toInt_clampedEdge]
  simp only [farEdge, Cut, maxCoordinate] at h ⊢
  omega

theorem toInt_clampedEdge_of_cut (h : Cut start length) :
    (clampedEdge start length).toInt = start.toInt + maxCoordinate := by
  rw [toInt_clampedEdge]
  simp only [Cut, maxCoordinate] at h ⊢
  omega

theorem clampedEdge_of_edge? (h : edge? start length = some edge) : clampedEdge start length = edge := by
  obtain ⟨hedge, huncut⟩ := edge?_eq_some_iff_not_cut.mp h
  have hhigh := edge.toInt_lt
  have hclamped := toInt_clampedEdge_of_not_cut huncut
  rw [← Int32.toInt_inj, hclamped, ← hedge]
  simp only [maxCoordinate]
  omega

/-- Clamped or cut, an edge is at most the largest coordinate away. -/
theorem clampedEdge_sub (start : Int32) (length : UInt32) :
    0 ≤ (clampedEdge start length).toInt - start.toInt ∧
      (clampedEdge start length).toInt - start.toInt ≤ 2147483647 := by
  have hedge := toInt_clampedEdge start length
  have hstart := start.toInt_lt
  omega

/-! ## Both axes -/

theorem ofOrigin?_eq_none_iff :
    ofOrigin? x y width height = none ↔ edge? x width = none ∨ edge? y height = none := by
  unfold ofOrigin?
  cases edge? x width <;> cases edge? y height <;> simp

theorem ofOrigin_of_ofOrigin? (h : ofOrigin? x y width height = some r) :
    ofOrigin x y width height = r := by
  unfold ofOrigin? at h
  split at h
  · rename_i hright hbottom
    cases h
    rw [ofOrigin, clampedEdge_of_edge? hright, clampedEdge_of_edge? hbottom]
  · cases h

/-- Width and height can be computed, and they are the distances between the edges. -/
structure Measured (r : Rect) : Prop where
  width : ∃ n, r.width = .ok n ∧ 0 ≤ n.toInt ∧ n.toInt = r.right.toInt - r.left.toInt
  height : ∃ n, r.height = .ok n ∧ 0 ≤ n.toInt ∧ n.toInt = r.bottom.toInt - r.top.toInt

theorem exists_i32 (trap : Trap) {n : Int} (hlow : 0 ≤ n) (hhigh : n ≤ 2147483647) :
    ∃ m, Checked.i32 trap n = .ok m ∧ 0 ≤ m.toInt ∧ m.toInt = n := by
  have hm := Checked.i32_eq_ok trap (n := n) (by omega) hhigh
  have htoInt := Checked.toInt_of_i32 hm
  exact ⟨_, hm, by omega, htoInt⟩

theorem measured_ofOrigin (x y : Int32) (width height : UInt32) : (ofOrigin x y width height).Measured := by
  obtain ⟨hright, hwide⟩ := clampedEdge_sub x width
  obtain ⟨hbottom, hhigh⟩ := clampedEdge_sub y height
  exact ⟨exists_i32 _ hright hwide, exists_i32 _ hbottom hhigh⟩

theorem measured_of_ofOrigin? (h : ofOrigin? x y width height = some r) : r.Measured := by
  rw [← ofOrigin_of_ofOrigin? h]
  exact measured_ofOrigin x y width height

/-- What an origin and a size come to: strictly, clamped, and as a region. -/
structure Edges (x y : Int32) (width height : UInt32) : Prop where
  strict : ∀ r, ofOrigin? x y width height = some r ↔
    r.Spans x y width height ∧ ¬ Cut x width ∧ ¬ Cut y height
  refused : ofOrigin? x y width height = none ↔
    (maxCoordinate < farEdge x width ∨ Cut x width) ∨ maxCoordinate < farEdge y height ∨ Cut y height
  right : ¬ Cut x width →
    (ofOrigin x y width height).right.toInt = min (farEdge x width) maxCoordinate
  bottom : ¬ Cut y height →
    (ofOrigin x y width height).bottom.toInt = min (farEdge y height) maxCoordinate
  rightCut : Cut x width → (ofOrigin x y width height).right.toInt = x.toInt + maxCoordinate
  bottomCut : Cut y height → (ofOrigin x y width height).bottom.toInt = y.toInt + maxCoordinate
  region : (⟨x, y, width, height⟩ : Region).right = (ofOrigin x y width height).right ∧
    (⟨x, y, width, height⟩ : Region).bottom = (ofOrigin x y width height).bottom
  agree : ∀ r, ofOrigin? x y width height = some r → ofOrigin x y width height = r
  measured : (ofOrigin x y width height).Measured ∧
    ∀ r, ofOrigin? x y width height = some r → r.Measured

/-- Unless a length is cut, the strict rectangle is there exactly when both far edges have a coordinate,
and the clamped edges are the far edges, or the largest coordinate. A cut length makes no strict
rectangle, and its clamped edge is the largest coordinate away from the origin. In any case a region has
the clamped edges, the strict rectangle is the clamped one, and width and height of either can be
computed. -/
theorem edges_of_origin (x y : Int32) (width height : UInt32) : Edges x y width height where
  strict r := by
    have hright := r.right.toInt_lt
    have hbottom := r.bottom.toInt_lt
    rw [ofOrigin?_eq_some_iff]
    refine and_congr_right fun h => ?_
    have hwide := h.right
    have hhigh := h.bottom
    simp only [Cut, maxCoordinate]
    omega
  refused := by rw [ofOrigin?_eq_none_iff, edge?_eq_none_iff, edge?_eq_none_iff]
  right := toInt_clampedEdge_of_not_cut
  bottom := toInt_clampedEdge_of_not_cut
  rightCut := toInt_clampedEdge_of_cut
  bottomCut := toInt_clampedEdge_of_cut
  region := ⟨rfl, rfl⟩
  agree _ := ofOrigin_of_ofOrigin?
  measured := ⟨measured_ofOrigin x y width height, fun _ => measured_of_ofOrigin?⟩

/-- A length of 2^31 from -1 on ends at the largest coordinate, but no rectangle does. -/
theorem edges_of_cut_length :
    farEdge (-1) 2147483648 = maxCoordinate ∧ farEdge 0 1 ≤ maxCoordinate ∧
      ofOrigin? (-1) 0 2147483648 1 = none ∧
      (ofOrigin (-1) 0 2147483648 1).right.toInt = maxCoordinate - 1 ∧
      (⟨-1, 0, 2147483648, 1⟩ : Region).right.toInt = maxCoordinate - 1 := by
  decide

end RemoteDisplay.Rect
