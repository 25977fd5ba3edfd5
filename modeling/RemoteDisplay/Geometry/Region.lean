import RemoteDisplay.Geometry.Rect

/-!
# Regions of an output

A `Region` is a rectangle of pixels by its origin and size. Intersection and union work on the
clamped far edges, so they are total; `Region.Mem` says which pixels a region has, and an empty
region has none.
-/

namespace RemoteDisplay

/-- A rectangle of pixels by origin and size. -/
structure Region where
  x : Int32
  y : Int32
  width : UInt32
  height : UInt32
  deriving DecidableEq, Repr, Inhabited

namespace Region

/-- The region between two corners, in either order. -/
def ofCorners (x1 y1 x2 y2 : Int32) : Region where
  x := min x1 x2
  y := min y1 y2
  width := UInt32.ofNat ((max x1 x2).toInt - (min x1 x2).toInt).toNat
  height := UInt32.ofNat ((max y1 y2).toInt - (min y1 y2).toInt).toNat

/-- The exclusive right edge, clamped. -/
def right (r : Region) : Int32 := Rect.clampedEdge r.x r.width

/-- The exclusive bottom edge, clamped. -/
def bottom (r : Region) : Int32 := Rect.clampedEdge r.y r.height

/-- Pixel `(px, py)` belongs to the region, as far as its clamped edges reach. -/
def Mem (r : Region) (px py : Int) : Prop :=
  r.x.toInt ≤ px ∧ px < r.right.toInt ∧ r.y.toInt ≤ py ∧ py < r.bottom.toInt

instance (r : Region) (px py : Int) : Decidable (r.Mem px py) :=
  inferInstanceAs (Decidable (_ ∧ _ ∧ _ ∧ _))

/-- The number of pixels, as width times height. -/
def area (r : Region) : Nat := r.width.toNat * r.height.toNat

/-- A region without width or without height. -/
def isEmpty (r : Region) : Bool := r.width = 0 ∨ r.height = 0

/-- Both regions are non-empty and neither ends before the other starts. -/
def intersects (a b : Region) : Bool :=
  !(a.isEmpty || b.isEmpty || a.right ≤ b.x || b.right ≤ a.x || a.bottom ≤ b.y || b.bottom ≤ a.y)

/-- The smallest region that covers both; an empty one adds nothing. -/
def union (a b : Region) : Region :=
  if a.isEmpty then b
  else if b.isEmpty then a
  else ofCorners (min a.x b.x) (min a.y b.y) (max a.right b.right) (max a.bottom b.bottom)

/-- The common part, if there is one. -/
def intersection (a b : Region) : Option Region :=
  if a.intersects b then
    some (ofCorners (max a.x b.x) (max a.y b.y) (min a.right b.right) (min a.bottom b.bottom))
  else
    none

/-- No edge of `b` lies outside `a`. -/
def contains (a b : Region) : Bool :=
  a.x ≤ b.x ∧ a.y ≤ b.y ∧ b.right ≤ a.right ∧ b.bottom ≤ a.bottom

/-- The region with its fields named, for diagnostics. -/
def debug (r : Region) : String :=
  s!"DamageRegion \x7b x: {r.x}, y: {r.y}, width: {r.width}, height: {r.height} \x7d"

end Region

end RemoteDisplay
