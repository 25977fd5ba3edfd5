import RemoteDisplay.Checked

/-!
# Rectangles by their edges

A `Rect` has four signed 32-bit edges, the right and bottom ones exclusive. It is made from an
origin and a size either strictly, when both far edges have a coordinate, or clamped to the largest
one.
-/

namespace RemoteDisplay

/-- A rectangle by its edges, in the order in which they are written. -/
structure Rect where
  top : Int32
  left : Int32
  bottom : Int32
  right : Int32
  deriving DecidableEq, Repr, Inhabited

namespace Rect

/-- The largest coordinate. -/
def maxCoordinate : Int := 2147483647

/-- A length as a distance between coordinates, at most the largest one. -/
def span (length : UInt32) : Int := min length.toNat maxCoordinate

/-- The far edge of a length laid off from `start`, clamped at the largest coordinate. -/
def clampedEdge (start : Int32) (length : UInt32) : Int32 :=
  Int32.ofInt (min (start.toInt + span length) maxCoordinate)

/-- The far edge of a length laid off from `start`, if the length is a distance between coordinates
and the edge has one. -/
def edge? (start : Int32) (length : UInt32) : Option Int32 :=
  if length.toNat ≤ maxCoordinate ∧ start.toInt + length.toNat ≤ maxCoordinate then
    some (Int32.ofInt (start.toInt + length.toNat))
  else
    none

/-- The rectangle of a size at an origin, if both far edges exist. -/
def ofOrigin? (x y : Int32) (width height : UInt32) : Option Rect :=
  match edge? x width, edge? y height with
  | some right, some bottom => some ⟨y, x, bottom, right⟩
  | _, _ => none

/-- The rectangle of a size at an origin, with the far edges clamped. -/
def ofOrigin (x y : Int32) (width height : UInt32) : Rect :=
  ⟨y, x, clampedEdge y height, clampedEdge x width⟩

/-- The distance between left and right edge. -/
def width (r : Rect) : Except Trap Int32 :=
  Checked.i32 .subtractOverflow (r.right.toInt - r.left.toInt)

/-- The distance between top and bottom edge. -/
def height (r : Rect) : Except Trap Int32 :=
  Checked.i32 .subtractOverflow (r.bottom.toInt - r.top.toInt)

/-- `r` lies inside `bounds`. -/
def inside (r bounds : Rect) : Bool :=
  bounds.left ≤ r.left ∧ bounds.top ≤ r.top ∧ r.right ≤ bounds.right ∧ r.bottom ≤ bounds.bottom

/-- The rectangle with its fields named, for diagnostics. -/
def debug (r : Rect) : String :=
  s!"QxlRect \x7b top: {r.top}, left: {r.left}, bottom: {r.bottom}, right: {r.right} \x7d"

end Rect

end RemoteDisplay
