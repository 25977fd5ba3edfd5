import RemoteDisplay.Geometry.Region

/-!
# Damage of an output

The regions that changed since the last repaint, in the order in which they were reported. Empty
regions are ignored, and a list that grows past `Damage.maxRegions` collapses to its extents.
-/

namespace RemoteDisplay

/-- What changed on an output. -/
structure Damage where
  regions : List Region := []
  deriving DecidableEq, Repr, Inhabited

namespace Damage

/-- How many regions are kept apart. -/
def maxRegions : Nat := 16

/-- Nothing changed. -/
def empty : Damage := {}

/-- The smallest region that covers all others. -/
def extents (d : Damage) : Option Region :=
  match d.regions with
  | [] => none
  | r :: rs => some (rs.foldl Region.union r)

/-- Replaces the regions by their extents. -/
def collapse (d : Damage) : Damage := ⟨d.extents.toList⟩

/-- Records one more region, unless it is empty. -/
def add (d : Damage) (r : Region) : Damage :=
  if r.isEmpty then d
  else
    let grown : Damage := ⟨d.regions ++ [r]⟩
    if grown.regions.length > maxRegions then grown.collapse else grown

/-- The regions, recorded one by one. -/
def ofRegions (rs : List Region) : Damage := rs.foldl add empty

/-- A whole area of the given size. -/
def full (width height : UInt32) : Damage := empty.add ⟨0, 0, width, height⟩

/-- Nothing is recorded. -/
def isEmpty (d : Damage) : Bool := d.regions.isEmpty

/-- The damage inside `bounds`. -/
def clipped (d : Damage) (bounds : Region) : Damage :=
  ⟨d.regions.filterMap (·.intersection bounds)⟩

end Damage

end RemoteDisplay
