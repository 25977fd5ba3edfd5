import Mathlib.Data.List.Forall2
import RemoteDisplay.Proofs.Geometry.Damage

/-!
# Intersections are exact

A region fills a set of pixels if it has just these and none of its edges is clamped; there is at most
one such region. The intersection of two regions fills the set of their common pixels, wherever they
are and however far they reach, so its algebra is that of sets. Clipping inherits it.
-/

namespace RemoteDisplay

namespace Region

variable {a b c r r' : Region} {P : Int → Int → Prop}

/-- A region that is not empty, has exactly the pixels of a set and ends where its size says. -/
structure Fills (r : Region) (P : Int → Int → Prop) : Prop where
  nonempty : r.isEmpty = false
  mem : ∀ px py, r.Mem px py ↔ P px py
  right : r.right.toInt = r.x.toInt + r.width.toNat
  bottom : r.bottom.toInt = r.y.toInt + r.height.toNat

/-- The pixels that two regions share. -/
def Common (a b : Region) (px py : Int) : Prop := a.Mem px py ∧ b.Mem px py

theorem common_comm (a b : Region) : Common a b = Common b a := by
  funext px py
  exact propext and_comm

/-! ## Regions by their pixels -/

/-- The first pixel and the last one. -/
theorem Fills.corners (h : r.Fills P) :
    r.Mem r.x.toInt r.y.toInt ∧ r.Mem (r.right.toInt - 1) (r.bottom.toInt - 1) := by
  have hpos := isEmpty_eq_false.mp h.nonempty
  have hright := h.right
  have hbottom := h.bottom
  simp only [Mem]
  omega

theorem Fills.exists_mem (h : r.Fills P) : ∃ px py, P px py :=
  ⟨_, _, (h.mem _ _).mp h.corners.1⟩

theorem Fills.unique (h : r.Fills P) (h' : r'.Fills P) : r = r' := by
  have hsame : ∀ px py, r.Mem px py ↔ r'.Mem px py := fun px py => (h.mem px py).trans (h'.mem px py).symm
  have hfirst := (hsame _ _).mp h.corners.1
  have hlast := (hsame _ _).mp h.corners.2
  have hfirst' := (hsame _ _).mpr h'.corners.1
  have hlast' := (hsame _ _).mpr h'.corners.2
  have hright := h.right
  have hbottom := h.bottom
  have hright' := h'.right
  have hbottom' := h'.bottom
  simp only [Mem] at hfirst hlast hfirst' hlast'
  apply eq_of_size <;> omega

/-! ## Intersections -/

theorem intersects_iff_exists : a.intersects b = true ↔ ∃ px py, Common a b px py := by
  constructor
  · intro h
    obtain ⟨hwide, hhigh⟩ := intersects_iff.mp h
    refine ⟨max a.x.toInt b.x.toInt, max a.y.toInt b.y.toInt, ?_⟩
    simp only [Common, Mem]
    omega
  · rintro ⟨px, py, ha, hb⟩
    rw [intersects_iff]
    simp only [Mem] at ha hb
    omega

theorem intersection_eq_none : a.intersection b = none ↔ a.intersects b = false := by
  simp [intersection]

theorem fills_of_intersection (h : a.intersection b = some r) : r.Fills (Common a b) := by
  have hinside := inside_of_intersection h
  have hwidth := hinside.width
  have hheight := hinside.height
  exact ⟨hinside.isEmpty, fun _ _ => mem_intersection h, by omega, by omega⟩

/-- A region is the intersection of two just when it fills the set of their common pixels. -/
theorem intersection_eq_some : a.intersection b = some r ↔ r.Fills (Common a b) := by
  constructor
  · exact fills_of_intersection
  · intro h
    obtain ⟨px, py, ha, hb⟩ := h.exists_mem
    obtain ⟨r', hr'⟩ := intersection_of_mem ha hb
    rw [hr', (fills_of_intersection hr').unique h]

theorem intersection_comm (a b : Region) : a.intersection b = b.intersection a := by
  apply Option.ext
  intro r
  rw [intersection_eq_some, intersection_eq_some, common_comm]

theorem Inside.contains (h : r.Inside b) : b.contains r = true := by
  simp only [Region.contains, decide_eq_true_eq, Int32.le_iff_toInt_le]
  exact ⟨h.left, h.top, h.right, h.bottom⟩

theorem contains_intersection (h : a.intersection b = some r) :
    a.contains r = true ∧ b.contains r = true := by
  have hcomm : b.intersection a = some r := (intersection_comm b a).trans h
  exact ⟨(inside_of_intersection hcomm).contains, (inside_of_intersection h).contains⟩

/-- Intersecting once more removes the pixels outside the third region. -/
theorem intersection_bind_eq_some : (a.intersection b).bind (·.intersection c) = some r ↔
    r.Fills fun px py => Common a b px py ∧ c.Mem px py := by
  rw [Option.bind_eq_some_iff]
  constructor
  · rintro ⟨s, hs, hr⟩
    have hpixels := (fills_of_intersection hs).mem
    have hfills := fills_of_intersection hr
    exact ⟨hfills.nonempty, fun px py => by rw [hfills.mem, Common, hpixels], hfills.right, hfills.bottom⟩
  · intro h
    obtain ⟨px, py, ⟨ha, hb⟩, -⟩ := h.exists_mem
    obtain ⟨s, hs⟩ := intersection_of_mem ha hb
    have hpixels := (fills_of_intersection hs).mem
    exact ⟨s, hs, intersection_eq_some.mpr
      ⟨h.nonempty, fun px py => by rw [h.mem, ← hpixels, Common], h.right, h.bottom⟩⟩

theorem intersection_assoc (a b c : Region) :
    (a.intersection b).bind (·.intersection c) = (b.intersection c).bind a.intersection := by
  have hright : (b.intersection c).bind a.intersection = (b.intersection c).bind (·.intersection a) :=
    congrArg _ (funext (intersection_comm a))
  have hset : (fun px py => Common a b px py ∧ c.Mem px py) =
      fun px py => Common b c px py ∧ a.Mem px py := by
    funext px py
    simp only [Common, and_comm, and_assoc]
  apply Option.ext
  intro r
  rw [hright, intersection_bind_eq_some, intersection_bind_eq_some, hset]

theorem intersection_bind_self (a b : Region) :
    (a.intersection b).bind (·.intersection b) = a.intersection b := by
  have hset : (fun px py => Common a b px py ∧ b.Mem px py) = Common a b := by
    funext px py
    simp only [Common, and_assoc, and_self]
  apply Option.ext
  intro r
  rw [intersection_bind_eq_some, intersection_eq_some, hset]

end Region

/-! ## Clipping -/

namespace Damage

variable {d : Damage} {b c r : Region}

/-- The regions that meet the bounds are kept in their order, each as far as it lies inside. -/
theorem forall₂_clipped (d : Damage) (b : Region) :
    List.Forall₂ (fun r a => r.Fills (Region.Common a b)) (d.clipped b).regions
      (d.regions.filter (·.intersects b)) := by
  simp only [clipped]
  induction d.regions with
  | nil => exact .nil
  | cons a rs ih =>
      cases h : a.intersection b with
      | none => simpa [h, Region.intersection_eq_none.mp h] using ih
      | some r =>
          have hfills := Region.fills_of_intersection h
          have hmeet := Region.intersects_iff_exists.mpr hfills.exists_mem
          simpa [h, hmeet] using And.intro hfills ih

theorem clipped_clipped (d : Damage) (b c : Region) : (d.clipped b).clipped c =
    match b.intersection c with
    | some r => d.clipped r
    | none => empty := by
  have htwice : (d.clipped b).clipped c =
      ⟨d.regions.filterMap fun a => (b.intersection c).bind a.intersection⟩ := by
    simp only [clipped, List.filterMap_filterMap, Region.intersection_assoc]
  rw [htwice]
  cases b.intersection c with
  | none => simp [empty]
  | some r => rfl

theorem clipped_self (d : Damage) (b : Region) : (d.clipped b).clipped b = d.clipped b := by
  simp only [clipped, List.filterMap_filterMap, Region.intersection_bind_self]

end Damage

/-- Two regions intersect if they share a pixel. Their intersection has exactly the shared pixels,
without a clamped edge, and lies inside both; it does not depend on their order, nor that of three
regions on how they are grouped. So clipping keeps exactly the pixels inside the bounds, region by
region; doing it twice changes nothing more, and clipping by two bounds is clipping by what they share. -/
theorem Region.intersection_exact (a b c : Region) :
    (a.intersects b = true ↔ ∃ px py, a.Mem px py ∧ b.Mem px py) ∧
    (a.intersection b = none ↔ a.intersects b = false) ∧
    (∀ r, a.intersection b = some r ↔ r.Fills fun px py => a.Mem px py ∧ b.Mem px py) ∧
    (∀ r, a.intersection b = some r → a.contains r = true ∧ b.contains r = true) ∧
    a.intersection b = b.intersection a ∧
    (a.intersection b).bind (·.intersection c) = (b.intersection c).bind a.intersection ∧
    ∀ d : Damage,
      List.Forall₂ (fun r a => r.Fills fun px py => a.Mem px py ∧ b.Mem px py)
        (d.clipped b).regions (d.regions.filter (·.intersects b)) ∧
      (∀ px py, (∃ r ∈ (d.clipped b).regions, r.Mem px py) ↔
        (∃ r ∈ d.regions, r.Mem px py) ∧ b.Mem px py) ∧
      (∀ r ∈ (d.clipped b).regions, r.isEmpty = false) ∧
      (d.clipped b).clipped b = d.clipped b ∧
      (d.clipped b).clipped c =
        match b.intersection c with
        | some r => d.clipped r
        | none => Damage.empty := by
  refine ⟨intersects_iff_exists, intersection_eq_none, fun _ => intersection_eq_some,
    fun _ => contains_intersection, intersection_comm a b, intersection_assoc a b c, fun d => ?_⟩
  have hnonempty : ∀ r ∈ (d.clipped b).regions, r.isEmpty = false :=
    fun _ hr => (Damage.inside_of_clipped hr).isEmpty
  exact ⟨d.forall₂_clipped b, fun _ _ => Damage.mem_clipped, hnonempty, d.clipped_self b,
    d.clipped_clipped b c⟩

/-- A region that starts at the last coordinate has no pixels to share, although it is not empty. -/
example : (⟨2147483647, 0, 5, 5⟩ : Region).isEmpty = false ∧
    (⟨2147483647, 0, 5, 5⟩ : Region).intersection ⟨2147483647, 0, 5, 5⟩ = none := by decide

end RemoteDisplay
