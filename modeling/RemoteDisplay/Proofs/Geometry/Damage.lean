import RemoteDisplay.Geometry.Damage
import RemoteDisplay.Proofs.Geometry.Region

/-!
# Clipped damage and its extents

Clipping keeps the pixels inside the bounds, in regions that lie inside them. Extents cover every
region and stay inside the bounds.
-/

namespace RemoteDisplay.Damage

variable {d : Damage} {bounds e r : Region} {px py : Int}

theorem mem_clipped_regions :
    r ∈ (d.clipped bounds).regions ↔ ∃ a ∈ d.regions, a.intersection bounds = some r :=
  List.mem_filterMap

theorem inside_of_clipped (h : r ∈ (d.clipped bounds).regions) : r.Inside bounds := by
  obtain ⟨a, -, ha⟩ := mem_clipped_regions.mp h
  exact Region.inside_of_intersection ha

/-- Clipping keeps exactly the damaged pixels inside the bounds. -/
theorem mem_clipped : (∃ r ∈ (d.clipped bounds).regions, r.Mem px py) ↔
    (∃ r ∈ d.regions, r.Mem px py) ∧ bounds.Mem px py := by
  constructor
  · rintro ⟨r, hr, hmem⟩
    obtain ⟨a, ha, hinter⟩ := mem_clipped_regions.mp hr
    obtain ⟨hpa, hpb⟩ := (Region.mem_intersection hinter).mp hmem
    exact ⟨⟨a, ha, hpa⟩, hpb⟩
  · rintro ⟨⟨a, ha, hpa⟩, hpb⟩
    obtain ⟨r, hinter⟩ := Region.intersection_of_mem hpa hpb
    exact ⟨r, mem_clipped_regions.mpr ⟨a, ha, hinter⟩, (Region.mem_intersection hinter).mpr ⟨hpa, hpb⟩⟩

/-- What a union of two keeps of both of them, a union of many keeps of all. -/
theorem foldl_union {P Q : Region → Prop}
    (hunion : ∀ {a b}, P a → P b → P (a.union b) ∧ (Q a ∨ Q b → Q (a.union b)))
    {rs : List Region} {a : Region} (ha : P a) (hrs : ∀ r ∈ rs, P r) :
    P (rs.foldl Region.union a) ∧ ∀ r ∈ a :: rs, Q r → Q (rs.foldl Region.union a) := by
  induction rs generalizing a with
  | nil =>
      refine ⟨ha, fun r hr hq => ?_⟩
      rw [List.mem_singleton.mp hr] at hq
      exact hq
  | cons b rs ih =>
      obtain ⟨hboth, hcover⟩ := hunion ha (hrs b List.mem_cons_self)
      obtain ⟨hall, hcovers⟩ := ih hboth fun r hr => hrs r (List.mem_cons_of_mem b hr)
      refine ⟨hall, fun r hr hq => ?_⟩
      rcases List.mem_cons.mp hr with rfl | hr
      · exact hcovers _ List.mem_cons_self (hcover (.inl hq))
      · rcases List.mem_cons.mp hr with rfl | hr
        · exact hcovers _ List.mem_cons_self (hcover (.inr hq))
        · exact hcovers r (List.mem_cons_of_mem _ hr) hq

theorem extents_union {P Q : Region → Prop}
    (hunion : ∀ {a b}, P a → P b → P (a.union b) ∧ (Q a ∨ Q b → Q (a.union b)))
    (hd : ∀ r ∈ d.regions, P r) (h : d.extents = some e) :
    P e ∧ ∀ r ∈ d.regions, Q r → Q e := by
  unfold extents at h
  generalize d.regions = rs at h hd ⊢
  cases rs with
  | nil => cases h
  | cons a rs =>
      cases h
      exact foldl_union hunion (hd a List.mem_cons_self) fun r hr => hd r (List.mem_cons_of_mem a hr)

theorem extents_clipped (h : (d.clipped bounds).extents = some e) :
    e.Inside bounds ∧ ∀ r ∈ (d.clipped bounds).regions, ∀ {px py : Int}, r.Mem px py → e.Mem px py := by
  have hinside : ∀ r ∈ (d.clipped bounds).regions, r.Inside bounds := fun _ => inside_of_clipped
  have hpixel : ∀ px py : Int, e.Inside bounds ∧
      ∀ r ∈ (d.clipped bounds).regions, r.Mem px py → e.Mem px py := fun px py =>
    extents_union (fun ha hb => ⟨(ha.union hb).1, (ha.union hb).2⟩) hinside h
  exact ⟨(hpixel 0 0).1, fun r hr px py => (hpixel px py).2 r hr⟩

/-- A region inside another has its first pixel and its last one. -/
theorem corners_of_inside (h : r.Inside bounds) :
    r.Mem r.x.toInt r.y.toInt ∧ r.Mem (r.right.toInt - 1) (r.bottom.toInt - 1) := by
  have hwide := h.wide
  have hhigh := h.high
  simp only [Region.Mem]
  omega

/-- The clipped damage has extents if there is damage inside the bounds. -/
theorem extents_clipped_eq_none : (d.clipped bounds).extents = none ↔
    ∀ px py : Int, ¬((∃ r ∈ d.regions, r.Mem px py) ∧ bounds.Mem px py) := by
  constructor
  · intro hnone px py hmem
    obtain ⟨r, hr, -⟩ := mem_clipped.mpr hmem
    unfold extents at hnone
    split at hnone
    · rename_i hnil
      rw [hnil] at hr
      cases hr
    · cases hnone
  · intro hout
    unfold extents
    split
    · rfl
    · rename_i r rs hcons
      have hr : r ∈ (d.clipped bounds).regions := by
        rw [hcons]
        exact List.mem_cons_self
      have hcorner := (corners_of_inside (inside_of_clipped hr)).1
      exact absurd (mem_clipped.mp ⟨r, hr, hcorner⟩) (hout _ _)

/-- The extents lie in every box that all damaged pixels inside the bounds lie in. -/
theorem extents_clipped_least {left top right bottom : Int} (h : (d.clipped bounds).extents = some e)
    (hbox : ∀ px py : Int, (∃ r ∈ d.regions, r.Mem px py) → bounds.Mem px py →
      left ≤ px ∧ px < right ∧ top ≤ py ∧ py < bottom) :
    left ≤ e.x.toInt ∧ e.right.toInt ≤ right ∧ top ≤ e.y.toInt ∧ e.bottom.toInt ≤ bottom := by
  let P (r : Region) : Prop := r.Inside bounds ∧ left ≤ r.x.toInt ∧ r.right.toInt ≤ right ∧
    top ≤ r.y.toInt ∧ r.bottom.toInt ≤ bottom
  have hunion : ∀ {a b}, P a → P b → P (a.union b) ∧ (False ∨ False → False) := by
    rintro a b ⟨ha, hal, har, hat, hab⟩ ⟨hb, hbl, hbr, hbt, hbb⟩
    have hr := ha.reaches_union hb
    refine ⟨⟨(ha.union hb).1, ?_⟩, by simp⟩
    rw [hr.x, hr.y, hr.right, hr.bottom]
    omega
  have hregions : ∀ r ∈ (d.clipped bounds).regions, P r := by
    intro r hr
    have hinside := inside_of_clipped hr
    obtain ⟨hfirst, hlast⟩ := corners_of_inside hinside
    obtain ⟨hdamaged, hbounds⟩ := mem_clipped.mp ⟨r, hr, hfirst⟩
    obtain ⟨hdamaged', hbounds'⟩ := mem_clipped.mp ⟨r, hr, hlast⟩
    have hnear := hbox _ _ hdamaged hbounds
    have hfar := hbox _ _ hdamaged' hbounds'
    refine ⟨hinside, ?_⟩
    omega
  exact (extents_union (Q := fun _ => False) hunion hregions h).1.2

end RemoteDisplay.Damage
