import RemoteDisplay.Proofs.Geometry.Damage

/-!
# Which damaged pixels are kept

The pixels of a region over exact integers are compared with those its clamped edges reach. A length
past the largest coordinate is cut to it, so a region keeps a pixel only if it starts near enough, and
extents start where the leftmost region does: one region far to the left can make the extents lose
the pixels of all others.
-/

namespace RemoteDisplay

namespace Region

variable {a b r : Region} {px py : Int}

/-- Pixel `(px, py)` belongs to the region, whatever its edges are clamped to. -/
def Has (r : Region) (px py : Int) : Prop :=
  r.x.toInt ≤ px ∧ px < r.x.toInt + r.width.toNat ∧ r.y.toInt ≤ py ∧ py < r.y.toInt + r.height.toNat

instance (r : Region) (px py : Int) : Decidable (r.Has px py) :=
  inferInstanceAs (Decidable (_ ∧ _ ∧ _ ∧ _))

/-- The longest edges that can be laid off from the region's origin end past the pixel. -/
def Near (r : Region) (px py : Int) : Prop :=
  px < r.x.toInt + Rect.maxCoordinate ∧ py < r.y.toInt + Rect.maxCoordinate

instance (r : Region) (px py : Int) : Decidable (r.Near px py) :=
  inferInstanceAs (Decidable (_ ∧ _))

/-- Where a coordinate can be an exclusive edge, the clamped edges lose exactly the pixels that are
not near. -/
theorem mem_iff (hx : px < Rect.maxCoordinate) (hy : py < Rect.maxCoordinate) :
    r.Mem px py ↔ r.Has px py ∧ r.Near px py := by
  simp only [Mem, Has, Near, right_eq, bottom_eq, Rect.maxCoordinate] at *
  omega

theorem isEmpty_of_mem (h : r.Mem px py) : r.isEmpty = false := by
  have hright := r.right_eq
  have hbottom := r.bottom_eq
  simp only [Mem] at h
  rw [isEmpty_eq_false]
  omega

/-- On one axis: a coordinate near to both starts is near to the length around two clamped ones, which
has it if one of them has. -/
theorem around (s t : Int32) (m n : UInt32) {lo hi : Int32} {p : Int}
    (hs : p < s.toInt + Rect.maxCoordinate) (ht : p < t.toInt + Rect.maxCoordinate)
    (hlo : lo = min s t) (hhi : hi = max (Rect.clampedEdge s m) (Rect.clampedEdge t n)) :
    p < (min lo hi).toInt + Rect.maxCoordinate ∧
      (s.toInt ≤ p ∧ p < (Rect.clampedEdge s m).toInt ∨
        t.toInt ≤ p ∧ p < (Rect.clampedEdge t n).toInt →
      (min lo hi).toInt ≤ p ∧ p < (Rect.clampedEdge (min lo hi)
        (UInt32.ofNat ((max lo hi).toInt - (min lo hi).toInt).toNat)).toInt) := by
  have hm := Rect.toInt_clampedEdge s m
  have hn := Rect.toInt_clampedEdge t n
  have hstart : lo.toInt = min s.toInt t.toInt := by rw [hlo, toInt_min]
  have hend : hi.toInt = max (Rect.clampedEdge s m).toInt (Rect.clampedEdge t n).toInt := by
    rw [hhi, toInt_max]
  have hs' := s.toInt_lt
  have ht' := t.toInt_lt
  have hle : lo.toInt ≤ hi.toInt := by omega
  obtain ⟨hmin, hlength⟩ := length_between hle
  -- The start is one of two that are near, so a length cut to the largest coordinate still has `p`.
  rw [Rect.toInt_clampedEdge (min lo hi), hlength, hmin]
  simp only [Rect.maxCoordinate] at hs ht ⊢
  omega

/-- If the pixel is near to both regions, then it is near to the region around their corners, which
has it if one of them has. -/
theorem mem_ofCorners (ha : a.Near px py) (hb : b.Near px py)
    (hr : r = ofCorners (min a.x b.x) (min a.y b.y) (max a.right b.right) (max a.bottom b.bottom)) :
    r.Near px py ∧ (a.Mem px py ∨ b.Mem px py → r.Mem px py) := by
  obtain ⟨hnearx, hx⟩ := around a.x b.x a.width b.width ha.1 hb.1 rfl rfl
  obtain ⟨hneary, hy⟩ := around a.y b.y a.height b.height ha.2 hb.2 rfl rfl
  subst hr
  refine ⟨⟨hnearx, hneary⟩, ?_⟩
  rintro (⟨hleft, hright, htop, hbottom⟩ | ⟨hleft, hright, htop, hbottom⟩)
  · obtain ⟨hleft, hright⟩ := hx (.inl ⟨hleft, hright⟩)
    obtain ⟨htop, hbottom⟩ := hy (.inl ⟨htop, hbottom⟩)
    exact ⟨hleft, hright, htop, hbottom⟩
  · obtain ⟨hleft, hright⟩ := hx (.inr ⟨hleft, hright⟩)
    obtain ⟨htop, hbottom⟩ := hy (.inr ⟨htop, hbottom⟩)
    exact ⟨hleft, hright, htop, hbottom⟩

/-- If the pixel is near to the regions of a union that are not empty, then it is near to the union,
which has it if one of them has. -/
theorem mem_union (ha : a.isEmpty = false → a.Near px py) (hb : b.isEmpty = false → b.Near px py) :
    ((a.union b).isEmpty = false → (a.union b).Near px py) ∧
      (a.Mem px py ∨ b.Mem px py → (a.union b).Mem px py) := by
  cases hae : a.isEmpty with
  | true =>
      have hunion : a.union b = b := by rw [union, hae, if_pos rfl]
      have hnone : ¬ a.Mem px py := fun hmem => by simp [isEmpty_of_mem hmem] at hae
      rw [hunion]
      exact ⟨hb, fun hmem => hmem.resolve_left hnone⟩
  | false =>
      cases hbe : b.isEmpty with
      | true =>
          have hunion : a.union b = a := by
            rw [union, hae, hbe]
            rfl
          have hnone : ¬ b.Mem px py := fun hmem => by simp [isEmpty_of_mem hmem] at hbe
          rw [hunion]
          exact ⟨ha, fun hmem => hmem.resolve_right hnone⟩
      | false =>
          have hunion : a.union b =
              ofCorners (min a.x b.x) (min a.y b.y) (max a.right b.right) (max a.bottom b.bottom) := by
            rw [union, hae, hbe]
            rfl
          obtain ⟨hnear, hmem⟩ := mem_ofCorners (ha hae) (hb hbe) hunion
          exact ⟨fun _ => hnear, hmem⟩

end Region

namespace Damage

variable {d : Damage} {r : Region} {px py : Int}

theorem length_add (h : d.regions.length ≤ maxRegions) : (d.add r).regions.length ≤ maxRegions := by
  unfold add
  split
  · exact h
  · dsimp only
    split
    · simp only [collapse, Option.length_toList, maxRegions]
      split <;> decide
    · rename_i hfits
      exact Nat.le_of_not_lt hfits

/-- Collapsing keeps every pixel that is near to all regions. -/
theorem mem_collapse (hd : ∀ a ∈ d.regions, a.isEmpty = false → a.Near px py) :
    (∀ a ∈ d.collapse.regions, a.isEmpty = false → a.Near px py) ∧
      ((∃ a ∈ d.regions, a.Mem px py) → ∃ a ∈ d.collapse.regions, a.Mem px py) := by
  unfold collapse
  cases he : d.extents with
  | none =>
      have hnone : d.regions = [] := by
        unfold extents at he
        split at he
        · assumption
        · cases he
      simp [hnone]
  | some e =>
      obtain ⟨hnear, hcover⟩ := extents_union Region.mem_union hd he
      simp only [Option.toList_some, List.mem_singleton, forall_eq, exists_eq_left]
      exact ⟨hnear, fun ⟨a, ha, hmem⟩ => hcover a ha hmem⟩

/-- Recording a region loses no pixel that is near to it and to all regions before. -/
theorem mem_add (hd : ∀ a ∈ d.regions, a.isEmpty = false → a.Near px py)
    (hr : r.isEmpty = false → r.Near px py) :
    (∀ a ∈ (d.add r).regions, a.isEmpty = false → a.Near px py) ∧
      ((∃ a ∈ d.regions, a.Mem px py) ∨ r.Mem px py → ∃ a ∈ (d.add r).regions, a.Mem px py) := by
  unfold add
  split
  · rename_i hempty
    have hnone : ¬ r.Mem px py := fun hmem => by simp [Region.isEmpty_of_mem hmem] at hempty
    exact ⟨hd, fun hmem => hmem.resolve_right hnone⟩
  · have hgrown : ∀ a ∈ d.regions ++ [r], a.isEmpty = false → a.Near px py := by
      simp only [List.mem_append, List.mem_singleton]
      rintro a (ha | rfl)
      · exact hd a ha
      · exact hr
    have hkept : (∃ a ∈ d.regions, a.Mem px py) ∨ r.Mem px py → ∃ a ∈ d.regions ++ [r], a.Mem px py := by
      simp only [List.mem_append, List.mem_singleton]
      rintro (⟨a, ha, hmem⟩ | hmem)
      · exact ⟨a, .inl ha, hmem⟩
      · exact ⟨r, .inr rfl, hmem⟩
    dsimp only
    split
    · obtain ⟨hnear, hcollapsed⟩ := mem_collapse (d := ⟨d.regions ++ [r]⟩) hgrown
      exact ⟨hnear, fun hmem => hcollapsed (hkept hmem)⟩
    · exact ⟨hgrown, hkept⟩

/-- However many regions are recorded, no pixel near to all of them is lost. -/
theorem mem_foldl_add {rs : List Region} (hd : ∀ a ∈ d.regions, a.isEmpty = false → a.Near px py)
    (hrs : ∀ r ∈ rs, r.isEmpty = false → r.Near px py)
    (hmem : (∃ a ∈ d.regions, a.Mem px py) ∨ ∃ r ∈ rs, r.Mem px py) :
    ∃ a ∈ (rs.foldl add d).regions, a.Mem px py := by
  induction rs generalizing d with
  | nil =>
      obtain hmem | ⟨r, hr, -⟩ := hmem
      · exact hmem
      · cases hr
  | cons r rs ih =>
      obtain ⟨hnear, hkept⟩ := mem_add hd (hrs r List.mem_cons_self)
      -- For the rest of the list, `r` is among the regions before, or what it collapsed into is.
      refine ih hnear (fun b hb => hrs b (List.mem_cons_of_mem r hb)) ?_
      obtain hmem | ⟨b, hb, hmem⟩ := hmem
      · exact .inl (hkept (.inl hmem))
      · obtain rfl | hb := List.mem_cons.mp hb
        · exact .inl (hkept (.inr hmem))
        · exact .inr ⟨b, hb, hmem⟩

theorem length_foldl_add (rs : List Region) (h : d.regions.length ≤ maxRegions) :
    (rs.foldl add d).regions.length ≤ maxRegions := by
  induction rs generalizing d with
  | nil => exact h
  | cons r rs ih => exact ih (length_add h)

/-- A clipped pixel belongs to the extents as well. -/
theorem mem_extents_clipped {bounds : Region} (h : ∃ r ∈ (d.clipped bounds).regions, r.Mem px py) :
    ∃ e, (d.clipped bounds).extents = some e ∧ e.Mem px py := by
  obtain ⟨r, hr, hmem⟩ := h
  cases he : (d.clipped bounds).extents with
  | none =>
      unfold extents at he
      split at he
      · rename_i hnone
        rw [hnone] at hr
        cases hr
      · cases he
  | some e => exact ⟨e, rfl, (extents_clipped he).2 r hr hmem⟩

/-- Damage stays short, and no damaged pixel of an output is lost as long as every region that is not
empty starts near enough to it: some clipped region has it, and so have the extents. -/
theorem kept_of_near (rs : List Region) :
    (ofRegions rs).regions.length ≤ maxRegions ∧
      ∀ (width height : UInt32) (px py : Int),
        width.toNat ≤ Rect.maxCoordinate → height.toNat ≤ Rect.maxCoordinate →
        0 ≤ px ∧ px < width.toNat ∧ 0 ≤ py ∧ py < height.toNat →
        (∃ r ∈ rs, r.Has px py) → (∀ r ∈ rs, r.isEmpty = false → r.Near px py) →
        (∃ r ∈ ((ofRegions rs).clipped ⟨0, 0, width, height⟩).regions, r.Has px py) ∧
          ∃ e, ((ofRegions rs).clipped ⟨0, 0, width, height⟩).extents = some e ∧ e.Has px py := by
  refine ⟨length_foldl_add rs (by decide), ?_⟩
  intro width height px py hwidth hheight hpixel ⟨r, hr, hhas⟩ hnear
  have hx : px < Rect.maxCoordinate := by omega
  have hy : py < Rect.maxCoordinate := by omega
  have hbounds : (⟨0, 0, width, height⟩ : Region).Mem px py := by
    rw [Region.mem_iff hx hy]
    simpa [Region.Has, Region.Near, hx, hy] using hpixel
  have hfull : r.isEmpty = false := by
    rw [Region.isEmpty_eq_false]
    simp only [Region.Has] at hhas
    omega
  have hrecorded : ∃ a ∈ (ofRegions rs).regions, a.Mem px py :=
    mem_foldl_add (by simp [empty]) hnear
      (.inr ⟨r, hr, (Region.mem_iff hx hy).mpr ⟨hhas, hnear r hr hfull⟩⟩)
  have hclipped := mem_clipped.mpr ⟨hrecorded, hbounds⟩
  obtain ⟨e, he, hmem⟩ := mem_extents_clipped hclipped
  obtain ⟨a, ha, hpa⟩ := hclipped
  exact ⟨⟨a, ha, ((Region.mem_iff hx hy).mp hpa).1⟩, e, he, ((Region.mem_iff hx hy).mp hmem).1⟩

/-- As many regions as are kept apart, and one more pixel at a column of its own. -/
def crowded (x : Int32) : List Region := List.replicate maxRegions ⟨0, 0, 4, 4⟩ ++ [⟨x, 0, 1, 1⟩]

/-- Extents that are almost too wide keep a pixel on the right. -/
theorem kept_of_near_crowded :
    (∃ r ∈ crowded (-2147483640), r.Has 3 3) ∧
      (∀ r ∈ crowded (-2147483640), r.isEmpty = false → r.Near 3 3) ∧
      (∃ r ∈ ((ofRegions (crowded (-2147483640))).clipped ⟨0, 0, 8, 8⟩).regions, r.Has 3 3) ∧
      ∃ e, ((ofRegions (crowded (-2147483640))).clipped ⟨0, 0, 8, 8⟩).extents = some e ∧ e.Has 3 3 :=
  have hhas : ∃ r ∈ crowded (-2147483640), r.Has 3 3 := by decide +kernel
  have hnear : ∀ r ∈ crowded (-2147483640), r.isEmpty = false → r.Near 3 3 := by decide +kernel
  ⟨hhas, hnear,
    (kept_of_near (crowded (-2147483640))).2 8 8 3 3 (by decide) (by decide) (by decide) hhas hnear⟩

/-- A pixel as far to the left as there is takes with it every pixel recorded before. -/
theorem lost_after_collapse :
    (∃ r ∈ crowded (-2147483648), r.Has 3 3) ∧
      ¬ ∃ r ∈ ((ofRegions (crowded (-2147483648))).clipped ⟨0, 0, 8, 8⟩).regions, r.Has 3 3 := by
  decide +kernel

end Damage

end RemoteDisplay
