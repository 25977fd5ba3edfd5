import Mathlib.Data.Set.Finite.Lemmas
import Mathlib.Data.Set.Finite.List
import RemoteDisplay.Proofs.Geometry.Coverage

/-!
# Extents do not depend on collapsing

The extents of recorded damage are the smallest rectangle around all regions that are not empty, as long
as these lie within the largest coordinate of one another. Seen from each of the four sides a collapsed
list begins where the regions begin that it stands for, so neither the order of the regions nor the
moments at which the list collapsed can be told from the extents.
-/

namespace RemoteDisplay

/-- On integers a number is least in a set if it has just the lower bounds of the set. -/
theorem isLeast_of_le_iff {S : Set Int} {m : Int} (h : ∀ n, n ≤ m ↔ ∀ k ∈ S, n ≤ k) : IsLeast S m := by
  have hlower : ∀ k ∈ S, m ≤ k := (h m).mp (Int.le_refl m)
  refine ⟨?_, fun k hk => hlower k hk⟩
  by_contra hout
  have hnext : m + 1 ≤ m := (h (m + 1)).mpr fun k hk => by
    have hle := hlower k hk
    have hne : m ≠ k := fun he => hout (he ▸ hk)
    omega
  omega

theorem isGreatest_of_neg {α : Type} {S : Set α} {f : α → Int} {m : Int}
    (h : IsLeast ((fun a => -f a) '' S) (-m)) : IsGreatest (f '' S) m := by
  obtain ⟨⟨a, ha, hfirst⟩, hlower⟩ := h
  refine ⟨⟨a, ha, by simpa using hfirst⟩, ?_⟩
  rintro - ⟨b, hb, rfl⟩
  have hle : -m ≤ -f b := hlower ⟨b, hb, rfl⟩
  omega

inductive Side where
  | left
  | top
  | right
  | bottom

namespace Region

variable {a b e e' r bounds : Region} {rs rs' : List Region} {px py : Int}

/-- Where the region begins, seen from a side and counted away from it. -/
def begins : Side → Region → Int
  | .left, r => r.x.toInt
  | .top, r => r.y.toInt
  | .right, r => -(r.x.toInt + r.width.toNat)
  | .bottom, r => -(r.y.toInt + r.height.toNat)

/-- From every side a union begins with the first of the two. -/
theorem Inside.begins_union (ha : a.Inside bounds) (hb : b.Inside bounds) (side : Side) :
    (a.union b).begins side = min (a.begins side) (b.begins side) := by
  have hr := ha.reaches_union hb
  have hax := ha.width
  have hay := ha.height
  have hbx := hb.width
  have hby := hb.height
  cases side with
  | left => exact hr.x
  | top => exact hr.y
  | right =>
      simp only [begins, hr.x, hr.width]
      omega
  | bottom =>
      simp only [begins, hr.y, hr.height]
      omega

/-! ## The smallest rectangle -/

/-- The regions that have pixels. -/
def solid (rs : List Region) : Set Region := {r | r ∈ rs ∧ r.isEmpty = false}

theorem mem_solid : r ∈ solid rs ↔ r ∈ rs ∧ r.isEmpty = false := Iff.rfl

/-- The rectangle has the outermost edges of the regions that are not empty, and none is clamped. -/
structure Encloses (e : Region) (rs : List Region) : Prop where
  left : IsLeast ((fun r : Region => r.x.toInt) '' solid rs) e.x.toInt
  top : IsLeast ((fun r : Region => r.y.toInt) '' solid rs) e.y.toInt
  right : IsGreatest ((fun r : Region => r.x.toInt + r.width.toNat) '' solid rs) e.right.toInt
  bottom : IsGreatest ((fun r : Region => r.y.toInt + r.height.toNat) '' solid rs) e.bottom.toInt
  width : e.x.toInt + e.width.toNat = e.right.toInt
  height : e.y.toInt + e.height.toNat = e.bottom.toInt

theorem isEmpty_of_has (h : r.Has px py) : r.isEmpty = false := by
  rw [isEmpty_eq_false]
  simp only [Has] at h
  omega

theorem solid_perm (h : rs.Perm rs') : solid rs = solid rs' := by
  ext r
  simp only [mem_solid, h.mem_iff]

theorem Encloses.congr (h : e.Encloses rs) (hsolid : solid rs = solid rs') : e.Encloses rs' := by
  obtain ⟨hleft, htop, hright, hbottom, hwidth, hheight⟩ := h
  rw [hsolid] at hleft htop hright hbottom
  exact ⟨hleft, htop, hright, hbottom, hwidth, hheight⟩

theorem Encloses.unique (h : e.Encloses rs) (h' : e'.Encloses rs) : e = e' := by
  have hleft := h.left.unique h'.left
  have htop := h.top.unique h'.top
  have hright := h.right.unique h'.right
  have hbottom := h.bottom.unique h'.bottom
  have hwidth := h.width
  have hheight := h.height
  have hwidth' := h'.width
  have hheight' := h'.height
  apply eq_of_size <;> omega

theorem Encloses.has (h : e.Encloses rs) (hr : r ∈ rs) (hhas : r.Has px py) : e.Has px py := by
  have hmem : r ∈ solid rs := ⟨hr, isEmpty_of_has hhas⟩
  have hleft : e.x.toInt ≤ r.x.toInt := h.left.2 ⟨r, hmem, rfl⟩
  have htop : e.y.toInt ≤ r.y.toInt := h.top.2 ⟨r, hmem, rfl⟩
  have hright : r.x.toInt + r.width.toNat ≤ e.right.toInt := h.right.2 ⟨r, hmem, rfl⟩
  have hbottom : r.y.toInt + r.height.toNat ≤ e.bottom.toInt := h.bottom.2 ⟨r, hmem, rfl⟩
  have hwidth := h.width
  have hheight := h.height
  simp only [Has] at hhas ⊢
  omega

/-- Every other rectangle that has the pixels of all regions has those of this one. -/
theorem Encloses.least (h : e.Encloses rs) (he' : ∀ r ∈ rs, ∀ px py, r.Has px py → e'.Has px py)
    (hhas : e.Has px py) : e'.Has px py := by
  have hcorner : ∀ r ∈ solid rs, e'.Has r.x.toInt r.y.toInt ∧
      e'.Has (r.x.toInt + r.width.toNat - 1) (r.y.toInt + r.height.toNat - 1) := by
    intro r hr
    have hpos := isEmpty_eq_false.mp hr.2
    refine ⟨he' r hr.1 _ _ ?_, he' r hr.1 _ _ ?_⟩ <;>
      · simp only [Has]
        omega
  obtain ⟨l, hl, hleft⟩ := h.left.1
  obtain ⟨t, ht, htop⟩ := h.top.1
  obtain ⟨m, hm, hright⟩ := h.right.1
  obtain ⟨n, hn, hbottom⟩ := h.bottom.1
  have hcl := (hcorner l hl).1
  have hct := (hcorner t ht).1
  have hcm := (hcorner m hm).2
  have hcn := (hcorner n hn).2
  have hwidth := h.width
  have hheight := h.height
  simp only [Has] at hhas hcl hct hcm hcn ⊢
  simp only at hleft htop hright hbottom
  omega

/-- A rectangle that begins with the regions from every side encloses them. -/
theorem encloses_of_begins (he : e.Inside bounds)
    (h : ∀ side n, n ≤ e.begins side ↔ ∀ r ∈ solid rs, n ≤ r.begins side) : e.Encloses rs := by
  have hleast : ∀ side, IsLeast (begins side '' solid rs) (e.begins side) := fun side =>
    isLeast_of_le_iff fun n => by rw [h side n, Set.forall_mem_image]
  have hwidth := he.width
  have hheight := he.height
  have hright : -e.right.toInt = e.begins .right := by
    simp only [begins]
    omega
  have hbottom : -e.bottom.toInt = e.begins .bottom := by
    simp only [begins]
    omega
  refine ⟨hleast .left, hleast .top, isGreatest_of_neg ?_, isGreatest_of_neg ?_, by omega, by omega⟩
  · rw [hright]
    exact hleast .right
  · rw [hbottom]
    exact hleast .bottom

/-! ## Regions that lie near each other -/

/-- The regions that are not empty end at coordinates, none of them further than the largest coordinate
from where another begins. -/
structure Spanned (rs : List Region) : Prop where
  edges : ∀ r ∈ rs, r.isEmpty = false → r.x.toInt + r.width.toNat ≤ Rect.maxCoordinate ∧
    r.y.toInt + r.height.toNat ≤ Rect.maxCoordinate
  span : ∀ a ∈ rs, ∀ b ∈ rs, a.isEmpty = false → b.isEmpty = false →
    b.x.toInt + b.width.toNat - a.x.toInt ≤ Rect.maxCoordinate ∧
      b.y.toInt + b.height.toNat - a.y.toInt ≤ Rect.maxCoordinate

theorem Spanned.perm (h : Spanned rs) (hp : rs'.Perm rs) : Spanned rs' where
  edges r hr := h.edges r (hp.mem_iff.mp hr)
  span a ha b hb := h.span a (hp.mem_iff.mp ha) b (hp.mem_iff.mp hb)

/-- They all lie inside the largest region that begins with the leftmost and the topmost of them. -/
theorem Spanned.bounded (h : Spanned rs) : ∃ bounds : Region, ∀ r ∈ solid rs, r.Inside bounds := by
  have hfinite : (solid rs).Finite := (List.finite_toSet rs).subset fun _ hr => hr.1
  rcases (solid rs).eq_empty_or_nonempty with hnone | hsome
  · exact ⟨default, by simp [hnone]⟩
  · obtain ⟨l, ⟨hl, hlfull⟩, hleft⟩ := Set.exists_min_image (solid rs) (·.x.toInt) hfinite hsome
    obtain ⟨t, ⟨ht, htfull⟩, htop⟩ := Set.exists_min_image (solid rs) (·.y.toInt) hfinite hsome
    have hlargest : (2147483647 : UInt32).toNat = 2147483647 := rfl
    refine ⟨⟨l.x, t.y, 2147483647, 2147483647⟩, fun r ⟨hr, hfull⟩ => ?_⟩
    have hedges := h.edges r hr hfull
    have hself := h.span r hr r hr hfull hfull
    have hspanx := (h.span l hl r hr hlfull hfull).1
    have hspany := (h.span t ht r hr htfull hfull).2
    have hx := hleft r ⟨hr, hfull⟩
    have hy := htop r ⟨hr, hfull⟩
    have hpos := isEmpty_eq_false.mp hfull
    simp only [Rect.maxCoordinate] at hedges hself hspanx hspany
    constructor <;> simp only [right_eq, bottom_eq, hlargest] <;> omega

end Region

/-! ## Recorded damage -/

namespace Damage

open Region (Encloses Spanned solid)

variable {d : Damage} {bounds e r : Region} {rs rs' : List Region}

theorem extents_begins (hd : ∀ a ∈ d.regions, a.Inside bounds) (h : d.extents = some e) :
    e.Inside bounds ∧ ∀ side n, n ≤ e.begins side ↔ ∀ a ∈ d.regions, n ≤ a.begins side := by
  refine ⟨(extents_union (Q := fun _ => False) (fun ha hb => ⟨(ha.union hb).1, by simp⟩) hd h).1, ?_⟩
  intro side n
  constructor
  · intro hn a ha
    -- What begins before `n` goes on doing so in a union.
    have hbefore := (extents_union (P := (·.Inside bounds)) (Q := fun r => r.begins side < n)
      (fun ha hb => ⟨(ha.union hb).1, by rw [ha.begins_union hb]; omega⟩) hd h).2 a ha
    omega
  · intro hall
    exact (extents_union (P := fun r => r.Inside bounds ∧ n ≤ r.begins side) (Q := fun _ => False)
      (fun ha hb => ⟨⟨(ha.1.union hb.1).1, by rw [ha.1.begins_union hb.1]; omega⟩, by simp⟩)
      (fun a ha => ⟨hd a ha, hall a ha⟩) h).1.2

theorem extents_eq_none : d.extents = none ↔ d.regions = [] := by
  unfold extents
  split
  · simp [*]
  · simp [*]

/-- The damage stands for the regions that were recorded: from every side it begins where they do. -/
structure StandsFor (d : Damage) (rs : List Region) (bounds : Region) : Prop where
  inside : ∀ a ∈ d.regions, a.Inside bounds
  begins : ∀ side n, (∀ a ∈ d.regions, n ≤ a.begins side) ↔ ∀ r ∈ solid rs, n ≤ r.begins side

namespace StandsFor

theorem nil : StandsFor empty [] bounds where
  inside := by simp [empty]
  begins := by simp [empty, Region.mem_solid]

theorem collapse (h : d.StandsFor rs bounds) : d.collapse.StandsFor rs bounds := by
  cases he : d.extents with
  | none =>
      have hsame : d.collapse = d := by
        rw [Damage.collapse, he, Option.toList_none, ← extents_eq_none.mp he]
      rw [hsame]
      exact h
  | some e =>
      obtain ⟨hinside, hbegins⟩ := extents_begins h.inside he
      have hone : d.collapse.regions = [e] := by rw [Damage.collapse, he, Option.toList_some]
      constructor
      · simpa [hone] using hinside
      · intro side n
        simpa [hone, hbegins] using h.begins side n

theorem grown (h : d.StandsFor rs bounds) (hr : r.Inside bounds) :
    StandsFor ⟨d.regions ++ [r]⟩ (rs ++ [r]) bounds where
  inside a ha := by
    rcases List.mem_append.mp ha with ha | ha
    · exact h.inside a ha
    · exact List.mem_singleton.mp ha ▸ hr
  begins side n := by
    have hbefore := h.begins side n
    have hfull := hr.isEmpty
    simp only [Region.mem_solid, and_imp] at hbefore ⊢
    simp [or_imp, forall_and, hbefore, hfull]

theorem ignored (h : d.StandsFor rs bounds) (hr : r.isEmpty = true) :
    d.StandsFor (rs ++ [r]) bounds where
  inside := h.inside
  begins side n := by
    have hbefore := h.begins side n
    simp only [Region.mem_solid, and_imp] at hbefore ⊢
    simp [or_imp, forall_and, hbefore, hr]

theorem add (h : d.StandsFor rs bounds) (hr : r.isEmpty = false → r.Inside bounds) :
    (d.add r).StandsFor (rs ++ [r]) bounds := by
  unfold Damage.add
  split
  · rename_i hempty
    exact h.ignored hempty
  · rename_i hfull
    have hgrown := h.grown (hr (Bool.not_eq_true _ ▸ hfull))
    dsimp only
    split
    · exact hgrown.collapse
    · exact hgrown

theorem foldl (h : d.StandsFor rs bounds) (hrs' : ∀ r ∈ solid rs', r.Inside bounds) :
    (rs'.foldl Damage.add d).StandsFor (rs ++ rs') bounds := by
  induction rs' generalizing d rs with
  | nil => simpa using h
  | cons r rs' ih =>
      have hfirst := h.add fun hfull => hrs' r ⟨List.mem_cons_self, hfull⟩
      have hrest := ih hfirst fun a ha => hrs' a ⟨List.mem_cons_of_mem r ha.1, ha.2⟩
      rwa [List.append_assoc] at hrest

theorem ofRegions (hrs : ∀ r ∈ solid rs, r.Inside bounds) : (ofRegions rs).StandsFor rs bounds :=
  nil.foldl hrs

/-- Without any collapsing the recorded regions stand for themselves. -/
theorem uncollapsed (hrs : ∀ r ∈ solid rs, r.Inside bounds) :
    StandsFor ⟨rs.filter (!·.isEmpty)⟩ rs bounds where
  inside a ha := by
    obtain ⟨hmem, hfull⟩ := List.mem_filter.mp ha
    exact hrs a ⟨hmem, by simpa using hfull⟩
  begins side n := by simp [Region.mem_solid]

theorem encloses (h : d.StandsFor rs bounds) (he : d.extents = some e) : e.Encloses rs := by
  obtain ⟨hinside, hbegins⟩ := extents_begins h.inside he
  exact Region.encloses_of_begins hinside fun side n => (hbegins side n).trans (h.begins side n)

theorem extents_eq_none_iff (h : d.StandsFor rs bounds) :
    d.extents = none ↔ ∀ r ∈ rs, r.isEmpty = true := by
  rw [extents_eq_none]
  constructor
  · intro hnil r hr
    by_contra hfull
    have hall := (h.begins .left (r.begins .left + 1)).mp (by simp [hnil]) r ⟨hr, by simpa using hfull⟩
    omega
  · intro hempty
    refine List.eq_nil_iff_forall_not_mem.mpr fun a ha => ?_
    have hall := (h.begins .left (a.begins .left + 1)).mpr
      (fun r hr => absurd (hempty r hr.1) (by simp [hr.2])) a ha
    omega

theorem extents_eq_some_iff (h : d.StandsFor rs bounds) : d.extents = some e ↔ e.Encloses rs := by
  refine ⟨h.encloses, fun he => ?_⟩
  obtain ⟨r, hr, -⟩ := he.left.1
  cases hd : d.extents with
  | none =>
      have hempty := h.extents_eq_none_iff.mp hd r hr.1
      simp [hr.2] at hempty
  | some e' => rw [(h.encloses hd).unique he]

/-- The extents of two lists of damage that stand for the same regions are the same. -/
theorem extents_eq {d' : Damage} {bounds' : Region} (h : d.StandsFor rs bounds)
    (h' : d'.StandsFor rs' bounds') (hsolid : solid rs = solid rs') : d.extents = d'.extents := by
  apply Option.ext
  intro e
  rw [h.extents_eq_some_iff, h'.extents_eq_some_iff]
  exact ⟨fun he => he.congr hsolid, fun he => he.congr hsolid.symm⟩

theorem contains (h : d.StandsFor rs bounds) (ha : r ∈ d.regions) :
    ∃ e, d.extents = some e ∧ e.contains r = true := by
  cases hd : d.extents with
  | none =>
      rw [extents_eq_none.mp hd] at ha
      cases ha
  | some e =>
      obtain ⟨hinside, hbegins⟩ := extents_begins h.inside hd
      have hbefore : ∀ side, e.begins side ≤ r.begins side := fun side =>
        (hbegins side _).mp (Int.le_refl _) r ha
      have hleft := hbefore .left
      have htop := hbefore .top
      have hright := hbefore .right
      have hbottom := hbefore .bottom
      have hr := h.inside r ha
      have hwidth := hinside.width
      have hheight := hinside.height
      have hwidth' := hr.width
      have hheight' := hr.height
      refine ⟨e, rfl, ?_⟩
      simp only [Region.begins] at hleft htop hright hbottom
      simp only [Region.contains, decide_eq_true_eq, Int32.le_iff_toInt_le]
      omega

end StandsFor

/-- Recorded one after the other, regions near each other have no extents just when all of them are
empty, and otherwise their extents are the smallest rectangle around those that are not. The order does
not matter, nor does how often the list collapsed, and every region that is kept has pixels and lies
inside the extents. -/
theorem extents_smallest (h : Spanned rs) :
    ((ofRegions rs).extents = none ↔ ∀ r ∈ rs, r.isEmpty = true) ∧
    (∀ e, (ofRegions rs).extents = some e ↔ e.Encloses rs) ∧
    (∀ e, (ofRegions rs).extents = some e →
      (∀ r ∈ rs, ∀ px py, r.Has px py → e.Has px py) ∧
      ∀ e' : Region, (∀ r ∈ rs, ∀ px py, r.Has px py → e'.Has px py) →
        ∀ px py, e.Has px py → e'.Has px py) ∧
    (∀ rs', rs'.Perm rs → (ofRegions rs').extents = (ofRegions rs).extents) ∧
    (ofRegions rs).extents = (⟨rs.filter (!·.isEmpty)⟩ : Damage).extents ∧
    ∀ r ∈ (ofRegions rs).regions, r.isEmpty = false ∧
      ∃ e, (ofRegions rs).extents = some e ∧ e.contains r = true := by
  obtain ⟨bounds, hbounds⟩ := h.bounded
  have hstands : (ofRegions rs).StandsFor rs bounds := .ofRegions hbounds
  refine ⟨hstands.extents_eq_none_iff, fun e => hstands.extents_eq_some_iff, fun e he => ?_,
    fun rs' hp => ?_, hstands.extents_eq (.uncollapsed hbounds) rfl, fun r hr => ?_⟩
  · have hencloses := hstands.encloses he
    exact ⟨fun r hr _ _ => hencloses.has hr, fun e' he' _ _ => hencloses.least he'⟩
  · obtain ⟨bounds', hbounds'⟩ := (h.perm hp).bounded
    exact StandsFor.extents_eq (.ofRegions hbounds') hstands (Region.solid_perm hp)
  · exact ⟨(hstands.inside r hr).isEmpty, hstands.contains hr⟩

/-- Extents that are as wide as can be, around regions that collapsed, with an empty one far off. -/
theorem extents_smallest_widest :
    Spanned (crowded (-2147483643) ++ [⟨7, 7, 9, 0⟩]) ∧
      (ofRegions (crowded (-2147483643) ++ [⟨7, 7, 9, 0⟩])).extents = some ⟨-2147483643, 0, 2147483647, 4⟩ ∧
      Encloses ⟨-2147483643, 0, 2147483647, 4⟩ (crowded (-2147483643) ++ [⟨7, 7, 9, 0⟩]) :=
  have hspanned : Spanned (crowded (-2147483643) ++ [⟨7, 7, 9, 0⟩]) :=
    ⟨by decide +kernel, by decide +kernel⟩
  have hextents : (ofRegions (crowded (-2147483643) ++ [⟨7, 7, 9, 0⟩])).extents =
      some ⟨-2147483643, 0, 2147483647, 4⟩ := by decide +kernel
  ⟨hspanned, hextents, ((extents_smallest hspanned).2.1 _).mp hextents⟩

end Damage

end RemoteDisplay
