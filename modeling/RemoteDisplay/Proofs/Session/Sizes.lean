import RemoteDisplay.Proofs.Checked
import RemoteDisplay.Proofs.Session.Effects

/-!
# Sizes of surfaces

The memory of a surface is four bytes a pixel, and the stride of its record is its row length negated.
Neither is right for all sizes: the number of bytes has to fit in 64 bits, and a row may have 2^29 pixels
at most. Beyond that the computation stops, but for the widest rows of all, whose width reads as a small
negative number and whose stride comes out positive.
-/

namespace RemoteDisplay

/-! ## Strides -/

theorem toInt_toInt32 {n : UInt32} (h : n.toNat ≤ 2147483647) : n.toInt32.toInt = n.toNat := by
  have hbits : n.toInt32.toInt = n.toInt32.toBitVec.toInt := rfl
  have hsmall : 2 * n.toInt32.toBitVec.toNat < 2 ^ 32 := by
    have hnat : n.toInt32.toBitVec.toNat = n.toNat := rfl
    omega
  rw [hbits, BitVec.toInt_eq_toNat_of_lt hsmall]
  rfl

theorem toInt_toInt32_of_high {n : UInt32} (h : 2147483648 ≤ n.toNat) :
    n.toInt32.toInt = n.toNat - 4294967296 := by
  have hbits : n.toInt32.toInt = n.toInt32.toBitVec.toInt := rfl
  have hnat : n.toInt32.toBitVec.toNat = n.toNat := rfl
  rw [hbits, BitVec.toInt_eq_toNat_cond, if_neg (by omega), hnat]
  rfl

namespace Wire.SurfaceRecord

variable {width : UInt32} (height : UInt32) (memory : UInt64)

/-- Four times the width read as a signed word, negated: if that is a signed word, it is the stride. -/
theorem primary_of_fits (hlow : -2147483648 ≤ -width.toInt32.toInt * 4)
    (hhigh : -width.toInt32.toInt * 4 ≤ 2147483647) :
    ∃ record, primary width height memory = .ok record ∧ record.width = width ∧
      record.height = height ∧ record.stride.toInt = -width.toInt32.toInt * 4 := by
  have hnegated := Checked.i32_eq_ok .negateOverflow (n := -width.toInt32.toInt) (by omega) (by omega)
  have hvalue := Checked.toInt_of_i32 hnegated
  have hstride := Checked.i32_eq_ok .multiplyOverflow
    (n := (Int32.ofInt (-width.toInt32.toInt)).toInt * 4) (by omega) (by omega)
  refine ⟨⟨width, height, Int32.ofInt ((Int32.ofInt (-width.toInt32.toInt)).toInt * 4), formatXrgb, 0, 0, 0,
    0, memory, memorySlotGroup, 0⟩, ?_, rfl, rfl, ?_⟩
  · simp only [primary, hnegated, hstride, bind, Except.bind]
    rfl
  · rw [Checked.toInt_of_i32 hstride, hvalue]

theorem primary_of_exceeds
    (h : -width.toInt32.toInt * 4 < -2147483648 ∨ 2147483647 < -width.toInt32.toInt * 4) :
    ∃ trap, primary width height memory = .error trap := by
  by_cases hword : -2147483648 ≤ -width.toInt32.toInt ∧ -width.toInt32.toInt ≤ 2147483647
  · have hnegated := Checked.i32_eq_ok .negateOverflow hword.1 hword.2
    have hvalue := Checked.toInt_of_i32 hnegated
    refine ⟨.multiplyOverflow, ?_⟩
    simp only [primary, hnegated, bind, Except.bind]
    rw [Checked.i32_eq_error .multiplyOverflow (by rw [hvalue]; exact h)]
  · refine ⟨.negateOverflow, ?_⟩
    simp only [primary, bind, Except.bind]
    rw [Checked.i32_eq_error .negateOverflow (by omega)]

theorem primary_eq_ok (h : width.toNat ≤ 536870912) :
    ∃ record, primary width height memory = .ok record ∧ record.width = width ∧
      record.height = height ∧ record.stride.toInt = -4 * width.toNat := by
  have hsigned : width.toInt32.toInt = width.toNat := toInt_toInt32 (by omega)
  have hlow : -2147483648 ≤ -width.toInt32.toInt * 4 := by omega
  obtain ⟨record, hrecord, hw, hh, hstride⟩ := primary_of_fits height memory hlow (by omega)
  exact ⟨record, hrecord, hw, hh, by omega⟩

theorem primary_of_wide (hlow : 536870912 < width.toNat) (hhigh : width.toNat ≤ 3758096384) :
    ∃ trap, primary width height memory = .error trap := by
  refine primary_of_exceeds height memory ?_
  by_cases hsmall : width.toNat ≤ 2147483647
  · have hsigned := toInt_toInt32 hsmall
    omega
  · have hsigned := toInt_toInt32_of_high (n := width) (by omega)
    omega

/-- A width that reads as a small negative number. -/
theorem primary_of_widest (h : 3758096384 < width.toNat) :
    ∃ record, primary width height memory = .ok record ∧ record.width = width ∧
      record.height = height ∧ record.stride.toInt = 4 * (4294967296 - width.toNat) := by
  have hsigned := toInt_toInt32_of_high (n := width) (by omega)
  have hlt := width.toNat_lt
  have hlow : -2147483648 ≤ -width.toInt32.toInt * 4 := by omega
  obtain ⟨record, hrecord, hw, hh, hstride⟩ := primary_of_fits height memory hlow (by omega)
  exact ⟨record, hrecord, hw, hh, by omega⟩

end Wire.SurfaceRecord

/-! ## Memory -/

namespace Backing

variable {refuses : Nat → Bool} {width height : UInt32}

/-- Memory is refused, or reserved for four bytes a pixel, or the number of bytes is no word. -/
theorem allocate_cases (refuses : Nat → Bool) (width height : UInt32) :
    (4 * (width.toNat * height.toNat) < 18446744073709551616 ∧
      ((∃ e, allocate refuses width height = .ok (.error e) ∧ (width = 0 ∨ height = 0 ∨
          Checked.reservationError refuses (4 * (width.toNat * height.toNat)) ≠ none)) ∨
        (allocate refuses width height = .ok (.ok ⟨width, height, 4 * (width.toNat * height.toNat)⟩) ∧
          Checked.reservationError refuses (4 * (width.toNat * height.toNat)) = none))) ∨
    (18446744073709551616 ≤ 4 * (width.toNat * height.toNat) ∧
      allocate refuses width height = .error .multiplyOverflow) := by
  by_cases hempty : width = 0 ∨ height = 0
  · refine .inl ⟨?_, .inl ⟨_, if_pos hempty, hempty.imp_right .inl⟩⟩
    rcases hempty with rfl | rfl <;> simp
  · simp only [allocate, if_neg hempty, bind, Except.bind]
    rcases Checked.u64_cases .multiplyOverflow (width.toNat * height.toNat) with
      ⟨-, pixels, hpixels⟩ | ⟨hlarge, hpixels⟩
    · have hcount := Checked.toNat_of_u64 hpixels
      simp only [hpixels]
      rcases Checked.u64_cases .multiplyOverflow (pixels.toNat * 4) with
        ⟨hlt, length, hlength⟩ | ⟨hlarge, hlength⟩
      · have hbytes : length.toNat = 4 * (width.toNat * height.toNat) := by
          rw [Checked.toNat_of_u64 hlength, hcount, Nat.mul_comm]
        simp only [hlength, hbytes]
        refine .inl ⟨by omega, ?_⟩
        split
        · rename_i hreason
          exact .inl ⟨_, rfl, .inr (.inr (by simp [hreason]))⟩
        · rename_i hgranted
          exact .inr ⟨rfl, hgranted⟩
      · simp only [hlength]
        exact .inr ⟨by omega, trivial⟩
    · simp only [hpixels]
      exact .inr ⟨by omega, trivial⟩

/-- The memory of a surface of a moderate size can be had, if the allocator has it. -/
theorem exists_allocate (refuses : Nat → Bool) (hw : width ≠ 0 ∧ width.toNat ≤ 4096)
    (hh : height ≠ 0 ∧ height.toNat ≤ 4096) :
    ∃ answer, allocate refuses width height = .ok answer ∧
      ((∃ backing, answer = .ok backing) ↔
        Checked.reservationError refuses (4 * (width.toNat * height.toNat)) = none) ∧
      ∀ backing, answer = .ok backing → backing.width = width ∧ backing.height = height := by
  have harea : width.toNat * height.toNat ≤ 4096 * 4096 := Nat.mul_le_mul hw.2 hh.2
  rcases allocate_cases refuses width height with
    ⟨-, ⟨e, he, hnone | hnone | hrefused⟩ | ⟨hok, hgranted⟩⟩ | ⟨hlarge, -⟩
  · exact absurd hnone hw.1
  · exact absurd hnone hh.1
  · exact ⟨_, he, by simp [hrefused], fun _ hb => by cases hb⟩
  · exact ⟨_, hok, by simp [hgranted], fun _ hb => by cases hb; exact ⟨rfl, rfl⟩⟩
  · omega

end Backing

/-! ## Announcements -/

/-- The command announces a surface of this size, with its rows from the bottom up. -/
structure Command.Announces (c : Command) (surface : SurfaceId) (width height : UInt32) : Prop where
  surface : c.surface = surface
  record : ∃ record, c.payload = .surface record ∧ record.width = width ∧ record.height = height ∧
    record.stride.toInt = -4 * width.toNat

namespace Session

variable {s : Session} {width height : UInt32} {backing : Backing}

theorem announces_announcement (hw : width.toNat ≤ 536870912) {record : Wire.SurfaceRecord}
    (h : Wire.SurfaceRecord.primary width height 0 = .ok record) (surface : SurfaceId)
    (ticket : Ticket) :
    (announcement surface width height record ticket).Announces surface width height := by
  obtain ⟨primary, hprimary, hfields⟩ := Wire.SurfaceRecord.primary_eq_ok height 0 hw
  cases h.symm.trans hprimary
  exact ⟨rfl, record, rfl, hfields⟩

/-- A creation whose record can be computed answers. If it succeeds, this record is queued. -/
theorem createSurface_queues (h : s.ring.WellFormed) {record : Wire.SurfaceRecord}
    (hrecord : Wire.SurfaceRecord.primary width height 0 = .ok record) (backing : Backing) :
    ∃ answer t, s.createSurface width height backing = .ok (answer, t) ∧
      ∀ id, answer = .ok id → ∃ ticket,
        t.queue = s.queue ++ [announcement id width height record ticket] := by
  obtain ⟨answer, t, hr⟩ := exists_createSurface (s := s) hrecord backing
  refine ⟨answer, t, hr, ?_⟩
  rintro id rfl
  obtain ⟨record', ticket, -, -, -, -, hqueue, -, -, -, hrecord'⟩ := createSurface_ok h hr
  cases hrecord.symm.trans hrecord'
  exact ⟨ticket, hqueue⟩

/-- What the sizes of a surface come to, in its memory and in its record, whatever the allocator
refuses. -/
structure Sized (s : Session) (refuses : Nat → Bool) (width height : UInt32) : Prop where
  reserved : 4 * (width.toNat * height.toNat) < 18446744073709551616 →
    (∃ e, Backing.allocate refuses width height = .ok (.error e)) ∨
    Backing.allocate refuses width height = .ok (.ok ⟨width, height, 4 * (width.toNat * height.toNat)⟩)
  overflow : 18446744073709551616 ≤ 4 * (width.toNat * height.toNat) →
    Backing.allocate refuses width height = .error .multiplyOverflow
  exact : width.toNat ≤ 536870912 → ∀ backing, Backing.allocate refuses width height = .ok (.ok backing) →
    ∃ answer t, s.createSurface width height backing = .ok (answer, t) ∧
      ∀ id, answer = .ok id → ∃ c, t.queue = s.queue ++ [c] ∧ c.Announces id width height
  /-- The stride of a wide surface is no signed word. -/
  wide : 536870912 < width.toNat → width.toNat ≤ 3758096384 →
    ∀ backing, Backing.allocate refuses width height = .ok (.ok backing) → s.Admits width height backing →
      ∃ trap, s.createSurface width height backing = .error trap
  /-- The widest ones get a positive stride. -/
  widest : 3758096384 < width.toNat →
    ∀ backing, Backing.allocate refuses width height = .ok (.ok backing) →
      ∃ answer t, s.createSurface width height backing = .ok (answer, t) ∧
        ∀ id, answer = .ok id → ∃ (c : Command) (record : Wire.SurfaceRecord),
          t.queue = s.queue ++ [c] ∧ c.payload = .surface record ∧
            record.stride.toInt = 4 * (4294967296 - width.toNat)

theorem sized_of_wellFormed (h : s.ring.WellFormed) (refuses : Nat → Bool) (width height : UInt32) :
    s.Sized refuses width height where
  reserved hfits := by
    rcases Backing.allocate_cases refuses width height with ⟨-, ⟨e, he, -⟩ | ⟨hok, -⟩⟩ | ⟨hlarge, -⟩
    · exact .inl ⟨e, he⟩
    · exact .inr hok
    · omega
  overflow hlarge := by
    rcases Backing.allocate_cases refuses width height with ⟨hfits, -⟩ | ⟨-, he⟩
    · omega
    · exact he
  exact hw backing _ := by
    obtain ⟨record, hrecord, -⟩ := Wire.SurfaceRecord.primary_eq_ok height 0 hw
    obtain ⟨answer, t, hr, hqueues⟩ := createSurface_queues h hrecord backing
    refine ⟨answer, t, hr, fun id hid => ?_⟩
    obtain ⟨ticket, hqueue⟩ := hqueues id hid
    exact ⟨_, hqueue, announces_announcement hw hrecord id ticket⟩
  wide hlow hhigh backing _ hadmits := by
    obtain ⟨trap, htrap⟩ := Wire.SurfaceRecord.primary_of_wide height 0 hlow hhigh
    refine ⟨trap, ?_⟩
    rw [createSurface_of_admits hadmits, htrap]
    rfl
  widest hw backing _ := by
    obtain ⟨record, hrecord, -, -, hstride⟩ := Wire.SurfaceRecord.primary_of_widest height 0 hw
    obtain ⟨answer, t, hr, hqueues⟩ := createSurface_queues h hrecord backing
    refine ⟨answer, t, hr, fun id hid => ?_⟩
    obtain ⟨ticket, hqueue⟩ := hqueues id hid
    exact ⟨_, record, hqueue, rfl, hstride⟩

/-- A row of 2^29 pixels is the longest one. -/
theorem sized_of_wellFormed_longest_row :
    (ofRing (.ofCapacity 1 0) 0 1 [350]).Sized Checked.exceedsMemory 536870912 1 ∧
      Backing.allocate Checked.exceedsMemory 536870912 1 = .ok (.ok ⟨536870912, 1, 2147483648⟩) :=
  ⟨sized_of_wellFormed (Ring.wellFormed_ofCapacity 1 0) Checked.exceedsMemory 536870912 1, rfl⟩

/-- The number of bytes is no word, the stride is no signed word, the stride is positive. -/
theorem sizes_out_of_range :
    Backing.allocate Checked.exceedsMemory 2147483648 2147483648 = .error .multiplyOverflow ∧
    (Backing.allocate Checked.exceedsMemory 536870913 1 = .ok (.ok ⟨536870913, 1, 2147483652⟩) ∧
      (ofRing (.ofCapacity 1 0) 0 1 [350]).createSurface 536870913 1 ⟨536870913, 1, 2147483652⟩ =
        .error .multiplyOverflow) ∧
    Backing.allocate Checked.exceedsMemory 4294967295 1 = .ok (.ok ⟨4294967295, 1, 17179869180⟩) ∧
      ((ofRing (.ofCapacity 1 0) 0 1 [350]).createSurface 4294967295 1
        ⟨4294967295, 1, 17179869180⟩).toOption.map
          (fun r => r.2.queue.filterMap fun c => c.record?.map (·.stride)) = some [4] := by
  refine ⟨rfl, ⟨rfl, rfl⟩, rfl, ?_⟩
  decide +kernel

end Session

end RemoteDisplay
