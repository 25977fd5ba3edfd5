import RemoteDisplay.Checked

/-!
# Words that fit

A checked word is computed exactly if the number fits, and otherwise the computation traps.
-/

namespace RemoteDisplay

/-- What two computations in a row answer, both of them answered. -/
theorem Trap.bind_eq_ok {α β : Type} {x : Except Trap α} {f : α → Except Trap β} {r : β} :
    x >>= f = .ok r ↔ ∃ a, x = .ok a ∧ f a = .ok r := by
  cases x <;> simp [bind, Except.bind]

namespace Checked

theorem i32_eq_ok (trap : Trap) {n : Int} (hlow : -2147483648 ≤ n) (hhigh : n ≤ 2147483647) :
    i32 trap n = .ok (Int32.ofInt n) := by
  rw [i32, if_pos ⟨hlow, hhigh⟩]

theorem i32_eq_error (trap : Trap) {n : Int} (h : n < -2147483648 ∨ 2147483647 < n) :
    i32 trap n = .error trap := by
  rw [i32, if_neg (by omega)]

theorem toInt_of_i32 {trap : Trap} {n : Int} {m : Int32} (h : i32 trap n = .ok m) : m.toInt = n := by
  simp only [i32] at h
  split at h
  · rename_i hbounds
    cases h
    exact Int32.toInt_ofInt_of_le hbounds.1 (by omega)
  · cases h

theorem toNat_of_u32 {trap : Trap} {n : Nat} {m : UInt32} (h : u32 trap n = .ok m) : m.toNat = n := by
  unfold u32 at h
  split at h
  · rename_i hlt
    cases h
    exact UInt32.toNat_ofNat_of_lt' hlt
  · cases h

theorem u32_of_lt {trap : Trap} {n : Nat} (h : n < 4294967296) : u32 trap n = .ok (UInt32.ofNat n) :=
  if_pos h

theorem toNat_of_u64 {trap : Trap} {n : Nat} {m : UInt64} (h : u64 trap n = .ok m) : m.toNat = n := by
  simp only [u64] at h
  split at h
  · rename_i hlt
    cases h
    exact UInt64.toNat_ofNat_of_lt' hlt
  · cases h

theorem exists_u64 (trap : Trap) {n : Nat} (h : n < 18446744073709551616) :
    ∃ m, u64 trap n = .ok m ∧ m.toNat = n :=
  ⟨_, if_pos h, UInt64.toNat_ofNat_of_lt' h⟩

theorem exists_minus {m n : Nat} (hle : n ≤ m) (h : m < 18446744073709551616) :
    ∃ d, minus m n = .ok d ∧ d.toNat = m - n := by
  rw [minus, if_pos hle]
  exact exists_u64 _ (by omega)

theorem u64_cases (trap : Trap) (n : Nat) :
    (n < 18446744073709551616 ∧ ∃ m, u64 trap n = .ok m) ∨
      (18446744073709551616 ≤ n ∧ u64 trap n = .error trap) := by
  by_cases h : n < 18446744073709551616
  · exact .inl ⟨h, _, if_pos h⟩
  · exact .inr ⟨Nat.le_of_not_lt h, if_neg h⟩

/-! ## Counters -/

theorem next32_cases (n : UInt32) :
    (n.toNat + 1 < 4294967296 ∧ ∃ m, next32 n = .ok m ∧ m.toNat = n.toNat + 1) ∨
      (4294967296 ≤ n.toNat + 1 ∧ next32 n = .error .addOverflow) := by
  by_cases h : n.toNat + 1 < 4294967296
  · exact .inl ⟨h, _, u32_of_lt h, UInt32.toNat_ofNat_of_lt' h⟩
  · exact .inr ⟨Nat.le_of_not_lt h, if_neg h⟩

theorem next64_cases (n : UInt64) :
    (n.toNat + 1 < 18446744073709551616 ∧ ∃ m, next64 n = .ok m ∧ m.toNat = n.toNat + 1) ∨
      (18446744073709551616 ≤ n.toNat + 1 ∧ next64 n = .error .addOverflow) := by
  rcases u64_cases .addOverflow (n.toNat + 1) with ⟨hlt, m, hm⟩ | hover
  · exact .inl ⟨hlt, m, hm, toNat_of_u64 hm⟩
  · exact .inr hover

end Checked

end RemoteDisplay
