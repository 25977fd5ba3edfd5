import Mathlib.Data.List.Basic
import RemoteDisplay.Ring

/-!
# A ring is a bounded queue

A well-formed ring stands for the list of what it holds (`Ring.toList`). Appending extends the list
at its end, taking shortens it at its front, and draining splits it; every operation keeps the ring
well-formed and its number of slots.
-/

namespace RemoteDisplay.Ring

variable {α : Type} {r : Ring α}

/-! ## Cursors -/

theorem distance_eq {c start stop : Nat} (hs : start < 2 * c) (he : stop < 2 * c) :
    (stop + 2 * c - start) % (2 * c) = if start ≤ stop then stop - start else stop + 2 * c - start := by
  split
  · rw [show stop + 2 * c - start = stop - start + 2 * c by omega, Nat.add_mod_right,
      Nat.mod_eq_of_lt (by omega)]
  · rw [Nat.mod_eq_of_lt (by omega)]

theorem step_eq {c cursor : Nat} (h : cursor < 2 * c) :
    (cursor + 1) % (2 * c) = if cursor + 1 = 2 * c then 0 else cursor + 1 := by
  split
  · rename_i he
    rw [he, Nat.mod_self]
  · rw [Nat.mod_eq_of_lt (by omega)]

/-- Cursors less than a round apart have different slots. -/
theorem slot_ne {c a b : Nat} (hlt : a < b) (hc : b < a + c) : a % c ≠ b % c := by
  intro h
  have hd := Nat.sub_mod_eq_zero_of_mod_eq h.symm
  rw [Nat.mod_eq_of_lt (by omega)] at hd
  omega

/-! ## Well-formed rings -/

/-- Both cursors are in their range, no slot is filled twice, and every slot between the cursors is
filled. -/
structure WellFormed (r : Ring α) : Prop where
  capacity_pos : 0 < r.capacity
  start_lt : r.start < 2 * r.capacity
  stop_lt : r.stop < 2 * r.capacity
  length_le : r.length ≤ r.capacity
  filled : ∀ i < r.length, ∃ a, r.slots[(r.start + i) % r.capacity]? = some (some a)

theorem length_eq (hs : r.start < 2 * r.capacity) (he : r.stop < 2 * r.capacity) :
    r.length = if r.start ≤ r.stop then r.stop - r.start else r.stop + 2 * r.capacity - r.start :=
  distance_eq hs he

theorem WellFormed.stop_slot (h : r.WellFormed) :
    r.stop % r.capacity = (r.start + r.length) % r.capacity := by
  have hl := length_eq h.start_lt h.stop_lt
  split at hl
  · rw [show r.start + r.length = r.stop by omega]
  · rw [show r.start + r.length = r.stop + 2 * r.capacity by have := h.start_lt; omega,
      Nat.add_mul_mod_self_right]

theorem WellFormed.isEmpty_iff (h : r.WellFormed) : r.start = r.stop ↔ r.length = 0 := by
  have hl := length_eq h.start_lt h.stop_lt
  have := h.start_lt
  split at hl <;> omega

theorem WellFormed.length_toList (h : r.WellFormed) : r.toList.length = r.length := by
  have hsome : ∀ i ∈ List.range r.length,
      ((r.slots[(r.start + i) % r.capacity]?).join).isSome := by
    intro i hi
    obtain ⟨a, ha⟩ := h.filled i (List.mem_range.mp hi)
    simp [ha]
  rw [toList, List.length_filterMap_eq_countP, List.countP_eq_length.mpr hsome, List.length_range]

theorem wellFormed_ofCapacity (capacity origin : Nat) :
    (ofCapacity (α := α) capacity origin).WellFormed := by
  have hlen : (ofCapacity (α := α) capacity origin).length = 0 := by
    simp [length, ofCapacity]
  have hcap : (ofCapacity (α := α) capacity origin).capacity = max capacity 1 := by
    simp [Ring.capacity, ofCapacity]
  have hlt : origin % (2 * max capacity 1) < 2 * max capacity 1 := Nat.mod_lt _ (by omega)
  refine ⟨by omega, ?_, ?_, by omega, ?_⟩
  · rw [hcap]
    exact hlt
  · rw [hcap]
    exact hlt
  · intro i hi
    omega

theorem toList_ofCapacity (capacity origin : Nat) :
    (ofCapacity (α := α) capacity origin).toList = [] := by
  simp [toList, length, ofCapacity]

/-! ## Appending -/

theorem push?_of_full (a : α) (h : r.length = r.capacity) : r.push? a = none := by
  simp [push?, h]

theorem WellFormed.push (h : r.WellFormed) (a : α) (hroom : r.length < r.capacity) :
    ∃ r', r.push? a = some r' ∧ r'.WellFormed ∧ r'.toList = r.toList ++ [a] ∧
      r'.capacity = r.capacity := by
  have hs := h.start_lt
  have he := h.stop_lt
  have hstep := step_eq he
  have hl := length_eq hs he
  let r' : Ring α :=
    { slots := r.slots.setIfInBounds (r.stop % r.capacity) (some a)
      start := r.start, stop := r.advance r.stop }
  have hcap : r'.capacity = r.capacity := by simp [r', Ring.capacity]
  have hstop : r'.stop < 2 * r'.capacity := by
    rw [hcap]
    exact Nat.mod_lt _ (by omega)
  have hlen : r'.length = r.length + 1 := by
    rw [length_eq (by rw [hcap]; exact hs) hstop, hcap]
    simp only [r', advance, hstep]
    split at hl <;> split <;> split <;> omega
  -- The new slot is none of the filled ones, so they keep their values.
  have hold : ∀ i < r.length,
      r'.slots[(r.start + i) % r.capacity]? = r.slots[(r.start + i) % r.capacity]? := by
    intro i hi
    have hne := slot_ne (c := r.capacity) (a := r.start + i) (b := r.start + r.length) (by omega) (by omega)
    rw [← h.stop_slot] at hne
    simp only [r']
    rw [Array.getElem?_setIfInBounds_ne (Ne.symm hne)]
  have hnew : r'.slots[(r.start + r.length) % r.capacity]? = some (some a) := by
    rw [← h.stop_slot]
    exact Array.getElem?_setIfInBounds_self_of_lt (Nat.mod_lt _ h.capacity_pos)
  refine ⟨r', ?_, ⟨by rw [hcap]; exact h.capacity_pos, by rw [hcap]; exact hs, hstop, by omega, ?_⟩, ?_, hcap⟩
  · rw [push?, if_neg (by omega)]
  · intro i hi
    rw [hcap]
    by_cases hlt : i < r.length
    · obtain ⟨b, hb⟩ := h.filled i hlt
      exact ⟨b, by rw [show r'.start = r.start from rfl, hold i hlt, hb]⟩
    · rw [show i = r.length by omega]
      exact ⟨a, hnew⟩
  · rw [toList, toList, hlen, hcap, List.range_succ, List.filterMap_append]
    congr 1
    · exact List.filterMap_congr fun i hi => by
        rw [show r'.start = r.start from rfl, hold i (List.mem_range.mp hi)]
    · simp [show r'.start = r.start from rfl, hnew]

/-- Retries do not help while nobody takes anything. -/
theorem enqueue_eq_push? (a : α) (n : Nat) : r.enqueue a n = r.push? a := by
  induction n with
  | zero => rfl
  | succ n ih =>
      simp only [enqueue, ih]
      cases r.push? a <;> rfl

/-! ## Taking -/

theorem WellFormed.pop_of_nil (h : r.WellFormed) (hnil : r.toList = []) : r.pop = (none, r) := by
  have hlen : r.length = 0 := by rw [← h.length_toList, hnil, List.length_nil]
  rw [pop, if_pos (h.isEmpty_iff.mpr hlen)]

theorem WellFormed.pop_of_cons (h : r.WellFormed) {a : α} {as : List α} (hcons : r.toList = a :: as) :
    ∃ r', r.pop = (some a, r') ∧ r'.WellFormed ∧ r'.toList = as ∧ r'.capacity = r.capacity := by
  have hs := h.start_lt
  have he := h.stop_lt
  have hstep := step_eq hs
  have hl := length_eq hs he
  have hpos : 0 < r.length := by rw [← h.length_toList, hcons]; simp
  have hne : r.start ≠ r.stop := fun heq => by have := h.isEmpty_iff.mp heq; omega
  let r' : Ring α :=
    { slots := r.slots.setIfInBounds (r.start % r.capacity) none
      start := r.advance r.start, stop := r.stop }
  have hcap : r'.capacity = r.capacity := by simp [r', Ring.capacity]
  have hstart : r'.start < 2 * r'.capacity := by
    rw [hcap]
    exact Nat.mod_lt _ (by omega)
  have hlen : r.length = r'.length + 1 := by
    rw [length_eq hstart (by rw [hcap]; exact he), hcap]
    simp only [r', advance, hstep]
    split at hl <;> split <;> split <;> omega
  have hslot : ∀ i, (r'.start + i) % r.capacity = (r.start + (i + 1)) % r.capacity := by
    intro i
    simp only [r', advance, hstep]
    split
    · rw [show r.start + (i + 1) = 0 + i + 2 * r.capacity by omega, Nat.add_mul_mod_self_right]
    · rw [show r.start + 1 + i = r.start + (i + 1) by omega]
  -- Only the oldest slot is emptied.
  have hold : ∀ i < r'.length,
      r'.slots[(r'.start + i) % r.capacity]? = r.slots[(r.start + (i + 1)) % r.capacity]? := by
    intro i hi
    have hn := slot_ne (c := r.capacity) (a := r.start) (b := r.start + (i + 1)) (by omega)
      (by have := h.length_le; omega)
    rw [hslot i]
    simp only [r']
    rw [Array.getElem?_setIfInBounds_ne hn]
  have hlist : r.toList = (r.slots[r.start % r.capacity]?).join.toList ++ r'.toList := by
    rw [toList, toList, hlen, hcap, List.range_succ_eq_map, List.filterMap_cons, List.filterMap_map]
    have htail := List.filterMap_congr (l := List.range r'.length)
      (f := (fun i => (r.slots[(r.start + i) % r.capacity]?).join) ∘ Nat.succ)
      (g := fun i => (r'.slots[(r'.start + i) % r.capacity]?).join)
      (fun i hi => by simp only [Function.comp, hold i (List.mem_range.mp hi)])
    rw [htail, Nat.add_zero]
    cases (r.slots[r.start % r.capacity]?).join <;> rfl
  obtain ⟨b, hb⟩ := h.filled 0 hpos
  rw [Nat.add_zero] at hb
  rw [hb, hcons] at hlist
  obtain ⟨rfl, htail⟩ := List.cons.inj hlist
  refine ⟨r', ?_, ⟨by rw [hcap]; exact h.capacity_pos, hstart, by rw [hcap]; exact he, ?_, ?_⟩,
    htail.symm, hcap⟩
  · simp only [pop, if_neg hne, hb]
    rfl
  · have := h.length_le
    omega
  · intro i hi
    obtain ⟨x, hx⟩ := h.filled (i + 1) (by omega)
    exact ⟨x, by rw [hcap, hold i hi, hx]⟩

theorem WellFormed.take (h : r.WellFormed) (n : Nat) :
    (r.take n).1 = r.toList.take n ∧ (r.take n).2.WellFormed ∧ (r.take n).2.toList = r.toList.drop n ∧
      (r.take n).2.capacity = r.capacity := by
  induction n generalizing r with
  | zero => exact ⟨by simp [Ring.take], h, by simp [Ring.take], rfl⟩
  | succ n ih =>
      cases hl : r.toList with
      | nil =>
          rw [Ring.take, h.pop_of_nil hl]
          exact ⟨rfl, h, by simp [hl], rfl⟩
      | cons a as =>
          obtain ⟨r', hpop, hwf, hlist, hcap⟩ := h.pop_of_cons hl
          obtain ⟨htaken, hwf', hrest, hcap'⟩ := ih hwf
          rw [Ring.take, hpop]
          exact ⟨by simp [htaken, hlist], hwf', by simp [hrest, hlist], hcap'.trans hcap⟩

/-- Draining answers the whole list and leaves an empty ring. -/
theorem WellFormed.drain (h : r.WellFormed) :
    r.drain.1 = r.toList ∧ r.drain.2.WellFormed ∧ r.drain.2.toList = [] ∧
      r.drain.2.capacity = r.capacity := by
  obtain ⟨htaken, hwf, hrest, hcap⟩ := h.take r.length
  rw [← h.length_toList, List.take_length] at htaken
  rw [← h.length_toList, List.drop_length] at hrest
  rw [Ring.drain, ← h.length_toList]
  exact ⟨htaken, by rw [h.length_toList]; exact hwf, hrest, by rw [h.length_toList]; exact hcap⟩

theorem WellFormed.append (h : r.WellFormed) (as : List α) (hroom : r.length + as.length ≤ r.capacity) :
    (r.append as).WellFormed ∧ (r.append as).toList = r.toList ++ as ∧
      (r.append as).capacity = r.capacity := by
  induction as generalizing r with
  | nil => exact ⟨h, by simp [Ring.append], rfl⟩
  | cons a as ih =>
      rw [List.length_cons] at hroom
      obtain ⟨r', hpush, hwf, hlist, hcap⟩ := h.push a (by omega)
      have hlen : r'.length = r.length + 1 := by
        rw [← hwf.length_toList, hlist, List.length_append, h.length_toList, List.length_singleton]
      obtain ⟨hwf', hlist', hcap'⟩ := ih hwf (by omega)
      have hap : r.append (a :: as) = r'.append as := by simp [Ring.append, hpush]
      rw [hap]
      exact ⟨hwf', by simp [hlist', hlist], hcap'.trans hcap⟩

/-- Draining by a test splits the list; both parts keep their order. -/
theorem WellFormed.drainWhere (h : r.WellFormed) (p : α → Bool) :
    (r.drainWhere p).1 = r.toList.filter p ∧ (r.drainWhere p).2.WellFormed ∧
      (r.drainWhere p).2.toList = r.toList.filter (fun a => !p a) ∧
      (r.drainWhere p).2.capacity = r.capacity := by
  obtain ⟨hall, hwf, hnil, hcap⟩ := h.drain
  have hlen : r.drain.2.length = 0 := by rw [← hwf.length_toList, hnil, List.length_nil]
  have hkept : (r.toList.filter fun a => !p a).length ≤ r.capacity :=
    Nat.le_trans (List.length_filter_le _ _) (by rw [h.length_toList]; exact h.length_le)
  obtain ⟨hwf', hlist, hcap'⟩ := hwf.append (r.toList.filter fun a => !p a) (by rw [hlen, hcap]; omega)
  simp only [Ring.drainWhere, hall]
  exact ⟨trivial, hwf', by rw [hlist, hnil, List.nil_append], hcap'.trans hcap⟩

end RemoteDisplay.Ring
