import Mathlib.Data.List.Nodup
import Mathlib.Data.List.Perm.Basic

/-!
# Tables with one entry for each key

A list of records is a table when each record has a key of its own. A record is kept by putting it in
place of the one that its key had, so everything follows from what a table is without the record of a
key. A list of keys with their values is such a table. In a list of slots the places are the keys.
-/

namespace RemoteDisplay

/-- A new key joins those of a table. -/
theorem nodup_concat {κ : Type} {keys : List κ} {k : κ} (h : keys.Nodup) (hk : k ∉ keys) :
    (keys ++ [k]).Nodup := by
  rw [← List.concat_eq_append]
  exact h.concat hk

/-! ## Records -/

section Records

variable {γ κ : Type} [DecidableEq κ] (key : γ → κ) {records : List γ} {i j : κ} {r : γ} {f : γ → γ}

theorem mem_of_find?_key (h : records.find? (key · = i) = some r) : r ∈ records ∧ key r = i :=
  ⟨List.mem_of_find?_eq_some h, by simpa using List.find?_some h⟩

theorem find?_key_isSome : (records.find? (key · = i)).isSome ↔ i ∈ records.map key := by
  simp [List.find?_isSome]

theorem find?_key_eq_none : records.find? (key · = i) = none ↔ i ∉ records.map key := by
  simp [List.find?_eq_none]

theorem map_filter_key :
    (records.filter (key · ≠ i)).map key = (records.map key).filter (· ≠ i) := by
  simp [List.filter_map, Function.comp_def]

theorem filter_key_of_not_mem (h : i ∉ records.map key) : records.filter (key · ≠ i) = records := by
  refine List.filter_eq_self.mpr fun x hx => ?_
  simp only [ne_eq, decide_eq_true_eq]
  rintro rfl
  exact h (List.mem_map_of_mem hx)

theorem perm_of_find? (hkeys : (records.map key).Nodup) (h : records.find? (key · = i) = some r) :
    records.Perm (r :: records.filter (key · ≠ i)) := by
  induction records with
  | nil => cases h
  | cons x xs ih =>
      obtain ⟨hx, hxs⟩ := List.nodup_cons.mp hkeys
      by_cases he : key x = i
      · subst he
        rw [List.find?_cons_of_pos (by simp)] at h
        obtain rfl : x = r := Option.some.inj h
        rw [List.filter_cons_of_neg (by simp), filter_key_of_not_mem key hx]
      · rw [List.find?_cons_of_neg (by simpa using he)] at h
        rw [List.filter_cons_of_pos (by simpa using he)]
        exact ((ih hxs h).cons _).trans (List.Perm.swap _ _ _)

theorem find?_key_of_mem (hkeys : (records.map key).Nodup) (hr : r ∈ records) :
    records.find? (key · = key r) = some r := by
  cases h : records.find? (key · = key r) with
  | none => exact absurd (List.mem_map_of_mem hr) ((find?_key_eq_none key).mp h)
  | some x =>
      obtain ⟨hx, he⟩ := mem_of_find?_key key h
      rw [List.inj_on_of_nodup_map hkeys hx hr he]

theorem find?_filter_key : (records.filter (key · ≠ i)).find? (key · = j) =
    if j = i then none else records.find? (key · = j) := by
  rw [List.find?_filter]
  split
  · rename_i he
    subst he
    simp [List.find?_eq_none]
  · rename_i hne
    congr 1
    funext x
    by_cases hx : key x = j
    · simp [hx, hne]
    · simp [hx]

/-- One record changed, and kept its key. -/
theorem map_key_update (hf : ∀ x, key x = i → key (f x) = i) :
    (records.map fun x => if key x = i then f x else x).map key = records.map key := by
  rw [List.map_map]
  refine List.map_congr_left fun x _ => ?_
  simp only [Function.comp_apply]
  split
  · rename_i hx
    rw [hf x hx, hx]
  · rfl

theorem find?_update (hf : ∀ x, key x = i → key (f x) = i) :
    (records.map fun x => if key x = i then f x else x).find? (key · = j) =
      if j = i then (records.find? (key · = i)).map f else records.find? (key · = j) := by
  induction records with
  | nil => simp
  | cons x xs ih =>
      rw [List.map_cons]
      by_cases hx : key x = i
      · rw [if_pos hx]
        by_cases hj : j = i
        · subst hj
          rw [List.find?_cons_of_pos (by simpa using hf x hx), List.find?_cons_of_pos (by simpa using hx),
            if_pos rfl]
          rfl
        · have hne : i ≠ j := fun he => hj he.symm
          rw [List.find?_cons_of_neg (by simpa [hf x hx] using hne), ih, if_neg hj, if_neg hj,
            List.find?_cons_of_neg (by simpa [hx] using hne)]
      · rw [if_neg hx, List.find?_cons, List.find?_cons, List.find?_cons, ih]
        by_cases hj : j = i
        · subst hj
          simp [hx]
        · simp [hj]

theorem update_perm (hkeys : (records.map key).Nodup) (h : records.find? (key · = i) = some r) :
    (records.map fun x => if key x = i then f x else x).Perm (f r :: records.filter (key · ≠ i)) := by
  have hr := (mem_of_find?_key key h).2
  refine ((perm_of_find? key hkeys h).map _).trans ?_
  rw [List.map_cons, if_pos hr]
  have hothers : (records.filter (key · ≠ i)).map (fun x => if key x = i then f x else x) =
      records.filter (key · ≠ i) := by
    conv_rhs => rw [← List.map_id (records.filter (key · ≠ i))]
    refine List.map_congr_left fun x hx => ?_
    have hne : key x ≠ i := by simpa using (List.mem_filter.mp hx).2
    rw [if_neg hne]
    rfl
  rw [hothers]

end Records

/-! ## Keys with values -/

section Entries

variable {α β : Type} [DecidableEq α] {l : List (α × β)} {a : α} {b : β}

theorem find?_of_lookup (h : l.lookup a = some b) : l.find? (·.1 = a) = some (a, b) := by
  induction l with
  | nil => cases h
  | cons e l ih =>
      obtain ⟨k, v⟩ := e
      by_cases hk : k = a
      · subst hk
        rw [List.lookup_cons_self] at h
        cases h
        exact List.find?_cons_of_pos (by simp)
      · have hbeq : (a == k) = false := by simpa using Ne.symm hk
        rw [List.lookup_cons, hbeq] at h
        rw [List.find?_cons_of_neg (by simpa using hk)]
        exact ih h

theorem perm_of_lookup (hkeys : (l.map (·.1)).Nodup) (h : l.lookup a = some b) :
    l.Perm ((a, b) :: l.filter (·.1 ≠ a)) :=
  perm_of_find? Prod.fst hkeys (find?_of_lookup h)

theorem filter_of_lookup (h : l.lookup a = none) : l.filter (·.1 ≠ a) = l := by
  refine filter_key_of_not_mem Prod.fst fun hmem => ?_
  obtain ⟨e, he, rfl⟩ := List.mem_map.mp hmem
  simpa using List.lookup_eq_none_iff.mp h e he

theorem lookup_filter {k : α} (hne : k ≠ a) : (l.filter (·.1 ≠ a)).lookup k = l.lookup k := by
  induction l with
  | nil => rfl
  | cons e l ih =>
      obtain ⟨j, v⟩ := e
      by_cases hj : j = a
      · subst hj
        have hbeq : (k == j) = false := by simpa using hne
        rw [List.filter_cons_of_neg (by simp), ih, List.lookup_cons, hbeq]
      · rw [List.filter_cons_of_pos (by simp [hj]), List.lookup_cons, List.lookup_cons, ih]

/-- An entry at the front hides those behind it. -/
theorem lookup_cons_filter (l : List (α × β)) (a : α) (b : β) (k : α) :
    ((a, b) :: l.filter (·.1 ≠ a)).lookup k = if k = a then some b else l.lookup k := by
  rw [List.lookup_cons]
  by_cases hk : k = a
  · subst hk
    simp
  · have hbeq : (k == a) = false := by simpa using hk
    rw [hbeq, if_neg hk]
    exact lookup_filter hk

end Entries

/-! ## Slots -/

/-- A slot is emptied, and what was in it comes out. -/
theorem flatMap_perm_set {α β : Type} (items : α → List β) {slots : List α} {i : Nat} {a b : α}
    (h : slots[i]? = some a) (hb : items b = []) :
    (slots.flatMap items).Perm (items a ++ (slots.set i b).flatMap items) := by
  obtain ⟨hi, rfl⟩ := List.getElem?_eq_some_iff.mp h
  have hset : i < (slots.set i b).length := by simpa using hi
  have hbefore := List.getElem_cons_eraseIdx_perm hi
  have hafter := List.getElem_cons_eraseIdx_perm hset
  rw [List.getElem_set_self, List.eraseIdx_set_eq] at hafter
  have hrest := hafter.flatMap_right items
  rw [List.flatMap_cons, hb, List.nil_append] at hrest
  have hall := hbefore.symm.flatMap_right items
  rw [List.flatMap_cons] at hall
  exact hall.trans (hrest.append_left _)

end RemoteDisplay
