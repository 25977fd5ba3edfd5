import Mathlib.Data.List.Basic

/-!
# What held last in a log

A log grows at its end. `Since P Q` says that some entry was a `P` and that no `Q` came after it.
-/

namespace RemoteDisplay

variable {α : Type}

def Since (P Q : α → Prop) (log : List α) : Prop :=
  ∃ earlier x later, log = earlier ++ x :: later ∧ P x ∧ ∀ y ∈ later, ¬ Q y

variable {P Q : α → Prop} {log : List α} {x : α}

theorem not_since_nil : ¬ Since P Q [] := by
  rintro ⟨earlier, x, later, hlog, -⟩
  simp at hlog

theorem since_concat : Since P Q (log ++ [x]) ↔ P x ∨ (Since P Q log ∧ ¬ Q x) := by
  constructor
  · rintro ⟨earlier, y, later, hlog, hy, hlater⟩
    rcases List.eq_nil_or_concat later with rfl | ⟨later, z, rfl⟩
    · obtain rfl : x = y := List.singleton_inj.mp (List.append_inj_right' hlog rfl)
      exact .inl hy
    · rw [List.concat_eq_append] at hlog hlater
      rw [← List.cons_append, ← List.append_assoc] at hlog
      obtain ⟨rfl, hz⟩ := List.append_inj' hlog rfl
      obtain rfl : x = z := List.singleton_inj.mp hz
      refine .inr ⟨⟨earlier, y, later, rfl, hy, fun u hu => hlater u ?_⟩, hlater x ?_⟩
      · exact List.mem_append_left _ hu
      · exact List.mem_append_right _ List.mem_cons_self
  · rintro (hx | ⟨⟨earlier, y, later, rfl, hy, hlater⟩, hx⟩)
    · exact ⟨log, x, [], rfl, hx, by simp⟩
    · refine ⟨earlier, y, later ++ [x], by simp, hy, fun u hu => ?_⟩
      rcases List.mem_append.mp hu with hu | hu
      · exact hlater u hu
      · exact List.mem_singleton.mp hu ▸ hx

end RemoteDisplay
