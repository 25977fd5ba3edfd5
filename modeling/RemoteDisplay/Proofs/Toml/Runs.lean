import RemoteDisplay.Toml.Writer

/-!
# Marks in a row

The longest run of a mark, as it is counted while a text is gone through, is the length of the
longest row of that mark in the text. The marks can be counted in a byte unless 256 of a kind stand
in a row.
-/

namespace RemoteDisplay.Toml

variable {c mark : Char} {cs : List Char}

theorem replicate_prefix_iff (h : cs.head? ≠ some mark) : ∀ k n,
    List.replicate k mark <+: List.replicate n mark ++ cs ↔ k ≤ n
  | 0, _ => by simp
  | k + 1, 0 => by
    cases cs with
    | nil => simp
    | cons c cs =>
      have hc : mark ≠ c := by
        rintro rfl
        exact h rfl
      simp [List.replicate_succ, hc]
  | k + 1, n + 1 => by
    simp [List.replicate_succ, replicate_prefix_iff h k n]

/-- Marks in a row lie on one side of a text that does not begin with one. -/
theorem replicate_infix_iff (h : cs.head? ≠ some mark) (k n : Nat) :
    List.replicate k mark <:+: List.replicate n mark ++ cs ↔
      k ≤ n ∨ List.replicate k mark <:+: cs := by
  induction n with
  | zero =>
    rw [List.replicate_zero, List.nil_append]
    refine ⟨.inr, ?_⟩
    rintro (hk | hinfix)
    · obtain rfl := Nat.le_zero.mp hk
      exact List.nil_infix
    · exact hinfix
  | succ n ih =>
    have hprefix := replicate_prefix_iff h k (n + 1)
    rw [List.replicate_succ, List.cons_append] at hprefix ⊢
    rw [List.infix_cons_iff, hprefix, ih, ← or_assoc]
    refine or_congr_left ⟨?_, .inl⟩
    omega

/-- A run that goes on with the text is as long as the longest row of marks in both. -/
theorem le_longestRun_iff (mark : Char) (k : Nat) (s : List Char) : ∀ run,
    k ≤ longestRun mark run s ↔ List.replicate k mark <:+: List.replicate run mark ++ s := by
  induction s with
  | nil =>
    intro run
    rw [longestRun, replicate_infix_iff (by simp)]
    simp
    omega
  | cons c cs ih =>
    intro run
    rw [longestRun]
    by_cases hmark : c = mark
    · subst hmark
      rw [if_pos rfl, ih, List.replicate_succ', List.append_assoc, List.singleton_append]
    · have hhead : (c :: cs).head? ≠ some mark := by simpa using hmark
      have hnone := replicate_prefix_iff hhead k 0
      rw [List.replicate_zero, List.nil_append] at hnone
      rw [if_neg hmark, replicate_infix_iff hhead, List.infix_cons_iff, hnone,
        Nat.max_def]
      have hrest := ih 0
      rw [List.replicate_zero, List.nil_append] at hrest
      rw [← hrest]
      split <;> omega

theorem longestRun_lt_iff (mark : Char) (k : Nat) (s : List Char) :
    longestRun mark 0 s < k ↔ ¬ List.replicate k mark <:+: s := by
  have hle := le_longestRun_iff mark k s 0
  rw [List.replicate_zero, List.nil_append] at hle
  rw [← hle, Nat.not_le]

/-- The marks in a row can be counted in a byte unless 256 of a kind stand in a row. -/
theorem runsFit_iff (s : List Char) :
    runsFit s = true ↔ ∀ mark ∈ ['"', '\''], ¬ List.replicate 256 mark <:+: s := by
  rw [runsFit, Bool.and_eq_true, decide_eq_true_eq, decide_eq_true_eq, longestRun_lt_iff,
    longestRun_lt_iff]
  constructor
  · rintro ⟨hdouble, hsingle⟩ mark hmark
    have hkind : mark = '"' ∨ mark = '\'' := by simpa using hmark
    rcases hkind with rfl | rfl
    · exact hdouble
    · exact hsingle
  · intro h
    exact ⟨h _ List.mem_cons_self, h _ (List.mem_cons_of_mem _ List.mem_cons_self)⟩

end RemoteDisplay.Toml
