import RemoteDisplay.Toml.Number

/-!
# Written integers are read back

An integer is written in decimal digits, behind a hyphen if it is negative. At the end of a line this
is neither a date nor a float, and it is read as the same integer.
-/

namespace RemoteDisplay.Toml

variable {c : Char} {cs ds rest : List Char} {k n : Nat}

/-- Characters are told apart by a class that has one of them only. -/
theorem ne_of_class {p : Char → Bool} {d : Char} (hc : p c = true) (hd : p d = false) : c ≠ d := by
  rintro rfl
  rw [hc] at hd
  exact Bool.noConfusion hd

/-! ## Decimal digits -/

theorem isDigit_of_mem (h : c ∈ Nat.toDigits 10 n) : c.isDigit = true :=
  Nat.isDigit_of_mem_toDigits (by decide) (by decide) h

/-- No number but zero begins with a zero. -/
theorem toDigits_eq_zero_or (n : Nat) :
    Nat.toDigits 10 n = ['0'] ∨ ∃ d ds, Nat.toDigits 10 n = d :: ds ∧ d ≠ '0' := by
  induction n using Nat.strongRecOn with
  | ind n ih =>
    by_cases hsmall : n < 10
    · rw [Nat.toDigits_of_lt_base hsmall]
      by_cases hzero : n = 0
      · subst hzero
        exact .inl rfl
      · exact .inr ⟨_, _, rfl, by simpa using hzero⟩
    · rw [Nat.toDigits_of_base_le (by decide) (by omega)]
      right
      have hpos : 0 < n / 10 := by omega
      rcases ih (n / 10) (by omega) with hone | ⟨d, ds, heq, hd⟩
      · have hvalue := Nat.ofDigitChars_ten_toDigits (n := n / 10)
        rw [hone] at hvalue
        exact absurd (hvalue ▸ hpos) (by decide)
      · rw [heq]
        exact ⟨d, _, rfl, hd⟩

theorem decimal_toDigits (n : Nat) : decimal (Nat.toDigits 10 n) = n :=
  Nat.ofDigitChars_ten_toDigits

theorem digits_append (h : ∀ c ∈ ds, c.isDigit = true) (rest : List Char) :
    digits Char.isDigit (ds ++ '\n' :: rest) = (ds, '\n' :: rest) := by
  induction ds with
  | nil => rfl
  | cons c cs ih =>
    have hc : c.isDigit = true := h c List.mem_cons_self
    have htail := ih fun d hd => h d (List.mem_cons_of_mem c hd)
    have hunderscore : c ≠ '_' := ne_of_class hc rfl
    rw [List.cons_append, digits.eq_def]
    split
    · rename_i heq
      exact absurd (List.cons.inj heq).1 hunderscore
    · rename_i heq
      obtain ⟨rfl, rfl⟩ := List.cons.inj heq
      rw [if_pos hc, htail]
    · rename_i heq
      simp at heq

theorem whole_toDigits (n : Nat) (rest : List Char) :
    whole (Nat.toDigits 10 n ++ '\n' :: rest) = some (Nat.toDigits 10 n, '\n' :: rest) := by
  rcases toDigits_eq_zero_or n with hzero | ⟨d, ds, heq, hd⟩
  · rw [hzero]
    rfl
  · have hdigits : ∀ c ∈ d :: ds, c.isDigit = true := by
      intro c hc
      exact isDigit_of_mem (heq ▸ hc)
    rw [heq, List.cons_append, whole.eq_def]
    split
    · rename_i hhead
      exact absurd (List.cons.inj hhead).1 hd
    · rename_i hhead
      exact absurd (List.cons.inj hhead).1 hd
    · rw [number, hdigits d List.mem_cons_self,
        digits_append fun c hc => hdigits c (List.mem_cons_of_mem d hc)]
      rfl

/-- A number begins with a digit. -/
theorem head_toDigits (n : Nat) (cs : List Char) :
    ∃ d ds, Nat.toDigits 10 n ++ cs = d :: ds ∧ d.isDigit = true := by
  obtain ⟨d, ds, heq⟩ := List.exists_cons_of_ne_nil (Nat.toDigits_ne_nil (n := n) (b := 10))
  refine ⟨d, ds ++ cs, by rw [heq, List.cons_append], ?_⟩
  apply isDigit_of_mem (n := n)
  rw [heq]
  exact List.mem_cons_self

theorem sign_toDigits (n : Nat) (cs : List Char) :
    sign (Nat.toDigits 10 n ++ cs) = (false, Nat.toDigits 10 n ++ cs) := by
  obtain ⟨d, ds, heq, hd⟩ := head_toDigits n cs
  rw [heq, sign.eq_def]
  split
  · rename_i hhead
    exact absurd (List.cons.inj hhead).1 (ne_of_class hd rfl)
  · rename_i hhead
    exact absurd (List.cons.inj hhead).1 (ne_of_class hd rfl)
  · rfl

/-! ## Integers -/

/-- An integer as it is written: the digits of its absolute value, a hyphen before them if it is
negative. -/
theorem toList_toString (n : Int) :
    (0 ≤ n ∧ (toString n).toList = Nat.toDigits 10 n.natAbs) ∨
      (n < 0 ∧ (toString n).toList = '-' :: Nat.toDigits 10 n.natAbs) := by
  cases n with
  | ofNat m =>
    left
    refine ⟨Int.natCast_nonneg m, ?_⟩
    rw [Int.toString_eq_repr]
    exact Nat.toList_repr
  | negSucc m =>
    right
    refine ⟨Int.negSucc_lt_zero m, ?_⟩
    rw [Int.toString_eq_repr, Int.repr, String.toList_append, Nat.toList_repr]
    rfl

theorem integer_of_head {negative : Bool} {body : List Char} (h : c ≠ '0')
    (hsign : sign (c :: cs) = (negative, body)) (hwhole : whole body = some (ds, rest)) :
    integer (c :: cs) = ranged (if negative then -(decimal ds : Int) else decimal ds) rest := by
  unfold integer
  split
  · rename_i heq
    exact absurd (List.cons.inj heq).1 h
  · rename_i heq
    exact absurd (List.cons.inj heq).1 h
  · rename_i heq
    exact absurd (List.cons.inj heq).1 h
  · rw [hsign]
    simp only [hwhole, Option.bind_eq_bind, Option.bind_some]

theorem integer_toString (n : Int) (rest : List Char) :
    integer ((toString n).toList ++ '\n' :: rest) = ranged n ('\n' :: rest) := by
  have hvalue := decimal_toDigits n.natAbs
  have hwhole := whole_toDigits n.natAbs rest
  rcases toList_toString n with ⟨hn, hlist⟩ | ⟨hn, hlist⟩
  · rw [hlist]
    rcases toDigits_eq_zero_or n.natAbs with hzero | ⟨d, ds, heq, hd⟩
    · rw [hzero] at hvalue ⊢
      obtain rfl : n = 0 := by
        have habs : n.natAbs = 0 := hvalue.symm
        omega
      rfl
    · have hsign := sign_toDigits n.natAbs ('\n' :: rest)
      rw [heq, List.cons_append] at hsign hwhole ⊢
      rw [integer_of_head hd hsign hwhole, ← heq, hvalue]
      simp only [Bool.false_eq_true, if_false]
      rw [Int.natAbs_of_nonneg hn]
  · have hsign : sign ('-' :: (Nat.toDigits 10 n.natAbs ++ '\n' :: rest)) =
        (true, Nat.toDigits 10 n.natAbs ++ '\n' :: rest) := rfl
    rw [hlist, List.cons_append, integer_of_head (by decide) hsign hwhole, hvalue, if_pos rfl]
    congr 1
    omega

/-! ## No floats and no dates -/

/-- Without a point or an exponent a number is no float. -/
theorem float_toString (n : Int) (rest : List Char) :
    float ((toString n).toList ++ '\n' :: rest) = none := by
  have hwhole := whole_toDigits n.natAbs rest
  obtain ⟨d, ds, heq, hd⟩ := head_toDigits n.natAbs ('\n' :: rest)
  have hsign : ∃ negative, sign ((toString n).toList ++ '\n' :: rest) = (negative, d :: ds) := by
    rw [← heq]
    rcases toList_toString n with ⟨-, hlist⟩ | ⟨-, hlist⟩ <;> rw [hlist]
    · exact ⟨false, sign_toDigits n.natAbs _⟩
    · exact ⟨true, rfl⟩
  obtain ⟨negative, hsign⟩ := hsign
  rw [heq] at hwhole
  simp only [float, hsign]
  split
  · rename_i hhead
    exact absurd (List.cons.inj hhead).1 (ne_of_class hd rfl)
  · rename_i hhead
    exact absurd (List.cons.inj hhead).1 (ne_of_class hd rfl)
  · rw [hwhole]
    rfl

/-- After some of the digits of a line nothing follows but a digit or the line end. -/
theorem char?_of_fixedDigits {m : Nat} (h : ∀ d ∈ ds, d.isDigit = true) (hc : c.isDigit = false)
    (hline : c ≠ '\n') (hread : fixedDigits k (ds ++ '\n' :: rest) = some (m, cs)) :
    char? c cs = none := by
  simp only [fixedDigits] at hread
  split at hread
  · rename_i hall
    obtain ⟨-, rfl⟩ := Prod.mk.inj (Option.some.inj hread)
    have hk : k ≤ ds.length := by
      apply Nat.le_of_not_lt
      intro hk
      have hmem : '\n' ∈ (ds ++ '\n' :: rest).take k := by
        rw [List.take_append, List.mem_append]
        right
        obtain ⟨j, hj⟩ : ∃ j, k - ds.length = j + 1 := ⟨k - ds.length - 1, by omega⟩
        rw [hj, List.take_succ_cons]
        exact List.mem_cons_self
      exact absurd (List.all_eq_true.mp hall.2 _ hmem) (by decide)
    rw [List.drop_append_of_le_length hk]
    cases hdrop : ds.drop k with
    | nil => simp [char?, hline]
    | cons e es =>
      have he : e.isDigit = true := h e (List.mem_of_mem_drop (hdrop ▸ List.mem_cons_self))
      have hne : c ≠ e := (ne_of_class he hc).symm
      simp [char?, hne]
  · simp at hread

theorem fixedDigits_bind {β : Type} {f : Nat × List Char → Option β}
    (h : ∀ m rest, fixedDigits k cs = some (m, rest) → char? c rest = none)
    (hf : ∀ m rest, char? c rest = none → f (m, rest) = none) : (fixedDigits k cs).bind f = none := by
  cases hread : fixedDigits k cs with
  | none => rfl
  | some p => exact hf p.1 p.2 (h p.1 p.2 hread)

theorem dateTime_eq_none
    (hyear : ∀ m rest, fixedDigits 4 cs = some (m, rest) → char? '-' rest = none)
    (hhour : ∀ m rest, fixedDigits 2 cs = some (m, rest) → char? ':' rest = none) :
    dateTime cs = none := by
  have hdate : date? cs = none := by
    apply fixedDigits_bind hyear
    intro m rest hrest
    simp [hrest]
  have htime : time? cs = none := by
    have hhour : hourMinute? cs = none := by
      apply fixedDigits_bind hhour
      intro m rest hrest
      simp [hrest]
    simp [time?, hhour]
  simp [dateTime, hdate, htime]

/-- A number is no date, whose fields have other characters between them. -/
theorem dateTime_toString (n : Int) (rest : List Char) :
    dateTime ((toString n).toList ++ '\n' :: rest) = none := by
  have hfield {c : Char} (hc : c.isDigit = false) (hline : c ≠ '\n') (k m : Nat) (cs : List Char)
      (hread : fixedDigits (k + 1) ((toString n).toList ++ '\n' :: rest) = some (m, cs)) :
      char? c cs = none := by
    rcases toList_toString n with ⟨-, hlist⟩ | ⟨-, hlist⟩ <;> rw [hlist] at hread
    · exact char?_of_fixedDigits (fun d hd => isDigit_of_mem hd) hc hline hread
    · simp [fixedDigits] at hread
  exact dateTime_eq_none (hfield (by decide) (by decide) 3) (hfield (by decide) (by decide) 1)

/-! ## Values -/

/-- A written integer is read as itself if it fits in 64 bits. -/
theorem number_toString (n : Int) (rest : List Char) :
    (dateTime ((toString n).toList ++ '\n' :: rest)).or
        ((float ((toString n).toList ++ '\n' :: rest)).or
          (integer ((toString n).toList ++ '\n' :: rest))) =
      ranged n ('\n' :: rest) := by
  rw [dateTime_toString, float_toString, integer_toString]
  rfl

end RemoteDisplay.Toml
