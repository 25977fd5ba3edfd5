import RemoteDisplay.Toml.Text
import RemoteDisplay.Toml.Writer

/-!
# Written texts are read back

Every form in which a text can be written is read back as that text, whatever comes after it, as long
as that is no further mark. Each reader takes what the writer made of one character, and the rest is
an induction over the text. Between triple marks the last marks of a text run into the closing ones.
-/

namespace RemoteDisplay.Toml

variable {c e mark : Char} {cs es s rest : List Char} {marks : Nat}

/-! ## One character -/

/-- How a character stands between double marks: by a letter, by its number, or for itself. -/
inductive Escaping (c : Char) : List Char → Prop
  | letter {d : Char} (h : escape? d = some c) : Escaping c ['\\', d]
  | number (h : c.toNat < 0x20 ∨ c = '\x7f') : Escaping c (unicodeEscape c)
  | plain (h : isBasic c = true) : Escaping c [c]

theorem scalar?_unicodeEscape (h : c.toNat < 0x20 ∨ c = '\x7f') :
    scalar? [upperDigit (c.toNat / 4096 % 16), upperDigit (c.toNat / 256 % 16),
      upperDigit (c.toNat / 16 % 16), upperDigit (c.toNat % 16)] = some c := by
  have hall : ∀ n < 128, scalar? [upperDigit (n / 4096 % 16), upperDigit (n / 256 % 16),
      upperDigit (n / 16 % 16), upperDigit (n % 16)] = some (Char.ofNat n) := by decide
  have hlow : c.toNat < 128 := by
    rcases h with h | rfl
    · omega
    · decide
  have hscalar := hall c.toNat hlow
  rw [Char.ofNat_toNat] at hscalar
  exact hscalar

theorem toNat_ne_delete (h : c ≠ '\x7f') : c.toNat ≠ 0x7f := by
  intro heq
  apply h
  rw [← Char.ofNat_toNat c, heq]

theorem isBasic_of_not_control (hmark : c ≠ '"') (hslash : c ≠ '\\') (hlow : ¬ c.toNat < 0x20)
    (hdelete : c ≠ '\x7f') : isBasic c = true := by
  have hcode := toNat_ne_delete hdelete
  simp only [isBasic, isPlain, hmark, hslash, ne_eq, not_false_eq_true, decide_true, Bool.and_true,
    Bool.or_eq_true, Bool.and_eq_true, decide_eq_true_eq]
  omega

theorem escaping_escapedChar (hmark : c ≠ '"') : Escaping c (escapedChar c) := by
  unfold escapedChar
  split
  · subst_vars
    exact .letter rfl
  split
  · subst_vars
    exact .letter rfl
  split
  · subst_vars
    exact .letter rfl
  split
  · subst_vars
    exact .letter rfl
  split
  · subst_vars
    exact .letter rfl
  split
  · rename_i hcontrol
    exact .number (by simpa using hcontrol)
  · rename_i hslash hcontrol
    rw [Bool.or_eq_true, decide_eq_true_eq, decide_eq_true_eq, not_or] at hcontrol
    exact .plain (isBasic_of_not_control hmark hslash hcontrol.1 hcontrol.2)

theorem escaping_onLine (c : Char) : Escaping c
    (if c = '"' then ['\\', '"'] else if c = '\n' then ['\\', 'n'] else escapedChar c) := by
  split
  · subst_vars
    exact .letter rfl
  split
  · subst_vars
    exact .letter rfl
  · rename_i hmark _
    exact escaping_escapedChar hmark

theorem ne_of_isBasic (h : isBasic c = true) : c ≠ '"' ∧ c ≠ '\\' ∧ c ≠ '\n' ∧ c ≠ '\r' := by
  refine ⟨?_, ?_, ?_, ?_⟩ <;> rintro rfl <;> exact absurd h (by decide)

/-- The characters that stand behind a backslash are none of those that mean more. -/
theorem letter_cases (h : escape? e = some c) :
    e ∈ ['b', 't', 'n', 'f', 'r', '"', '\\'] := by
  unfold escape? at h
  split at h <;> simp at h ⊢

theorem head_of_escaping (h : Escaping c es) :
    ∃ d ds, es = d :: ds ∧ d ≠ '"' ∧ d ≠ '\n' ∧ d ≠ '\r' := by
  cases h with
  | letter h => exact ⟨_, _, rfl, by decide⟩
  | number h => exact ⟨_, _, rfl, by decide⟩
  | plain h =>
    obtain ⟨hmark, -, hline, hreturn⟩ := ne_of_isBasic h
    exact ⟨c, [], rfl, hmark, hline, hreturn⟩

theorem basicText_escaping (h : Escaping c es) (cs : List Char) :
    basicText (es ++ cs) = before? (some c) (basicText cs) := by
  cases h with
  | @letter d h =>
    have hd := letter_cases h
    simp only [List.mem_cons, List.not_mem_nil, or_false] at hd
    rw [← h]
    rcases hd with rfl | rfl | rfl | rfl | rfl | rfl | rfl <;> rfl
  | number h =>
    rw [← scalar?_unicodeEscape h]
    rfl
  | plain h =>
    obtain ⟨hmark, hslash, -⟩ := ne_of_isBasic h
    rw [List.singleton_append, basicText.eq_def]
    simp only [if_neg hmark, if_neg hslash, if_pos h]

theorem basicLines_escaping (h : Escaping c es) (cs : List Char) :
    basicLines .none (es ++ cs) = before? (some c) (basicLines .none cs) := by
  cases h with
  | @letter d h =>
    have hd := letter_cases h
    simp only [List.mem_cons, List.not_mem_nil, or_false] at hd
    rw [← h, List.cons_append, basicLines.eq_def]
    rcases hd with rfl | rfl | rfl | rfl | rfl | rfl | rfl <;> rfl
  | number h =>
    rw [← scalar?_unicodeEscape h]
    rfl
  | plain h =>
    obtain ⟨hmark, hslash, hline, hreturn⟩ := ne_of_isBasic h
    rw [List.singleton_append, basicLines.eq_def]
    simp only [if_neg hmark, if_neg hslash, if_neg hline, if_neg hreturn, if_pos h]
    simp

/-! ## One line -/

theorem basicText_mark (rest : List Char) : basicText ('"' :: rest) = some ([], rest) := by
  rw [basicText.eq_def]
  rfl

theorem basicText_escapedLine (s rest : List Char) :
    basicText (escapedLine s ++ '"' :: rest) = some (s, rest) := by
  induction s with
  | nil => exact basicText_mark rest
  | cons c cs ih =>
    rw [escapedLine, List.append_assoc, basicText_escaping (escaping_onLine c), ih]
    rfl

theorem literalText_append (h : ∀ c ∈ s, isLiteral c = true) (rest : List Char) :
    literalText (s ++ '\'' :: rest) = some (s, rest) := by
  induction s with
  | nil => rfl
  | cons c cs ih =>
    have hc : isLiteral c = true := h c List.mem_cons_self
    have hmark : c ≠ '\'' := by
      rintro rfl
      exact absurd hc (by decide)
    rw [List.cons_append, literalText, if_neg hmark, if_pos hc,
      ih fun d hd => h d (List.mem_cons_of_mem c hd)]
    rfl

/-! ## Several lines -/

/-- Two of a mark stand in front. -/
def StartsDouble (mark : Char) (cs : List Char) : Prop := ∃ rest, cs = mark :: mark :: rest

theorem not_startsDouble_of_head (h : c ≠ mark) : ¬ StartsDouble mark (c :: cs) := by
  rintro ⟨rest, heq⟩
  exact h (List.cons.inj heq).1

theorem not_startsDouble_of_next (h : c ≠ mark) : ¬ StartsDouble mark (mark :: c :: cs) := by
  rintro ⟨rest, heq⟩
  exact h (List.cons.inj (List.cons.inj heq).2).1

theorem closeText_of_head (h : rest.head? ≠ some mark) : closeText mark rest = ([], rest) := by
  cases rest with
  | nil => rfl
  | cons a as =>
    have ha : a ≠ mark := by simpa using h
    cases as <;> simp [closeText, ha]

theorem closeText_one (h : rest.head? ≠ some mark) :
    closeText mark (mark :: rest) = ([mark], rest) := by
  cases rest with
  | nil => simp [closeText]
  | cons a as =>
    have ha : a ≠ mark := by simpa using h
    simp [closeText, ha]

theorem closeText_two : closeText mark (mark :: mark :: rest) = ([mark, mark], rest) := by
  simp [closeText]

theorem basicLines_close (cs : List Char) :
    basicLines .none ('"' :: '"' :: '"' :: cs) = some (closeText '"' cs) := by
  rw [basicLines.eq_def]
  rfl

theorem basicLines_mark (h : ¬ StartsDouble '"' cs) :
    basicLines .none ('"' :: cs) = before? (some '"') (basicLines .none cs) := by
  rw [basicLines.eq_def]
  simp only [show ('"' = '\n') = False by decide, show ('"' = '\r') = False by decide, if_false,
    show isSpace '"' = false by decide, Bool.false_eq_true]
  simp only [reduceCtorEq, if_false, if_true]
  split
  · exact absurd ⟨_, rfl⟩ h
  · rfl

theorem basicLines_newline (cs : List Char) :
    basicLines .none ('\n' :: cs) = before? (some '\n') (basicLines .none cs) := by
  rw [basicLines.eq_def]
  rfl

theorem head_escapedLines (h : c ≠ '"' ∨ marks = 2) (cs : List Char) :
    ∃ d ds, escapedLines marks (c :: cs) = d :: ds ∧ d ≠ '"' := by
  unfold escapedLines
  by_cases hmark : c = '"'
  · have hmarks : marks = 2 := h.resolve_left fun hne => hne hmark
    rw [if_pos hmark, if_pos hmarks]
    exact ⟨_, _, rfl, by decide⟩
  rw [if_neg hmark]
  split
  · exact ⟨_, _, rfl, by decide⟩
  · obtain ⟨d, ds, heq, hd, -⟩ := head_of_escaping (escaping_escapedChar hmark)
    rw [heq]
    exact ⟨_, _, rfl, hd⟩

/-- After a mark that stands for itself two more marks follow only at the end of the text. -/
theorem not_startsDouble_escapedLines (hmarks : marks ≤ 1) (hnil : cs ≠ [])
    (hone : cs = ['"'] → marks = 1) (rest : List Char) :
    ¬ StartsDouble '"' (escapedLines (marks + 1) cs ++ rest) := by
  obtain ⟨c, ds, rfl⟩ := List.exists_cons_of_ne_nil hnil
  by_cases hhead : c ≠ '"' ∨ marks + 1 = 2
  · obtain ⟨d, es, heq, hd⟩ := head_escapedLines hhead ds
    rw [heq]
    exact not_startsDouble_of_head hd
  · obtain ⟨hmark, hzero⟩ := not_or.mp hhead
    obtain rfl : c = '"' := Decidable.not_not.mp hmark
    obtain rfl : marks = 0 := by omega
    obtain ⟨c, cs, rfl⟩ := List.exists_cons_of_ne_nil (l := ds) (by
      rintro rfl
      exact absurd (hone rfl) (by decide))
    have hhead : ∃ d es, escapedLines 2 (c :: cs) = d :: es ∧ d ≠ '"' :=
      head_escapedLines (.inr rfl) cs
    obtain ⟨d, es, heq, hd⟩ := hhead
    have hnext : escapedLines (0 + 1) ('"' :: c :: cs) = '"' :: d :: es := by
      rw [escapedLines, if_pos rfl, if_neg (by decide), heq]
    rw [hnext]
    exact not_startsDouble_of_next hd

theorem basicLines_escapedLines (hrest : rest.head? ≠ some '"') (s : List Char) :
    ∀ marks ≤ 2, basicLines .none (escapedLines marks s ++ '"' :: '"' :: '"' :: rest) =
      some (s, rest) := by
  induction s with
  | nil =>
    intro marks hmarks
    rw [escapedLines, List.nil_append, basicLines_close, closeText_of_head hrest]
  | cons c cs ih =>
    intro marks hmarks
    rw [escapedLines]
    by_cases hmark : c = '"'
    · subst hmark
      rw [if_pos rfl]
      by_cases htwo : marks = 2
      · rw [if_pos htwo]
        have hescaping : Escaping '"' ['\\', '"'] := .letter rfl
        have hread := basicLines_escaping hescaping
          (escapedLines 0 cs ++ '"' :: '"' :: '"' :: rest)
        rw [ih 0 (by omega)] at hread
        exact hread
      rw [if_neg htwo, List.cons_append]
      -- One or two marks at the end of the text are read as part of the closing ones. Any others
      -- have a different character within the next two, so they are read one by one.
      by_cases hnil : cs = []
      · subst hnil
        rw [escapedLines, List.nil_append, basicLines_close, closeText_one hrest]
      by_cases hone : cs = ['"'] ∧ marks = 0
      · obtain ⟨rfl, rfl⟩ := hone
        rw [show escapedLines (0 + 1) ['"'] = ['"'] from rfl, List.singleton_append,
          basicLines_close, closeText_two]
      · have hmarks' : cs = ['"'] → marks = 1 := by
          intro h
          have hzero : marks ≠ 0 := fun hzero => hone ⟨h, hzero⟩
          omega
        have hdouble := not_startsDouble_escapedLines (by omega) hnil hmarks'
          ('"' :: '"' :: '"' :: rest)
        rw [basicLines_mark hdouble, ih (marks + 1) (by omega)]
        rfl
    rw [if_neg hmark]
    split
    · subst_vars
      rw [List.cons_append, basicLines_newline, ih 0 (by omega)]
      rfl
    · rw [List.append_assoc, basicLines_escaping (escaping_escapedChar hmark), ih 0 (by omega)]
      rfl

theorem literalLines_close (cs : List Char) :
    literalLines ('\'' :: '\'' :: '\'' :: cs) = some (closeText '\'' cs) := by
  rw [literalLines.eq_def]
  rfl

theorem literalLines_mark (h : ¬ StartsDouble '\'' cs) :
    literalLines ('\'' :: cs) = before? (some '\'') (literalLines cs) := by
  rw [literalLines.eq_def]
  simp only [show ('\'' = '\n') = False by decide, show ('\'' = '\r') = False by decide, if_false,
    if_true]
  split
  · exact absurd ⟨_, rfl⟩ h
  · rfl

theorem literalLines_plain (h : isLiteral c = true ∨ c = '\n') (cs : List Char) :
    literalLines (c :: cs) = before? (some c) (literalLines cs) := by
  rw [literalLines.eq_def]
  by_cases hline : c = '\n'
  · simp only [hline, if_true]
  · have hc := h.resolve_right hline
    have hmark : c ≠ '\'' := by
      rintro rfl
      exact absurd hc (by decide)
    have hreturn : c ≠ '\r' := by
      rintro rfl
      exact absurd hc (by decide)
    simp only [if_neg hline, if_neg hreturn, if_neg hmark, if_pos hc]

theorem hasTriple_of_cons (h : hasTriple mark (c :: cs) = false) : hasTriple mark cs = false := by
  cases cs with
  | nil => rfl
  | cons a as =>
    cases as with
    | nil => rfl
    | cons b bs =>
      rw [hasTriple, Bool.or_eq_false_iff] at h
      exact h.2

/-- A text without three marks in a row goes on with two of them only at its end. -/
theorem not_startsDouble_of_not_hasTriple (h : hasTriple mark (mark :: cs) = false) (hnil : cs ≠ [])
    (hone : cs ≠ [mark]) (rest : List Char) : ¬ StartsDouble mark (cs ++ rest) := by
  obtain ⟨c, ds, rfl⟩ := List.exists_cons_of_ne_nil hnil
  by_cases hc : c = mark
  · subst hc
    obtain ⟨d, es, rfl⟩ := List.exists_cons_of_ne_nil (l := ds) fun hds => hone (by rw [hds])
    have hd : d ≠ c := by
      rintro rfl
      simp [hasTriple] at h
    exact not_startsDouble_of_next hd
  · exact not_startsDouble_of_head hc

theorem literalLines_append (hrest : rest.head? ≠ some '\'') (htriple : hasTriple '\'' s = false)
    (h : ∀ c ∈ s, c ≠ '\'' → isLiteral c = true ∨ c = '\n') :
    literalLines (s ++ '\'' :: '\'' :: '\'' :: rest) = some (s, rest) := by
  induction s with
  | nil => rw [List.nil_append, literalLines_close, closeText_of_head hrest]
  | cons c cs ih =>
    have htail := ih (hasTriple_of_cons htriple) fun d hd => h d (List.mem_cons_of_mem c hd)
    rw [List.cons_append]
    by_cases hmark : c = '\''
    · subst hmark
      by_cases hnil : cs = []
      · subst hnil
        rw [List.nil_append, literalLines_close, closeText_one hrest]
      by_cases hone : cs = ['\'']
      · subst hone
        rw [List.singleton_append, literalLines_close, closeText_two]
      · rw [literalLines_mark (not_startsDouble_of_not_hasTriple htriple hnil hone _), htail]
        rfl
    · rw [literalLines_plain (h c List.mem_cons_self hmark), htail]
      rfl

/-! ## All forms -/

theorem text_of_not_startsDouble (h : ¬ StartsDouble '"' cs) : text ('"' :: cs) = basicText cs := by
  rw [text.eq_def]
  split
  · rename_i heq
    exact absurd ⟨_, (List.cons.inj heq).2⟩ h
  · rename_i heq
    simp at heq
  · rfl

theorem text_literal_of_not_startsDouble (h : ¬ StartsDouble '\'' cs) :
    text ('\'' :: cs) = literalText cs := by
  rw [text.eq_def]
  split
  · rename_i heq
    simp at heq
  · rename_i heq
    exact absurd ⟨_, (List.cons.inj heq).2⟩ h
  · rfl

theorem skipFirstNewline_of_head (hline : c ≠ '\n') (hreturn : c ≠ '\r') (cs : List Char) :
    skipFirstNewline (c :: cs) = c :: cs := by
  unfold skipFirstNewline newline?
  split <;> simp_all

/-- The line feed behind the opening marks is left out, and without it nothing is. -/
theorem skipFirstNewline_opening
    (h : '\n' ∉ s → ∃ c ds, cs = c :: ds ∧ c ≠ '\n' ∧ c ≠ '\r') :
    skipFirstNewline (opening s ++ cs) = cs := by
  unfold opening
  split
  · rfl
  · rename_i hline
    obtain ⟨c, ds, rfl, hc, hreturn⟩ := h (by simpa using hline)
    exact skipFirstNewline_of_head hc hreturn ds

theorem head_escapedLines_zero (h : '\n' ∉ s) (rest : List Char) :
    ∃ c ds, escapedLines 0 s ++ '"' :: rest = c :: ds ∧ c ≠ '\n' ∧ c ≠ '\r' := by
  cases s with
  | nil => exact ⟨_, _, rfl, by decide⟩
  | cons c cs =>
    have hline : c ≠ '\n' := fun hc => h (by simp [hc])
    unfold escapedLines
    by_cases hmark : c = '"'
    · rw [if_pos hmark, if_neg (by decide)]
      exact ⟨_, _, rfl, by decide⟩
    · rw [if_neg hmark, if_neg hline]
      obtain ⟨d, ds, heq, -, hd⟩ := head_of_escaping (escaping_escapedChar hmark)
      rw [heq]
      exact ⟨_, _, rfl, hd⟩

theorem text_escapedLine (hrest : rest.head? ≠ some '"') (s : List Char) :
    text ('"' :: (escapedLine s ++ '"' :: rest)) = some (s, rest) := by
  have hdouble : ¬ StartsDouble '"' (escapedLine s ++ '"' :: rest) := by
    cases s with
    | nil =>
      rintro ⟨tail, heq⟩
      rw [(List.cons.inj heq).2] at hrest
      exact hrest rfl
    | cons c cs =>
      obtain ⟨d, ds, heq, hd, -⟩ := head_of_escaping (escaping_onLine c)
      rw [escapedLine, heq]
      exact not_startsDouble_of_head hd
  rw [text_of_not_startsDouble hdouble, basicText_escapedLine]

theorem text_escapedLines (hrest : rest.head? ≠ some '"') (s : List Char) :
    text ('"' :: '"' :: '"' :: (opening s ++ (escapedLines 0 s ++ '"' :: '"' :: '"' :: rest))) =
      some (s, rest) := by
  rw [text, skipFirstNewline_opening fun h => head_escapedLines_zero h _,
    basicLines_escapedLines hrest s 0 (by decide)]

theorem not_needsEscape_of_any (h : s.any needsEscape = false) (hc : c ∈ s) :
    isPlain c = true ∨ c = '\n' := by
  have hescape := List.any_eq_false.mp h c hc
  by_cases hline : c = '\n'
  · exact .inr hline
  by_cases htab : c = '\t'
  · subst htab
    exact .inl rfl
  have hlow : ¬ c.toNat < 0x20 := fun hlow => hescape (by simp [needsEscape, hlow, htab, hline])
  have hdelete : c ≠ '\x7f' := fun hdelete => hescape (by simp [needsEscape, hdelete])
  have hcode := toNat_ne_delete hdelete
  left
  simp only [isPlain, Bool.or_eq_true, Bool.and_eq_true, decide_eq_true_eq]
  omega

theorem text_literalLine (hrest : rest.head? ≠ some '\'') (hmark : '\'' ∉ s) (hline : '\n' ∉ s)
    (hescape : s.any needsEscape = false) :
    text ('\'' :: (s ++ '\'' :: rest)) = some (s, rest) := by
  have hdouble : ¬ StartsDouble '\'' (s ++ '\'' :: rest) := by
    cases s with
    | nil =>
      rintro ⟨tail, heq⟩
      rw [(List.cons.inj heq).2] at hrest
      exact hrest rfl
    | cons c cs => exact not_startsDouble_of_head fun hc => hmark (by simp [hc])
  have hplain : ∀ c ∈ s, isLiteral c = true := by
    intro c hc
    have hchar : c ≠ '\'' := fun heq => hmark (heq ▸ hc)
    have hnewline : c ≠ '\n' := fun heq => hline (heq ▸ hc)
    have hc := (not_needsEscape_of_any hescape hc).resolve_right hnewline
    simp [isLiteral, hc, hchar]
  rw [text_literal_of_not_startsDouble hdouble, literalText_append hplain]

theorem text_literalLines (hrest : rest.head? ≠ some '\'') (htriple : hasTriple '\'' s = false)
    (hescape : s.any needsEscape = false) :
    text ('\'' :: '\'' :: '\'' :: (opening s ++ (s ++ '\'' :: '\'' :: '\'' :: rest))) =
      some (s, rest) := by
  have hplain : ∀ c ∈ s, c ≠ '\'' → isLiteral c = true ∨ c = '\n' := by
    intro c hc hchar
    rcases not_needsEscape_of_any hescape hc with hc | hc
    · exact .inl (by simp [isLiteral, hc, hchar])
    · exact .inr hc
  have hhead (h : '\n' ∉ s) :
      ∃ c ds, s ++ '\'' :: '\'' :: '\'' :: rest = c :: ds ∧ c ≠ '\n' ∧ c ≠ '\r' := by
    cases s with
    | nil => exact ⟨_, _, rfl, by decide⟩
    | cons c cs =>
      have hline : c ≠ '\n' := fun hc => h (by simp [hc])
      have hc := (not_needsEscape_of_any hescape List.mem_cons_self).resolve_right hline
      refine ⟨_, _, rfl, hline, ?_⟩
      rintro rfl
      exact absurd hc (by decide)
  rw [text, skipFirstNewline_opening hhead, literalLines_append hrest htriple hplain]

theorem of_formOf_literal (h : formOf s = .literal) :
    '\'' ∉ s ∧ '\n' ∉ s ∧ s.any needsEscape = false := by
  simp only [formOf] at h
  split at h
  · exact Form.noConfusion h
  split at h
  · simp_all
  split at h
  · exact Form.noConfusion h
  split at h <;> exact Form.noConfusion h

theorem of_formOf_literalLines (h : formOf s = .literalLines) :
    hasTriple '\'' s = false ∧ s.any needsEscape = false := by
  simp only [formOf] at h
  split at h
  · exact Form.noConfusion h
  split at h
  · exact Form.noConfusion h
  split at h
  · exact Form.noConfusion h
  split at h
  · simp_all
  · exact Form.noConfusion h

theorem text_writeText (hdouble : rest.head? ≠ some '"') (hsingle : rest.head? ≠ some '\'')
    (s : List Char) : text (writeText s ++ rest) = some (s, rest) := by
  unfold writeText
  cases hform : formOf s with
  | basic => simpa using text_escapedLine hdouble s
  | literal =>
    obtain ⟨hmark, hline, hescape⟩ := of_formOf_literal hform
    simpa using text_literalLine hsingle hmark hline hescape
  | basicLines => simpa using text_escapedLines hdouble s
  | literalLines =>
    obtain ⟨htriple, hescape⟩ := of_formOf_literalLines hform
    simpa using text_literalLines hsingle htriple hescape
  | escaped =>
    have hlines := text_escapedLines hdouble s
    simp only [opening] at hlines
    by_cases hline : s.contains '\n' = true
    · rw [if_pos hline] at hlines
      simpa only [if_pos hline, List.append_assoc] using! hlines
    · simpa only [if_neg hline, List.append_assoc] using! text_escapedLine hdouble s

end RemoteDisplay.Toml
