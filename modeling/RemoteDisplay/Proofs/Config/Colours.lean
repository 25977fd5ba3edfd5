import Mathlib.Data.Nat.Digits.Lemmas
import Mathlib.Data.String.Basic
import Mathlib.Tactic.Ring
import RemoteDisplay.Config.Settings
import RemoteDisplay.Proofs.Bytes

/-!
# Colours are read exactly

A colour is a hash sign and six or eight hexadecimal digits, and its value is the number that they write,
below an alpha of 255 if there are six. The number is read before the digits are counted, by a reader of
words that takes a plus sign and any leading zeros. Neither gets through: a sign is no digit, and the
count is that of all digits.
-/

namespace RemoteDisplay

/-! ## Numbers by their digits -/

/-- The hexadecimal digits in the order of their values, in small letters. -/
def smallDigits : List Char :=
  ['0', '1', '2', '3', '4', '5', '6', '7', '8', '9', 'a', 'b', 'c', 'd', 'e', 'f']

/-- The same digits in large letters. -/
def largeDigits : List Char :=
  ['0', '1', '2', '3', '4', '5', '6', '7', '8', '9', 'A', 'B', 'C', 'D', 'E', 'F']

/-- The character is the hexadecimal digit of the value, in either case. -/
def IsDigit (value : Nat) (c : Char) : Prop :=
  smallDigits[value]? = some c ∨ largeDigits[value]? = some c

instance (value : Nat) (c : Char) : Decidable (IsDigit value c) :=
  inferInstanceAs (Decidable (_ ∨ _))

/-- The digits write the number, the highest place first. -/
def Writes (digits : List Char) (number : Nat) : Prop :=
  ∃ values, List.Forall₂ IsDigit values digits ∧ number = Nat.ofDigits 16 values.reverse

/-- The text is a hash sign and that many digits, which write the number. -/
def Spells (text : String) (count number : Nat) : Prop :=
  ∃ digits, text.toList = '#' :: digits ∧ digits.length = count ∧ Writes digits number

variable {c : Char} {value number count : Nat} {values : List Nat} {digits : List Char} {text : String}

theorem IsDigit.value_lt (h : IsDigit value c) : value < 16 := by
  rcases h with h | h
  · exact (List.getElem?_eq_some_iff.mp h).1
  · exact (List.getElem?_eq_some_iff.mp h).1

theorem toNat_lt_of_hexDigit? (h : hexDigit? c = some value) : c.toNat < 103 := by
  have hle : ∀ {b : Char}, c ≤ b → c.toNat ≤ b.toNat := id
  unfold hexDigit? at h
  split at h
  · rename_i hc
    exact Nat.lt_of_le_of_lt (hle hc.2) (by decide)
  · split at h
    · rename_i hc
      exact Nat.lt_of_le_of_lt (hle hc.2) (by decide)
    · split at h
      · rename_i hc
        exact Nat.lt_of_le_of_lt (hle hc.2) (by decide)
      · cases h

/-- There is no digit past the small letters, and up to there all characters are looked at. -/
theorem hexDigit?_eq_some_iff : hexDigit? c = some value ↔ IsDigit value c := by
  constructor
  · intro h
    have hall : ∀ n < 103, ∀ v ∈ hexDigit? (Char.ofNat n), IsDigit v (Char.ofNat n) := by decide
    have hc := hall c.toNat (toNat_lt_of_hexDigit? h) value
    rw [Char.ofNat_toNat] at hc
    exact hc h
  · intro h
    have hsmall : ∀ v < 16, smallDigits[v]?.bind hexDigit? = some v := by decide
    have hlarge : ∀ v < 16, largeDigits[v]?.bind hexDigit? = some v := by decide
    have hlow := h.value_lt
    rcases h with hc | hc
    · have hvalue := hsmall value hlow
      rwa [hc] at hvalue
    · have hvalue := hlarge value hlow
      rwa [hc] at hvalue

theorem all_digits_iff :
    digits.all (fun c => (hexDigit? c).isSome) = true ↔ ∃ number, Writes digits number := by
  induction digits with
  | nil => exact ⟨fun _ => ⟨_, [], .nil, rfl⟩, fun _ => rfl⟩
  | cons c digits ih =>
      rw [List.all_cons, Bool.and_eq_true, ih, Option.isSome_iff_exists]
      constructor
      · rintro ⟨⟨value, hc⟩, number, values, hdigits, -⟩
        exact ⟨_, value :: values, .cons (hexDigit?_eq_some_iff.mp hc) hdigits, rfl⟩
      · rintro ⟨number, values, hdigits, -⟩
        cases hdigits with
        | cons hc hdigits => exact ⟨⟨_, hexDigit?_eq_some_iff.mpr hc⟩, _, _, hdigits, rfl⟩

theorem Writes.lt (h : Writes digits number) : number < 16 ^ digits.length := by
  obtain ⟨values, hdigits, rfl⟩ := h
  rw [← hdigits.length_eq, ← List.length_reverse]
  refine Nat.ofDigits_lt_base_pow_length (by decide) fun value hvalue => ?_
  rw [List.mem_reverse] at hvalue
  obtain ⟨i, hi, rfl⟩ := List.getElem_of_mem hvalue
  exact (hdigits.get hi (hdigits.length_eq ▸ hi)).value_lt

/-! ## Words -/

theorem exists_word {n : Nat} (h : n < 4294967296) : ∃ w, word? n = some w ∧ w.toNat = n :=
  ⟨_, if_pos h, UInt32.toNat_ofNat_of_lt' h⟩

theorem exists_pushHexDigit {n : UInt32} (hc : IsDigit value c)
    (hfits : n.toNat * 16 + value < 4294967296) :
    ∃ w, pushHexDigit? n c = some w ∧ w.toNat = n.toNat * 16 + value := by
  obtain ⟨shifted, hshifted, hvalue⟩ := exists_word (n := n.toNat * 16) (by omega)
  obtain ⟨w, hw, hsum⟩ := exists_word hfits
  refine ⟨w, ?_, hsum⟩
  simp only [pushHexDigit?, hshifted, hexDigit?_eq_some_iff.mpr hc, hvalue, bind, Option.bind, hw]

/-- The digits are pushed one by one, and as long as the word holds all of them it holds the number. -/
theorem foldlM_pushHexDigit (h : List.Forall₂ IsDigit values digits) (n : UInt32)
    (hfits : n.toNat * 16 ^ digits.length + Nat.ofDigits 16 values.reverse < 4294967296) :
    ∃ w, digits.foldlM pushHexDigit? n = some w ∧
      w.toNat = n.toNat * 16 ^ digits.length + Nat.ofDigits 16 values.reverse := by
  induction h generalizing n with
  | nil => exact ⟨n, rfl, by simp⟩
  | @cons value c values digits hc hdigits ih =>
      have hsplit : n.toNat * 16 ^ (c :: digits).length + Nat.ofDigits 16 (value :: values).reverse =
          (n.toNat * 16 + value) * 16 ^ digits.length + Nat.ofDigits 16 values.reverse := by
        rw [List.reverse_cons, Nat.ofDigits_append, Nat.ofDigits_singleton, List.length_reverse,
          hdigits.length_eq, List.length_cons]
        ring
      rw [hsplit] at hfits ⊢
      have hplace : n.toNat * 16 + value ≤ (n.toNat * 16 + value) * 16 ^ digits.length :=
        Nat.le_mul_of_pos_right _ (Nat.pow_pos (by decide))
      obtain ⟨next, hnext, hvalue⟩ := exists_pushHexDigit hc (n := n) (by omega)
      rw [← hvalue] at hfits ⊢
      obtain ⟨w, hw, hnumber⟩ := ih next hfits
      refine ⟨w, ?_, hnumber⟩
      rw [List.foldlM_cons, hnext]
      exact hw

/-- No sign is a digit, so digits are read as they are. -/
theorem hexWord?_of_digits (h : List.Forall₂ IsDigit values digits) (hsome : digits ≠ []) :
    hexWord? digits = digits.foldlM pushHexDigit? 0 := by
  have hplus : ∀ v < 16, ¬ IsDigit v '+' := by decide
  have hminus : ∀ v < 16, ¬ IsDigit v '-' := by decide
  unfold hexWord?
  split
  · exact absurd rfl hsome
  · cases h with
    | cons hc => exact absurd hc (hplus _ hc.value_lt)
  · cases h with
    | cons hc => exact absurd hc (hminus _ hc.value_lt)
  · cases h with
    | cons hc => exact absurd hc (hplus _ hc.value_lt)
  · rfl

theorem exists_hexWord (h : Writes digits number) (hsome : digits ≠ []) (hcount : digits.length ≤ 8) :
    ∃ raw, hexWord? digits = some raw ∧ raw.toNat = number := by
  have hlt := h.lt
  have hpow : 16 ^ digits.length ≤ 16 ^ 8 := Nat.pow_le_pow_right (by decide) hcount
  obtain ⟨values, hdigits, rfl⟩ := h
  have hzero : (0 : UInt32).toNat = 0 := rfl
  obtain ⟨raw, hraw, hnumber⟩ := foldlM_pushHexDigit hdigits 0 (by rw [hzero]; omega)
  refine ⟨raw, (hexWord?_of_digits hdigits hsome).trans hraw, ?_⟩
  rw [hnumber, hzero, Nat.zero_mul, Nat.zero_add]

/-- Digits take one byte each. -/
theorem utf8ByteSize_of_digits (h : Writes digits number) :
    (String.ofList digits).utf8ByteSize = digits.length := by
  have hsize : ∀ n < 103, (Char.ofNat n).utf8Size = 1 := by decide
  obtain ⟨values, hdigits, -⟩ := h
  rw [String.utf8ByteSize_ofList]
  induction hdigits with
  | nil => rfl
  | @cons value c values digits hc hdigits ih =>
      have hc := hsize c.toNat (toNat_lt_of_hexDigit? (hexDigit?_eq_some_iff.mpr hc))
      rw [Char.ofNat_toNat] at hc
      rw [String.utf8Len_cons, ih, hc, List.length_cons]

/-! ## Colours -/

theorem toNat_argb (a r g b : UInt8) : (Colour.argb a r g b).toNat =
    16777216 * a.toNat + 65536 * r.toNat + 256 * g.toNat + b.toNat := by
  have hbytes := toNat_of_bytes b g r a
  have hsame : Colour.argb a r g b =
      b.toUInt32 ||| g.toUInt32 <<< 8 ||| r.toUInt32 <<< 16 ||| a.toUInt32 <<< 24 := by
    rw [Colour.argb, UInt32.or_comm _ b.toUInt32, UInt32.or_comm _ (g.toUInt32 <<< 8),
      UInt32.or_comm (a.toUInt32 <<< 24), UInt32.or_assoc, UInt32.or_assoc]
  rw [hsame, hbytes]
  omega

theorem argb_of_bytes (w : UInt32) :
    (Colour.argb (w >>> 24).toUInt8 (w >>> 16).toUInt8 (w >>> 8).toUInt8 w.toUInt8).toNat = w.toNat := by
  have hw := w.toNat_lt
  rw [toNat_argb]
  simp only [UInt32.toNat_toUInt8, UInt32.toNat_shiftRight, Nat.shiftRight_eq_div_pow,
    UInt32.reduceToNat, Nat.reduceMod, Nat.reducePow]
  omega

theorem rgb_of_bytes {w : UInt32} (hw : w.toNat < 16777216) :
    (Colour.rgb (w >>> 16).toUInt8 (w >>> 8).toUInt8 w.toUInt8).toNat = 0xff000000 + w.toNat := by
  have halpha : (0xff : UInt8).toNat = 255 := rfl
  rw [Colour.rgb, toNat_argb, halpha]
  simp only [UInt32.toNat_toUInt8, UInt32.toNat_shiftRight, Nat.shiftRight_eq_div_pow,
    UInt32.reduceToNat, Nat.reduceMod, Nat.reducePow]
  omega

/-- What is found of the digits of a colour. -/
theorem Spells.read (h : Spells text count number) (hsome : 0 < count) (hcount : count ≤ 8) :
    ∃ digits raw, text.toList = '#' :: digits ∧ digits.all (fun c => (hexDigit? c).isSome) = true ∧
      hexWord? digits = some raw ∧ (String.ofList digits).utf8ByteSize = count ∧
      raw.toNat = number ∧ number < 16 ^ count := by
  obtain ⟨digits, htext, rfl, hdigits⟩ := h
  obtain ⟨raw, hraw, hnumber⟩ := exists_hexWord hdigits (List.ne_nil_of_length_pos hsome) hcount
  exact ⟨digits, raw, htext, all_digits_iff.mpr ⟨number, hdigits⟩, hraw, utf8ByteSize_of_digits hdigits,
    hnumber, hdigits.lt⟩

theorem parseColour_six (h : Spells text 6 number) :
    ∃ colour, parseColour text = .ok colour ∧ colour.toNat = 0xff000000 + number := by
  obtain ⟨digits, raw, htext, hall, hraw, hsize, rfl, hlt⟩ := h.read (by decide) (by decide)
  have hparse : parseColour text =
      .ok (Colour.rgb (raw >>> 16).toUInt8 (raw >>> 8).toUInt8 raw.toUInt8) := by
    simp only [parseColour, htext, hall, if_true, hraw, hsize]
  exact ⟨_, hparse, rgb_of_bytes hlt⟩

theorem parseColour_eight (h : Spells text 8 number) :
    ∃ colour, parseColour text = .ok colour ∧ colour.toNat = number := by
  obtain ⟨digits, raw, htext, hall, hraw, hsize, rfl, -⟩ := h.read (by decide) (by decide)
  have hparse : parseColour text =
      .ok (Colour.argb (raw >>> 24).toUInt8 (raw >>> 16).toUInt8 (raw >>> 8).toUInt8 raw.toUInt8) := by
    simp only [parseColour, htext, hall, if_true, hraw, hsize]
  exact ⟨_, hparse, argb_of_bytes raw⟩

theorem parseColour_error (hshort : ∀ number, ¬ Spells text 6 number)
    (hlong : ∀ number, ¬ Spells text 8 number) : parseColour text = .error (.invalidColour text) := by
  unfold parseColour
  split
  · rename_i digits htext
    split
    · rename_i hall
      obtain ⟨number, hdigits⟩ := all_digits_iff.mp hall
      rw [utf8ByteSize_of_digits hdigits]
      split
      · rfl
      · split
        · rename_i hcount
          exact absurd ⟨digits, htext, hcount, hdigits⟩ (hshort number)
        · rename_i hcount
          exact absurd ⟨digits, htext, hcount, hdigits⟩ (hlong number)
        · rfl
    · rfl
  · rfl

/-- A text is a colour exactly if it is a hash sign and six or eight hexadecimal digits, and it is the
colour that they write. Any other text is refused, with the text in the message. -/
theorem parseColour_exact (text : String) :
    ((∃ colour, parseColour text = .ok colour) ↔ ∃ number, Spells text 6 number ∨ Spells text 8 number) ∧
    (∀ number, Spells text 6 number →
      ∃ colour, parseColour text = .ok colour ∧ colour.toNat = 0xff000000 + number) ∧
    (∀ number, Spells text 8 number →
      ∃ colour, parseColour text = .ok colour ∧ colour.toNat = number) ∧
    ((∀ number, ¬ Spells text 6 number) → (∀ number, ¬ Spells text 8 number) →
      parseColour text = .error (.invalidConfiguration ("invalid colour '" ++ text ++ "'"))) := by
  refine ⟨⟨fun ⟨colour, hok⟩ => ?_, ?_⟩, fun _ => parseColour_six, fun _ => parseColour_eight,
    parseColour_error⟩
  · by_contra hnone
    rw [not_exists] at hnone
    have herror := parseColour_error (fun n hn => hnone n (.inl hn)) (fun n hn => hnone n (.inr hn))
    rw [hok] at herror
    cases herror
  · rintro ⟨number, hshort | hlong⟩
    · obtain ⟨colour, hok, -⟩ := parseColour_six hshort
      exact ⟨colour, hok⟩
    · obtain ⟨colour, hok, -⟩ := parseColour_eight hlong
      exact ⟨colour, hok⟩

/-- Digits of both cases, with an alpha. -/
theorem parseColour_exact_mixed_case : Spells "#80aBcDeF" 8 0x80abcdef ∧
    ∃ colour, parseColour "#80aBcDeF" = .ok colour ∧ colour.toNat = 0x80abcdef := by
  have hspells : Spells "#80aBcDeF" 8 0x80abcdef := by
    refine ⟨['8', '0', 'a', 'B', 'c', 'D', 'e', 'F'], by decide, rfl, [8, 0, 10, 11, 12, 13, 14, 15], ?_,
      by decide⟩
    simp only [List.forall₂_cons, List.forall₂_nil_left_iff]
    decide
  exact ⟨hspells, (parseColour_exact "#80aBcDeF").2.2.1 _ hspells⟩

/-- The reader of words takes a sign and nine digits, but the text is no colour. -/
example : hexWord? ['+', '1', '2', '3', '4', '5'] = some 0x12345 ∧
    parseColour "#+12345" = .error (.invalidColour "#+12345") ∧
    hexWord? ['0', '0', '0', '0', '0', '0', '0', '0', '7'] = some 7 ∧
    parseColour "#000000007" = .error (.invalidColour "#000000007") := by
  decide

end RemoteDisplay
