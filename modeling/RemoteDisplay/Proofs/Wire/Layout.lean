import Mathlib.Algebra.Group.Nat.Defs
import RemoteDisplay.Wire.Record

/-!
# Reading back what was written

A lawful layout writes as many bytes as it says and reads them back whatever follows. An exact one
reads any bytes as long as there are enough, and it reads nothing but what it writes. Words and bytes
are exact, and so is what `pair` and `imap` put together from exact layouts.
-/

namespace RemoteDisplay.Wire

/-! ## Numbers by their bytes -/

@[simp] theorem length_lowBytes (n v : Nat) : (lowBytes n v).length = n := by
  induction n generalizing v with
  | zero => rfl
  | succ n ih => simp [lowBytes, ih]

theorem ofLowBytes_lowBytes (n v : Nat) : ofLowBytes (lowBytes n v) = v % 256 ^ n := by
  induction n generalizing v with
  | zero => simp [lowBytes, ofLowBytes, Nat.mod_one]
  | succ n ih =>
      have hbyte : (UInt8.ofNat v).toNat = v % 256 := by simp
      rw [lowBytes, ofLowBytes, ih, hbyte, Nat.pow_succ, Nat.mul_comm (256 ^ n) 256, Nat.mod_mul]

theorem ofLowBytes_lt (bs : List UInt8) : ofLowBytes bs < 256 ^ bs.length := by
  induction bs with
  | nil => simp [ofLowBytes]
  | cons b bs ih =>
      have hb := b.toNat_lt
      rw [ofLowBytes, List.length_cons, Nat.pow_succ]
      omega

theorem lowBytes_ofLowBytes (bs : List UInt8) : lowBytes bs.length (ofLowBytes bs) = bs := by
  induction bs with
  | nil => rfl
  | cons b bs ih =>
      have hb := b.toNat_lt
      have hlow : UInt8.ofNat (b.toNat + 256 * ofLowBytes bs) = b := by
        apply UInt8.toNat_inj.mp
        rw [UInt8.toNat_ofNat']
        omega
      have hhigh : (b.toNat + 256 * ofLowBytes bs) / 256 = ofLowBytes bs := by omega
      rw [ofLowBytes, List.length_cons, lowBytes, hlow, hhigh, ih]

/-! ## Lawful layouts -/

namespace Layout

variable {α β : Type}

/-- What was written takes the said number of bytes, and it is read back with nothing else. -/
structure Lawful (l : Layout α) : Prop where
  size : ∀ a, (l.encode a).length = l.size
  read : ∀ a rest, l.decode (l.encode a ++ rest) = some (a, rest)

theorem Lawful.read_encode {l : Layout α} (h : l.Lawful) (a : α) : l.read (l.encode a) = some a := by
  have hread := h.read a []
  rw [List.append_nil] at hread
  rw [Layout.read, hread]

theorem lawful_word {n : Nat} {ofNat : Nat → α} {toNat : α → Nat} (hsmall : ∀ a, toNat a < 256 ^ n)
    (hback : ∀ a, ofNat (toNat a) = a) : (word n ofNat toNat).Lawful where
  size a := length_lowBytes n (toNat a)
  read a rest := by
    have hlength := length_lowBytes n (toNat a)
    have hle : n ≤ (lowBytes n (toNat a) ++ rest).length := by
      rw [List.length_append]
      omega
    simp only [word, if_pos hle, List.take_left' hlength, List.drop_left' hlength, ofLowBytes_lowBytes,
      Nat.mod_eq_of_lt (hsmall a), hback]

theorem Lawful.pair {l : Layout α} {m : Layout β} (h : l.Lawful) (h' : m.Lawful) :
    (l.pair m).Lawful where
  size v := by simp only [Layout.pair, List.length_append, h.size, h'.size]
  read v rest := by
    simp only [Layout.pair, List.append_assoc, h.read, h'.read, Option.bind_eq_bind, Option.bind_some]
    rfl

theorem Lawful.imap {l : Layout α} {wrap : α → β} {unwrap : β → α} (h : l.Lawful)
    (hback : ∀ b, wrap (unwrap b) = b) : (l.imap wrap unwrap).Lawful where
  size b := h.size (unwrap b)
  read b rest := by simp only [Layout.imap, h.read, Option.map_some, hback]

theorem lawful_bytes (n : Nat) : (bytes n).Lawful where
  size v := by simp [bytes]
  read v rest := by
    have hlength : v.toList.length = n := by simp
    have hle : n ≤ (v.toList ++ rest).length := by
      rw [List.length_append]
      omega
    simp only [bytes, dif_pos hle, List.drop_left' hlength, Option.some.injEq, Prod.mk.injEq, and_true]
    apply Vector.toArray_inj.mp
    have hfront : (List.take n (v.toList ++ rest)).toArray = v.toList.toArray :=
      congrArg List.toArray (List.take_left' hlength)
    exact hfront.trans Array.toArray_toList

/-! ## Exact layouts -/

/-- All bytes are read if there are enough, and what is read is what was written. -/
structure Exact (l : Layout α) : Prop extends Lawful l where
  total : ∀ bs, l.size ≤ bs.length → ∃ v, l.decode bs = some v
  sound : ∀ {bs a rest}, l.decode bs = some (a, rest) → bs = l.encode a ++ rest

theorem Exact.encode_of_read {l : Layout α} (h : l.Exact) {bs : List UInt8} {a : α}
    (hread : l.read bs = some a) : l.encode a = bs := by
  unfold Layout.read at hread
  split at hread
  · rename_i heq
    cases hread
    simpa using (h.sound heq).symm
  · cases hread

theorem Exact.read_of_length {l : Layout α} (h : l.Exact) {bs : List UInt8}
    (hlength : bs.length = l.size) : ∃ a, l.read bs = some a := by
  obtain ⟨⟨a, rest⟩, hv⟩ := h.total bs (Nat.le_of_eq hlength.symm)
  have hsplit := congrArg List.length (h.sound hv)
  rw [List.length_append, h.size, hlength] at hsplit
  have hrest : rest = [] := List.length_eq_zero_iff.mp (by omega)
  refine ⟨a, ?_⟩
  rw [Layout.read, hv, hrest]

theorem exact_word {n : Nat} {ofNat : Nat → α} {toNat : α → Nat} (hsmall : ∀ a, toNat a < 256 ^ n)
    (hback : ∀ a, ofNat (toNat a) = a) (hforth : ∀ v < 256 ^ n, toNat (ofNat v) = v) :
    (word n ofNat toNat).Exact where
  toLawful := lawful_word hsmall hback
  total bs hlength := by
    have hlength : n ≤ bs.length := hlength
    simp [word, hlength]
  sound {bs a rest} hread := by
    simp only [word] at hread
    split at hread
    · rename_i hle
      cases hread
      have htake : (bs.take n).length = n := List.length_take_of_le hle
      have hlt := ofLowBytes_lt (bs.take n)
      have hbytes := lowBytes_ofLowBytes (bs.take n)
      rw [htake] at hlt hbytes
      simp only [word, hforth _ hlt, hbytes, List.take_append_drop]
    · cases hread

theorem Exact.pair {l : Layout α} {m : Layout β} (h : l.Exact) (h' : m.Exact) :
    (l.pair m).Exact where
  toLawful := h.toLawful.pair h'.toLawful
  total bs hlength := by
    have hlength : l.size + m.size ≤ bs.length := hlength
    obtain ⟨⟨a, rest⟩, ha⟩ := h.total bs (by omega)
    have hsplit := congrArg List.length (h.sound ha)
    rw [List.length_append, h.size] at hsplit
    obtain ⟨⟨b, rest'⟩, hb⟩ := h'.total rest (by omega)
    exact ⟨((a, b), rest'), by simp [Layout.pair, ha, hb]⟩
  sound {bs v rest} hread := by
    simp only [Layout.pair, Option.bind_eq_bind, Option.bind_eq_some_iff] at hread
    obtain ⟨⟨a, more⟩, ha, ⟨b, rest'⟩, hb, hv⟩ := hread
    cases hv
    have hmore : more = m.encode b ++ rest' := h'.sound hb
    rw [h.sound ha, hmore]
    exact (List.append_assoc _ _ _).symm

theorem Exact.imap {l : Layout α} {wrap : α → β} {unwrap : β → α} (h : l.Exact)
    (hback : ∀ b, wrap (unwrap b) = b) (hforth : ∀ a, unwrap (wrap a) = a) :
    (l.imap wrap unwrap).Exact where
  toLawful := h.toLawful.imap hback
  total bs hlength := by
    obtain ⟨v, hv⟩ := h.total bs hlength
    exact ⟨(wrap v.1, v.2), by simp [Layout.imap, hv]⟩
  sound {bs b rest} hread := by
    simp only [Layout.imap, Option.map_eq_some_iff] at hread
    obtain ⟨⟨a, rest'⟩, ha, hb⟩ := hread
    cases hb
    rw [h.sound ha]
    simp only [Layout.imap, hforth]

theorem exact_bytes (n : Nat) : (bytes n).Exact where
  toLawful := lawful_bytes n
  total bs hlength := by
    have hlength : n ≤ bs.length := hlength
    simp [bytes, hlength]
  sound {bs v rest} hread := by
    simp only [bytes] at hread
    split at hread
    · cases hread
      simp [bytes]
    · cases hread

theorem exact_u8 : u8.Exact :=
  exact_word UInt8.toNat_lt (fun _ => UInt8.ofNat_toNat) fun _ hv => UInt8.toNat_ofNat_of_lt' hv

theorem exact_u16 : u16.Exact :=
  exact_word UInt16.toNat_lt (fun _ => UInt16.ofNat_toNat) fun _ hv => UInt16.toNat_ofNat_of_lt' hv

theorem exact_u32 : u32.Exact :=
  exact_word UInt32.toNat_lt (fun _ => UInt32.ofNat_toNat) fun _ hv => UInt32.toNat_ofNat_of_lt' hv

theorem exact_u64 : u64.Exact :=
  exact_word UInt64.toNat_lt (fun _ => UInt64.ofNat_toNat) fun _ hv => UInt64.toNat_ofNat_of_lt' hv

theorem exact_i32 : i32.Exact := exact_u32.imap (fun _ => rfl) fun _ => rfl

end Layout

open Layout

/-! ## Records -/

theorem exact_rect : rect.Exact :=
  (exact_i32.pair (exact_i32.pair (exact_i32.pair exact_i32))).imap (fun _ => rfl) fun _ => rfl

theorem Point.exact : Point.layout.Exact :=
  (exact_i32.pair exact_i32).imap (fun _ => rfl) fun _ => rfl

theorem ReleaseInfo.exact : ReleaseInfo.layout.Exact :=
  (exact_u64.pair exact_u64).imap (fun _ => rfl) fun _ => rfl

theorem SurfaceRecord.exact : SurfaceRecord.layout.Exact :=
  (exact_u32.pair (exact_u32.pair (exact_i32.pair (exact_u32.pair (exact_u32.pair (exact_u32.pair
    (exact_u32.pair (exact_u32.pair (exact_u64.pair (exact_u32.pair exact_u32)))))))))).imap
    (fun _ => rfl) fun _ => rfl

theorem Clip.exact : Clip.layout.Exact :=
  (exact_u32.pair exact_u64).imap (fun _ => rfl) fun _ => rfl

theorem Mask.exact : Mask.layout.Exact :=
  (exact_u8.pair (Point.exact.pair exact_u64)).imap (fun _ => rfl) fun _ => rfl

theorem Brush.exact : Brush.layout.Exact :=
  (exact_u32.pair (exact_bytes 16)).imap (fun _ => rfl) fun _ => rfl

theorem Fill.exact : Fill.layout.Exact :=
  (Brush.exact.pair (exact_u16.pair Mask.exact)).imap (fun _ => rfl) fun _ => rfl

theorem Copy.exact : Copy.layout.Exact :=
  (exact_u64.pair (exact_rect.pair (exact_u16.pair (exact_u8.pair Mask.exact)))).imap (fun _ => rfl)
    fun _ => rfl

theorem Drawable.exact : Drawable.layout.Exact :=
  (ReleaseInfo.exact.pair (exact_u32.pair (exact_u8.pair (exact_u8.pair (exact_u8.pair
    (exact_rect.pair (exact_rect.pair (Clip.exact.pair (exact_u32.pair
    ((exact_i32.pair (exact_i32.pair exact_i32)).pair
    ((exact_rect.pair (exact_rect.pair exact_rect)).pair (exact_bytes bodySize)))))))))))).imap
    (fun _ => rfl) fun _ => rfl

theorem ImageHead.exact : ImageHead.layout.Exact :=
  (exact_u64.pair (exact_u8.pair (exact_u8.pair (exact_u32.pair exact_u32)))).imap (fun _ => rfl)
    fun _ => rfl

theorem Bitmap.exact : Bitmap.layout.Exact :=
  (exact_u8.pair (exact_u8.pair (exact_u32.pair (exact_u32.pair (exact_u32.pair
    (exact_u64.pair exact_u64)))))).imap (fun _ => rfl) fun _ => rfl

theorem Image.exact : Image.layout.Exact :=
  (ImageHead.exact.pair Bitmap.exact).imap (fun _ => rfl) fun _ => rfl

theorem toList_padded {n : Nat} {bs : List UInt8} (h : bs.length ≤ n) :
    (padded n bs).toList = bs ++ List.replicate (n - bs.length) 0 := by
  apply List.ext_getElem
  · simp
    omega
  · intro i hi hi'
    by_cases hlt : i < bs.length
    · simp [padded, List.getElem_append_left, hlt]
    · simp [padded, List.getElem_append_right, Nat.le_of_not_lt hlt]

/-- A record that fits is read back from the front of padded bytes. -/
theorem Layout.Lawful.read_padded {α : Type} {l : Layout α} (h : l.Lawful) {n : Nat} (hsize : l.size ≤ n)
    (a : α) : (l.decode (padded n (l.encode a)).toList).map (·.1) = some a := by
  rw [toList_padded (by rw [h.size]; exact hsize), h.read]
  rfl

theorem Brush.colour?_solid (colour : UInt32) : (Brush.solid colour).colour? = some colour := by
  simp only [Brush.colour?, Brush.solid, if_true]
  exact exact_u32.read_padded (by decide) colour

theorem Drawable.fill?_setFill (d : Drawable) (f : Fill) : (d.setFill f).fill? = some f := by
  simp only [Drawable.fill?, Drawable.setFill, if_true]
  exact Fill.exact.read_padded (by decide) f

theorem Drawable.copy?_setCopy (d : Drawable) (c : Copy) : (d.setCopy c).copy? = some c := by
  simp only [Drawable.copy?, Drawable.setCopy, if_true]
  exact Copy.exact.read_padded (by decide) c

/-- The unique part of an image's id is in the high half, the device's group in the low one. -/
theorem Image.toNat_id_setId (i : Image) (unique : UInt32) :
    (i.setId deviceGroup unique).head.id.toNat = unique.toNat * 2 ^ 32 + 1 := by
  have hlt := unique.toNat_lt
  have hgroup : (1 : UInt32).toNat = 1 := rfl
  have hshift : (32 : UInt64).toNat % 64 = 32 := rfl
  simp only [setId, deviceGroup, UInt64.toNat_or, UInt64.toNat_shiftLeft, UInt32.toNat_toUInt64]
  rw [hgroup, hshift, Nat.mod_eq_of_lt, ← Nat.shiftLeft_add_eq_or_of_lt (by decide), Nat.shiftLeft_eq]
  rw [Nat.shiftLeft_eq]
  omega

end RemoteDisplay.Wire
