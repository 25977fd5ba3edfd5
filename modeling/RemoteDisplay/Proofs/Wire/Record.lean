import RemoteDisplay.Proofs.Wire.Layout

/-!
# Records and their bytes

A record is written as its fields in order, little-endian, with nothing between them. Every string of
bytes of the record's size is what is written for exactly one record.
-/

namespace RemoteDisplay.Wire

/-! ## Fields -/

/-- Numbers one after the other, lowest byte first, each with the number of its bytes. -/
def littleEndian (fields : List (Nat × Nat)) : List UInt8 := fields.flatMap fun f => lowBytes f.1 f.2

/-- A signed word, in two's complement. -/
def signed (n : Int32) : Nat × Nat := (4, n.toUInt32.toNat)

def keptBytes {n : Nat} (bs : Vector UInt8 n) : List (Nat × Nat) := bs.toList.map fun b => (1, b.toNat)

def rectFields (r : Rect) : List (Nat × Nat) :=
  [signed r.top, signed r.left, signed r.bottom, signed r.right]

def Point.fields (p : Point) : List (Nat × Nat) := [signed p.x, signed p.y]

def Clip.fields (c : Clip) : List (Nat × Nat) := [(4, c.type.toNat), (8, c.data.toNat)]

def Mask.fields (m : Mask) : List (Nat × Nat) :=
  (1, m.flags.toNat) :: m.position.fields ++ [(8, m.bitmap.toNat)]

def Brush.fields (b : Brush) : List (Nat × Nat) := (4, b.type.toNat) :: keptBytes b.content

def Fill.fields (f : Fill) : List (Nat × Nat) := f.brush.fields ++ (2, f.rop.toNat) :: f.mask.fields

def Copy.fields (c : Copy) : List (Nat × Nat) :=
  (8, c.source.toNat) :: rectFields c.area ++
    (2, c.rop.toNat) :: (1, c.scaleMode.toNat) :: c.mask.fields

def SurfaceRecord.fields (s : SurfaceRecord) : List (Nat × Nat) :=
  [(4, s.width.toNat), (4, s.height.toNat), signed s.stride, (4, s.format.toNat),
    (4, s.position.toNat), (4, s.mouseMode.toNat), (4, s.flags.toNat), (4, s.type.toNat),
    (8, s.memory.toNat), (4, s.group.toNat), (4, s.padding.toNat)]

def Drawable.fields (d : Drawable) : List (Nat × Nat) :=
  [(8, d.release.id.toNat), (8, d.release.next.toNat), (4, d.surface.toNat), (1, d.effect.toNat),
      (1, d.type.toNat), (1, d.selfBitmap.toNat)] ++
    rectFields d.selfArea ++ rectFields d.bbox ++ d.clip.fields ++ [(4, d.time.toNat)] ++
    [signed d.dependencies.1, signed d.dependencies.2.1, signed d.dependencies.2.2] ++
    rectFields d.dependencyAreas.1 ++ rectFields d.dependencyAreas.2.1 ++
    rectFields d.dependencyAreas.2.2 ++ keptBytes d.body

section Written

variable {fields fields' : List (Nat × Nat)}

@[simp] theorem littleEndian_nil : littleEndian [] = [] := rfl

@[simp] theorem littleEndian_cons (f : Nat × Nat) :
    littleEndian (f :: fields) = lowBytes f.1 f.2 ++ littleEndian fields := rfl

@[simp] theorem littleEndian_append :
    littleEndian (fields ++ fields') = littleEndian fields ++ littleEndian fields' := by
  simp [littleEndian]

@[simp] theorem littleEndian_keptBytes {n : Nat} (bs : Vector UInt8 n) :
    littleEndian (keptBytes bs) = bs.toList := by
  have hbyte : ∀ b : UInt8, lowBytes 1 b.toNat = [b] := by
    intro b
    simp [lowBytes]
  simp [littleEndian, keptBytes, List.flatMap_map, hbyte]

theorem encode_rect (r : Rect) : rect.encode r = littleEndian (rectFields r) := by
  simp [rect, Layout.imap, Layout.pair, Layout.i32, Layout.u32, Layout.word, rectFields, signed]

theorem Mask.encode_eq (m : Mask) : Mask.layout.encode m = littleEndian m.fields := by
  simp [layout, Point.layout, Layout.imap, Layout.pair, Layout.u8, Layout.i32, Layout.u32, Layout.u64,
    Layout.word, fields, Point.fields, signed]

theorem Fill.encode_eq (f : Fill) : Fill.layout.encode f = littleEndian f.fields := by
  simp [layout, Brush.layout, Layout.imap, Layout.pair, Layout.u16, Layout.u32, Layout.word,
    Layout.bytes, fields, Brush.fields, Mask.encode_eq]

theorem Copy.encode_eq (c : Copy) : Copy.layout.encode c = littleEndian c.fields := by
  simp [layout, Layout.imap, Layout.pair, Layout.u8, Layout.u16, Layout.u64, Layout.word, fields,
    encode_rect, Mask.encode_eq]

theorem SurfaceRecord.encode_eq (s : SurfaceRecord) :
    SurfaceRecord.layout.encode s = littleEndian s.fields := by
  simp [layout, Layout.imap, Layout.pair, Layout.i32, Layout.u32, Layout.u64, Layout.word, fields, signed]

theorem Drawable.encode_eq (d : Drawable) : Drawable.layout.encode d = littleEndian d.fields := by
  simp [layout, ReleaseInfo.layout, Clip.layout, Layout.imap, Layout.pair, Layout.u8, Layout.i32,
    Layout.u32, Layout.u64, Layout.word, Layout.bytes, fields, Clip.fields, signed, encode_rect]

end Written

/-! ## Bijections -/

/-- Values and strings of `size` bytes are the same thing: a value is written as its fields, it is read
back from that, and whatever has the size can be read and is written again as it was. -/
structure Layout.Faithful {α : Type} (l : Layout α) (size : Nat) (fields : α → List (Nat × Nat)) :
    Prop where
  written : ∀ a, l.encode a = littleEndian (fields a)
  length : ∀ a, (l.encode a).length = size
  back : ∀ a, l.read (l.encode a) = some a
  onto : ∀ bs, (∃ a, l.read bs = some a ∧ l.encode a = bs) ↔ bs.length = size

theorem Layout.Exact.faithful {α : Type} {l : Layout α} (h : l.Exact)
    {fields : α → List (Nat × Nat)} (hwritten : ∀ a, l.encode a = littleEndian (fields a)) :
    l.Faithful l.size fields where
  written := hwritten
  length := h.size
  back := h.read_encode
  onto bs := by
    constructor
    · rintro ⟨a, -, rfl⟩
      exact h.size a
    · intro hlength
      obtain ⟨a, hread⟩ := h.read_of_length hlength
      exact ⟨a, hread, h.encode_of_read hread⟩

/-- A drawable has 199 bytes, the bodies of copies and fills have 44 and 39, the announcement of a
surface has 48, and each byte says something: reading undoes writing, and writing undoes reading. -/
theorem records_bijective :
    Drawable.layout.Faithful 199 Drawable.fields ∧ Copy.layout.Faithful 44 Copy.fields ∧
      Fill.layout.Faithful 39 Fill.fields ∧ SurfaceRecord.layout.Faithful 48 SurfaceRecord.fields :=
  ⟨Drawable.exact.faithful Drawable.encode_eq, Copy.exact.faithful Copy.encode_eq,
    Fill.exact.faithful Fill.encode_eq, SurfaceRecord.exact.faithful SurfaceRecord.encode_eq⟩

end RemoteDisplay.Wire
