import RemoteDisplay.Proofs.Wire.Record

/-!
# Drawables that are made into one thing after another

A drawable's body is written as a whole. So of any number of calls that make it a fill or a copy only
the last one counts: its record is what the drawable carries, with zeros after it, and nothing but the
type is written outside the body.
-/

namespace RemoteDisplay.Wire

/-- What a drawable can be made into. -/
inductive Body where
  | fill (f : Fill)
  | copy (c : Copy)

namespace Body

def type : Body → UInt8
  | fill _ => Drawable.fillType
  | copy _ => Drawable.copyType

/-- The bytes of the record. -/
def record : Body → List UInt8
  | fill f => Fill.layout.encode f
  | copy c => Copy.layout.encode c

/-- The number of bytes that the record leaves over in a drawable's body. -/
def spare : Body → Nat
  | fill _ => 68 - 39
  | copy _ => 68 - 44

def fill? : Body → Option Fill
  | fill f => some f
  | copy _ => none

def copy? : Body → Option Copy
  | fill _ => none
  | copy c => some c

theorem length_record (b : Body) : b.record.length + b.spare = bodySize := by
  cases b with
  | fill f => rw [record, Fill.exact.size]; rfl
  | copy c => rw [record, Copy.exact.size]; rfl

end Body

namespace Drawable

def setBody (d : Drawable) : Body → Drawable
  | .fill f => d.setFill f
  | .copy c => d.setCopy c

theorem setBody_eq (d : Drawable) (b : Body) :
    d.setBody b = { d with type := b.type, body := padded bodySize b.record } := by
  cases b <;> rfl

/-- What was written before is gone. -/
@[simp] theorem setBody_setBody (d : Drawable) (b b' : Body) :
    (d.setBody b).setBody b' = d.setBody b' := by
  simp only [setBody_eq]

theorem foldl_setBody (d : Drawable) (earlier : List Body) (last : Body) :
    (earlier ++ [last]).foldl setBody d = d.setBody last := by
  induction earlier generalizing d with
  | nil => rfl
  | cons b earlier ih => rw [List.cons_append, List.foldl_cons, ih, setBody_setBody]

/-- A type never stands for the other record. -/
theorem fill?_setBody (d : Drawable) (b : Body) : (d.setBody b).fill? = b.fill? := by
  cases b with
  | fill f => exact fill?_setFill d f
  | copy c => rfl

theorem copy?_setBody (d : Drawable) (b : Body) : (d.setBody b).copy? = b.copy? := by
  cases b with
  | fill f => rfl
  | copy c => exact copy?_setCopy d c

theorem toList_body_setBody (d : Drawable) (b : Body) :
    (d.setBody b).body.toList = b.record ++ List.replicate b.spare 0 := by
  have hlength := b.length_record
  have hspare : bodySize - b.record.length = b.spare := by omega
  rw [setBody_eq, toList_padded (by omega), hspare]

/-- The type is the byte at place 21, and the body begins at place 131. -/
theorem encode_split (d : Drawable) :
    ∃ front middle : List UInt8, front.length = 21 ∧ middle.length = 109 ∧
      ∀ type body, layout.encode { d with type, body } = front ++ type :: middle ++ body.toList := by
  refine ⟨littleEndian [(8, d.release.id.toNat), (8, d.release.next.toNat), (4, d.surface.toNat),
      (1, d.effect.toNat)],
    littleEndian ((1, d.selfBitmap.toNat) :: rectFields d.selfArea ++ rectFields d.bbox ++
      d.clip.fields ++ [(4, d.time.toNat)] ++
      [signed d.dependencies.1, signed d.dependencies.2.1, signed d.dependencies.2.2] ++
      rectFields d.dependencyAreas.1 ++ rectFields d.dependencyAreas.2.1 ++
      rectFields d.dependencyAreas.2.2), ?_, ?_, ?_⟩
  · simp
  · simp [rectFields, signed, Clip.fields]
  · intro type body
    have htype : lowBytes 1 type.toNat = [type] := by simp [lowBytes]
    simp [encode_eq, fields, htype]

theorem encode_setBody (d : Drawable) (b : Body) :
    layout.encode (d.setBody b) =
      (layout.encode d).take 21 ++ b.type :: ((layout.encode d).drop 22).take 109 ++
        (b.record ++ List.replicate b.spare 0) := by
  obtain ⟨front, middle, hfront, hmiddle, hsplit⟩ := d.encode_split
  have hold : layout.encode d = front ++ d.type :: middle ++ d.body.toList := hsplit d.type d.body
  have hnew : layout.encode (d.setBody b) =
      front ++ b.type :: middle ++ (b.record ++ List.replicate b.spare 0) := by
    rw [← toList_body_setBody d b, setBody_eq]
    exact hsplit b.type _
  have htake : (layout.encode d).take 21 = front := by
    rw [hold, List.append_assoc, List.take_left' hfront]
  have hdrop : ((layout.encode d).drop 22).take 109 = middle := by
    have happend : front ++ d.type :: middle ++ d.body.toList =
        (front ++ [d.type]) ++ (middle ++ d.body.toList) := by simp
    rw [hold, happend, List.drop_left' (by simp [hfront]), List.take_left' hmiddle]
  rw [hnew, htake, hdrop]

/-- However often a drawable was made into something, and whatever its body held: it is what it was
made into last and not the other thing, after the record of 39 or 44 bytes its body of 68 bytes holds
zeros, its other fields are as they were, and its bytes are those from before on both sides of the
type, with the type and the body of the last call. -/
theorem setBody_last (d : Drawable) (earlier : List Body) (last : Body) :
    let e := (earlier ++ [last]).foldl setBody d
    e.fill? = last.fill? ∧ e.copy? = last.copy? ∧
      e.body.toList = last.record ++ List.replicate last.spare 0 ∧
      e = { d with type := last.type, body := e.body } ∧
      layout.encode e =
        (layout.encode d).take 21 ++ last.type :: ((layout.encode d).drop 22).take 109 ++
          (last.record ++ List.replicate last.spare 0) := by
  intro e
  have he : e = d.setBody last := foldl_setBody d earlier last
  rw [he]
  refine ⟨fill?_setBody d last, copy?_setBody d last, toList_body_setBody d last, ?_,
    encode_setBody d last⟩
  simp only [setBody_eq]

end Drawable

end RemoteDisplay.Wire
