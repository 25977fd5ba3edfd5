import RemoteDisplay.Frame.Basic
import RemoteDisplay.Proofs.Bytes

/-!
# Words in byte arrays

A pixel is four bytes, lowest first. A word that was put can be got back, and putting it changes no
other bytes.
-/

namespace RemoteDisplay

/-- The byte at a position, zero past the end. -/
def byteAt (bytes : ByteArray) (i : Nat) : UInt8 := (bytes[i]?).getD 0

section Bytes

variable {bytes bytes' : ByteArray} {i j : Nat}

theorem getElem?_data : bytes[i]? = bytes.data[i]? := by
  by_cases h : i < bytes.size
  · rw [getElem?_pos bytes i h, ByteArray.getElem_eq_getElem_data, Array.getElem?_eq_getElem]
  · rw [getElem?_neg bytes i h, Array.getElem?_eq_none (Nat.le_of_not_lt h)]

theorem getElem?_extract {start stop : Nat} (hi : start + i < stop) (hstop : stop ≤ bytes.size) :
    (bytes.extract start stop)[i]? = bytes[start + i]? := by
  have hsize : bytes.data.size = bytes.size := rfl
  rw [getElem?_data, getElem?_data, ByteArray.data_extract, Array.getElem?_extract, if_pos (by omega)]

theorem byteAt_eq : byteAt bytes i = (bytes.data[i]?).getD 0 := by rw [byteAt, getElem?_data]

theorem byteAt_set! (v : UInt8) (h : i < bytes.size) :
    byteAt (bytes.set! i v) j = if i = j then v else byteAt bytes j := by
  have hset : (bytes.set! i v).data = bytes.data.setIfInBounds i v := by
    cases bytes
    rfl
  rw [byteAt_eq, byteAt_eq, hset, Array.getElem?_setIfInBounds]
  split
  · rename_i he
    subst he
    have hdata : i < bytes.data.size := h
    rw [if_pos hdata]
    rfl
  · rfl

end Bytes

/-! ## Words -/

theorem getWord_eq (bytes : ByteArray) (offset : Nat) : getWord bytes offset =
    (byteAt bytes offset).toUInt32 ||| (byteAt bytes (offset + 1)).toUInt32 <<< 8 |||
      (byteAt bytes (offset + 2)).toUInt32 <<< 16 ||| (byteAt bytes (offset + 3)).toUInt32 <<< 24 := rfl

theorem getWord_congr {bytes bytes' : ByteArray} {offset offset' : Nat}
    (h : ∀ i < 4, byteAt bytes (offset + i) = byteAt bytes' (offset' + i)) :
    getWord bytes offset = getWord bytes' offset' := by
  have h0 := h 0 (by decide)
  rw [Nat.add_zero, Nat.add_zero] at h0
  rw [getWord_eq, getWord_eq, h0, h 1 (by decide), h 2 (by decide), h 3 (by decide)]

section PutWord

variable {bytes : ByteArray} {offset other : Nat} {word : UInt32}

theorem size_putWord : (putWord bytes offset word).size = bytes.size := by
  simp [putWord]

theorem byteAt_putWord (h : offset + 4 ≤ bytes.size) (i : Nat) :
    byteAt (putWord bytes offset word) i =
      if offset + 3 = i then (word >>> 24).toUInt8
      else if offset + 2 = i then (word >>> 16).toUInt8
      else if offset + 1 = i then (word >>> 8).toUInt8
      else if offset = i then word.toUInt8
      else byteAt bytes i := by
  simp only [putWord]
  rw [byteAt_set! _ (by simp; omega), byteAt_set! _ (by simp; omega), byteAt_set! _ (by simp; omega),
    byteAt_set! _ (by omega)]

theorem getWord_putWord (h : offset + 4 ≤ bytes.size) :
    getWord (putWord bytes offset word) offset = word := by
  rw [getWord_eq]
  simp only [byteAt_putWord h]
  simpa using word_of_bytes word

theorem getWord_putWord_of_disjoint (h : offset + 4 ≤ bytes.size)
    (hdisjoint : other + 4 ≤ offset ∨ offset + 4 ≤ other) :
    getWord (putWord bytes offset word) other = getWord bytes other := by
  refine getWord_congr fun i hi => ?_
  rw [byteAt_putWord h, if_neg (by omega), if_neg (by omega), if_neg (by omega), if_neg (by omega)]

end PutWord

end RemoteDisplay
