import Mathlib.Data.List.Perm.Basic
import RemoteDisplay.Frame.Store

/-!
# Nothing changes under a holder

`Counts` compares the holders that the blocks of a store count with a list of the handles that exist.
As long as the two agree, every operation on one handle leaves the bytes behind all others alone; in
particular a handle made exclusive can be written through.
-/

namespace RemoteDisplay.PixelStore

variable {s : PixelStore} {id x : BlockId} {handles : List BlockId}

/-- Every block counts the handles on it. -/
def Counts (s : PixelStore) (handles : List BlockId) : Prop :=
  ∀ id, s.holders id = handles.count id

theorem Counts.perm {handles' : List BlockId} (h : s.Counts handles) (hp : handles.Perm handles') :
    s.Counts handles' := fun id => (h id).trans (hp.count_eq id)

theorem counts_of_blocks (h : s.blocks = #[]) : s.Counts [] := fun id => by
  simp [holders, h]

theorem counts_empty : Counts {} [] := counts_of_blocks rfl

theorem BlockId.ext_iff {a b : BlockId} : a = b ↔ a.index = b.index :=
  ⟨fun h => h ▸ rfl, fun h => by cases a; cases b; exact congrArg BlockId.mk h⟩

/-! ## One block is modified -/

def modify (s : PixelStore) (id : BlockId) (f : Block → Block) : PixelStore :=
  { s with blocks := s.blocks.modify id.index f }

theorem getElem?_modify (f : Block → Block) :
    (s.modify id f).blocks[x.index]? =
      if x = id then (s.blocks[x.index]?).map f else s.blocks[x.index]? := by
  simp only [modify, Array.getElem?_modify, BlockId.ext_iff]
  by_cases he : id.index = x.index
  · rw [if_pos he, if_pos he.symm]
  · rw [if_neg he, if_neg (Ne.symm he)]

theorem modify_of_ne (hne : x ≠ id) (f : Block → Block) :
    (s.modify id f).bytes x = s.bytes x ∧ (s.modify id f).holders x = s.holders x := by
  simp only [bytes, holders, getElem?_modify, if_neg hne, and_self]

theorem block_of_holders (h : 0 < s.holders id) :
    ∃ b, s.blocks[id.index]? = some b ∧ s.holders id = b.holders ∧ s.bytes id = b.bytes := by
  unfold holders at h
  split at h
  · rename_i b hb
    exact ⟨b, hb, by rw [holders, hb], by rw [bytes, hb]⟩
  · cases h

theorem modify_self {b : Block} (hb : s.blocks[id.index]? = some b) (f : Block → Block) :
    (s.modify id f).bytes id = (f b).bytes ∧ (s.modify id f).holders id = (f b).holders := by
  simp only [bytes, holders, getElem?_modify, if_pos, hb, Option.map_some, and_self]

theorem bytes_retain (x : BlockId) : (s.retain id).bytes x = s.bytes x := by
  by_cases hx : x = id
  · subst hx
    simp only [bytes, retain, Array.getElem?_modify, if_pos]
    cases s.blocks[x.index]? <;> rfl
  · exact (modify_of_ne hx _).1

/-- A holder that comes and goes leaves no trace. -/
theorem retain_release_self (h : 0 < s.holders id) : (s.retain id).release id = s := by
  obtain ⟨b, hb, hholders, -⟩ := block_of_holders h
  rw [hholders] at h
  have hback : (s.blocks.modify id.index fun b => { b with holders := b.holders + 1 }).modify id.index
      (fun b => if b.holders ≤ 1 then ⟨ByteArray.empty, 0⟩ else { b with holders := b.holders - 1 }) =
        s.blocks := by
    apply Array.ext_getElem?
    intro i
    simp only [Array.getElem?_modify]
    by_cases hi : id.index = i
    · subst hi
      have hmany : ¬b.holders + 1 ≤ 1 := by omega
      simp [hb, hmany]
    · simp [hi]
  exact congrArg (fun blocks => { s with blocks }) hback

theorem Counts.pos (h : s.Counts handles) (hid : id ∈ handles) : 0 < s.holders id := by
  rw [h id]
  exact List.count_pos_iff.mpr hid

/-- A block is shared just when there is another handle on it. -/
theorem Counts.isShared_iff (h : s.Counts (id :: handles)) : s.isShared id = true ↔ id ∈ handles := by
  have hcount := h id
  rw [List.count_cons_self] at hcount
  rw [← List.count_pos_iff, isShared, decide_eq_true_eq, hcount]
  omega

/-! ## Handles come and go -/

theorem Counts.retain (h : s.Counts handles) (hid : id ∈ handles) :
    (s.retain id).Counts (id :: handles) ∧ ∀ x, (s.retain id).bytes x = s.bytes x := by
  obtain ⟨b, hb, hholders, -⟩ := block_of_holders (h.pos hid)
  obtain ⟨-, hholders'⟩ := modify_self hb fun b => { b with holders := b.holders + 1 }
  refine ⟨?_, bytes_retain⟩
  intro x
  by_cases hx : x = id
  · subst hx
    rw [List.count_cons_self, ← h x, hholders]
    exact hholders'
  · rw [List.count_cons_of_ne (Ne.symm hx), ← h x]
    exact (modify_of_ne hx _).2

theorem Counts.release (h : s.Counts (id :: handles)) :
    (s.release id).Counts handles ∧ ∀ x ∈ handles, (s.release id).bytes x = s.bytes x := by
  obtain ⟨b, hb, hholders, hbytes⟩ := block_of_holders (h.pos List.mem_cons_self)
  have hcount := h id
  rw [List.count_cons_self, hholders] at hcount
  obtain ⟨hbytes', hholders'⟩ := modify_self hb fun b =>
    if b.holders ≤ 1 then ⟨ByteArray.empty, 0⟩ else { b with holders := b.holders - 1 }
  constructor
  · intro x
    by_cases hx : x = id
    · subst hx
      refine hholders'.trans ?_
      split
      · rename_i hlast
        exact (Nat.le_zero.mp (by omega)).symm
      · exact Nat.sub_eq_of_eq_add hcount
    · have hx' := h x
      rw [List.count_cons_of_ne (Ne.symm hx)] at hx'
      exact (modify_of_ne hx _).2.trans hx'
  · intro x hx
    by_cases he : x = id
    · subst he
      have hpos := List.count_pos_iff.mpr hx
      have hmany : ¬ b.holders ≤ 1 := by omega
      refine hbytes'.trans ?_
      rw [if_neg hmany]
      exact hbytes.symm
    · exact (modify_of_ne he _).1

theorem Counts.allocate (h : s.Counts handles) (bytes : ByteArray) :
    (s.allocate bytes).2.Counts ((s.allocate bytes).1 :: handles) ∧
      (s.allocate bytes).2.bytes (s.allocate bytes).1 = bytes ∧
      (s.allocate bytes).1 ∉ handles ∧
      ∀ x ∈ handles, (s.allocate bytes).2.bytes x = s.bytes x := by
  have hnone : s.holders ⟨s.blocks.size⟩ = 0 := by simp [holders]
  have hnew : (⟨s.blocks.size⟩ : BlockId) ∉ handles := by
    intro hmem
    have hpos := h.pos hmem
    omega
  have hold : ∀ x : BlockId, x ≠ ⟨s.blocks.size⟩ →
      (s.allocate bytes).2.blocks[x.index]? = s.blocks[x.index]? := by
    intro x hx
    have hindex : x.index ≠ s.blocks.size := fun he => hx (BlockId.ext_iff.mpr he)
    simp [PixelStore.allocate, Array.getElem?_push, hindex]
  have hself : (s.allocate bytes).2.blocks[s.blocks.size]? = some ⟨bytes, 1⟩ := by
    simp [PixelStore.allocate]
  refine ⟨fun x => ?_, ?_, hnew, fun x hx => ?_⟩
  · by_cases hx : x = ⟨s.blocks.size⟩
    · subst hx
      rw [holders, hself]
      simp only [PixelStore.allocate, List.count_cons_self, List.count_eq_zero.mpr hnew]
    · rw [holders, hold x hx]
      have hx' := h x
      rw [holders] at hx'
      rw [hx', PixelStore.allocate, List.count_cons_of_ne (Ne.symm hx)]
  · have hid : (s.allocate bytes).1 = ⟨s.blocks.size⟩ := rfl
    rw [hid, PixelStore.bytes, hself]
  · have hne : x ≠ ⟨s.blocks.size⟩ := fun he => hnew (he ▸ hx)
    rw [PixelStore.bytes, hold x hne, PixelStore.bytes]

/-! ## Writing -/

theorem Counts.write (h : s.Counts (id :: handles)) (hid : id ∉ handles) (f : ByteArray → ByteArray) :
    (s.write id f).Counts (id :: handles) ∧ (s.write id f).bytes id = f (s.bytes id) ∧
      ∀ x ∈ handles, (s.write id f).bytes x = s.bytes x := by
  obtain ⟨b, hb, hholders, hbytes⟩ := block_of_holders (h.pos List.mem_cons_self)
  obtain ⟨hbytes', hholders'⟩ := modify_self hb fun b => { b with bytes := f b.bytes }
  refine ⟨fun x => ?_, ?_, fun x hx => ?_⟩
  · rw [← h x]
    by_cases hx : x = id
    · subst hx
      exact hholders'.trans hholders.symm
    · exact (modify_of_ne hx _).2
  · rw [hbytes]
    exact hbytes'
  · have hne : x ≠ id := fun he => hid (he ▸ hx)
    exact (modify_of_ne hne _).1

/-- The exclusive handle has the bytes of the one that it replaces. -/
theorem Counts.exclusive (h : s.Counts (id :: handles)) :
    (s.exclusive id).2.Counts ((s.exclusive id).1 :: handles) ∧
      (s.exclusive id).2.bytes (s.exclusive id).1 = s.bytes id ∧ (s.exclusive id).1 ∉ handles ∧
      ∀ x ∈ handles, (s.exclusive id).2.bytes x = s.bytes x := by
  unfold PixelStore.exclusive
  by_cases hshared : s.isShared id
  · rw [if_pos hshared]
    obtain ⟨hreleased, hkept⟩ := h.release
    obtain ⟨hcounts, hbytes, hnew, hold⟩ := hreleased.allocate (s.bytes id)
    exact ⟨hcounts, hbytes, hnew, fun x hx => (hold x hx).trans (hkept x hx)⟩
  · rw [if_neg hshared]
    exact ⟨h, rfl, fun hmem => hshared (h.isShared_iff.mpr hmem), fun _ _ => rfl⟩

/-! ## Everyone else -/

/-- The store `s'` counts the handles, and behind each of them is what was there in `s`. -/
structure Keeps (s : PixelStore) (handles : List BlockId) (s' : PixelStore) : Prop where
  counts : s'.Counts handles
  bytes : ∀ id ∈ handles, s'.bytes id = s.bytes id

namespace Keeps

variable {s' s'' : PixelStore} {handles' : List BlockId}

theorem refl (h : s.Counts handles) : s.Keeps handles s := ⟨h, fun _ _ => rfl⟩

theorem trans (h : s.Keeps handles s') (h' : s'.Keeps handles' s'') (hsub : handles' ⊆ handles) :
    s.Keeps handles' s'' :=
  ⟨h'.counts, fun id hid => (h'.bytes id hid).trans (h.bytes id (hsub hid))⟩

theorem perm (h : s.Keeps handles s') (hp : handles.Perm handles') : s.Keeps handles' s' :=
  ⟨h.counts.perm hp, fun id hid => h.bytes id (hp.mem_iff.mpr hid)⟩

end Keeps

theorem Counts.retain_release (h : s.Counts handles) (hid : id ∈ handles) :
    s.Keeps handles ((s.retain id).release id) := by
  rw [retain_release_self (h.pos hid)]
  exact .refl h

end RemoteDisplay.PixelStore
