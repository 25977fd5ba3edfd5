import RemoteDisplay.Proofs.Frame.Pattern

/-!
# Writes are seen by nobody else

Frames of any size and stride come, are written through their own handle, and go. Whatever the writing
puts into the frame, the bytes behind all other handles stay, and the store goes on counting the handles
that there are.
-/

namespace RemoteDisplay

variable {f f' f'' : Frame} {s s' s'' : PixelStore} {handles : List BlockId}

/-! ## New and old handles -/

/-- The frame lies over bytes that have all of its rows, and the other handles see what they saw before. -/
structure Frame.Over (s : PixelStore) (handles : List BlockId) (bytes : ByteArray) (f : Frame)
    (s' : PixelStore) : Prop where
  stride : min (f.width.toNat * 4) 4294967295 ≤ f.stride.toNat
  rows : f.stride.toNat * f.height.toNat ≤ bytes.size
  counts : s'.Counts (f.block :: handles)
  bytes : s'.bytes f.block = bytes
  others : ∀ id ∈ handles, s'.bytes id = s.bytes id

theorem Frame.ofBytes_over {width height stride : UInt32} {bytes : ByteArray} (hc : s.Counts handles)
    (h : Frame.ofBytes s width height stride bytes = .ok (f, s')) : Over s handles bytes f s' := by
  simp only [Frame.ofBytes] at h
  split at h
  · cases h
  · rename_i hstride
    split at h
    · cases h
    · rename_i hsize
      obtain ⟨hcounts, hbytes, -, hothers⟩ := hc.allocate bytes
      cases h
      exact ⟨Nat.le_of_not_lt hstride, Nat.le_of_not_lt hsize, hcounts, hbytes, hothers⟩

/-- Handles are given up one after the other. -/
theorem PixelStore.Counts.releaseEach {given : List BlockId} (hc : s.Counts (given ++ handles)) :
    s.Keeps handles (given.foldl PixelStore.release s) := by
  induction given generalizing s with
  | nil => exact .refl hc
  | cons id given ih =>
      obtain ⟨hcounts, hbytes⟩ := hc.release
      have hfirst : s.Keeps (given ++ handles) (s.release id) := ⟨hcounts, hbytes⟩
      exact hfirst.trans (ih hcounts) (List.subset_append_right _ _)

/-! ## Writing -/

/-- The frame was written. It may have moved to pixels of its own, and the other handles see what they
saw before. -/
structure Written (handles : List BlockId) (f : Frame) (s : PixelStore) (f' : Frame) (s' : PixelStore) :
    Prop where
  frame : f' = { f with block := f'.block }
  counts : s'.Counts (f'.block :: handles)
  others : ∀ id ∈ handles, s'.bytes id = s.bytes id

namespace Written

theorem refl (hc : s.Counts (f.block :: handles)) : Written handles f s f s := ⟨rfl, hc, fun _ _ => rfl⟩

theorem trans (h : Written handles f s f' s') (h' : Written handles f' s' f'' s'') :
    Written handles f s f'' s'' where
  frame := by rw [h'.frame, h.frame]
  counts := h'.counts
  others id hid := (h'.others id hid).trans (h.others id hid)

/-- The bytes are changed in any way, through an exclusive handle. -/
theorem write (hc : s.Counts (f.block :: handles)) (change : ByteArray → ByteArray) :
    Written handles f s { f with block := (s.exclusive f.block).1 }
      ((s.exclusive f.block).2.write (s.exclusive f.block).1 change) := by
  obtain ⟨hcounts, -, hnew, hothers⟩ := hc.exclusive
  obtain ⟨hwritten, -, hkept⟩ := hcounts.write hnew change
  exact ⟨rfl, hwritten, fun id hid => (hkept id hid).trans (hothers id hid)⟩

theorem put (hc : s.Counts (f.block :: handles)) {x y colour : UInt32}
    (hp : f.put s x y colour = .ok (f', s')) : Written handles f s f' s' := by
  rcases Frame.put_cases hc hp with ⟨-, rfl, rfl⟩ | ⟨-, hframe, hcounts, -, hothers⟩
  · exact .refl hc
  · exact ⟨hframe, hcounts, hothers⟩

theorem foldlM {α : Type} {step : Frame × PixelStore → α → Except Trap (Frame × PixelStore)}
    (hstep : ∀ {f f' : Frame} {s s' : PixelStore} {a : α}, s.Counts (f.block :: handles) →
      step (f, s) a = .ok (f', s') → Written handles f s f' s')
    {as : List α} (hc : s.Counts (f.block :: handles)) (hrun : as.foldlM step (f, s) = .ok (f', s')) :
    Written handles f s f' s' := by
  induction as generalizing f s with
  | nil =>
      cases hrun
      exact .refl hc
  | cons a as ih =>
      simp only [List.foldlM_cons, bind, Except.bind] at hrun
      split at hrun
      · cases hrun
      · rename_i r hr
        obtain ⟨f₁, s₁⟩ := r
        have hfirst := hstep hc hr
        exact hfirst.trans (ih hfirst.counts hrun)

theorem paintRow (hc : s.Counts (f.block :: handles)) {tick y : UInt32} {columns : List UInt32}
    (hp : PatternRenderer.paintRow f s tick y columns = .ok (f', s')) : Written handles f s f' s' :=
  .foldlM (fun hc hp => .put hc hp) hc hp

theorem paintRegion (hc : s.Counts (f.block :: handles)) {tick : UInt32} {r : Region}
    (hp : PatternRenderer.paintRegion f s tick r = .ok (f', s')) : Written handles f s f' s' := by
  have hrow : ∀ {f f' : Frame} {s s' : PixelStore} {y : UInt32}, s.Counts (f.block :: handles) →
      PatternRenderer.paintRow f s tick y (PatternRenderer.between r.x r.right) = .ok (f', s') →
      Written handles f s f' s' := fun hc hp => .paintRow hc hp
  exact .foldlM hrow hc hp

theorem paint (hc : s.Counts (f.block :: handles)) {tick : UInt32} {damage : Damage}
    (hp : PatternRenderer.paint f s tick damage = .ok (f', s')) : Written handles f s f' s' :=
  .foldlM (fun hc hp => .paintRegion hc hp) hc hp

end Written

/-! ## Repaints -/

namespace PatternRenderer

variable {p p' : PatternRenderer} {others : List BlockId} {output : OutputId} {damage : Damage}

/-- The renderer went on to draw into the frame `f` of the output, and answered a handle on it. -/
structure Redrawn (p : PatternRenderer) (s : PixelStore) (others : List BlockId) (output : OutputId)
    (f : Frame) (p' : PatternRenderer) (s' : PixelStore) : Prop where
  keys : (p'.frames.map (·.1)).Nodup
  frame : p'.frame? output = some f
  frames : ∀ o, o ≠ output → p'.frame? o = p.frame? o
  counts : s'.Counts (f.block :: (p'.handles ++ others))
  unpainted : ∀ id ∈ p.otherHandles output ++ others, s'.bytes id = s.bytes id

theorem redrawn (hkeys : (p.frames.map (·.1)).Nodup) {g : Frame} {s₀ : PixelStore} {tick : UInt32}
    (hc : s₀.Counts (g.block :: (p.otherHandles output ++ others)))
    (hsame : ∀ id ∈ p.otherHandles output ++ others, s₀.bytes id = s.bytes id)
    (hp : paint g s₀ tick damage = .ok (f, s')) :
    Redrawn p s others output f { p.keep output f with tick := tick + 1 } (s'.retain f.block) := by
  have hwritten : Written (p.otherHandles output ++ others) g s₀ f s' := .paint hc hp
  obtain ⟨hretained, hbytes⟩ := hwritten.counts.retain List.mem_cons_self
  refine ⟨nodup_keep hkeys output f, (frame?_keep p output f output).trans (if_pos rfl),
    fun o ho => (frame?_keep p output f o).trans (if_neg ho), hretained, fun id hid => ?_⟩
  rw [hbytes, hwritten.others id hid, hsame id hid]

/-- A repaint fails and changes nothing, or draws into the frame of the output alone. -/
theorem repaint_redrawn (hkeys : (p.frames.map (·.1)).Nodup) (hc : s.Counts (p.handles ++ others))
    {r : Except Fault Frame} (hr : p.repaint s output damage = .ok (r, p', s')) :
    (∃ e, r = .error e ∧ p' = p ∧ s' = s) ∨ ∃ f, r = .ok f ∧ Redrawn p s others output f p' s' := by
  rcases repaint_cases hr with hfailed | ⟨g, s₀, f, s₁, hframe, hp, rfl, rfl, rfl⟩
  · exact .inl hfailed
  · refine .inr ⟨f, rfl, ?_⟩
    cases hf : p.frame? output with
    | some g' =>
        rw [frameFor_of_some hf] at hframe
        cases hframe
        exact redrawn hkeys (hc.perm ((handles_perm hkeys hf).append_right others)) (fun _ _ => rfl) hp
    | none =>
        rw [frameFor_of_none hf] at hframe
        rw [← otherHandles_of_none hf] at hc
        have hfresh := Frame.new_fresh hc hframe
        exact redrawn hkeys hfresh.counts hfresh.others hp

end PatternRenderer

end RemoteDisplay
