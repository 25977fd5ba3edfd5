import RemoteDisplay.Proofs.Frame.Access
import RemoteDisplay.Proofs.Session.Boxes
import RemoteDisplay.Proofs.Session.Records
import RemoteDisplay.Proofs.Session.Sharing

/-!
# The server can read every image

An image is built only if its view covers it, and then each of its rows lies in the bytes of the view.
The command keeps the view, and nobody writes what others hold. So wherever the command goes, the rows
that its record describes can be read until it is released.

Not every view has bytes, though. A frame over given bytes is accepted with a stride that is shorter than
its rows once these have more bytes than a word can count, and then a view of its right end may start
past the last byte. Asked what it covers, such a view has no answer.
-/

namespace RemoteDisplay

/-! ## Views of frames -/

namespace Frame

variable {f : Frame} {s : PixelStore} {handles : List BlockId} {r : Region} {v : View}

theorem isEmpty_of_view (hv : f.view r = .ok v) : r.isEmpty = false := by
  unfold Frame.view at hv
  split at hv
  · cases hv
  · rename_i hinside
    exact Bool.eq_false_iff.mpr fun hempty => hinside (.inl hempty)

/-- The first row of a view is one of the frame's. A region that begins at the largest coordinate ends
there too, so a frame of that height seems to contain it. -/
theorem top_lt_of_contains (h : f.bounds.contains r = true) (hrows : 0 < r.height.toNat)
    (hheight : f.height.toNat ≠ 2147483647) : r.y.toInt.toNat < f.height.toNat := by
  have hlow := (rows_of_contains h).2
  have hlargest := r.y.toInt_lt
  omega

theorem Rows.offset_le (h : f.Rows s) (hstride : f.width.toNat * 4 ≤ f.stride.toNat)
    (hheight : f.height.toNat ≠ 2147483647) (hv : f.view r = .ok v) :
    v.offset ≤ (s.bytes v.block).size := by
  have hword := f.stride.toNat_lt
  obtain ⟨-, hpos⟩ := Region.isEmpty_eq_false.mp (isEmpty_of_view hv)
  obtain ⟨rfl, hcontains⟩ := view_eq_ok hv
  obtain ⟨-, hcolumns⟩ := columns_of_contains hcontains (by omega)
  have htop := top_lt_of_contains hcontains hpos hheight
  have hfirst := part_row_le (y := 0) hstride h.bytes hcolumns (by omega)
  exact Nat.le_trans (Nat.le_add_right _ _) hfirst

/-- A view of a frame that was made always has bytes and an answer, if the stride holds a row and the
frame does not end at the largest coordinate. -/
theorem Made.view_answers (h : Made f s handles) (hstride : f.width.toNat * 4 ≤ f.stride.toNat)
    (hheight : f.height.toNat ≠ 2147483647) (hv : f.view r = .ok v) (width height stride : UInt32) :
    ∃ answer, v.covers s width height stride = .ok answer := by
  have hstart := h.sound.2.offset_le hstride hheight hv
  cases hcovers : v.covers s width height stride with
  | ok answer => exact ⟨answer, rfl⟩
  | error trap =>
      have hpast := (((v.covering s width height stride).trapped trap).mp hcovers).2.1
      omega

/-- A view of the right end of a frame whose stride is shorter than its row: the view starts past the last
byte, and the question whether it covers a single pixel has no answer. -/
theorem view_past_end_has_no_answer : ∃ f s v,
    Frame.ofBytes {} 1073741834 1 4294967295 (zeros 4294967295) = .ok (f, s) ∧
      f.view ⟨1073741829, 0, 1, 1⟩ = .ok v ∧
      v.covers s 1 1 4 = .error (.pastStart 4294967316 4294967295) := by
  obtain ⟨s, hframe, hsize⟩ := exists_stride_below_row
  refine ⟨_, s, _, hframe, rfl, View.covers_eq_error.mpr ⟨⟨by decide, by decide, by decide⟩,
    View.bytes_eq_error.mpr ⟨?_, ?_⟩⟩⟩
  · exact Nat.lt_of_le_of_lt (Nat.le_of_eq hsize) (by decide)
  · exact congrArg _ hsize.symm

end Frame

/-! ## Images -/

/-- The rows that the record of the image describes lie in the bytes of the view. -/
def Blit.Readable (blit : Blit) (s : PixelStore) : Prop :=
  ∃ bytes width height stride, blit.pixels.bytes s = .ok bytes ∧
    blit.image.Describes width height stride blit.imageId ∧ RowsFit bytes.size width height stride

theorem Blit.Readable.congr {blit : Blit} {s s' : PixelStore} (h : blit.Readable s)
    (hbytes : s'.bytes blit.pixels.block = s.bytes blit.pixels.block) : blit.Readable s' := by
  obtain ⟨bytes, width, height, stride, hview, himage, hrows⟩ := h
  have hview' : blit.pixels.bytes s' = .ok bytes := by
    simpa only [View.bytes, View.length, hbytes] using hview
  exact ⟨bytes, width, height, stride, hview', himage, hrows⟩

/-- What the command copies, if it copies anything, can be read. -/
def Command.Readable (c : Command) (s : PixelStore) : Prop := ∀ blit, c.blit? = some blit → blit.Readable s

/-- A command for an image was built, and it keeps the view. -/
theorem Session.blit_of_buildBlit {s t : Session} {b : Nat} {surface : SurfaceId} {x y : Int32}
    {width height stride : UInt32} {pixels : View} {damage : Damage} {c : Command}
    (h : s.buildBlit b surface x y width height pixels stride damage = .ok (.ok c, t)) :
    ∃ blit bytes, c.blit? = some blit ∧ blit.pixels = pixels ∧ t.store = s.store ∧
      blit.image.Describes width height stride blit.imageId ∧
      pixels.bytes t.store = .ok bytes ∧ RowsFit bytes.size width height stride := by
  rcases buildBlit_cases h with ⟨e, he⟩ | ⟨bbox, hcovers, -, -, -, hb⟩
  · cases he
  · cases hb
    have hstore : ((s.imageNumbered b).ticketed b).store = s.store := by
      rw [imageNumbered_eq]
      rfl
    obtain ⟨bytes, hview, hrows⟩ := View.covers_iff_rowsFit.mp hcovers
    exact ⟨_, bytes, rfl, rfl, hstore, describes_imageRecord _ width height stride,
      hstore.symm ▸ hview, hrows⟩

namespace Desk

/-! ## Commands on a desk -/

/-- The command is in a slot, on the ring or with the server. -/
def Carries (d : Desk) (c : Command) : Prop :=
  some (.command c) ∈ d.slots ∨ c ∈ d.session.commands

variable {d d₁ d' : Desk} {c : Command} {a : Act} {i : Nat}

theorem Carries.has (h : d.Carries c) {v : View} (hv : c.view? = some v) : d.Has v := by
  rcases h with hslot | hc
  · obtain ⟨i, hi⟩ := List.mem_iff_getElem?.mp hslot
    exact .inl ⟨i, _, item?_eq_some.mpr hi, hv⟩
  · exact .inr ⟨c, hc, hv⟩

/-- Every command was there before, or it can be read. -/
def Follows (d d' : Desk) : Prop := ∀ c, d'.Carries c → d.Carries c ∨ c.Readable d'.store

/-- The slots stay, and no command comes to the session. -/
theorem follows_of_slots (hslots : d'.slots = d.slots)
    (hsession : d'.session.commands ⊆ d.session.commands) : d.Follows d' := by
  rintro c (hslot | hc)
  · exact .inl (.inl (hslots ▸ hslot))
  · exact .inl (.inr (hsession hc))

theorem follows_withStore (d : Desk) (store : PixelStore) : d.Follows (d.withStore store) :=
  follows_of_slots rfl (List.Subset.refl _)

theorem Follows.set (h : d.Follows d₁) {y : Option Item}
    (hy : ∀ c, y = some (.command c) → c.Readable d₁.store) : d.Follows (d₁.setSlot i y) := by
  rintro c (hslot | hc)
  · rcases List.mem_or_eq_of_mem_set hslot with hold | hnew
    · exact h c (.inl hold)
    · exact .inr (hy c hnew.symm)
  · exact h c (.inr hc)

theorem Follows.clear (h : d.Follows d₁) : d.Follows (d₁.setSlot i none) := h.set fun _ hy => by cases hy

theorem Follows.add (h : d.Follows d₁) {x : Item} (hx : ∀ c, x ≠ .command c) : d.Follows (d₁.add x) := by
  rintro c (hslot | hc)
  · rcases List.mem_append.mp hslot with hold | hnew
    · exact h c (.inl hold)
    · cases List.mem_singleton.mp hnew
      exact absurd rfl (hx c)
  · exact h c (.inr hc)

/-- Whatever is done, the only new commands are those that are built. -/
theorem Counted.follows (h : d.Counted) (hp : d.perform a = .ok d') : d.Follows d' := by
  have hring := h.sound.ring
  have hself : d.Follows d := fun _ hc => .inl hc
  cases a with
  | newFrame width height | frameOfBytes width height stride bytes =>
      simp only [perform] at hp
      split at hp <;> cases hp
      · exact hself
      · exact (follows_withStore d _).add fun _ hx => by cases hx
  | newRenderer width height =>
      cases hp
      exact hself.add fun _ hx => by cases hx
  | clone i =>
      simp only [perform] at hp
      split at hp <;> cases hp
      · exact (follows_withStore d _).add fun _ hx => by cases hx
      · exact (follows_withStore d _).add fun _ hx => by cases hx
      · exact hself
  | cut i r =>
      simp only [perform] at hp
      split at hp
      · split at hp <;> cases hp
        · exact hself
        · exact (follows_withStore d _).add fun _ hx => by cases hx
      · cases hp
        exact hself
  | put i x y colour =>
      simp only [perform, bind, Except.bind] at hp
      split at hp
      · split at hp <;> cases hp
        exact (follows_withStore d _).set fun _ hy => by cases hy
      · cases hp
        exact hself
  | write i change =>
      simp only [perform] at hp
      split at hp <;> cases hp
      · exact (follows_withStore d _).set fun _ hy => by cases hy
      · exact hself
  | repaint i output damage =>
      simp only [perform, bind, Except.bind] at hp
      split at hp
      · split at hp
        · cases hp
        · split at hp <;> cases hp
          · exact (follows_withStore d _).set fun _ hy => by cases hy
          · exact ((follows_withStore d _).set fun _ hy => by cases hy).add fun _ hx => by cases hx
      · cases hp
        exact hself
  | blit i b surface x y width height stride damage =>
      have hperform := hp
      simp only [perform] at hperform
      split at hperform
      · rename_i v hi
        obtain ⟨⟨answer, s⟩, hb, rfl⟩ := perform_blit hi hp
        obtain ⟨hcommands, -⟩ := Session.buildBlit_commands hb
        have hsession : d.Follows (d.withSession s) :=
          follows_of_slots rfl fun c hc => hcommands ▸ hc
        cases answer with
        | error e => exact hsession.clear
        | ok c =>
            obtain ⟨blit, bytes, hblit, rfl, -, himage, hview, hrows⟩ := Session.blit_of_buildBlit hb
            refine hsession.set fun c' hc' => ?_
            cases hc'
            intro blit' hblit'
            cases hblit.symm.trans hblit'
            exact ⟨bytes, _, _, _, hview, himage, hrows⟩
      · cases hperform
        exact hself
  | release i reason =>
      simp only [perform] at hp
      split at hp <;> cases hp
      · exact Follows.clear (follows_of_slots rfl fun _ hc => hc)
      · exact hself
  | submit i =>
      simp only [perform] at hp
      split at hp
      · rename_i c hi
        cases hp
        refine Follows.clear ?_
        rintro e (hslot | he)
        · exact .inl (.inl hslot)
        · rcases List.mem_cons.mp (Session.submit_commands hring c he) with rfl | he
          · exact .inl (.inl (mem_slots hi))
          · exact .inl (.inr he)
      · cases hp
        exact hself
  | drop i =>
      simp only [perform] at hp
      split at hp <;> cases hp
      · exact (follows_withStore d _).clear
      · exact hself
  | nextCommand =>
      cases hp
      exact follows_of_slots rfl (Session.nextCommand_commands hring)
  | giveBack id group =>
      cases hp
      exact follows_of_slots rfl (Session.giveBack_commands id group)
  | refuseMemory refuses =>
      cases hp
      exact follows_withStore d _

/-! ## Runs -/

/-- What every command on the desk copies can be read. -/
def AllReadable (d : Desk) : Prop := ∀ c, d.Carries c → c.Readable d.store

theorem Counted.allReadable_performed (h : d.Counted) (hall : d.AllReadable)
    (hp : d.perform a = .ok d') : d'.AllReadable := by
  intro c hc
  rcases h.follows hp c hc with hold | hread
  · intro blit hblit
    have hview : c.view? = some blit.pixels := by rw [Command.view?, hblit, Option.map_some]
    exact (hall c hold blit hblit).congr (h.view_bytes hp (hold.has hview) (hc.has hview))
  · exact hread

theorem Counted.allReadable_run {acts : List Act} (h : d.Counted) (hall : d.AllReadable)
    (hrun : d.run acts = .ok d') : d'.AllReadable := by
  induction acts generalizing d with
  | nil =>
      cases hrun
      exact hall
  | cons a acts ih =>
      obtain ⟨d₁, hp, hrest⟩ := run_cons.mp hrun
      exact ih (h.performed hp).counted (h.allReadable_performed hall hp) hrest

/-- Views answer exactly which rows they have, and the server can read what it is told to copy. -/
structure Legible (d : Desk) : Prop where
  covering : ∀ v s width height stride, View.Covering v s width height stride
  /-- A view of a frame always answers, if the stride holds a row and the frame does not end at the
  largest coordinate. -/
  answered : ∀ f s handles r v, Frame.Made f s handles → f.width.toNat * 4 ≤ f.stride.toNat →
    f.height.toNat ≠ 2147483647 → f.view r = .ok v →
    ∀ width height stride, ∃ answer, v.covers s width height stride = .ok answer
  /-- What is built describes rows of the view that it was built of. -/
  built : ∀ b surface x y width height pixels stride damage c t,
    d.session.buildBlit b surface x y width height pixels stride damage = .ok (.ok c, t) →
    ∃ blit bytes, c.blit? = some blit ∧ blit.pixels = pixels ∧ t.store = d.store ∧
      blit.image.Describes width height stride blit.imageId ∧
      pixels.bytes t.store = .ok bytes ∧ RowsFit bytes.size width height stride
  /-- And as long as the command is somewhere, its pixels are kept and the rows are there. -/
  kept : ∀ c blit, d.Carries c → c.blit? = some blit →
    0 < d.store.holders blit.pixels.block ∧ blit.Readable d.store

theorem Counted.legible (h : d.Counted) (hall : d.AllReadable) : d.Legible where
  covering := View.covering
  answered _ _ _ _ _ hmade hstride hheight hv := hmade.view_answers hstride hheight hv
  built _ _ _ _ _ _ _ _ _ _ _ hb := Session.blit_of_buildBlit hb
  kept c blit hc hblit := by
    have hview : c.view? = some blit.pixels := by rw [Command.view?, hblit, Option.map_some]
    exact ⟨h.counts.pos (hc.has hview).mem_handles, hall c hc blit hblit⟩

end Desk

/-- Whatever is done with frames, views and commands: a view covers rows exactly if each of them lies in
its bytes, and every image that was built describes such rows, of pixels that its command keeps. -/
theorem Session.Fresh.legible_of_run {s : Session} (h : s.Fresh) (hstore : s.store.blocks = #[])
    {acts : List Desk.Act} {d : Desk} (hrun : Desk.run { session := s } acts = .ok d) : d.Legible := by
  have hcounted := h.counted_desk hstore
  have hall : Desk.AllReadable { session := s } := by
    rintro c (hslot | hc)
    · cases hslot
    · rw [Session.commands, h.queue, h.held] at hc
      cases hc
  exact (hcounted.run hrun).legible (hcounted.allReadable_run hall hrun)

/-- The right column of a frame whose rows are a byte longer than their pixels. The server holds its
image, and the frame was written since. -/
theorem legible_of_run_right_column :
    ∃ s : Session, s.Fresh ∧ s.store.blocks = #[] ∧ ∃ d, Desk.run { session := s }
        [.frameOfBytes 2 2 9 ⟨#[0, 1, 2, 3, 4, 5, 6, 7, 8, 9, 10, 11, 12, 13, 14, 15, 16, 17]⟩,
          .cut 0 ⟨1, 0, 1, 2⟩, .blit 1 0 ⟨0⟩ 0 0 1 2 9 {}, .submit 1, .nextCommand, .put 0 1 0 7] = .ok d ∧
      ∃ blit, d.session.server.held.map (·.blit?) = [some blit] ∧ blit.pixels.offset = 4 ∧
        0 < d.store.holders blit.pixels.block ∧ blit.Readable d.store := by
  have hfresh : (Session.ofRing (.ofCapacity 2 0) 0 2 [0]).Fresh :=
    Session.fresh_ofRing (Ring.wellFormed_ofCapacity 2 0) (Ring.toList_ofCapacity 2 0) 0 2 (by simp)
  let acts : List Desk.Act :=
    [.frameOfBytes 2 2 9 ⟨#[0, 1, 2, 3, 4, 5, 6, 7, 8, 9, 10, 11, 12, 13, 14, 15, 16, 17]⟩,
      .cut 0 ⟨1, 0, 1, 2⟩, .blit 1 0 ⟨0⟩ 0 0 1 2 9 {}, .submit 1, .nextCommand, .put 0 1 0 7]
  have hmade : (Desk.run { session := .ofRing (.ofCapacity 2 0) 0 2 [0] } acts).toOption.map
        (fun d => d.session.server.held.map fun c => c.view?.map (·.offset)) = some [some 4] := by
    decide +kernel
  cases hrun : Desk.run { session := .ofRing (.ofCapacity 2 0) 0 2 [0] } acts with
  | error t =>
      rw [hrun] at hmade
      cases hmade
  | ok d =>
      rw [hrun] at hmade
      obtain ⟨c, hheld, hview⟩ : ∃ c, d.session.server.held = [c] ∧ c.view?.map (·.offset) = some 4 := by
        simpa [Except.toOption, List.map_eq_singleton_iff] using hmade
      obtain ⟨blit, hblit, hoffset⟩ : ∃ blit, c.blit? = some blit ∧ blit.pixels.offset = 4 := by
        simpa [Command.view?] using hview
      have hcarries : d.Carries c :=
        .inr (Session.mem_commands.mpr (.inr (hheld ▸ List.mem_cons_self)))
      obtain ⟨hkept, hread⟩ := (hfresh.legible_of_run rfl hrun).kept c blit hcarries hblit
      exact ⟨_, hfresh, rfl, d, hrun, blit, by rw [hheld, List.map_singleton, hblit], hoffset, hkept, hread⟩

end RemoteDisplay
