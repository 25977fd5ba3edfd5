import RemoteDisplay.Proofs.Frame.Holders
import RemoteDisplay.Proofs.Session.Conservation

/-!
# Commands keep their pixels

A queued or held command has a handle on the pixels of its view until it is released. Whatever a
session does with commands, the store counts the handles of those that are left, and the bytes
behind them stay as they are.
-/

namespace RemoteDisplay

def blocks (cs : List Command) : List BlockId := cs.filterMap Holder.block?

section Blocks

variable {c : Command} {cs ds : List Command}

@[simp] theorem blocks_append (cs ds : List Command) : blocks (cs ++ ds) = blocks cs ++ blocks ds :=
  List.filterMap_append

theorem blocks_cons_none (h : Holder.block? c = none) : blocks (c :: cs) = blocks cs :=
  List.filterMap_cons_none h

theorem blocks_perm (h : cs.Perm ds) : (blocks cs).Perm (blocks ds) := h.filterMap _

theorem mem_blocks {v : View} (hc : c ∈ cs) (hv : c.view? = some v) : v.block ∈ blocks cs :=
  List.mem_filterMap.mpr ⟨c, hc, by simp [Holder.block?, hv]⟩

theorem block?_of_record {record : Wire.SurfaceRecord} (h : c.record? = some record) :
    Holder.block? c = none := by
  cases hp : c.payload with
  | surface r => simp [Holder.block?, Command.view?, Command.blit?, hp]
  | copy blit => simp [Command.record?, hp] at h
  | fill drawable => simp [Command.record?, hp] at h

end Blocks

namespace Session

variable {s s' : Session} {c : Command} {cs ds : List Command} {others : List BlockId}

def handles (s : Session) : List BlockId := blocks (s.queue ++ s.server.held)

/-! ## Releasing -/

theorem release_keeps (h : s.store.Counts (blocks (c :: cs) ++ others)) (reason : ReleaseReason) :
    s.store.Keeps (blocks cs ++ others) (s.release c reason).store := by
  have hstore : (s.release c reason).store = s.store.giveUp c := rfl
  rw [hstore, PixelStore.giveUp]
  cases hb : Holder.block? c with
  | none =>
      rw [blocks_cons_none hb] at h
      exact .refl h
  | some block =>
      rw [blocks, List.filterMap_cons_some hb] at h
      obtain ⟨hcounts, hbytes⟩ := PixelStore.Counts.release h
      exact ⟨hcounts, hbytes⟩

theorem releaseEach_keeps (h : s.store.Counts (blocks (cs ++ ds) ++ others)) (reason : ReleaseReason) :
    s.store.Keeps (blocks ds ++ others) (s.releaseEach cs reason).2.store := by
  simp only [releaseEach]
  induction cs generalizing s with
  | nil => exact .refl h
  | cons c cs ih =>
      have hfirst : s.store.Keeps (blocks (cs ++ ds) ++ others) (s.release c reason).store :=
        release_keeps h reason
      refine hfirst.trans (ih hfirst.counts) ?_
      rw [blocks_append, List.append_assoc]
      exact List.subset_append_right _ _

/-- A command without pixels changes none, whether it is queued or not. -/
theorem submit_still (h : s.ring.WellFormed) (hc : Holder.block? c = none) :
    (s.submit c).2.store = s.store ∧ (s.submit c).2.handles = s.handles := by
  rcases s.submit_cases h c with ⟨-, ring, hs, -, hlist, -⟩ | ⟨-, hs⟩
  · rw [hs]
    have hnone : blocks [c] = [] := blocks_cons_none hc
    refine ⟨rfl, ?_⟩
    simp only [handles, queue, hlist, blocks_append, hnone, List.append_nil]
  · rw [hs]
    refine ⟨?_, rfl⟩
    have hstore : (s.release c .rejected).store = s.store.giveUp c := rfl
    rw [hstore, PixelStore.giveUp, hc]

/-- A command goes to the ring with its pixels, or is released. -/
theorem submit_keeps (h : s.ring.WellFormed)
    (hs : s.store.Counts (blocks (c :: (s.queue ++ s.server.held)) ++ others)) :
    s.store.Keeps ((s.submit c).2.handles ++ others) (s.submit c).2.store := by
  rcases s.submit_cases h c with ⟨-, ring, hsubmit, -, hlist, -⟩ | ⟨-, hsubmit⟩
  · have hperm : (c :: (s.queue ++ s.server.held)).Perm (ring.toList ++ s.server.held) := by
      rw [hlist, List.append_assoc]
      exact List.perm_middle.symm
    rw [hsubmit]
    exact .refl (hs.perm ((blocks_perm hperm).append_right others))
  · rw [hsubmit]
    exact release_keeps hs .rejected

/-- Building a copy gives up the view, or the command keeps it. -/
theorem buildBlit_keeps {s : Session} {b : Nat} {surface : SurfaceId} {x y : Int32}
    {width height : UInt32} {pixels : View} {stride : UInt32} {damage : Damage}
    {r : Except Fault Command × Session}
    (hr : s.buildBlit b surface x y width height pixels stride damage = .ok r) :
    (∃ e, r = (.error e, s.drop pixels)) ∨
    ∃ c t, r = (.ok c, t) ∧ c.view? = some pixels ∧ t.store = s.store ∧ t.handles = s.handles := by
  rcases buildBlit_cases hr with ⟨e, rfl⟩ | ⟨bbox, -, -, -, -, rfl⟩
  · exact .inl ⟨e, rfl⟩
  · refine .inr ⟨_, _, rfl, rfl, ?_, ?_⟩ <;>
      · rw [imageNumbered_eq]
        rfl

theorem withdrawSurface_keeps (h : s.ring.WellFormed) (hs : s.store.Counts (s.handles ++ others))
    (id : SurfaceId) :
    s.store.Keeps ((s.withdrawSurface id).handles ++ others) (s.withdrawSurface id).store := by
  obtain ⟨-, hqueue, -, -, hserver, -⟩ := s.withdrawSurface_spec h id
  obtain ⟨ring, hdrain, -⟩ := s.drainSurface_eq h id
  have hsplit : (s.queue ++ s.server.held).Perm (s.queue.filter (·.surface = id) ++
      (s.queue.filter (fun c => !decide (c.surface = id)) ++ s.server.held)) := by
    rw [← List.append_assoc]
    exact (List.filter_append_perm _ _).symm.append_right _
  have hreleased := releaseEach_keeps (s := { s with ring })
    (hs.perm ((blocks_perm hsplit).append_right others)) .teardown
  simp only [handles, hqueue, hserver]
  simpa only [withdrawSurface, hdrain, destroySurface_eq] using hreleased

/-! ## Announcing and filling -/

theorem createSurface_still (h : s.Sound) {width height : UInt32} {backing : Backing}
    {r : Except Fault SurfaceId × Session} (hr : s.createSurface width height backing = .ok r) :
    r.2.store = s.store ∧ r.2.handles = s.handles := by
  rcases createSurface_cases hr with ⟨e, rfl⟩ | ⟨record, c, -, -, -, -, -, rfl, hsub⟩
  · exact ⟨rfl, rfl⟩
  · have hstill := submit_still (s := s.numbered) h.numbered.sound.ring
      (c := announcement ⟨s.surfaces.next⟩ width height record ⟨0, ⟨(s.ledger 0).next⟩⟩)
      (block?_of_record rfl)
    rcases hsub with ⟨s', hs, rfl⟩ | ⟨e, s', hs, rfl⟩ <;>
      · rw [hs] at hstill
        exact hstill

theorem fillRect_still (h : s.Sound) (b : Nat) (surface : SurfaceId) (colour : UInt32) (x y : Int32)
    (width height : UInt32) :
    (s.fillRect b surface colour x y width height).2.store = s.store ∧
      (s.fillRect b surface colour x y width height).2.handles = s.handles := by
  rcases s.fillRect_cases b surface colour x y width height with ⟨e, hf⟩ | ⟨bbox, live, -, -, -, -, hf⟩
  · rw [hf]
    exact ⟨rfl, rfl⟩
  · rw [hf]
    exact submit_still (h.ticketed b).sound.ring rfl

/-! ## The server's side -/

/-- A drawable goes from the ring to the server with its pixels. -/
theorem handOff_keeps (h : s.store.Counts (blocks (c :: (s.queue ++ s.server.held)) ++ others)) :
    s.store.Keeps ((s.handOff c).handles ++ others) (s.handOff c).store := by
  have hp : (c :: (s.queue ++ s.server.held)).Perm ((insertHeld c s.server.held).1.toList ++
      (s.queue ++ (insertHeld c s.server.held).2)) := by
    refine List.perm_middle.symm.trans (((insertHeld_perm c s.server.held).symm.append_left _).trans ?_)
    rw [← List.append_assoc, ← List.append_assoc]
    exact List.perm_append_comm.append_right _
  have hcounts := h.perm ((blocks_perm hp).append_right others)
  have hhandles : (s.handOff c).handles = blocks (s.queue ++ (insertHeld c s.server.held).2) := by
    rw [handles, queue, handOff_ring, handOff_server, queue]
  rw [hhandles, handOff_eq]
  cases hprev : (insertHeld c s.server.held).1 with
  | none =>
      rw [hprev] at hcounts
      exact .refl hcounts
  | some d =>
      rw [hprev] at hcounts
      exact release_keeps (s := s.holding c) hcounts .rejected

theorem fetch_keeps {r : Except Fault (Option Dispatched)} (hf : Fetch s r s')
    (h : s.store.Counts (s.handles ++ others)) : s.store.Keeps (s'.handles ++ others) s'.store := by
  induction hf with
  | stop s => exact .refl h
  | @draw s c ring hqueue hring hrecord =>
      rw [handles, hqueue] at h
      exact handOff_keeps (s := { s with ring }) h
  | @reject s c ring record hqueue hring hrecord hworker =>
      rw [handles, hqueue] at h
      exact release_keeps (s := { s with ring }) h .rejected
  | @announce s s' c ring record r hqueue hring hrecord hrest ih =>
      rw [handles, hqueue, List.cons_append] at h
      have hkept := release_keeps (s := call { s with ring } (.createSurface c.surface record)) h .delivered
      have hstore : ((call { s with ring } (.createSurface c.surface record)).release c .delivered).store =
          s.store := by
        have hgiven : ((call { s with ring } (.createSurface c.surface record)).release c .delivered).store =
            s.store.giveUp c := rfl
        rw [hgiven, PixelStore.giveUp, block?_of_record hrecord]
      have hrest := ih hkept.counts
      rw [hstore] at hrest
      exact hrest

theorem nextCommand_keeps (h : s.ring.WellFormed) (hs : s.store.Counts (s.handles ++ others)) :
    s.store.Keeps (s.nextCommand.2.handles ++ others) s.nextCommand.2.store := by
  simp only [nextCommand]
  split
  · exact .refl hs
  · exact fetch_keeps (fetch_spec h s.ring.length) hs

/-- What the server gives back loses its pixels, and nothing else does. -/
theorem giveBack_keeps (h : s.Sound) (hs : s.store.Counts (s.handles ++ others)) (id : ReleaseId)
    (group : UInt32) :
    s.store.Keeps ((s.giveBack id group).2.handles ++ others) (s.giveBack id group).2.store := by
  simp only [giveBack]
  split
  · exact .refl hs
  · split
    · exact .refl hs
    · rename_i c hc
      obtain ⟨hmem, rfl⟩ : c ∈ s.server.held ∧ c.id = id :=
        ⟨List.mem_of_find?_eq_some hc, by simpa using List.find?_some hc⟩
      have hp : (s.queue ++ s.server.held).Perm
          (c :: (s.queue ++ s.server.held.filter (·.id ≠ c.id))) :=
        ((held_perm h.held hmem).symm.append_left _).trans List.perm_middle
      exact release_keeps (s := { s with server.held := s.server.held.filter (·.id ≠ c.id) })
        (hs.perm ((blocks_perm hp).append_right others)) .server

end Session

end RemoteDisplay
