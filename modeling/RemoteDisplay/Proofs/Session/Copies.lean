import RemoteDisplay.Proofs.Session.Effects

/-!
# The image copies that the ring took

The record of what the ring took only grows, and only submitting a command adds to it. An image that
is painted is one copy more for its surface; nothing else that a session does adds a copy.
-/

namespace RemoteDisplay.Session

variable {s t : Session}

/-- The number of image copies that the ring ever took for a surface. -/
def copies (s : Session) (surface : SurfaceId) : Nat :=
  s.accepted.countP fun c => c.surface = surface ∧ c.kind = .drawCopy

theorem copies_of_accepted (h : t.accepted = s.accepted) : t.copies = s.copies := by
  funext surface
  rw [copies, h, copies]

/-- A command is at the end of what the ring took, or it was refused and nothing was taken. -/
theorem accepted_submit (s : Session) (c : Command) :
    ((s.submit c).1 = .ok () ∧ (s.submit c).2.accepted = s.accepted.push c) ∨
      ∃ e, (s.submit c).1 = .error e ∧ (s.submit c).2.accepted = s.accepted := by
  simp only [submit, enqueue?]
  split
  · rename_i he
    obtain ⟨ring, -, rfl⟩ := Option.map_eq_some_iff.mp he
    exact .inl ⟨rfl, rfl⟩
  · exact .inr ⟨_, rfl, rfl⟩

theorem copies_submit_of_ne {c : Command} (hc : c.kind ≠ .drawCopy) :
    (s.submit c).2.copies = s.copies := by
  funext surface
  rcases s.accepted_submit c with ⟨-, haccepted⟩ | ⟨e, -, haccepted⟩
  · simp [copies, haccepted, hc]
  · rw [copies_of_accepted haccepted]

theorem copies_createSurface {width height : UInt32} {backing : Backing}
    {r : Except Fault SurfaceId × Session} (h : s.createSurface width height backing = .ok r) :
    r.2.copies = s.copies := by
  rcases createSurface_cases h with ⟨e, rfl⟩ | ⟨record, c, -, -, -, -, -, rfl, hsub⟩
  · rfl
  · have hsubmit : (s.numbered.submit (announcement ⟨s.surfaces.next⟩ width height record
        ⟨0, ⟨(s.ledger 0).next⟩⟩)).2.copies = s.copies := copies_submit_of_ne nofun
    rcases hsub with ⟨s', hs, rfl⟩ | ⟨e, s', hs, rfl⟩ <;> rw [hs] at hsubmit <;> exact hsubmit

theorem copies_fillRect (s : Session) (b : Nat) (surface : SurfaceId) (colour : UInt32) (x y : Int32)
    (width height : UInt32) : (s.fillRect b surface colour x y width height).2.copies = s.copies := by
  rcases s.fillRect_cases b surface colour x y width height with ⟨e, hf⟩ | ⟨bbox, live, -, -, -, -, hf⟩
  · rw [hf]
  · rw [hf]
    exact copies_submit_of_ne nofun

/-- An image that was sent is one copy more for its surface; one that was not is none. -/
theorem copies_paintImage {s : Session} {b : Nat} {surface : SurfaceId} {x y : Int32}
    {width height : UInt32} {pixels : View} {stride : UInt32} {damage : Damage}
    {r : Except Fault ImageId × Session}
    (hr : s.paintImage b surface x y width height pixels stride damage = .ok r) (id : SurfaceId) :
    r.2.copies id = s.copies id + if r.1.toOption.isSome ∧ surface = id then 1 else 0 := by
  rcases paintImage_cases hr with ⟨e, rfl⟩ | ⟨bbox, live, -, -, -, -, -, -, rfl⟩
  · rfl
  · have hsame : ((s.imageNumbered b).ticketed b).accepted = s.accepted := by
      rw [imageNumbered_eq]
      rfl
    have hkind : (s.blitCommand b surface bbox width height pixels stride damage).kind = .drawCopy := rfl
    have hsurface : (s.blitCommand b surface bbox width height pixels stride damage).surface = surface :=
      rfl
    rcases ((s.imageNumbered b).ticketed b).accepted_submit
      (s.blitCommand b surface bbox width height pixels stride damage) with
      ⟨hok, haccepted⟩ | ⟨e, he, haccepted⟩
    · simp [copies, haccepted, hok, hsame, Array.countP_push, hkind, hsurface, Except.map,
        Except.toOption]
    · simp [copies, haccepted, he, hsame, Except.map, Except.toOption]

theorem accepted_withdrawSurface (s : Session) (id : SurfaceId) :
    (s.withdrawSurface id).accepted = s.accepted := by
  simp only [withdrawSurface, destroySurface_eq, releaseEach_accepted]
  rfl

theorem accepted_shutdown (s : Session) : s.shutdown.2.accepted = s.accepted := by
  simp [shutdown, releaseAll, drain]

theorem accepted_giveBack (s : Session) (id : ReleaseId) (group : UInt32) :
    (s.giveBack id group).2.accepted = s.accepted := by
  rcases s.giveBack_cases id group with ⟨-, h⟩ | ⟨-, -, h⟩ | ⟨c, -, -, h⟩ <;> rw [h]
  rw [release_accepted]

theorem accepted_attachWorker (s : Session) (name : Nat) :
    (s.attachWorker name).2.accepted = s.accepted := by
  unfold attachWorker
  split <;> rfl

theorem Fetch.accepted {r : Except Fault (Option Dispatched)} (h : Fetch s r t) :
    t.accepted = s.accepted := by
  induction h with
  | stop => rfl
  | draw => rw [handOff_accepted]
  | reject => rw [release_accepted]
  | announce hqueue hring hrecord hrest ih => exact ih

theorem accepted_nextCommand (h : s.ring.WellFormed) : s.nextCommand.2.accepted = s.accepted := by
  unfold nextCommand
  split
  · rfl
  · exact (fetch_spec h _).accepted

end RemoteDisplay.Session
