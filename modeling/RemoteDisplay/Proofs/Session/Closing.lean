import RemoteDisplay.Proofs.Session.Moves

/-!
# A closed session stays closed

`Use` is everything that can be done to the parts of a session, by whoever holds them. A shutdown
reports what was queued and then what the server held, and after it no use of the session reaches the
server or its worker any more.
-/

namespace RemoteDisplay.Session

open Relation (ReflTransGen)

/-- One use of a session or of one of its parts, with any arguments. -/
inductive Use : Session → Session → Prop where
  | createSurface {s : Session} {width height : UInt32} {backing : Backing}
      {r : Except Fault SurfaceId × Session} (h : s.createSurface width height backing = .ok r) :
      Use s r.2
  | destroySurface (s : Session) (id : SurfaceId) : Use s (s.destroySurface id).2
  | buildFill (s : Session) (b : Nat) (surface : SurfaceId) (colour : UInt32) (x y : Int32)
      (width height : UInt32) : Use s (s.buildFill b surface colour x y width height).2
  | buildBlit {s : Session} {b : Nat} {surface : SurfaceId} {x y : Int32} {width height : UInt32}
      {pixels : View} {stride : UInt32} {damage : Damage} {r : Except Fault Command × Session}
      (h : s.buildBlit b surface x y width height pixels stride damage = .ok r) : Use s r.2
  | fillRect (s : Session) (b : Nat) (surface : SurfaceId) (colour : UInt32) (x y : Int32)
      (width height : UInt32) : Use s (s.fillRect b surface colour x y width height).2
  | paintImage {s : Session} {b : Nat} {surface : SurfaceId} {x y : Int32} {width height : UInt32}
      {pixels : View} {stride : UInt32} {damage : Damage} {r : Except Fault ImageId × Session}
      (h : s.paintImage b surface x y width height pixels stride damage = .ok r) : Use s r.2
  | submit (s : Session) (c : Command) : Use s (s.submit c).2
  | enqueue {s t : Session} {c : Command} (h : s.enqueue? c = some t) : Use s t
  | tryEnqueue {s t : Session} {c : Command} (h : s.tryEnqueue? c = some t) : Use s t
  | dequeue (s : Session) : Use s s.dequeue.2
  | drain (s : Session) : Use s s.drain.2
  | drainSurface (s : Session) (id : SurfaceId) : Use s (s.drainSurface id).2
  | release (s : Session) (c : Command) (reason : ReleaseReason) : Use s (s.release c reason)
  | releaseAll (s : Session) (reason : ReleaseReason) : Use s (s.releaseAll reason).2
  | nextCommand (s : Session) : Use s s.nextCommand.2
  | giveBack (s : Session) (id : ReleaseId) (group : UInt32) : Use s (s.giveBack id group).2
  | shutdown (s : Session) : Use s s.shutdown.2
  | attachWorker (s : Session) (name : Nat) : Use s (s.attachWorker name).2
  /-- The worker is told to start, to stop or to wake up. -/
  | tell (s : Session) {c : WorkerCall} (h : c.delivery? = none) : Use s (s.callAttached c)
  /-- A release id is taken for a command that is never made. -/
  | issue (s : Session) (ledger : Nat) : Use s (s.issue ledger).2
  | setClock (s : Session) (time : UInt32) : Use s (s.setClock time)
  | setCompression (s : Session) (level : Int32) : Use s (s.setCompression level)
  /-- Pixel memory changes in any way. -/
  | render (s : Session) (store : PixelStore) : Use s { s with store }

abbrev Uses : Session → Session → Prop := ReflTransGen Use

variable {s t : Session}

/-! ## Soundness -/

theorem createSurface_server {width height : UInt32} {backing : Backing}
    {r : Except Fault SurfaceId × Session} (hr : s.createSurface width height backing = .ok r) :
    r.2.server = s.server := by
  rcases createSurface_cases hr with ⟨e, rfl⟩ | ⟨record, c, -, -, -, -, -, rfl, hsub⟩
  · rfl
  · have hserver := (s.numbered.submit_surroundings
      (announcement ⟨s.surfaces.next⟩ width height record ⟨0, ⟨(s.ledger 0).next⟩⟩)).2.2
    rcases hsub with ⟨s', hs, rfl⟩ | ⟨e, s', hs, rfl⟩ <;>
      · rw [hs] at hserver
        exact hserver

theorem tryEnqueue?_eq (s : Session) (c : Command) : s.tryEnqueue? c = s.enqueue? c := by
  rw [tryEnqueue?, enqueue?, Ring.enqueue_eq_push?]

/-- The parts of the session agree, and no ledger came or went. -/
structure Steady (s t : Session) : Prop where
  sound : t.Sound
  size : t.ledgers.size = s.ledgers.size
  builders : ∀ b, (t.builder b).ledger = (s.builder b).ledger

theorem Steady.trans {u : Session} (h : Steady s t) (h' : Steady t u) : Steady s u :=
  ⟨h'.sound, h'.size.trans h.size, fun b => (h'.builders b).trans (h.builders b)⟩

theorem Transfer.steady {as bs : List Command} (h : Transfer s as t bs) : Steady s t :=
  ⟨h.sound, h.size, h.builders⟩

theorem Issued.steady {i : Nat} (h : Issued s i t) : Steady s t := ⟨h.sound, h.size, h.builders⟩

theorem Sound.steady_of_eq (h : s.Sound) (hring : t.ring = s.ring)
    (hheld : t.server.held = s.server.held) (hnotices : t.notices = s.notices)
    (hledgers : t.ledgers = s.ledgers) (hbuilders : t.builders = s.builders) : Steady s t :=
  (Transfer.of_eq h hring hheld hnotices hledgers fun i => by rw [builder, builder, hbuilders]).steady

theorem Sound.enqueue (h : s.Sound) {c : Command} (ht : s.enqueue? c = some t) : Steady s t := by
  rcases s.enqueue?_cases h.ring c with ⟨-, ring, he, hwf, hlist, -⟩ | ⟨-, he⟩
  · rw [he] at ht
    cases ht
    exact ⟨⟨hwf, h.held, h.counted⟩, rfl, fun _ => rfl⟩
  · rw [he] at ht
    cases ht

theorem Use.steady (hu : Use s t) (h : s.Sound) : Steady s t := by
  cases hu with
  | @createSurface width height backing r hr =>
      rcases createSurface_cases hr with ⟨e, rfl⟩ | ⟨record, c, -, -, -, -, -, rfl, hsub⟩
      · exact h.steady_of_eq rfl rfl rfl rfl rfl
      · have hsubmit := h.numbered.steady.trans (h.numbered.sound.submit
          (announcement ⟨s.surfaces.next⟩ width height record ⟨0, ⟨(s.ledger 0).next⟩⟩)).steady
        rcases hsub with ⟨s', hs, rfl⟩ | ⟨e, s', hs, rfl⟩
        · rw [hs] at hsubmit
          exact hsubmit.trans (hsubmit.sound.steady_of_eq rfl rfl rfl rfl rfl)
        · rw [hs] at hsubmit
          exact hsubmit
  | destroySurface id =>
      rw [destroySurface_eq]
      exact h.steady_of_eq rfl rfl rfl rfl rfl
  | buildFill b surface colour x y width height =>
      rcases s.buildFill_cases b surface colour x y width height with ⟨e, hb⟩ | ⟨bbox, -, -, -, hb⟩
      · rw [hb]
        exact h.steady_of_eq rfl rfl rfl rfl rfl
      · rw [hb]
        exact (h.ticketed b).steady
  | @buildBlit b surface x y width height pixels stride damage r hr =>
      rcases buildBlit_cases hr with ⟨e, rfl⟩ | ⟨bbox, -, -, -, -, rfl⟩
      · exact h.steady_of_eq rfl rfl rfl rfl rfl
      · exact (h.imageTicketed b).steady
  | fillRect b surface colour x y width height =>
      rcases s.fillRect_cases b surface colour x y width height with ⟨e, hf⟩ | ⟨bbox, live, -, -, -, -, hf⟩
      · rw [hf]
        exact h.steady_of_eq rfl rfl rfl rfl rfl
      · rw [hf]
        exact (h.ticketed b).steady.trans ((h.ticketed b).sound.submit _).steady
  | @paintImage b surface x y width height pixels stride damage r hr =>
      rcases paintImage_cases hr with ⟨e, rfl⟩ | ⟨bbox, live, -, -, -, -, -, -, rfl⟩
      · exact h.steady_of_eq rfl rfl rfl rfl rfl
      · exact (h.imageTicketed b).steady.trans ((h.imageTicketed b).sound.submit _).steady
  | submit c => exact (h.submit c).steady
  | enqueue ht => exact h.enqueue ht
  | tryEnqueue ht => exact h.enqueue ((s.tryEnqueue?_eq _).symm.trans ht)
  | dequeue =>
      cases hqueue : s.queue with
      | nil =>
          rw [dequeue_of_nil h.ring hqueue]
          exact h.steady_of_eq rfl rfl rfl rfl rfl
      | cons c cs =>
          obtain ⟨t, ht, htransfer⟩ := h.dequeue_of_cons hqueue
          rw [ht]
          exact htransfer.steady
  | drain => exact h.drain.steady
  | drainSurface id => exact (h.drainSurface id).steady
  | release c reason => exact (h.release c reason).steady
  | releaseAll reason => exact (h.releaseAll reason).steady
  | nextCommand => exact h.nextCommand.steady
  | giveBack id group => exact (h.giveBack id group).steady
  | shutdown => exact h.shutdown.steady
  | attachWorker name =>
      have haside := s.aside_attachWorker name
      exact (haside.transfer h).steady
  | tell hc => exact ((s.aside_callAttached hc).transfer h).steady
  | issue ledger => exact (h.issue ledger).steady
  | setClock | setCompression | render => exact h.steady_of_eq rfl rfl rfl rfl rfl

theorem Uses.steady (hu : Uses s t) (h : s.Sound) : Steady s t := by
  induction hu with
  | refl => exact h.steady_of_eq rfl rfl rfl rfl rfl
  | tail _ huse ih => exact ih.trans (huse.steady ih.sound)

theorem Uses.sound (hu : Uses s t) (h : s.Sound) : t.Sound := (Uses.steady hu h).sound

/-! ## Silence -/

/-- The session is closed and the server holds nothing. It took `dispatched` drawables in all, and its
worker was told of `announced`. -/
structure Over (dispatched : UInt64) (announced : List Delivery) (s : Session) : Prop where
  closed : s.server.closed = true
  held : s.server.held = []
  dispatched : s.server.dispatched = dispatched
  announced : s.announced = announced

section Over

variable {dispatched : UInt64} {announced : List Delivery}

theorem Over.keep (h : Over dispatched announced s) (hserver : t.server = s.server)
    (hannounced : t.announced = s.announced) : Over dispatched announced t :=
  ⟨hserver ▸ h.closed, hserver ▸ h.held, hserver ▸ h.dispatched, hannounced ▸ h.announced⟩

theorem Over.nextCommand (h : Over dispatched announced s) : s.nextCommand = (.ok none, s) := by
  simp [Session.nextCommand, h.closed]

theorem Over.giveBack (h : Over dispatched announced s) (id : ReleaseId) (group : UInt32) :
    ∃ e, s.giveBack id group = (.error e, s) := by
  have hnone : s.heldCommand? id = none := by simp [heldCommand?, h.held]
  simp only [Session.giveBack, hnone]
  split <;> exact ⟨_, rfl⟩

theorem Over.use (h : Over dispatched announced s) (hring : s.ring.WellFormed) (hu : Use s t) :
    Over dispatched announced t := by
  -- The ring may fill again. What takes from it for the server is closed, and nothing else reaches it.
  cases hu with
  | createSurface hr => exact h.keep (createSurface_server hr) (announced_of_calls (createSurface_calls hr))
  | destroySurface id =>
      rw [destroySurface_eq]
      exact h.keep rfl rfl
  | buildFill b surface colour x y width height =>
      rcases s.buildFill_cases b surface colour x y width height with ⟨e, hb⟩ | ⟨bbox, -, -, -, hb⟩
      · rw [hb]
        exact h
      · rw [hb]
        exact h.keep rfl rfl
  | @buildBlit b surface x y width height pixels stride damage r hr =>
      rcases buildBlit_cases hr with ⟨e, rfl⟩ | ⟨bbox, -, -, -, -, rfl⟩
      · exact h.keep rfl rfl
      · rw [imageNumbered_eq]
        exact h.keep rfl rfl
  | fillRect b surface colour x y width height =>
      exact h.keep (s.fillRect_surroundings b surface colour x y width height).2
        (announced_of_calls (s.fillRect_calls b surface colour x y width height))
  | @paintImage b surface x y width height pixels stride damage r hr =>
      exact h.keep (paintImage_surroundings hr).2 (announced_of_calls (paintImage_calls hr))
  | submit c => exact h.keep (s.submit_surroundings c).2.2 (announced_of_calls (s.submit_calls c))
  | enqueue ht =>
      obtain ⟨ring, -, rfl⟩ := Option.map_eq_some_iff.mp ht
      exact h.keep rfl rfl
  | tryEnqueue ht =>
      obtain ⟨ring, -, rfl⟩ := Option.map_eq_some_iff.mp ht
      exact h.keep rfl rfl
  | dequeue | drain | drainSurface | release | issue | setClock | render => exact h.keep rfl rfl
  | releaseAll reason =>
      have hnone : (s.releaseAll reason).2 = s := by
        simp only [Session.releaseAll, releaseEach, h.held, List.foldl_nil]
        rw [← h.held]
      rw [hnone]
      exact h
  | nextCommand =>
      rw [h.nextCommand]
      exact h
  | giveBack id group =>
      obtain ⟨e, he⟩ := h.giveBack id group
      rw [he]
      exact h
  | shutdown =>
      obtain ⟨-, -, -, hserver, -, hcalls, -⟩ := shutdown_spec hring
      refine ⟨by rw [hserver], by rw [hserver], by rw [hserver]; exact h.dispatched, ?_⟩
      rw [announced_of_calls hcalls, announced_callAttached rfl]
      exact h.announced
  | attachWorker name =>
      have hannounced := (s.aside_attachWorker name).announced
      revert hannounced
      unfold Session.attachWorker
      split
      · exact fun _ => h
      · exact fun hannounced => ⟨h.closed, h.held, h.dispatched, hannounced.trans h.announced⟩
  | tell hc => exact h.keep (callAttached_server _) (announced_callAttached hc)
  | setCompression level => exact ⟨h.closed, h.held, h.dispatched, h.announced⟩

theorem Over.uses (h : Over dispatched announced s) (hsound : s.Sound) (hu : Uses s t) :
    Over dispatched announced t := by
  induction hu with
  | refl => exact h
  | tail hpast huse ih => exact ih.use (Uses.sound hpast hsound).ring huse

end Over

/-! ## Shutdown -/

/-- What a shutdown of `s` reports and leaves, now and after any use of the session. -/
structure Shutdown (s : Session) : Prop where
  answer : s.shutdown.1 = (s.queue ++ s.server.held).map (·.notice .shutdown)
  order : s.server.held.Pairwise (·.id.raw < ·.id.raw)
  queue : s.shutdown.2.queue = []
  held : s.shutdown.2.server.held = []
  silent : ∀ t, Uses s.shutdown.2 t → t.nextCommand = (.ok none, t) ∧
    t.server.dispatched = s.server.dispatched ∧ t.announced = s.announced ∧ t.server.held = [] ∧
    ∀ id group, ∃ e, t.giveBack id group = (.error e, t)

theorem Sound.shuts (h : s.Sound) : s.Shutdown := by
  obtain ⟨hanswer, -, hnil, hserver, -, hcalls, -⟩ := shutdown_spec h.ring
  have hannounced : s.shutdown.2.announced = s.announced :=
    (announced_of_calls hcalls).trans (announced_callAttached rfl)
  have hover : Over s.server.dispatched s.announced s.shutdown.2 :=
    ⟨by rw [hserver], by rw [hserver], by rw [hserver], hannounced⟩
  refine ⟨hanswer, h.held, hnil, hover.held, fun t ht => ?_⟩
  have hlater := hover.uses h.shutdown.sound ht
  exact ⟨hlater.nextCommand, hlater.dispatched, hlater.announced, hlater.held, hlater.giveBack⟩

end RemoteDisplay.Session
