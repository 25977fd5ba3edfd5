import RemoteDisplay.Proofs.Session.Copies
import RemoteDisplay.Proofs.Session.InFlight

/-!
# A discarded session releases what it still has

The ring and the list of held commands may be thrown away with commands in them, the ring first or the
list first. Each then releases its own commands and leaves those of the other alone. What was released
before is in neither, so in the end every command that the ring ever took was released once, unless a
caller took it off the ring and has it still.
-/

namespace RemoteDisplay

namespace Session

variable {s t : Session} {c : Command}

/-! ## What is thrown away -/

/-- Exactly these commands were released, in this order, since the session ended. -/
structure Sheds (s : Session) (cs : List Command) (r : List Notice × Session) : Prop where
  answer : r.1 = cs.map (·.notice .shutdown)
  notices : r.2.notices.toList = s.notices.toList ++ r.1

theorem sheds_releaseEach (h : t.notices = s.notices) (cs : List Command) :
    s.Sheds cs (t.releaseEach cs .shutdown) where
  answer := rfl
  notices := by
    rw [releaseEach_notices, Array.toList_append, h]
    rfl

/-- Releasing the queued commands one by one comes to releasing all of them. -/
theorem releaseQueued_eq (h : s.ring.WellFormed) {n : Nat} (hn : s.queue.length ≤ n) :
    ∃ ring : Ring Command, ring.WellFormed ∧ ring.toList = [] ∧
      s.releaseQueued n = releaseEach { s with ring } s.queue .shutdown := by
  induction n generalizing s with
  | zero =>
      have hnil : s.queue = [] := List.length_eq_zero_iff.mp (by omega)
      exact ⟨s.ring, h, hnil, by rw [hnil]; rfl⟩
  | succ n ih =>
      cases hq : s.queue with
      | nil =>
          refine ⟨s.ring, h, hq, ?_⟩
          rw [releaseQueued, dequeue_of_nil h hq]
          rfl
      | cons c cs =>
          obtain ⟨ring, hdequeue, hring, hrest, -⟩ := s.dequeue_of_cons h hq
          have hqueue : (release { s with ring } c .shutdown).queue = cs := hrest
          obtain ⟨ring', hring', hnil, heach⟩ := ih (s := release { s with ring } c .shutdown) hring
            (by rw [hqueue]; rw [hq, List.length_cons] at hn; omega)
          refine ⟨ring', hring', hnil, ?_⟩
          rw [releaseQueued, hdequeue]
          simp only [heach, hqueue]
          rfl

theorem discardRing_eq (h : s.ring.WellFormed) :
    ∃ ring : Ring Command, ring.WellFormed ∧ ring.toList = [] ∧
      s.discardRing = releaseEach { s with ring } s.queue .shutdown :=
  releaseQueued_eq h (Nat.le_of_eq h.length_toList)

/-- The ring and the list of held commands each release what is in them, and only that. -/
structure Discards (s : Session) : Prop where
  ring : s.Sheds s.queue s.discardRing
  ringOnly : s.discardRing.2.queue = [] ∧ s.discardRing.2.server = s.server
  held : s.Sheds s.server.held s.discardHeld
  heldOnly : s.discardHeld.2.queue = s.queue ∧ s.discardHeld.2.server = { s.server with held := [] }
  ascending : s.server.held.Pairwise (·.id.raw < ·.id.raw)

theorem Sound.discards (h : s.Sound) : s.Discards := by
  obtain ⟨ring, -, hnil, hdiscard⟩ := s.discardRing_eq h.ring
  have hheld : s.discardHeld =
      Session.releaseEach { s with server.held := [] } s.server.held .shutdown := rfl
  refine ⟨?_, ?_, ?_, ?_, h.held⟩
  · rw [hdiscard]
    exact sheds_releaseEach (s := s) (t := { s with ring }) rfl _
  · rw [hdiscard, queue, releaseEach_ring, releaseEach_server]
    exact ⟨hnil, rfl⟩
  · rw [hheld]
    exact sheds_releaseEach (s := s) (t := { s with server.held := [] }) rfl _
  · rw [hheld, queue, releaseEach_ring, releaseEach_server]
    exact ⟨rfl, rfl⟩

/-! ## No command is lost -/

theorem Sound.discardRing (h : s.Sound) : Transfer s [] s.discardRing.2 [] := by
  obtain ⟨ring, hring, hnil, hdiscard⟩ := s.discardRing_eq h.ring
  have htaken : Transfer s [] { s with ring } s.queue :=
    h.requeue hring (by simp [queue, hnil]) rfl rfl rfl rfl
  rw [hdiscard]
  exact htaken.trans (htaken.sound.releaseEach s.queue .shutdown)

theorem Sound.discardHeld (h : s.Sound) : Transfer s [] s.discardHeld.2 [] := h.releaseAll .shutdown

/-- Both were thrown away, in one order or the other. -/
def Discarded (s t : Session) : Prop :=
  t = s.discardRing.2.discardHeld.2 ∨ t = s.discardHeld.2.discardRing.2

theorem Sound.discarded (h : s.Sound) (ht : s.Discarded t) :
    Transfer s [] t [] ∧ t.queue = [] ∧ t.server.held = [] := by
  rcases ht with rfl | rfl
  · have hring := h.discardRing
    obtain ⟨hqueue, hserver⟩ := hring.sound.discards.heldOnly
    refine ⟨hring.trans hring.sound.discardHeld, ?_, by rw [hserver]⟩
    rw [hqueue]
    exact h.discards.ringOnly.1
  · have hheld := h.discardHeld
    obtain ⟨hqueue, hserver⟩ := hheld.sound.discards.ringOnly
    refine ⟨hheld.trans hheld.sound.discardRing, hqueue, ?_⟩
    rw [hserver, h.discards.heldOnly.2]

/-! ## What the ring ever took -/

/-- What the ring took meanwhile is still queued. -/
def Takes (s t : Session) : Prop := ∀ c ∈ t.accepted, c ∈ s.accepted ∨ c ∈ t.queue

theorem takes_of_accepted (h : t.accepted = s.accepted) : Takes s t := fun _ hc => .inl (h ▸ hc)

theorem takes_submit (h : s.ring.WellFormed) (c : Command) : Takes s (s.submit c).2 := by
  rcases s.submit_cases h c with ⟨-, ring, hs, -, hlist, -⟩ | ⟨-, hs⟩
  · rw [hs]
    intro d hd
    rcases Array.mem_push.mp hd with hd | rfl
    · exact .inl hd
    · refine .inr ?_
      rw [queue, hlist]
      exact List.mem_append_right _ List.mem_cons_self
  · rw [hs]
    exact takes_of_accepted rfl

theorem takes_createSurface (h : s.ring.WellFormed) {width height : UInt32} {backing : Backing}
    {r : Except Fault SurfaceId × Session} (hr : s.createSurface width height backing = .ok r) :
    Takes s r.2 := by
  rcases createSurface_cases hr with ⟨e, rfl⟩ | ⟨record, c, -, -, -, -, -, rfl, hsub⟩
  · exact takes_of_accepted rfl
  · have hsubmit := takes_submit (s := s.numbered) h (announcement ⟨s.surfaces.next⟩ width height record
      ⟨0, ⟨(s.ledger 0).next⟩⟩)
    rcases hsub with ⟨s', hs, rfl⟩ | ⟨e, s', hs, rfl⟩
    · rw [hs] at hsubmit
      exact hsubmit
    · rw [hs] at hsubmit
      exact hsubmit

section Building

variable (b : Nat) (surface : SurfaceId) (colour : UInt32) (x y : Int32) (width height : UInt32)
  (pixels : View) (stride : UInt32) (damage : Damage)

theorem takes_fillRect (h : s.ring.WellFormed) :
    Takes s (s.fillRect b surface colour x y width height).2 := by
  rcases s.fillRect_cases b surface colour x y width height with ⟨e, hp⟩ | ⟨bbox, live, -, -, -, -, hp⟩
  · rw [hp]
    exact takes_of_accepted rfl
  · rw [hp]
    exact takes_submit (s := s.ticketed b) h _

variable {b surface x y width height pixels stride damage} in
theorem takes_paintImage (h : s.ring.WellFormed) {r : Except Fault ImageId × Session}
    (hr : s.paintImage b surface x y width height pixels stride damage = .ok r) : Takes s r.2 := by
  rcases paintImage_cases hr with ⟨e, rfl⟩ | ⟨bbox, live, -, -, -, -, -, -, rfl⟩
  · exact takes_of_accepted rfl
  · have hring : ((s.imageNumbered b).ticketed b).ring = s.ring := by
      rw [imageNumbered_eq]
      rfl
    have haccepted : ((s.imageNumbered b).ticketed b).accepted = s.accepted := by
      rw [imageNumbered_eq]
      rfl
    exact fun c hc => (takes_submit (hring ▸ h) _ c hc).imp_left (haccepted ▸ ·)

theorem takes_buildFill : Takes s (s.buildFill b surface colour x y width height).2 := by
  rcases s.buildFill_cases b surface colour x y width height with ⟨e, hb⟩ | ⟨bbox, -, -, -, hb⟩
  · rw [hb]
    exact takes_of_accepted rfl
  · rw [hb]
    exact takes_of_accepted rfl

variable {b surface x y width height pixels stride damage} in
theorem takes_buildBlit {r : Except Fault Command × Session}
    (hr : s.buildBlit b surface x y width height pixels stride damage = .ok r) : Takes s r.2 := by
  rcases buildBlit_cases hr with ⟨e, rfl⟩ | ⟨bbox, -, -, -, -, rfl⟩
  · exact takes_of_accepted rfl
  · rw [imageNumbered_eq]
    exact takes_of_accepted rfl

end Building

end Session

/-! ## Runs -/

namespace Holding

/-- Every ticket is in one of the places as often as it was given out, and what the ring took has one. -/
structure Kept (w : Holding) : Prop where
  places : List.Perm (w.hand.map (·.ticket) ++ w.session.tickets) w.built
  accepted : ∀ c ∈ w.session.accepted, c.ticket ∈ w.built

variable {w w' : Holding} {turn : Turn}

theorem Standing.perform_takes (h : w.Standing) {op : Operation} (hw : w.perform op = .ok w') :
    Session.Takes w.session w'.session := by
  have hring := h.sound.ring
  cases op with
  | createSurface width height backing =>
      obtain ⟨r, hr, hnext⟩ := Trap.bind_eq_ok.mp hw
      cases hnext
      exact Session.takes_createSurface hring hr
  | paintImage b surface x y width height pixels stride damage =>
      obtain ⟨r, hr, hnext⟩ := Trap.bind_eq_ok.mp hw
      cases hnext
      exact Session.takes_paintImage hring hr
  | fillRect b surface colour x y width height =>
      cases hw
      exact Session.takes_fillRect b surface colour x y width height hring
  | buildBlit b surface x y width height pixels stride damage =>
      obtain ⟨⟨answer, s⟩, hr, htaken⟩ := Trap.bind_eq_ok.mp hw
      cases htaken
      have htakes := Session.takes_buildBlit hr
      cases answer <;> exact htakes
  | buildFill b surface colour x y width height =>
      cases hw
      have htakes := Session.takes_buildFill (s := w.session) b surface colour x y width height
      rcases hb : w.session.buildFill b surface colour x y width height with ⟨_ | c, s⟩ <;>
        · rw [hb] at htakes
          exact htakes
  | submit i =>
      simp only [Holding.perform] at hw
      split at hw
      · rename_i c hc
        cases hw
        exact Session.takes_submit hring c
      · cases hw
        exact Session.takes_of_accepted rfl
  | release i reason =>
      simp only [Holding.perform] at hw
      split at hw <;> cases hw <;> exact Session.takes_of_accepted rfl
  | drainSurface surface | render store =>
      cases hw
      exact Session.takes_of_accepted rfl
  | attachWorker name =>
      cases hw
      exact Session.takes_of_accepted (w.session.accepted_attachWorker name)
  | getCommand =>
      cases hw
      exact Session.takes_of_accepted (Session.accepted_nextCommand hring)
  | giveBack id group =>
      cases hw
      exact Session.takes_of_accepted (w.session.accepted_giveBack id group)
  | shutdown =>
      cases hw
      exact Session.takes_of_accepted w.session.accepted_shutdown

theorem Standing.takes (h : w.Standing) (hw : w.advance turn = .ok w') :
    Session.Takes w.session w'.session := by
  cases turn with
  | operation op => exact h.perform_takes hw
  | destroySurface id =>
      cases hw
      rw [Session.destroySurface_eq]
      exact Session.takes_of_accepted rfl
  | tell c =>
      cases hw
      exact Session.takes_of_accepted (Session.callAttached_accepted c)
  | _ =>
      cases hw
      exact Session.takes_of_accepted rfl

theorem Kept.advance (h : w.Kept) (hw : w.Standing) (hturn : w.advance turn = .ok w') : w'.Kept := by
  have hchange := hw.advance hturn
  obtain ⟨issued, hbuilt⟩ := hchange.built
  refine ⟨hchange.places h.places, fun c hc => ?_⟩
  rcases hw.takes hturn c hc with hold | hqueued
  · rw [hbuilt]
    exact List.mem_append_left _ (h.accepted c hold)
  · exact (hchange.standing hw).known _ (List.mem_append_right _ (Logged.mem_tickets_of_queue hqueued))

/-- When the session is thrown away, what its callers do not have is released. -/
theorem Kept.discarded (h : w.Kept) (hw : w.Standing) {t : Session} (ht : w.session.Discarded t) :
    t.queue = [] ∧ t.server.held = [] ∧ List.Perm (w.hand.map (·.ticket) ++ t.released) w.built := by
  obtain ⟨htransfer, hqueue, hheld⟩ := hw.sound.discarded ht
  have hplaces : List.Perm (w.hand.map (·.ticket) ++ t.tickets) w.built :=
    (places_perm htransfer.tickets (.refl _)).trans h.places
  rw [Session.tickets, hqueue, hheld] at hplaces
  exact ⟨hqueue, hheld, hplaces⟩

end Holding

theorem Session.Fresh.kept {s : Session} (h : s.Fresh) (hnone : s.accepted = #[]) :
    Holding.Kept { session := s } where
  places := h.conserved.places
  accepted c hc := by
    rw [hnone] at hc
    exact absurd hc (Array.not_mem_empty c)

/-- However a session was used, its ring releases what is queued when it is thrown away, in order, and
the list of held commands releases what is in it, by release id, each as the session ended and each
whether or not the other went before. Then nothing is queued or held any more, and every ticket given
out was released as often as it was given out, but for those that callers have. So each command that the
ring ever took was released once, over the whole life of the session, or a caller has it. -/
theorem Session.Fresh.released_when_discarded {s : Session} (h : s.Fresh) (hnone : s.accepted = #[])
    {turns : List Holding.Turn} {w : Logged} (hrun : Logged.run { session := s } turns = .ok w) :
    w.session.Discards ∧ w.session.discardRing.2.Discards ∧ w.session.discardHeld.2.Discards ∧
    ∀ t, w.session.Discarded t →
      t.queue = [] ∧ t.server.held = [] ∧
      List.Perm (w.hand.map (·.ticket) ++ t.released) w.built ∧
      (∀ c ∈ w.session.accepted, c.ticket ∈ w.built) ∧
      (w.built.length < 2 ^ 64 → ∀ c ∈ w.session.accepted,
        t.released.count c.ticket = if c.ticket ∈ w.hand.map (·.ticket) then 0 else 1) := by
  have hexact := h.exact.run hrun
  have hkept := h.exact.run_induction (fun h hw hturn => h.advance hw hturn) (h.kept hnone) hrun
  have hsound := hexact.standing.sound
  refine ⟨hsound.discards, hsound.discardRing.sound.discards, hsound.discardHeld.sound.discards,
    fun t ht => ?_⟩
  obtain ⟨hqueue, hheld, hplaces⟩ := hkept.discarded hexact.standing ht
  refine ⟨hqueue, hheld, hplaces, hkept.accepted, fun hfew c hc => ?_⟩
  have hcount := hplaces.count_eq c.ticket
  rw [(hexact.conserved hfew).distinct.count, if_pos (hkept.accepted c hc), List.count_append] at hcount
  split
  · rename_i hhand
    have hpos := List.count_pos_iff.mpr hhand
    omega
  · rename_i hhand
    have hzero := List.count_eq_zero.mpr hhand
    omega

/-- The ring with two places refused one fill, the worker heard of the surface, the server took two
fills and gave one back. One is still queued, and one was never queued. -/
theorem released_when_discarded_in_between :
    ∃ s : Session, s.Fresh ∧ s.accepted = #[] ∧ ∃ w : Logged, Logged.run { session := s }
        [.operation (.attachWorker 5), .operation (.createSurface 4 4 ⟨4, 4, 64⟩),
          .operation (.fillRect 0 ⟨0⟩ 7 0 0 4 4), .operation (.fillRect 0 ⟨0⟩ 8 0 0 4 4),
          .operation .getCommand, .operation (.fillRect 0 ⟨0⟩ 9 0 0 4 4),
          .operation (.fillRect 0 ⟨0⟩ 10 0 0 4 4), .operation .getCommand,
          .operation (.giveBack ⟨2⟩ 0), .operation (.buildFill 0 ⟨0⟩ 11 0 0 4 4)] = .ok w ∧
      w.session.released.map (·.id.raw) = [3, 1, 2] ∧
      w.session.discardRing.1.map (fun n => (n.id.raw, n.reason)) = [(5, .shutdown)] ∧
      w.session.discardHeld.1.map (fun n => (n.id.raw, n.reason)) = [(4, .shutdown)] ∧
      w.session.accepted.toList.map (·.id.raw) = [1, 2, 4, 5] ∧
      ∀ t, w.session.Discarded t → ∀ c ∈ w.session.accepted, t.released.count c.ticket = 1 := by
  have hfresh : (Session.ofRing (.ofCapacity 2 0) 0 2 [0]).Fresh :=
    Session.fresh_ofRing (Ring.wellFormed_ofCapacity 2 0) (Ring.toList_ofCapacity 2 0) 0 2 (by simp)
  let turns : List Holding.Turn :=
    [.operation (.attachWorker 5), .operation (.createSurface 4 4 ⟨4, 4, 64⟩),
      .operation (.fillRect 0 ⟨0⟩ 7 0 0 4 4), .operation (.fillRect 0 ⟨0⟩ 8 0 0 4 4),
      .operation .getCommand, .operation (.fillRect 0 ⟨0⟩ 9 0 0 4 4),
      .operation (.fillRect 0 ⟨0⟩ 10 0 0 4 4), .operation .getCommand,
      .operation (.giveBack ⟨2⟩ 0), .operation (.buildFill 0 ⟨0⟩ 11 0 0 4 4)]
  have hreleases : (Logged.run { session := .ofRing (.ofCapacity 2 0) 0 2 [0] } turns).toOption.map
        (fun w => (w.session.released.map (·.id.raw),
          w.session.discardRing.1.map (fun n => (n.id.raw, n.reason)),
          w.session.discardHeld.1.map (fun n => (n.id.raw, n.reason)))) =
      some ([3, 1, 2], [(5, .shutdown)], [(4, .shutdown)]) := by
    decide +kernel
  have hissued : (Logged.run { session := .ofRing (.ofCapacity 2 0) 0 2 [0] } turns).toOption.map
        (fun w => (w.session.accepted.toList.map (·.id.raw), w.built.length, w.hand.map (·.id.raw))) =
      some ([1, 2, 4, 5], 6, [6]) := by
    decide +kernel
  cases hrun : Logged.run { session := .ofRing (.ofCapacity 2 0) 0 2 [0] } turns with
  | error fault =>
      rw [hrun] at hissued
      cases hissued
  | ok w =>
      rw [hrun] at hreleases hissued
      simp only [Except.toOption, Option.map_some, Option.some.injEq, Prod.mk.injEq] at hreleases hissued
      obtain ⟨hreleased, hring, hheld⟩ := hreleases
      obtain ⟨haccepted, hbuilt, hhand⟩ := hissued
      refine ⟨_, hfresh, rfl, w, hrun, hreleased, hring, hheld, haccepted, fun t ht c hc => ?_⟩
      obtain ⟨-, -, -, -, hcount⟩ := (hfresh.released_when_discarded rfl hrun).2.2.2 t ht
      rw [hcount (by omega) c hc, if_neg]
      -- The command in the callers' hand has an id that no accepted one has.
      intro hmem
      obtain ⟨d, hd, hticket⟩ := List.mem_map.mp hmem
      have hdraw : d.id.raw ∈ w.hand.map (·.id.raw) := List.mem_map_of_mem hd
      have hcraw : c.id.raw ∈ w.session.accepted.toList.map (·.id.raw) :=
        List.mem_map_of_mem (Array.mem_toList_iff.mpr hc)
      have hsame : d.id = c.id := congrArg Ticket.id hticket
      rw [hhand, List.mem_singleton, hsame] at hdraw
      rw [haccepted, hdraw] at hcraw
      revert hcraw
      decide

end RemoteDisplay
