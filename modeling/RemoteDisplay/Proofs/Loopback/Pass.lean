import RemoteDisplay.Proofs.Session.Boxes
import RemoteDisplay.Proofs.Session.Passing

/-!
# One command after the other leaves the queue

A server that gives every drawable back at once takes the queue apart from the front. A surface is
announced to the worker, a drawable is taken and given back, and nothing else happens: what the server
held before, it still holds.
-/

namespace RemoteDisplay

/-! ## The held commands -/

section Held

variable {c : Command} {held : List Command}

theorem insertHeld_of_new (h : ∀ d ∈ held, d.id ≠ c.id) : (insertHeld c held).1 = none := by
  induction held with
  | nil => rfl
  | cons d held ih =>
      obtain ⟨hd, hheld⟩ := List.forall_mem_cons.mp h
      simp only [insertHeld]
      split
      · rfl
      · rw [if_neg (Ne.symm hd)]
        exact ih hheld

/-- A new command leaves no trace when it is taken out again. -/
theorem filter_insertHeld (h : ∀ d ∈ held, d.id ≠ c.id) :
    (insertHeld c held).2.filter (·.id ≠ c.id) = held := by
  induction held with
  | nil => simp [insertHeld]
  | cons d held ih =>
      have hkeep : (d :: held).filter (·.id ≠ c.id) = d :: held :=
        List.filter_eq_self.mpr fun e he => decide_eq_true (h e he)
      obtain ⟨hd, hheld⟩ := List.forall_mem_cons.mp h
      simp only [insertHeld]
      split
      · rw [List.filter_cons_of_neg (by simp), hkeep]
      · rw [if_neg (Ne.symm hd)]
        simp only
        rw [List.filter_cons_of_pos (by simpa using hd), ih hheld]

end Held

/-! ## Taking and giving back -/

namespace Session

variable {s t u : Session} {c : Command} {cs front rest : List Command}

/-- A drawable that is taken and given back at once leaves the server with what it held. -/
theorem giveBack_handOff (hqueue : u.queue = c :: rest) {ring : Ring Command} (hring : ring.WellFormed)
    (hlist : ring.toList = rest) (hc : c.record? = none) (hnew : ∀ d ∈ u.server.held, d.id ≠ c.id) :
    ∃ t, (handOff { u with ring } c).giveBack c.id Wire.memorySlotGroup =
      (.ok (c.notice .server), t) ∧ u.Passed [c] t := by
  rcases (handOff { u with ring } c).giveBack_cases c.id Wire.memorySlotGroup with
    ⟨hgroup, -⟩ | ⟨-, hnone, -⟩ | ⟨d, -, hheld, hback⟩
  · exact absurd rfl hgroup
  · rw [heldCommand?_handOff] at hnone
    cases hnone
  · obtain rfl : c = d := Option.some.inj ((heldCommand?_handOff c).symm.trans hheld)
    refine ⟨_, hback, ?_, ?_, ?_, ?_, ?_⟩
    · rw [hqueue, ← hlist]
      simp [queue]
    · simpa using hring
    · rw [release_server, handOff_server, filter_insertHeld hnew, drawn_singleton hc]
      rfl
    · simp [handOff_notices, insertHeld_of_new hnew, Command.leaving, hc]
    · simp [Command.announced?, hc]

/-! ## What the server gets -/

/-- The session is open and has a worker, and every drawable on the ring has a place and a release id
of its own. -/
structure Ready (s : Session) : Prop where
  ring : s.ring.WellFormed
  opened : s.server.closed = false
  worker : s.server.worker.isSome
  new : ∀ c ∈ s.queue, ∀ d ∈ s.server.held, d.id ≠ c.id
  boxed : ∀ c ∈ s.queue, c.Boxed

theorem Ready.passed (h : s.Ready) (hp : s.Passed cs t) : t.Ready := by
  have hqueue : ∀ c ∈ t.queue, c ∈ s.queue := by
    intro c hc
    rw [hp.queue]
    exact List.mem_append_right cs hc
  refine ⟨hp.ring, ?_, ?_, fun c hc => ?_, fun c hc => h.boxed c (hqueue c hc)⟩
  · rw [hp.server]
    exact h.opened
  · rw [hp.server]
    exact h.worker
  · rw [hp.held]
    exact h.new c (hqueue c hc)

theorem Ready.nextCommand_of_announcements (h : s.Ready) (hall : ∀ c ∈ s.queue, c.record? ≠ none) :
    ∃ t, s.nextCommand = (.ok none, t) ∧ s.Passed s.queue t := by
  obtain ⟨t, hpassed, hrest, hfetch⟩ :=
    exists_passed h.ring (List.append_nil s.queue).symm hall (.inr h.worker)
  refine ⟨t, ?_, hpassed⟩
  rw [nextCommand, h.opened, if_neg Bool.false_ne_true, ← h.ring.length_toList]
  exact hfetch 0

theorem Ready.nextCommand_of_drawable (h : s.Ready) (hqueue : s.queue = front ++ c :: rest)
    (hfront : ∀ d ∈ front, d.record? ≠ none) (hc : c.record? = none) :
    ∃ u t, s.nextCommand = (.ok (some c.dispatched), u) ∧
      u.giveBack c.id Wire.memorySlotGroup = (.ok (c.notice .server), t) ∧
      s.Passed (front ++ [c]) t := by
  have hlength : front.length < s.ring.length := by
    rw [← h.ring.length_toList, show s.ring.toList = _ from hqueue]
    simp
  obtain ⟨u, ring, hu, hrest, hwf, hlist, hfetch⟩ :=
    fetch_past h.ring hqueue hfront (.inr h.worker) hc hlength
  have hmem : c ∈ s.queue := by
    rw [hqueue]
    exact List.mem_append_right front List.mem_cons_self
  obtain ⟨t, hback, ht⟩ := giveBack_handOff hrest hwf hlist hc (hu.held ▸ h.new c hmem)
  refine ⟨_, t, ?_, hback, hu.trans ht⟩
  rw [nextCommand, h.opened, if_neg Bool.false_ne_true, hfetch]

end Session

end RemoteDisplay
