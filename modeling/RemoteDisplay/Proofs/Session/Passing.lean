import RemoteDisplay.Proofs.Session.Effects

/-!
# Commands at the front of the queue

A fetch takes the queue apart from the front. Announcements go to the worker, up to the first drawable,
and nothing else happens to the session.
-/

namespace RemoteDisplay

/-- The drawables among some commands. -/
def drawn (cs : List Command) : List Command := cs.filter (·.record?.isNone)

@[simp] theorem drawn_append (cs ds : List Command) : drawn (cs ++ ds) = drawn cs ++ drawn ds :=
  List.filter_append cs ds

theorem drawn_eq_nil {cs : List Command} (h : ∀ c ∈ cs, c.record? ≠ none) : drawn cs = [] := by
  rw [drawn, List.filter_eq_nil_iff]
  intro c hc
  simpa using h c hc

theorem drawn_singleton {c : Command} (h : c.record? = none) : drawn [c] = [c] := by
  simp [drawn, h]

/-- A list of commands is all announcements, or it has a first drawable. -/
theorem drawn_cases (cs : List Command) : (∀ c ∈ cs, c.record? ≠ none) ∨
    ∃ passed c rest, cs = passed ++ c :: rest ∧ (∀ d ∈ passed, d.record? ≠ none) ∧ c.record? = none := by
  induction cs with
  | nil => exact .inl (by simp)
  | cons c cs ih =>
      by_cases hc : c.record? = none
      · exact .inr ⟨[], c, cs, rfl, by simp, hc⟩
      · rcases ih with hall | ⟨passed, d, rest, rfl, hpassed, hd⟩
        · exact .inl (List.forall_mem_cons.mpr ⟨hc, hall⟩)
        · exact .inr ⟨c :: passed, d, rest, rfl, List.forall_mem_cons.mpr ⟨hc, hpassed⟩, hd⟩

namespace Command

/-- What the worker is told of an announced surface. -/
def announced? (c : Command) : Option (SurfaceId × Wire.SurfaceRecord) :=
  c.record?.map (c.surface, ·)

/-- The notice of a served command. -/
def leaving (c : Command) : Notice := c.notice (if c.record?.isNone then .server else .delivered)

end Command

/-! ## Passing -/

namespace Session

/-- The commands left the front of the queue and were served. -/
structure Passed (s : Session) (cs : List Command) (t : Session) : Prop where
  queue : s.queue = cs ++ t.queue
  ring : t.ring.WellFormed
  server : t.server = { s.server with
    dispatched := s.server.dispatched + UInt64.ofNat (drawn cs).length }
  notices : t.notices = s.notices ++ (cs.map (·.leaving)).toArray
  calls : t.calls = s.calls ++
    ((cs.filterMap (·.announced?)).map fun a => WorkerCall.createSurface a.1 a.2).toArray

variable {s t u : Session} {c : Command} {cs ds front rest : List Command}

theorem Passed.refl (h : s.ring.WellFormed) : s.Passed [] s where
  queue := rfl
  ring := h
  server := by simp [drawn]
  notices := by simp
  calls := by simp

theorem Passed.trans (h : s.Passed cs t) (h' : t.Passed ds u) : s.Passed (cs ++ ds) u where
  queue := by rw [h.queue, h'.queue, List.append_assoc]
  ring := h'.ring
  server := by
    rw [h'.server, h.server, drawn_append, List.length_append, UInt64.ofNat_add, UInt64.add_assoc]
  notices := by
    rw [h'.notices, h.notices]
    simp
  calls := by
    rw [h'.calls, h.calls]
    simp

theorem Passed.held (h : s.Passed cs t) : t.server.held = s.server.held := by rw [h.server]

/-- Announcements at the front of the queue go to the worker. -/
theorem exists_passed (h : s.ring.WellFormed) (hqueue : s.queue = front ++ rest)
    (hfront : ∀ d ∈ front, d.record? ≠ none) (hworker : front = [] ∨ s.server.worker.isSome) :
    ∃ u, s.Passed front u ∧ u.queue = rest ∧ ∀ n, s.fetch (front.length + n) = u.fetch n := by
  induction front generalizing s with
  | nil => exact ⟨s, .refl h, hqueue, fun n => by rw [List.length_nil, Nat.zero_add]⟩
  | cons d front ih =>
      obtain ⟨hd, hfront⟩ := List.forall_mem_cons.mp hfront
      obtain ⟨record, hrecord⟩ := Option.ne_none_iff_exists'.mp hd
      obtain ⟨ring, hdequeue, hwf, hlist, -⟩ := dequeue_of_cons h hqueue
      let t := (call { s with ring } (.createSurface d.surface record)).release d .delivered
      have hfirst : s.Passed [d] t := by
        refine ⟨?_, hwf, ?_, ?_, ?_⟩
        · rw [hqueue, List.cons_append, ← List.append_eq, ← hlist]
          rfl
        · simp [t, call, drawn, hrecord]
        · simp [t, call, Command.leaving, hrecord]
        · simp [t, call, Command.announced?, hrecord]
      have hattached : s.server.worker.isSome := by simpa using hworker
      have hworker : s.server.worker.isNone = false := by simpa using hattached
      obtain ⟨u, hu, hrest, hfetch⟩ := ih (s := t) hwf hlist hfront (.inr hattached)
      refine ⟨u, hfirst.trans hu, hrest, fun n => ?_⟩
      have hlength : (d :: front).length + n = (front.length + n) + 1 := by
        rw [List.length_cons]
        omega
      rw [← hfetch n, hlength, fetch]
      simp only [hdequeue, hrecord, hworker, Bool.false_eq_true, if_false]
      rfl

/-- The drawable behind the announcements is the one that a fetch takes. -/
theorem fetch_past (h : s.ring.WellFormed) (hqueue : s.queue = front ++ c :: rest)
    (hfront : ∀ d ∈ front, d.record? ≠ none) (hworker : front = [] ∨ s.server.worker.isSome)
    (hc : c.record? = none) {n : Nat} (hn : front.length < n) :
    ∃ (u : Session) (ring : Ring Command), s.Passed front u ∧ u.queue = c :: rest ∧
      ring.WellFormed ∧ ring.toList = rest ∧
      s.fetch n = (.ok (some c.dispatched), handOff { u with ring } c) := by
  obtain ⟨u, hu, hrest, hfetch⟩ := exists_passed h hqueue hfront hworker
  obtain ⟨ring, hdequeue, hwf, hlist, -⟩ := dequeue_of_cons hu.ring hrest
  obtain ⟨k, rfl⟩ := Nat.exists_eq_add_of_lt hn
  refine ⟨u, ring, hu, hrest, hwf, hlist, ?_⟩
  rw [Nat.add_assoc, hfetch, fetch]
  simp only [hdequeue, hc]

end Session

end RemoteDisplay
