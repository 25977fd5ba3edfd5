import RemoteDisplay.Proofs.Session.InFlight

/-!
# The areas of drawables

Builders place drawables strictly: the far edges of every area have coordinates. However a session is
used, this holds of every drawable that it or its callers have, since no other ones come about.
-/

namespace RemoteDisplay

/-- A drawable has the area of an origin and a size. -/
def Command.Boxed (c : Command) : Prop :=
  c.record? = none → ∃ x y width height, Rect.ofOrigin? x y width height = some c.bbox

namespace Session

variable {s t : Session}

/-- The commands that are queued or with the server. -/
def commands (s : Session) : List Command := s.queue ++ s.server.held

theorem mem_commands {c : Command} : c ∈ s.commands ↔ c ∈ s.queue ∨ c ∈ s.server.held :=
  List.mem_append

theorem commands_of_eq (hring : t.ring = s.ring) (hheld : t.server.held = s.server.held) :
    t.commands = s.commands := by
  rw [commands, commands, queue, queue, hring, hheld]

/-! ## No command comes from nowhere -/

theorem submit_commands (h : s.ring.WellFormed) (c : Command) :
    (s.submit c).2.commands ⊆ c :: s.commands := by
  rcases s.submit_cases h c with ⟨-, ring, hs, -, hlist, -⟩ | ⟨-, hs⟩
  · rw [hs]
    intro d hd
    simp only [commands, queue, hlist, List.mem_append, List.mem_singleton] at hd
    simp only [commands, queue, List.mem_cons, List.mem_append]
    tauto
  · rw [hs]
    exact List.subset_cons_self c _

theorem Fetch.commands {r : Except Fault (Option Dispatched)} (hf : Fetch s r t) :
    t.commands ⊆ s.commands := by
  induction hf with
  | stop s => exact List.Subset.refl _
  | @draw s c ring hqueue hring hrecord =>
      intro d hd
      simp only [mem_commands, queue, handOff_ring, handOff_server] at hd
      rw [mem_commands, hqueue, List.mem_cons]
      rcases hd with hd | hd
      · exact .inl (.inr hd)
      · exact (mem_insertHeld hd).imp_left .inl
  | @reject s c ring record hqueue hring hrecord hworker =>
      intro d hd
      rw [mem_commands, hqueue]
      exact (mem_commands.mp hd).imp_left (List.mem_cons_of_mem c)
  | @announce s t c ring record r hqueue hring hrecord hrest ih =>
      intro d hd
      rw [mem_commands, hqueue]
      exact (mem_commands.mp (ih hd)).imp_left (List.mem_cons_of_mem c)

theorem nextCommand_commands (h : s.ring.WellFormed) : s.nextCommand.2.commands ⊆ s.commands := by
  by_cases hclosed : s.server.closed
  · rw [nextCommand, if_pos hclosed]
    exact List.Subset.refl _
  · rw [nextCommand, if_neg hclosed]
    exact (fetch_spec h s.ring.length).commands

theorem giveBack_commands (id : ReleaseId) (group : UInt32) :
    (s.giveBack id group).2.commands ⊆ s.commands := by
  rcases s.giveBack_cases id group with ⟨-, hb⟩ | ⟨-, -, hb⟩ | ⟨c, -, -, hb⟩
  · rw [hb]
    exact List.Subset.refl _
  · rw [hb]
    exact List.Subset.refl _
  · rw [hb]
    intro d hd
    exact mem_commands.mpr ((mem_commands.mp hd).imp_right fun hd => (List.mem_filter.mp hd).1)

theorem shutdown_commands (h : s.ring.WellFormed) : s.shutdown.2.commands = [] := by
  obtain ⟨-, -, hqueue, hserver, -⟩ := shutdown_spec h
  rw [commands, hqueue, hserver]
  rfl

theorem createSurface_commands (h : s.ring.WellFormed) {width height : UInt32} {backing : Backing}
    {r : Except Fault SurfaceId × Session} (hr : s.createSurface width height backing = .ok r) :
    ∀ c ∈ r.2.commands, c ∈ s.commands ∨ c.Boxed := by
  rcases createSurface_cases hr with ⟨e, rfl⟩ | ⟨record, c, -, -, -, -, -, rfl, hsub⟩
  · exact fun c hc => .inl hc
  · have hsubmit := s.numbered.submit_commands h
      (announcement ⟨s.surfaces.next⟩ width height record ⟨0, ⟨(s.ledger 0).next⟩⟩)
    have hall : ∀ c ∈ r.2.commands, c ∈ announcement ⟨s.surfaces.next⟩ width height record
        ⟨0, ⟨(s.ledger 0).next⟩⟩ :: s.commands := by
      rcases hsub with ⟨s', hs, rfl⟩ | ⟨e, s', hs, rfl⟩
      · rw [hs] at hsubmit
        exact hsubmit
      · rw [hs] at hsubmit
        exact hsubmit
    intro c hc
    rcases List.mem_cons.mp (hall c hc) with rfl | hc
    · exact .inr fun hrecord => by cases hrecord
    · exact .inl hc

section Building

variable (b : Nat) (surface : SurfaceId) (colour : UInt32) (x y : Int32) (width height : UInt32)
  (pixels : View) (stride : UInt32) (damage : Damage)

theorem fillRect_commands (h : s.ring.WellFormed) :
    ∀ c ∈ (s.fillRect b surface colour x y width height).2.commands, c ∈ s.commands ∨ c.Boxed := by
  rcases s.fillRect_cases b surface colour x y width height with ⟨e, hp⟩ | ⟨bbox, live, -, -, -, hbbox, hp⟩
  · rw [hp]
    exact fun c hc => .inl hc
  · rw [hp]
    intro c hc
    rcases List.mem_cons.mp ((s.ticketed b).submit_commands h _ hc) with rfl | hc
    · exact .inr fun _ => ⟨x, y, width, height, hbbox⟩
    · exact .inl hc

variable {b surface x y width height pixels stride damage} in
theorem paintImage_commands (h : s.ring.WellFormed) {r : Except Fault ImageId × Session}
    (hr : s.paintImage b surface x y width height pixels stride damage = .ok r) :
    ∀ c ∈ r.2.commands, c ∈ s.commands ∨ c.Boxed := by
  rcases paintImage_cases hr with ⟨e, rfl⟩ | ⟨bbox, live, -, -, -, hbbox, -, -, rfl⟩
  · exact fun c hc => .inl hc
  · have hring : ((s.imageNumbered b).ticketed b).ring = s.ring := by
      rw [imageNumbered_eq]
      rfl
    have hcommands : ((s.imageNumbered b).ticketed b).commands = s.commands := by
      rw [imageNumbered_eq]
      rfl
    intro c hc
    rcases List.mem_cons.mp (submit_commands (hring ▸ h) _ hc) with rfl | hc
    · exact .inr fun _ => ⟨x, y, width, height, hbbox⟩
    · exact .inl (hcommands ▸ hc)

theorem buildFill_commands {r : Except Fault Command × Session}
    (hr : s.buildFill b surface colour x y width height = r) :
    r.2.commands = s.commands ∧ ∀ c, r.1 = .ok c → c.Boxed := by
  rcases s.buildFill_cases b surface colour x y width height with ⟨e, hb⟩ | ⟨bbox, -, -, hbbox, hb⟩
  · rw [hb] at hr
    subst hr
    exact ⟨rfl, fun c hc => by cases hc⟩
  · rw [hb] at hr
    subst hr
    refine ⟨rfl, fun c hc => ?_⟩
    cases hc
    exact fun _ => ⟨x, y, width, height, hbbox⟩

variable {b surface x y width height pixels stride damage} in
theorem buildBlit_commands {r : Except Fault Command × Session}
    (hr : s.buildBlit b surface x y width height pixels stride damage = .ok r) :
    r.2.commands = s.commands ∧ ∀ c, r.1 = .ok c → c.Boxed := by
  rcases buildBlit_cases hr with ⟨e, rfl⟩ | ⟨bbox, -, hbbox, -, -, rfl⟩
  · exact ⟨rfl, fun c hc => by cases hc⟩
  · refine ⟨by rw [imageNumbered_eq]; rfl, fun c hc => ?_⟩
    cases hc
    exact fun _ => ⟨x, y, width, height, hbbox⟩

end Building

end Session

/-! ## Runs -/

namespace Holding

/-- Every drawable of the session and its callers has a place. -/
structure Boxed (w : Holding) : Prop where
  hand : ∀ c ∈ w.hand, c.Boxed
  session : ∀ c ∈ w.session.commands, c.Boxed

variable {w w' : Holding}

theorem Boxed.next (h : w.Boxed) {s : Session} {hand : List Command}
    (hhand : ∀ c ∈ hand, c ∈ w.hand ∨ c.Boxed ∨ c ∈ w.session.commands)
    (hs : ∀ c ∈ s.commands, c ∈ w.session.commands ∨ c.Boxed ∨ c ∈ w.hand) : (w.next s hand).Boxed where
  hand c hc := by
    rcases hhand c hc with hc | hc | hc
    · exact h.hand c hc
    · exact hc
    · exact h.session c hc
  session c hc := by
    rcases hs c hc with hc | hc | hc
    · exact h.session c hc
    · exact hc
    · exact h.hand c hc

/-- The callers' hand stays, and the session's commands are old ones or have a place. -/
theorem Boxed.keep (h : w.Boxed) {s : Session}
    (hs : ∀ c ∈ s.commands, c ∈ w.session.commands ∨ c.Boxed) : (w.next s w.hand).Boxed :=
  h.next (fun _ hc => .inl hc) fun c hc => (hs c hc).imp_right .inl

theorem Boxed.take (h : w.Boxed) {r : Except Fault Command × Session}
    (hr : r.2.commands = w.session.commands ∧ ∀ c, r.1 = .ok c → c.Boxed) : (w.take r).Boxed := by
  obtain ⟨_ | c, s⟩ := r
  · exact h.keep fun d hd => .inl (hr.1 ▸ hd)
  · refine h.next (fun d hd => ?_) fun d hd => .inl (hr.1 ▸ hd)
    rcases List.mem_append.mp hd with hd | hd
    · exact .inl hd
    · exact .inr (.inl (List.mem_singleton.mp hd ▸ hr.2 c rfl))

theorem Boxed.perform (h : w.Boxed) (hw : w.Standing) {op : Operation}
    (hop : w.perform op = .ok w') : w'.Boxed := by
  have hring := hw.sound.ring
  cases op with
  | createSurface width height backing =>
      obtain ⟨r, hr, hnext⟩ := Trap.bind_eq_ok.mp hop
      cases hnext
      exact h.keep (Session.createSurface_commands hring hr)
  | paintImage b surface x y width height pixels stride damage =>
      obtain ⟨r, hr, hnext⟩ := Trap.bind_eq_ok.mp hop
      cases hnext
      exact h.keep (Session.paintImage_commands hring hr)
  | fillRect b surface colour x y width height =>
      cases hop
      exact h.keep (Session.fillRect_commands b surface colour x y width height hring)
  | buildBlit b surface x y width height pixels stride damage =>
      obtain ⟨r, hr, htaken⟩ := Trap.bind_eq_ok.mp hop
      cases htaken
      exact h.take (Session.buildBlit_commands hr)
  | buildFill b surface colour x y width height =>
      cases hop
      exact h.take (Session.buildFill_commands b surface colour x y width height rfl)
  | submit i =>
      simp only [Holding.perform] at hop
      split at hop
      · rename_i c hc
        cases hop
        refine h.next (fun d hd => .inl (List.mem_of_mem_eraseIdx hd)) fun d hd => ?_
        rcases List.mem_cons.mp (w.session.submit_commands hring c hd) with rfl | hd
        · exact .inr (.inr (List.mem_of_getElem? hc))
        · exact .inl hd
      · cases hop
        exact h
  | release i reason =>
      simp only [Holding.perform] at hop
      split at hop
      · cases hop
        exact h.next (fun d hd => .inl (List.mem_of_mem_eraseIdx hd)) fun d hd => .inl hd
      · cases hop
        exact h
  | drainSurface surface =>
      cases hop
      obtain ⟨ring, hdrain, -, hlist, -⟩ := w.session.drainSurface_eq hring surface
      rw [hdrain]
      refine h.next (fun d hd => ?_) fun d hd => ?_
      · refine (List.mem_append.mp hd).imp_right fun hd => .inr ?_
        exact Session.mem_commands.mpr (.inl (List.mem_filter.mp hd).1)
      · refine .inl (Session.mem_commands.mpr ((Session.mem_commands.mp hd).imp_left fun hd => ?_))
        simp only [Session.queue, hlist] at hd
        exact (List.mem_filter.mp hd).1
  | attachWorker name =>
      cases hop
      refine h.keep fun c hc => .inl ?_
      rwa [Session.commands_of_eq (s := w.session)] at hc <;>
        · simp only [Session.attachWorker]
          split <;> rfl
  | getCommand =>
      cases hop
      exact h.keep fun c hc => .inl (Session.nextCommand_commands hring hc)
  | giveBack id group =>
      cases hop
      exact h.keep fun c hc => .inl (Session.giveBack_commands id group hc)
  | shutdown =>
      cases hop
      refine h.keep fun c hc => ?_
      rw [Session.shutdown_commands hring] at hc
      cases hc
  | render store =>
      cases hop
      exact h.keep fun c hc => .inl hc

theorem Boxed.advance (h : w.Boxed) (hw : w.Standing) {turn : Turn}
    (hturn : w.advance turn = .ok w') : w'.Boxed := by
  have hring := hw.sound.ring
  cases turn with
  | operation op => exact h.perform hw hturn
  | destroySurface id =>
      cases hturn
      rw [Session.destroySurface_eq]
      exact h.keep fun c hc => .inl hc
  | dequeue =>
      cases hturn
      cases hq : w.session.queue with
      | nil =>
          rw [Session.dequeue_of_nil hring hq]
          exact h.next (fun c hc => .inl (by simpa using hc)) fun c hc => .inl hc
      | cons c cs =>
          obtain ⟨ring, hd, -, hlist, -⟩ := Session.dequeue_of_cons hring hq
          rw [hd]
          refine h.next (fun d hd => ?_) fun d hd => .inl ?_
          · refine (List.mem_append.mp hd).imp_right fun hd => .inr ?_
            rw [Session.mem_commands, hq, List.mem_singleton.mp hd]
            exact .inl List.mem_cons_self
          · rw [Session.mem_commands, hq]
            exact (Session.mem_commands.mp hd).imp_left fun hd => List.mem_cons_of_mem c (hlist ▸ hd)
  | drain =>
      cases hturn
      obtain ⟨ring, hd, -, hlist, -⟩ := w.session.drain_eq hring
      rw [hd]
      refine h.next (fun d hd => ?_) fun d hd => .inl ?_
      · exact (List.mem_append.mp hd).imp_right fun hd => .inr (Session.mem_commands.mpr (.inl hd))
      · refine Session.mem_commands.mpr ((Session.mem_commands.mp hd).imp_left fun hd => ?_)
        rw [Session.queue, hlist] at hd
        cases hd
  | setClock | setCompression =>
      cases hturn
      exact h.keep fun c hc => .inl hc
  | tell c =>
      cases hturn
      refine h.keep fun d hd => .inl ?_
      rwa [Session.commands_of_eq (Session.callAttached_ring c) (by rw [Session.callAttached_server])] at hd

end Holding

theorem Logged.boxed_run {w w' : Logged} {turns : List Holding.Turn} (h : w.Boxed) (hw : w.Exact)
    (hrun : w.run turns = .ok w') : w'.Boxed :=
  hw.run_induction (fun h hw hturn => h.advance hw hturn) h hrun

theorem Session.Fresh.boxed {s : Session} (h : s.Fresh) : Holding.Boxed { session := s } where
  hand c hc := by cases hc
  session c hc := by
    rw [Session.commands, h.queue, h.held] at hc
    cases hc

end RemoteDisplay
