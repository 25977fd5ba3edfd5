import Mathlib.Algebra.Group.Nat.Defs
import Mathlib.Data.List.Count
import Mathlib.Data.List.Perm.Basic
import RemoteDisplay.Proofs.Session.Effects
import RemoteDisplay.Proofs.Table

/-!
# No command is lost and none is released twice

Callers build commands and hold them, the ring queues them, the server holds some, and in the end
each is released. A command is known by its ticket. `Transfer` says that commands passed between the
callers and the session, and nothing else happened to them; every operation is a chain of transfers,
preceded by one new ticket at most. So at every moment each ticket given out is in one place, and a
ticket's hook has fired when that place is the notices.
-/

namespace RemoteDisplay

/-! ## Tickets -/

namespace Session

/-- The tickets of the released commands, in the order of their notices. -/
def released (s : Session) : List Ticket := s.notices.toList.map (·.ticket)

/-- The tickets of all commands that the session has or had. -/
def tickets (s : Session) : List Ticket :=
  s.queue.map (·.ticket) ++ s.server.held.map (·.ticket) ++ s.released

/-- The ring is well-formed, the server holds its commands by release id, and every ledger has
counted the notices made to it. -/
structure Sound (s : Session) : Prop where
  ring : s.ring.WellFormed
  held : s.server.held.Pairwise (·.id.raw < ·.id.raw)
  counted : ∀ i < s.ledgers.size,
    (s.ledger i).released = UInt64.ofNat (s.released.countP (·.ledger = i))

/-- The commands `taken` came in from the callers, those `given` went out to them, and no release id
was issued. -/
structure Transfer (s : Session) (taken : List Command) (s' : Session) (given : List Command) :
    Prop where
  sound : s'.Sound
  tickets : List.Perm (given.map (·.ticket) ++ s'.tickets) (taken.map (·.ticket) ++ s.tickets)
  next : ∀ i, (s'.ledger i).next = (s.ledger i).next
  size : s'.ledgers.size = s.ledgers.size
  builders : ∀ i, (s'.builder i).ledger = (s.builder i).ledger

namespace Transfer

variable {s t u : Session} {as bs cs : List Command}

theorem trans (h : Transfer s as t bs) (h' : Transfer t bs u cs) : Transfer s as u cs where
  sound := h'.sound
  tickets := h'.tickets.trans h.tickets
  next i := (h'.next i).trans (h.next i)
  size := h'.size.trans h.size
  builders i := (h'.builders i).trans (h.builders i)

theorem of_eq (h : s.Sound) (hring : t.ring = s.ring) (hheld : t.server.held = s.server.held)
    (hnotices : t.notices = s.notices) (hledgers : t.ledgers = s.ledgers)
    (hbuilders : ∀ i, (t.builder i).ledger = (s.builder i).ledger) : Transfer s [] t [] where
  sound := by
    refine ⟨hring ▸ h.ring, hheld ▸ h.held, fun i hi => ?_⟩
    rw [hledgers] at hi
    rw [ledger, hledgers, released, hnotices]
    exact h.counted i hi
  tickets := by
    rw [Session.tickets, Session.tickets, queue, queue, released, released, hring, hheld, hnotices]
  next i := by rw [ledger, ledger, hledgers]
  size := by rw [hledgers]
  builders := hbuilders

end Transfer

variable {s : Session}

theorem ledger_modify (i j : Nat) (f : Ledger → Ledger) :
    ledger { s with ledgers := s.ledgers.modify j f } i =
      if i = j ∧ i < s.ledgers.size then f (s.ledger i) else s.ledger i := by
  simp only [ledger, Array.getElem?_modify]
  by_cases hlt : i < s.ledgers.size
  · by_cases he : j = i
    · simp [he, hlt]
    · simp [he, Ne.symm he]
  · simp [hlt]

theorem ledger_release (c : Command) (reason : ReleaseReason) (i : Nat) :
    (s.release c reason).ledger i =
      if i = c.ticket.ledger ∧ i < s.ledgers.size then
        { s.ledger i with released := (s.ledger i).released + 1 }
      else s.ledger i :=
  ledger_modify (s := s) i c.ticket.ledger _

@[simp] theorem released_release (c : Command) (reason : ReleaseReason) :
    (s.release c reason).released = s.released ++ [c.ticket] := by
  simp [released, Command.notice]

/-! ## Transfers -/

/-- A release fires the command's hook once. -/
theorem Sound.release (h : s.Sound) (c : Command) (reason : ReleaseReason) :
    Transfer s [c] (s.release c reason) [] where
  sound := by
    refine ⟨h.ring, h.held, fun i hi => ?_⟩
    have hi' : i < s.ledgers.size := by simpa [Session.release, drop] using hi
    rw [ledger_release, released_release, List.countP_append]
    by_cases he : i = c.ticket.ledger
    · subst he
      rw [if_pos ⟨rfl, hi'⟩, h.counted _ hi']
      simp [UInt64.ofNat_add]
    · simp [he, Ne.symm he, h.counted i hi']
  tickets := by
    simp only [Session.tickets, released_release, release_queue, release_server, List.map_nil,
      List.nil_append, List.map_cons, List.singleton_append]
    rw [← List.append_assoc]
    exact List.perm_append_singleton _ _
  next i := by
    rw [ledger_release]
    split <;> rfl
  size := by simp [Session.release, drop]
  builders _ := rfl

theorem Sound.releaseEach (h : s.Sound) (cs : List Command) (reason : ReleaseReason) :
    Transfer s cs (s.releaseEach cs reason).2 [] := by
  simp only [Session.releaseEach]
  induction cs generalizing s with
  | nil => exact .of_eq h rfl rfl rfl rfl fun _ => rfl
  | cons c cs ih =>
      have hc := h.release c reason
      have hcs := ih hc.sound
      rw [List.foldl_cons]
      refine ⟨hcs.sound, ?_, fun i => (hcs.next i).trans (hc.next i), hcs.size.trans hc.size,
        fun i => (hcs.builders i).trans (hc.builders i)⟩
      refine hcs.tickets.trans ?_
      have hp := hc.tickets.append_left (cs.map (·.ticket))
      simp only [List.map_nil, List.nil_append, List.map_cons, List.singleton_append] at hp ⊢
      exact hp.trans List.perm_middle

/-- The ring changed, and what is queued changed by a permutation with the callers' commands. -/
theorem Sound.requeue (h : s.Sound) {t : Session} {as bs : List Command} (hring : t.ring.WellFormed)
    (hqueue : List.Perm (bs ++ t.queue) (as ++ s.queue)) (hheld : t.server.held = s.server.held)
    (hnotices : t.notices = s.notices) (hledgers : t.ledgers = s.ledgers)
    (hbuilders : t.builders = s.builders) : Transfer s as t bs where
  sound := by
    refine ⟨hring, hheld ▸ h.held, fun i hi => ?_⟩
    rw [hledgers] at hi
    rw [ledger, hledgers, released, hnotices]
    exact h.counted i hi
  tickets := by
    have hp := (hqueue.map (·.ticket)).append_right (s.server.held.map (·.ticket) ++ s.released)
    simpa [Session.tickets, released, hheld, hnotices, List.append_assoc] using hp
  next i := by rw [ledger, ledger, hledgers]
  size := by rw [hledgers]
  builders i := by rw [builder, builder, hbuilders]

/-- A refused command is released, so submitting leaves nothing with the caller. -/
theorem Sound.submit (h : s.Sound) (c : Command) : Transfer s [c] (s.submit c).2 [] := by
  rcases s.submit_cases h.ring c with ⟨-, ring, hs, hwf, hlist, -⟩ | ⟨-, hs⟩
  · rw [hs]
    refine h.requeue hwf ?_ rfl rfl rfl rfl
    simp only [queue, hlist, List.nil_append]
    exact List.perm_append_comm
  · rw [hs]
    exact h.release c .rejected

theorem Sound.drain (h : s.Sound) : Transfer s [] s.drain.2 s.drain.1 := by
  obtain ⟨ring, hs, hwf, hlist, -⟩ := s.drain_eq h.ring
  rw [hs]
  refine h.requeue hwf ?_ rfl rfl rfl rfl
  simp [queue, hlist]

theorem Sound.drainSurface (h : s.Sound) (id : SurfaceId) :
    Transfer s [] (s.drainSurface id).2 (s.drainSurface id).1 := by
  obtain ⟨ring, hs, hwf, hlist, -⟩ := s.drainSurface_eq h.ring id
  rw [hs]
  refine h.requeue hwf ?_ rfl rfl rfl rfl
  simpa only [queue, hlist, List.nil_append] using
    List.filter_append_perm (fun c => decide (c.surface = id)) s.ring.toList

/-! ## The server -/

/-- The list of held commands takes a command in, in place of the one with its id. -/
theorem insertHeld_perm (c : Command) (ds : List Command) :
    List.Perm ((insertHeld c ds).1.toList ++ (insertHeld c ds).2) (c :: ds) := by
  induction ds with
  | nil => exact .refl _
  | cons d ds ih =>
      simp only [insertHeld]
      split
      · exact .refl _
      · split
        · exact List.Perm.swap c d ds
        · exact List.perm_middle.trans ((ih.cons d).trans (List.Perm.swap c d ds))

theorem mem_insertHeld {c d : Command} {ds : List Command} (h : d ∈ (insertHeld c ds).2) :
    d = c ∨ d ∈ ds := by
  have hp := (insertHeld_perm c ds).mem_iff (a := d)
  simp only [List.mem_append, List.mem_cons] at hp
  exact hp.mp (.inr h)

theorem insertHeld_sorted (c : Command) {ds : List Command} (h : ds.Pairwise (·.id.raw < ·.id.raw)) :
    (insertHeld c ds).2.Pairwise (·.id.raw < ·.id.raw) := by
  induction ds with
  | nil => exact List.pairwise_singleton _ _
  | cons d ds ih =>
      obtain ⟨hd, hds⟩ := List.pairwise_cons.mp h
      simp only [insertHeld]
      split
      · rename_i hlt
        refine List.pairwise_cons.mpr ⟨fun e he => ?_, h⟩
        rcases List.mem_cons.mp he with rfl | he
        · exact hlt
        · exact UInt64.lt_trans hlt (hd e he)
      · rename_i hlt
        split
        · rename_i heq
          exact List.pairwise_cons.mpr ⟨fun e he => heq ▸ hd e he, hds⟩
        · rename_i hne
          refine List.pairwise_cons.mpr ⟨fun e he => ?_, ih hds⟩
          rcases mem_insertHeld he with rfl | he
          · have hraw : e.id.raw ≠ d.id.raw := fun heq => hne (congrArg ReleaseId.mk heq)
            rw [UInt64.lt_iff_toNat_lt] at hlt ⊢
            rw [ne_eq, ← UInt64.toNat_inj] at hraw
            omega
          · exact hd e he

theorem nodup_held {ds : List Command} (h : ds.Pairwise (·.id.raw < ·.id.raw)) :
    (ds.map (·.id)).Nodup := by
  rw [List.nodup_iff_pairwise_ne, List.pairwise_map]
  refine h.imp fun {c d} hlt he => ?_
  rw [he] at hlt
  exact UInt64.lt_irrefl _ hlt

theorem find?_held {ds : List Command} (h : ds.Pairwise (·.id.raw < ·.id.raw)) {c : Command}
    (hc : c ∈ ds) : ds.find? (·.id = c.id) = some c :=
  find?_key_of_mem Command.id (nodup_held h) hc

/-- A held command and those with other ids are all that is held. -/
theorem held_perm {c : Command} {ds : List Command} (h : ds.Pairwise (·.id.raw < ·.id.raw))
    (hc : c ∈ ds) : List.Perm (c :: ds.filter (·.id ≠ c.id)) ds :=
  (perm_of_find? Command.id (nodup_held h) (find?_held h hc)).symm

theorem Sound.handOff (h : s.Sound) (c : Command) : Transfer s [c] (s.handOff c) [] := by
  have ht : Transfer s [c] (s.holding c) (insertHeld c s.server.held).1.toList := by
    refine ⟨⟨h.ring, insertHeld_sorted c h.held, h.counted⟩, ?_, fun _ => rfl, rfl, fun _ => rfl⟩
    have hp := (insertHeld_perm c s.server.held).map (·.ticket)
    rw [List.map_append, List.map_cons] at hp
    have hq := (hp.append_left (s.queue.map (·.ticket))).append_right s.released
    simp only [Session.tickets, holding, List.map_cons, List.map_nil, List.singleton_append]
    simp only [queue, released, List.append_assoc, List.cons_append] at hq ⊢
    refine (List.Perm.trans ?_ hq).trans List.perm_middle
    simp only [← List.append_assoc]
    exact ((List.perm_append_comm.append_right _).append_right _)
  rw [handOff_eq]
  cases hprev : (insertHeld c s.server.held).1 with
  | none =>
      rw [hprev] at ht
      exact ht
  | some d =>
      rw [hprev] at ht
      exact ht.trans (ht.sound.release d .rejected)

theorem Sound.pop (h : s.Sound) {c : Command} {ring : Ring Command}
    (hqueue : s.queue = c :: ring.toList) (hring : ring.WellFormed) :
    Transfer s [] { s with ring } [c] :=
  h.requeue hring (by simp [queue, ← hqueue]) rfl rfl rfl rfl

theorem Sound.dequeue_of_cons (h : s.Sound) {c : Command} {cs : List Command}
    (hcons : s.queue = c :: cs) : ∃ t, s.dequeue = (some c, t) ∧ Transfer s [] t [c] := by
  obtain ⟨ring, hs, hwf, hlist, -⟩ := s.dequeue_of_cons h.ring hcons
  exact ⟨_, hs, h.pop (hlist ▸ hcons) hwf⟩

theorem Sound.deliver (h : s.Sound) (c : Command) (call : WorkerCall) :
    Transfer s [c] ((s.call call).release c .delivered) [] := by
  have hcall : Transfer s [] (s.call call) [] := .of_eq h rfl rfl rfl rfl fun _ => rfl
  have hrel := hcall.sound.release c .delivered
  exact ⟨hrel.sound, hrel.tickets, hrel.next, hrel.size, hrel.builders⟩

/-- Fetching passes every command that it takes to the server, to the worker or to its ledger. -/
theorem Sound.fetch (h : s.Sound) (n : Nat) : Transfer s [] (s.fetch n).2 [] := by
  induction n generalizing s with
  | zero => exact .of_eq h rfl rfl rfl rfl fun _ => rfl
  | succ n ih =>
      cases hq : s.queue with
      | nil =>
          rw [Session.fetch, dequeue_of_nil h.ring hq]
          exact .of_eq h rfl rfl rfl rfl fun _ => rfl
      | cons c cs =>
          obtain ⟨t, ht, htr⟩ := h.dequeue_of_cons hq
          simp only [Session.fetch, ht]
          split
          · exact htr.trans (htr.sound.handOff c)
          · rename_i record _
            split
            · exact htr.trans (htr.sound.release c .rejected)
            · have hdel := htr.sound.deliver c (.createSurface c.surface record)
              exact htr.trans (hdel.trans (ih hdel.sound))

theorem Sound.nextCommand (h : s.Sound) : Transfer s [] s.nextCommand.2 [] := by
  simp only [Session.nextCommand]
  split
  · exact .of_eq h rfl rfl rfl rfl fun _ => rfl
  · exact h.fetch _

theorem Sound.giveBack (h : s.Sound) (id : ReleaseId) (group : UInt32) :
    Transfer s [] (s.giveBack id group).2 [] := by
  have hid : Transfer s [] s [] := .of_eq h rfl rfl rfl rfl fun _ => rfl
  simp only [Session.giveBack]
  split
  · exact hid
  · split
    · exact hid
    · rename_i c hc
      obtain ⟨hmem, rfl⟩ : c ∈ s.server.held ∧ c.id = id := by
        have hfind := List.find?_some hc
        exact ⟨List.mem_of_find?_eq_some hc, by simpa using hfind⟩
      have hfree : Transfer s [] { s with server.held := s.server.held.filter (·.id ≠ c.id) } [c] := by
        refine ⟨⟨h.ring, h.held.sublist List.filter_sublist, h.counted⟩, ?_, fun _ => rfl, rfl,
          fun _ => rfl⟩
        have hp := ((held_perm h.held hmem).map (·.ticket)).append_left (s.queue.map (·.ticket))
        rw [List.map_cons] at hp
        have hq := (List.perm_middle.symm.trans hp).append_right s.released
        simpa only [Session.tickets, List.map_cons, List.map_nil, List.nil_append,
          List.singleton_append, List.cons_append, queue, released] using hq
      exact hfree.trans (hfree.sound.release c .server)

/-- Whatever the server holds it can give back. -/
theorem Sound.giveBack_held (h : s.Sound) {c : Command} (hc : c ∈ s.server.held) :
    ∃ t, s.giveBack c.id Wire.memorySlotGroup = (.ok (c.notice .server), t) := by
  have hfind : s.heldCommand? c.id = some c := find?_held h.held hc
  simp only [Session.giveBack, hfind]
  exact ⟨_, rfl⟩

theorem Sound.releaseAll (h : s.Sound) (reason : ReleaseReason) :
    Transfer s [] (s.releaseAll reason).2 [] := by
  have hfree : Transfer s [] { s with server.held := [] } s.server.held := by
    refine ⟨⟨h.ring, .nil, h.counted⟩, ?_, fun _ => rfl, rfl, fun _ => rfl⟩
    simp only [Session.tickets, List.map_nil, List.nil_append, List.append_nil, queue, released]
    rw [← List.append_assoc]
    exact List.perm_append_comm.append_right _
  exact hfree.trans (hfree.sound.releaseEach s.server.held reason)

/-- Shutdown releases the queued commands and those that the server holds. -/
theorem Sound.shutdown (h : s.Sound) : Transfer s [] s.shutdown.2 [] := by
  have hstop : Transfer s [] { s.callAttached .stop with
      server := { (s.callAttached .stop).server with closed := true } } [] := by
    refine .of_eq h ?_ ?_ ?_ ?_ fun _ => ?_ <;>
      · simp only [callAttached]
        split <;> rfl
  have hdrain := hstop.sound.drain
  have hqueued := hdrain.sound.releaseEach
    (Session.drain { s.callAttached .stop with
      server := { (s.callAttached .stop).server with closed := true } }).1 .shutdown
  exact ((hstop.trans hdrain).trans hqueued).trans (hqueued.sound.releaseAll .shutdown)

theorem Sound.withdrawSurface (h : s.Sound) (id : SurfaceId) :
    Transfer s [] (s.withdrawSurface id) [] := by
  have hdrain := h.drainSurface id
  have ht := hdrain.trans (hdrain.sound.releaseEach _ .teardown)
  rw [Session.withdrawSurface, destroySurface_eq]
  exact ht.trans (.of_eq ht.sound rfl rfl rfl rfl fun _ => rfl)

/-! ## New commands -/

/-- One new ticket of ledger `i` was given out, to the only command that went to the callers. -/
structure Issued (s : Session) (i : Nat) (s' : Session) : Prop where
  sound : s'.Sound
  tickets : List.Perm s'.tickets s.tickets
  next : ∀ j < s.ledgers.size, (s'.ledger j).next = (s.ledger j).next + if j = i then 1 else 0
  size : s'.ledgers.size = s.ledgers.size
  builders : ∀ j, (s'.builder j).ledger = (s.builder j).ledger

theorem Sound.issue (h : s.Sound) (i : Nat) : Issued s i (s.issue i).2 where
  sound := by
    refine ⟨h.ring, h.held, fun j hj => ?_⟩
    have hj' : j < s.ledgers.size := by simpa [Session.issue] using hj
    have hl := ledger_modify (s := s) j i fun l => { l with next := l.next + 1 }
    simp only [Session.issue] at hl ⊢
    rw [hl]
    split <;> exact h.counted j hj'
  tickets := .refl _
  next j hj := by
    have hl := ledger_modify (s := s) j i fun l => { l with next := l.next + 1 }
    simp only [Session.issue] at hl ⊢
    rw [hl]
    split <;> rename_i he
    · simp [he.1]
    · have hne : j ≠ i := fun hji => he ⟨hji, hj⟩
      simp [hne]
  size := by simp [Session.issue]
  builders _ := rfl

theorem Transfer.issued {s t u : Session} {i : Nat} (h : Transfer s [] t []) (hu : Issued t i u) :
    Issued s i u where
  sound := hu.sound
  tickets := hu.tickets.trans h.tickets
  next j hj := h.next j ▸ hu.next j (h.size ▸ hj)
  size := hu.size.trans h.size
  builders j := (hu.builders j).trans (h.builders j)

/-- What the ticket's command went through after it was built. -/
theorem Issued.transfer {s t u : Session} {i : Nat} {as bs : List Command} (h : Issued s i t)
    (ht : Transfer t as u bs) :
    u.Sound ∧ List.Perm (bs.map (·.ticket) ++ u.tickets) (as.map (·.ticket) ++ s.tickets) ∧
      (∀ j < s.ledgers.size, (u.ledger j).next = (s.ledger j).next + if j = i then 1 else 0) ∧
      u.ledgers.size = s.ledgers.size ∧ ∀ j, (u.builder j).ledger = (s.builder j).ledger :=
  ⟨ht.sound, ht.tickets.trans (h.tickets.append_left _), fun j hj => (ht.next j).trans (h.next j hj),
    ht.size.trans h.size, fun j => (ht.builders j).trans (h.builders j)⟩

theorem Sound.numbered (h : s.Sound) : Issued s 0 s.numbered := by
  have ht : Transfer s [] { s with surfaces := s.surfaces.takeNumber.2 } [] :=
    .of_eq h rfl rfl rfl rfl fun _ => rfl
  exact ht.issued (ht.sound.issue 0)

theorem Sound.ticketed (h : s.Sound) (b : Nat) : Issued s (s.builder b).ledger (s.ticketed b) :=
  h.issue _

theorem Sound.imageNumbered (h : s.Sound) (b : Nat) : Transfer s [] (s.imageNumbered b) [] := by
  refine .of_eq h ?_ ?_ ?_ ?_ fun i => builder_imageNumbered_ledger i <;>
    · simp only [Session.imageNumbered, takeImageNumber]
      split <;> rfl

theorem Sound.imageTicketed (h : s.Sound) (b : Nat) :
    Issued s (s.builder b).ledger ((s.imageNumbered b).ticketed b) := by
  have hi := h.imageNumbered b
  rw [← builder_imageNumbered_ledger (s := s) b]
  exact hi.issued (hi.sound.ticketed b)

/-- The tickets given out between two moments: those of the ledgers whose counters moved. -/
def issuedBetween (s s' : Session) : List Ticket :=
  (List.range s.ledgers.size).filterMap fun i =>
    if (s'.ledger i).next = (s.ledger i).next then none else some ⟨i, ⟨(s.ledger i).next⟩⟩

theorem Transfer.issuedBetween {s t : Session} {as bs : List Command} (h : Transfer s as t bs) :
    issuedBetween s t = [] := by
  rw [Session.issuedBetween, List.filterMap_eq_nil_iff]
  intro i _
  rw [if_pos (h.next i)]

theorem filterMap_range_eq_singleton {α : Type} {n k : Nat} {f : Nat → Option α} {a : α} (hk : k < n)
    (hf : f k = some a) (hne : ∀ j < n, j ≠ k → f j = none) : (List.range n).filterMap f = [a] := by
  induction n with
  | zero => omega
  | succ n ih =>
      rw [List.range_succ, List.filterMap_append]
      by_cases he : k = n
      · have hnil : (List.range n).filterMap f = [] := by
          refine List.filterMap_eq_nil_iff.mpr fun j hj => ?_
          have hlt := List.mem_range.mp hj
          exact hne j (by omega) (by omega)
        subst he
        simp [hnil, hf]
      · rw [ih (by omega) fun j hj => hne j (by omega)]
        simp [hne n (by omega) (Ne.symm he)]

theorem issuedBetween_of_next {s t : Session} {i : Nat} (hi : i < s.ledgers.size)
    (h : ∀ j < s.ledgers.size, (t.ledger j).next = (s.ledger j).next + if j = i then 1 else 0) :
    issuedBetween s t = [⟨i, ⟨(s.ledger i).next⟩⟩] := by
  refine filterMap_range_eq_singleton hi ?_ fun j hj hne => ?_
  · have hmoved : (s.ledger i).next + 1 ≠ (s.ledger i).next := by
      intro heq
      have hnat := congrArg UInt64.toNat heq
      rw [UInt64.toNat_add, UInt64.toNat_one] at hnat
      have := (s.ledger i).next.toNat_lt
      omega
    simp [h i hi, hmoved]
  · simp [h j hj, hne]

end Session

/-! ## Callers -/

/-- A session, the commands that its callers hold, and all tickets given out so far. -/
structure Holding where
  session : Session
  hand : List Command := []
  built : List Ticket := []

namespace Holding

inductive Operation where
  | createSurface (width height : UInt32) (backing : Backing)
  | paintImage (builder : Nat) (surface : SurfaceId) (x y : Int32) (width height : UInt32)
      (pixels : View) (stride : UInt32) (damage : Damage)
  | fillRect (builder : Nat) (surface : SurfaceId) (colour : UInt32) (x y : Int32)
      (width height : UInt32)
  | buildBlit (builder : Nat) (surface : SurfaceId) (x y : Int32) (width height : UInt32)
      (pixels : View) (stride : UInt32) (damage : Damage)
  | buildFill (builder : Nat) (surface : SurfaceId) (colour : UInt32) (x y : Int32)
      (width height : UInt32)
  /-- Submits the command at a position of the callers' hand, if there is one. -/
  | submit (position : Nat)
  /-- Releases the command at a position of the callers' hand, if there is one. -/
  | release (position : Nat) (reason : ReleaseReason)
  /-- Takes the commands of a surface off the ring, for the caller to release. -/
  | drainSurface (surface : SurfaceId)
  | attachWorker (name : Nat)
  | getCommand
  | giveBack (id : ReleaseId) (group : UInt32)
  | shutdown
  /-- Pixel memory changes in any way. -/
  | render (store : PixelStore)

/-- The session went on, and the callers hold other commands. -/
def next (w : Holding) (session : Session) (hand : List Command) : Holding :=
  { session, hand, built := w.built ++ w.session.issuedBetween session }

def take (w : Holding) : Except Fault Command × Session → Holding
  | (.ok c, s) => w.next s (w.hand ++ [c])
  | (.error _, s) => w.next s w.hand

def perform (w : Holding) : Operation → Except Trap Holding
  | .createSurface width height backing => do
    let (_, s) ← w.session.createSurface width height backing
    return w.next s w.hand
  | .paintImage b surface x y width height pixels stride damage => do
    let (_, s) ← w.session.paintImage b surface x y width height pixels stride damage
    return w.next s w.hand
  | .fillRect b surface colour x y width height =>
    return w.next (w.session.fillRect b surface colour x y width height).2 w.hand
  | .buildBlit b surface x y width height pixels stride damage => do
    return w.take (← w.session.buildBlit b surface x y width height pixels stride damage)
  | .buildFill b surface colour x y width height =>
    return w.take (w.session.buildFill b surface colour x y width height)
  | .submit i =>
    match w.hand[i]? with
    | some c => return w.next (w.session.submit c).2 (w.hand.eraseIdx i)
    | none => return w
  | .release i reason =>
    match w.hand[i]? with
    | some c => return w.next (w.session.release c reason) (w.hand.eraseIdx i)
    | none => return w
  | .drainSurface surface =>
    return w.next (w.session.drainSurface surface).2 (w.hand ++ (w.session.drainSurface surface).1)
  | .attachWorker name => return w.next (w.session.attachWorker name).2 w.hand
  | .getCommand => return w.next w.session.nextCommand.2 w.hand
  | .giveBack id group => return w.next (w.session.giveBack id group).2 w.hand
  | .shutdown => return w.next w.session.shutdown.2 w.hand
  | .render store => return w.next { w.session with store } w.hand

def run (w : Holding) : List Operation → Except Trap Holding
  | [] => .ok w
  | op :: ops => do (← w.perform op).run ops

/-- Every ticket given out is in one place, and the ledgers' counters say how many there are. -/
structure Conserved (w : Holding) : Prop where
  sound : w.session.Sound
  places : List.Perm (w.hand.map (·.ticket) ++ w.session.tickets) w.built
  next : ∀ i < w.session.ledgers.size,
    (w.session.ledger i).next = UInt64.ofNat (w.built.countP (·.ledger = i) + 1)
  distinct : w.built.Nodup
  low : ∀ t ∈ w.built, t.id.raw.toNat ≤ w.built.countP (·.ledger = t.ledger)
  first : 0 < w.session.ledgers.size
  builders : ∀ b, (w.session.builder b).ledger < w.session.ledgers.size

/-- A session that can be used: its parts agree, every command that it or its callers have has a
ticket that was given out, and its builders have ledgers. -/
structure Standing (w : Holding) : Prop where
  sound : w.session.Sound
  known : ∀ t ∈ w.hand.map (·.ticket) ++ w.session.tickets, t ∈ w.built
  first : 0 < w.session.ledgers.size
  builders : ∀ b, (w.session.builder b).ledger < w.session.ledgers.size

/-- Commands pass between the callers and the session, and one of them may be new. -/
inductive Change (w : Holding) : Holding → Prop where
  | idle : Change w w
  | transfer {as bs hand : List Command} {s : Session} (ht : Session.Transfer w.session as s bs)
      (hhand : List.Perm (as ++ hand) (bs ++ w.hand)) : Change w (w.next s hand)
  | issue {i : Nat} (hi : i < w.session.ledgers.size) {s t : Session} {c : Command}
      {as bs hand : List Command} (hs : Session.Issued w.session i s)
      (hc : c.ticket = ⟨i, ⟨(w.session.ledger i).next⟩⟩) (ht : Session.Transfer s as t bs)
      (hhand : List.Perm (as ++ hand) (bs ++ (w.hand ++ [c]))) : Change w (w.next t hand)

/-! ## Steps -/

variable {w w' : Holding}

theorem Conserved.standing (h : w.Conserved) : w.Standing where
  sound := h.sound
  known _ ht := h.places.mem_iff.mp ht
  first := h.first
  builders := h.builders

/-- What the callers gave the session and what they got from it cancel out. -/
theorem places_perm {as bs hand hand' : List Command} {ts ts' : List Ticket}
    (ht : List.Perm (bs.map (·.ticket) ++ ts') (as.map (·.ticket) ++ ts))
    (hhand : List.Perm (as ++ hand') (bs ++ hand)) :
    List.Perm (hand'.map (·.ticket) ++ ts') (hand.map (·.ticket) ++ ts) := by
  rw [List.perm_iff_count]
  intro u
  have hp := (hhand.map (·.ticket)).count_eq u
  have hq := ht.count_eq u
  simp only [List.map_append, List.count_append] at hp hq ⊢
  omega

/-- Whoever has a command, its ticket was given out, and each ticket is in as many places as it was given
out. -/
theorem Change.places (hw : Change w w')
    (h : List.Perm (w.hand.map (·.ticket) ++ w.session.tickets) w.built) :
    List.Perm (w'.hand.map (·.ticket) ++ w'.session.tickets) w'.built := by
  cases hw with
  | idle => exact h
  | @transfer as bs hand s ht hhand =>
      have hbuilt : (w.next s hand).built = w.built := by simp [Holding.next, ht.issuedBetween]
      rw [hbuilt]
      exact (places_perm ht.tickets hhand).trans h
  | @issue i hi s t c as bs hand hs hc ht hhand =>
      obtain ⟨-, hperm, hnext, -⟩ := hs.transfer ht
      have hbuilt : (w.next t hand).built = w.built ++ [c.ticket] := by
        simp [Holding.next, Session.issuedBetween_of_next hi hnext, hc]
      have hp := places_perm hperm hhand
      rw [List.map_append, List.append_assoc, List.map_singleton] at hp
      rw [hbuilt]
      refine hp.trans ((List.perm_append_comm.append_left _).trans ?_)
      rw [← List.append_assoc]
      exact h.append_right _

theorem Change.standing (hw : Change w w') (h : w.Standing) : w'.Standing := by
  cases hw with
  | idle => exact h
  | @transfer as bs hand s ht hhand =>
      refine ⟨ht.sound, fun u hu => ?_, ht.size ▸ h.first, fun b => ?_⟩
      · exact List.mem_append_left _ (h.known u ((places_perm ht.tickets hhand).mem_iff.mp hu))
      · exact (ht.builders b).symm ▸ ht.size ▸ h.builders b
  | @issue i hi s t c as bs hand hs hc ht hhand =>
      obtain ⟨hsound, hperm, hnext, hsize, hbuilders⟩ := hs.transfer ht
      refine ⟨hsound, fun u hu => ?_, hsize ▸ h.first, fun b => ?_⟩
      · have hu' := (places_perm hperm hhand).mem_iff.mp hu
        simp only [Holding.next, Session.issuedBetween_of_next hi hnext, ← hc]
        rw [List.map_append, List.append_assoc, List.mem_append] at hu'
        rcases hu' with hu' | hu'
        · exact List.mem_append_left _ (h.known u (List.mem_append_left _ hu'))
        · rcases List.mem_append.mp hu' with hu' | hu'
          · exact List.mem_append_right _ hu'
          · exact List.mem_append_left _ (h.known u (List.mem_append_right _ hu'))
      · exact (hbuilders b).symm ▸ hsize ▸ h.builders b

theorem Conserved.transfer (h : w.Conserved) {as bs hand : List Command} {s : Session}
    (ht : Session.Transfer w.session as s bs) (hhand : List.Perm (as ++ hand) (bs ++ w.hand)) :
    (w.next s hand).Conserved := by
  have hbuilt : (w.next s hand).built = w.built := by simp [Holding.next, ht.issuedBetween]
  refine ⟨ht.sound, (Change.transfer ht hhand).places h.places, fun i hi => ?_, hbuilt ▸ h.distinct,
    hbuilt ▸ h.low, ?_, fun b => ?_⟩
  · rw [hbuilt]
    exact (ht.next i).trans (h.next i (ht.size ▸ hi))
  · exact ht.size ▸ h.first
  · exact (ht.builders b).symm ▸ ht.size ▸ h.builders b

/-- A ticket of ledger `i` was given out to a command that went to the callers, or further. -/
theorem Conserved.issue (h : w.Conserved) {i : Nat} (hi : i < w.session.ledgers.size)
    {s t : Session} {c : Command} {as bs hand : List Command} (hs : Session.Issued w.session i s)
    (hc : c.ticket = ⟨i, ⟨(w.session.ledger i).next⟩⟩) (ht : Session.Transfer s as t bs)
    (hhand : List.Perm (as ++ hand) (bs ++ (w.hand ++ [c])))
    (hfew : (w.next t hand).built.length < 2 ^ 64) : (w.next t hand).Conserved := by
  obtain ⟨hsound, -, hnext, hsize, hbuilders⟩ := hs.transfer ht
  have hbuilt : (w.next t hand).built = w.built ++ [c.ticket] := by
    simp [Holding.next, Session.issuedBetween_of_next hi hnext, hc]
  rw [hbuilt, List.length_append, List.length_singleton] at hfew
  have hcount := List.countP_le_length (p := fun u => decide (u.ledger = i)) (l := w.built)
  have hid : c.ticket.id.raw.toNat = w.built.countP (·.ledger = i) + 1 := by
    rw [hc, h.next i hi, UInt64.toNat_ofNat_of_lt' (by simp only [UInt64.size]; omega)]
  have hledger : c.ticket.ledger = i := by rw [hc]
  refine ⟨hsound, (Change.issue hi hs hc ht hhand).places h.places, fun j hj => ?_, ?_, ?_, ?_,
    fun b => ?_⟩
  · have hj' : j < w.session.ledgers.size := hsize ▸ hj
    rw [hbuilt, List.countP_append, show ((w.next t hand).session.ledger j).next = _ from hnext j hj',
      h.next j hj']
    by_cases he : j = i
    · simp [he, hledger, UInt64.ofNat_add]
    · simp [he, hledger, Ne.symm he, UInt64.ofNat_add]
  · rw [hbuilt]
    refine nodup_concat h.distinct fun hmem => ?_
    -- The new id is higher than all others of its ledger.
    have hlow := h.low _ hmem
    rw [hledger, hid] at hlow
    omega
  · intro u hu
    rw [hbuilt] at hu ⊢
    rw [List.countP_append]
    rcases List.mem_append.mp hu with hu | hu
    · exact Nat.le_trans (h.low u hu) (Nat.le_add_right _ _)
    · rw [List.mem_singleton.mp hu, hid, hledger]
      simp [hledger]
  · exact hsize ▸ h.first
  · exact (hbuilders b).symm ▸ hsize ▸ h.builders b

/-- A call that neither takes a command from the callers nor gives them one. -/
theorem Change.call {s : Session} (ht : Session.Transfer w.session [] s []) :
    Change w (w.next s w.hand) :=
  .transfer ht (.refl _)

/-- A call that takes the command at a position of the callers' hand. -/
theorem Change.give {i : Nat} {c : Command} (hc : w.hand[i]? = some c) {s : Session}
    (ht : Session.Transfer w.session [c] s []) : Change w (w.next s (w.hand.eraseIdx i)) := by
  obtain ⟨hi, rfl⟩ := List.getElem?_eq_some_iff.mp hc
  exact .transfer ht (List.getElem_cons_eraseIdx_perm hi)

/-- A new command went from its builder to the session at once. -/
theorem Change.submitNew {i : Nat} (hi : i < w.session.ledgers.size) {s t : Session} {c : Command}
    (hs : Session.Issued w.session i s) (hc : c.ticket = ⟨i, ⟨(w.session.ledger i).next⟩⟩)
    (ht : Session.Transfer s [c] t []) : Change w (w.next t w.hand) :=
  .issue hi hs hc ht List.perm_append_comm

theorem Change.keepNew {i : Nat} (hi : i < w.session.ledgers.size) {s : Session} {c : Command}
    (hs : Session.Issued w.session i s) (hc : c.ticket = ⟨i, ⟨(w.session.ledger i).next⟩⟩) :
    Change w (w.next s (w.hand ++ [c])) :=
  .issue hi hs hc (.of_eq hs.sound rfl rfl rfl rfl fun _ => rfl) (.refl _)

theorem Standing.createSurface (h : w.Standing) {width height : UInt32} {backing : Backing}
    {r : Except Fault SurfaceId × Session}
    (hr : w.session.createSurface width height backing = .ok r) : Change w (w.next r.2 w.hand) := by
  rcases Session.createSurface_cases hr with ⟨e, rfl⟩ | ⟨record, c, -, -, -, -, -, rfl, hsub⟩
  · exact Change.call (.of_eq h.sound rfl rfl rfl rfl fun _ => rfl)
  · have hn := h.sound.numbered
    have ht := hn.sound.submit (Session.announcement ⟨w.session.surfaces.next⟩ width height record
      ⟨0, ⟨(w.session.ledger 0).next⟩⟩)
    rcases hsub with ⟨s', hs, rfl⟩ | ⟨e, s', hs, rfl⟩
    · rw [hs] at ht
      exact .submitNew h.first hn rfl (ht.trans (.of_eq ht.sound rfl rfl rfl rfl fun _ => rfl))
    · rw [hs] at ht
      exact .submitNew h.first hn rfl ht

theorem Standing.perform (h : w.Standing) (op : Operation) (hw : w.perform op = .ok w') :
    Change w w' := by
  have hidle : Session.Transfer w.session [] w.session [] := .of_eq h.sound rfl rfl rfl rfl fun _ => rfl
  have hdrop : ∀ v : View, Session.Transfer w.session [] (w.session.drop v) [] := fun _ =>
    .of_eq h.sound rfl rfl rfl rfl fun _ => rfl
  cases op with
  | createSurface width height backing =>
      obtain ⟨r, hr, hnext⟩ := Trap.bind_eq_ok.mp hw
      cases hnext
      exact h.createSurface hr
  | paintImage b surface x y width height pixels stride damage =>
      obtain ⟨r, hr, hnext⟩ := Trap.bind_eq_ok.mp hw
      cases hnext
      rcases Session.paintImage_cases hr with ⟨e, rfl⟩ | ⟨bbox, live, -, -, -, -, -, -, rfl⟩
      · exact .call (hdrop pixels)
      · have hi := h.sound.imageTicketed b
        exact .submitNew (h.builders b) hi rfl (hi.sound.submit _)
  | fillRect b surface colour x y width height =>
      cases hw
      rcases w.session.fillRect_cases b surface colour x y width height with
        ⟨e, hp⟩ | ⟨bbox, live, -, -, -, -, hp⟩
      · rw [hp]
        exact .call hidle
      · rw [hp]
        have hi := h.sound.ticketed b
        exact .submitNew (h.builders b) hi rfl (hi.sound.submit _)
  | buildBlit b surface x y width height pixels stride damage =>
      obtain ⟨r, hr, htaken⟩ := Trap.bind_eq_ok.mp hw
      cases htaken
      rcases Session.buildBlit_cases hr with ⟨e, rfl⟩ | ⟨bbox, -, -, -, -, rfl⟩
      · exact .call (hdrop pixels)
      · exact .keepNew (h.builders b) (h.sound.imageTicketed b) rfl
  | buildFill b surface colour x y width height =>
      cases hw
      rcases w.session.buildFill_cases b surface colour x y width height with ⟨e, hb⟩ | ⟨bbox, -, -, -, hb⟩
      · rw [hb]
        exact .call hidle
      · rw [hb]
        exact .keepNew (h.builders b) (h.sound.ticketed b) rfl
  | submit i =>
      simp only [Holding.perform] at hw
      split at hw
      · rename_i c hc
        cases hw
        exact .give hc (h.sound.submit c)
      · cases hw
        exact .idle
  | release i reason =>
      simp only [Holding.perform] at hw
      split at hw
      · rename_i c hc
        cases hw
        exact .give hc (h.sound.release c reason)
      · cases hw
        exact .idle
  | drainSurface surface =>
      cases hw
      refine .transfer (h.sound.drainSurface surface) ?_
      rw [List.nil_append]
      exact List.perm_append_comm
  | attachWorker name =>
      cases hw
      simp only [Session.attachWorker]
      split
      · exact .call hidle
      · exact Change.call (.of_eq h.sound rfl rfl rfl rfl fun _ => rfl)
  | getCommand =>
      cases hw
      exact .call h.sound.nextCommand
  | giveBack id group =>
      cases hw
      exact .call (h.sound.giveBack id group)
  | shutdown =>
      cases hw
      exact .call h.sound.shutdown
  | render store =>
      cases hw
      exact Change.call (.of_eq h.sound rfl rfl rfl rfl fun _ => rfl)

theorem Conserved.change (h : w.Conserved) (hw : Change w w') (hfew : w'.built.length < 2 ^ 64) :
    w'.Conserved := by
  cases hw with
  | idle => exact h
  | transfer ht hhand => exact h.transfer ht hhand
  | issue hi hs hc ht hhand => exact h.issue hi hs hc ht hhand hfew

/-! ## Runs -/

theorem Change.built (hw : Change w w') : ∃ issued, w'.built = w.built ++ issued := by
  cases hw with
  | idle => exact ⟨[], (List.append_nil _).symm⟩
  | transfer => exact ⟨_, rfl⟩
  | issue => exact ⟨_, rfl⟩

theorem Change.few (hw : Change w w') (hfew : w'.built.length < 2 ^ 64) : w.built.length < 2 ^ 64 := by
  obtain ⟨issued, hbuilt⟩ := hw.built
  rw [hbuilt, List.length_append] at hfew
  omega

theorem Standing.run_few (h : w.Standing) {ops : List Operation} (hw : w.run ops = .ok w')
    (hfew : w'.built.length < 2 ^ 64) : w.built.length < 2 ^ 64 := by
  induction ops generalizing w with
  | nil =>
      cases hw
      exact hfew
  | cons op ops ih =>
      simp only [run, bind, Except.bind] at hw
      split at hw
      · cases hw
      · rename_i w₁ hop
        have hstep := h.perform op hop
        exact hstep.few (ih (hstep.standing h) hw)

theorem Conserved.run (h : w.Conserved) {ops : List Operation} (hw : w.run ops = .ok w')
    (hfew : w'.built.length < 2 ^ 64) : w'.Conserved := by
  induction ops generalizing w with
  | nil =>
      cases hw
      exact h
  | cons op ops ih =>
      simp only [Holding.run, bind, Except.bind] at hw
      split at hw
      · cases hw
      · rename_i w₁ hop
        have hstep := h.standing.perform op hop
        exact ih (h.change hstep ((hstep.standing h.standing).run_few hw hfew)) hw

end Holding

/-- A session in which no command was built yet: any ring, any number of ledgers, and any builders,
each with one of the ledgers. -/
structure Session.Fresh (s : Session) : Prop where
  ring : s.ring.WellFormed
  queue : s.queue = []
  held : s.server.held = []
  notices : s.notices = #[]
  first : 0 < s.ledgers.size
  ledgers : ∀ i, s.ledger i = {}
  builders : ∀ b, (s.builder b).ledger < s.ledgers.size

theorem Session.Fresh.conserved {s : Session} (h : s.Fresh) : Holding.Conserved { session := s } where
  sound := by
    refine ⟨h.ring, by simp [h.held], fun i _ => ?_⟩
    simp [h.ledgers i, Session.released, h.notices]
  places := by simp [Session.tickets, Session.released, h.queue, h.held, h.notices]
  next i _ := by simp [h.ledgers i]
  distinct := .nil
  low _ ht := by cases ht
  first := h.first
  builders := h.builders

theorem Session.fresh_ofRing {ring : Ring Command} (hring : ring.WellFormed) (hnil : ring.toList = [])
    (retries surfaceCapacity : Nat) {skews : List UInt32} (hskews : skews ≠ []) :
    (Session.ofRing ring retries surfaceCapacity skews).Fresh where
  ring := hring
  queue := hnil
  held := rfl
  notices := rfl
  first := by simpa [ofRing] using List.length_pos_iff.mpr hskews
  ledgers i := by
    simp only [ledger, ofRing, List.getElem?_toArray, List.getElem?_map]
    cases skews[i]? <;> rfl
  builders b := by
    simp only [builder, ofRing, List.getElem?_toArray, List.getElem?_map, List.getElem?_zipIdx,
      List.size_toArray, List.length_map, Nat.zero_add]
    cases hb : skews[b]? with
    | none => exact List.length_pos_iff.mpr hskews
    | some skew => exact (List.getElem?_eq_some_iff.mp hb).1

/-- However a session is used, each ticket given out names one command in one place: with the
callers, on the ring, with the server, or released; its hook has fired once in the last case and
never in the others. Every ledger has counted its releases. -/
theorem Session.Fresh.each_command_in_one_place {s : Session} (h : s.Fresh)
    {ops : List Holding.Operation} {w : Holding} (hrun : Holding.run { session := s } ops = .ok w)
    (hfew : w.built.length < 2 ^ 64) :
    w.built.Nodup ∧
    (∀ t, (w.hand.map (·.ticket)).count t + (w.session.queue.map (·.ticket)).count t +
        (w.session.server.held.map (·.ticket)).count t + w.session.released.count t =
      if t ∈ w.built then 1 else 0) ∧
    ∀ i < w.session.ledgers.size,
      (w.session.ledger i).released.toNat = w.session.released.countP (·.ledger = i) := by
  have hc := h.conserved.run hrun hfew
  refine ⟨hc.distinct, fun t => ?_, fun i hi => ?_⟩
  · have hcount := hc.places.count_eq t
    simp only [Session.tickets, List.count_append] at hcount
    rw [← hc.distinct.count, ← hcount]
    omega
  · rw [hc.sound.counted i hi, UInt64.toNat_ofNat_of_lt']
    have hlen := hc.places.length_eq
    have hle := List.countP_le_length (p := fun u => decide (u.ledger = i)) (l := w.session.released)
    simp only [Session.tickets, List.length_append] at hlen
    simp only [UInt64.size]
    omega

/-- Two builders with a ledger each make commands with the same release id. The server takes both,
and the one that it held is released. -/
theorem each_command_in_one_place_equal_ids :
    ∃ s : Session, s.Fresh ∧ ∃ w, Holding.run { session := s }
        [.buildFill 0 ⟨0⟩ 0 0 0 1 1, .buildFill 1 ⟨0⟩ 0 0 0 1 1, .submit 0, .submit 0,
          .getCommand, .getCommand] = .ok w ∧
      w.built.length < 2 ^ 64 ∧ w.session.released = [⟨0, ⟨1⟩⟩] ∧ w.built.Nodup ∧
      (∀ t, (w.hand.map (·.ticket)).count t + (w.session.queue.map (·.ticket)).count t +
          (w.session.server.held.map (·.ticket)).count t + w.session.released.count t =
        if t ∈ w.built then 1 else 0) ∧
      ∀ i < w.session.ledgers.size,
        (w.session.ledger i).released.toNat = w.session.released.countP (·.ledger = i) := by
  have hfresh : (Session.ofRing (.ofCapacity 2 0) 0 2 [0, 0]).Fresh :=
    Session.fresh_ofRing (Ring.wellFormed_ofCapacity 2 0) (Ring.toList_ofCapacity 2 0) 0 2 (by simp)
  have hmade : (Holding.run { session := .ofRing (.ofCapacity 2 0) 0 2 [0, 0] }
        [.buildFill 0 ⟨0⟩ 0 0 0 1 1, .buildFill 1 ⟨0⟩ 0 0 0 1 1, .submit 0, .submit 0,
          .getCommand, .getCommand]).toOption.map (fun w => (w.built.length, w.session.released)) =
      some (2, [⟨0, ⟨1⟩⟩]) := by
    decide +kernel
  cases hrun : Holding.run { session := .ofRing (.ofCapacity 2 0) 0 2 [0, 0] }
      [.buildFill 0 ⟨0⟩ 0 0 0 1 1, .buildFill 1 ⟨0⟩ 0 0 0 1 1, .submit 0, .submit 0,
        .getCommand, .getCommand] with
  | error fault =>
      rw [hrun] at hmade
      cases hmade
  | ok w =>
      rw [hrun] at hmade
      obtain ⟨hbuilt, hreleased⟩ : w.built.length = 2 ∧ w.session.released = [⟨0, ⟨1⟩⟩] := by
        simpa [Except.toOption] using hmade
      exact ⟨_, hfresh, w, hrun, by omega, hreleased,
        hfresh.each_command_in_one_place hrun (by omega)⟩

end RemoteDisplay
