import RemoteDisplay.Proofs.Checked
import RemoteDisplay.Proofs.Geometry.Rect
import RemoteDisplay.Proofs.Ring.Queue
import RemoteDisplay.Session.Painting
import RemoteDisplay.Session.Server

/-!
# What the operations of a session do

Every operation either changes only pixel memory and counters, or moves commands between the ring,
the server and the ledgers. The lemmas list, for each operation, the states in which it can end.
-/

namespace RemoteDisplay.Session

variable {s : Session}

def queue (s : Session) : List Command := s.ring.toList

/-! ## Releasing -/

section Release

variable (c : Command) (reason : ReleaseReason)

@[simp] theorem release_ring : (s.release c reason).ring = s.ring := rfl

@[simp] theorem release_queue : (s.release c reason).queue = s.queue := rfl

@[simp] theorem release_server : (s.release c reason).server = s.server := rfl

@[simp] theorem release_surfaces : (s.release c reason).surfaces = s.surfaces := rfl

@[simp] theorem release_builders : (s.release c reason).builders = s.builders := rfl

@[simp] theorem release_accepted : (s.release c reason).accepted = s.accepted := rfl

@[simp] theorem release_calls : (s.release c reason).calls = s.calls := rfl

@[simp] theorem release_notices :
    (s.release c reason).notices = s.notices.push (c.notice reason) := rfl

end Release

/-- Releasing commands one after the other touches pixel memory, ledgers and notices only. -/
theorem releaseEach_eq (cs : List Command) (reason : ReleaseReason) :
    (s.releaseEach cs reason).2 = { s with
      store := (s.releaseEach cs reason).2.store
      ledgers := (s.releaseEach cs reason).2.ledgers
      notices := s.notices ++ (cs.map (·.notice reason)).toArray } := by
  simp only [releaseEach]
  induction cs generalizing s with
  | nil => simp
  | cons c cs ih =>
      rw [List.foldl_cons, ih]
      simp only [release_notices, release_ring, release_server, release_surfaces, release_builders,
        release_accepted, release_calls, List.map_cons, Session.mk.injEq, true_and]
      exact ⟨rfl, rfl, by simp⟩

section ReleaseEach

variable (cs : List Command) (reason : ReleaseReason)

@[simp] theorem releaseEach_ring : (s.releaseEach cs reason).2.ring = s.ring := by
  rw [releaseEach_eq]

@[simp] theorem releaseEach_server : (s.releaseEach cs reason).2.server = s.server := by
  rw [releaseEach_eq]

@[simp] theorem releaseEach_surfaces : (s.releaseEach cs reason).2.surfaces = s.surfaces := by
  rw [releaseEach_eq]

@[simp] theorem releaseEach_builders : (s.releaseEach cs reason).2.builders = s.builders := by
  rw [releaseEach_eq]

@[simp] theorem releaseEach_accepted : (s.releaseEach cs reason).2.accepted = s.accepted := by
  rw [releaseEach_eq]

@[simp] theorem releaseEach_calls : (s.releaseEach cs reason).2.calls = s.calls := by
  rw [releaseEach_eq]

@[simp] theorem releaseEach_notices : (s.releaseEach cs reason).2.notices =
    s.notices ++ (cs.map (·.notice reason)).toArray := by
  rw [releaseEach_eq]

end ReleaseEach

/-! ## Telling the worker -/

theorem callAttached_eq (c : WorkerCall) :
    s.callAttached c = { s with calls := (s.callAttached c).calls } := by
  simp only [callAttached]
  split <;> rfl

section CallAttached

variable (c : WorkerCall)

@[simp] theorem callAttached_ring : (s.callAttached c).ring = s.ring := by
  rw [callAttached_eq]

@[simp] theorem callAttached_server : (s.callAttached c).server = s.server := by
  rw [callAttached_eq]

@[simp] theorem callAttached_surfaces : (s.callAttached c).surfaces = s.surfaces := by
  rw [callAttached_eq]

@[simp] theorem callAttached_builders : (s.callAttached c).builders = s.builders := by
  rw [callAttached_eq]

@[simp] theorem callAttached_accepted : (s.callAttached c).accepted = s.accepted := by
  rw [callAttached_eq]

@[simp] theorem callAttached_notices : (s.callAttached c).notices = s.notices := by
  rw [callAttached_eq]

@[simp] theorem callAttached_store : (s.callAttached c).store = s.store := by
  rw [callAttached_eq]

@[simp] theorem callAttached_ledgers : (s.callAttached c).ledgers = s.ledgers := by
  rw [callAttached_eq]

end CallAttached

/-! ## Queueing -/

theorem enqueue?_cases (h : s.ring.WellFormed) (c : Command) :
    (s.ring.length < s.ring.capacity ∧ ∃ ring,
      s.enqueue? c = some { s with ring, accepted := s.accepted.push c } ∧
      ring.WellFormed ∧ ring.toList = s.queue ++ [c] ∧ ring.capacity = s.ring.capacity) ∨
    (s.ring.length = s.ring.capacity ∧ s.enqueue? c = none) := by
  rcases Nat.lt_or_eq_of_le h.length_le with hroom | hfull
  · obtain ⟨ring, hpush, hwf, hlist, hcap⟩ := h.push c hroom
    exact .inl ⟨hroom, ring, by simp [enqueue?, Ring.enqueue_eq_push?, hpush], hwf, hlist, hcap⟩
  · exact .inr ⟨hfull, by simp [enqueue?, Ring.enqueue_eq_push?, Ring.push?_of_full c hfull]⟩

theorem submit_cases (h : s.ring.WellFormed) (c : Command) :
    (s.ring.length < s.ring.capacity ∧ ∃ ring,
      s.submit c = (.ok (), { s with ring, accepted := s.accepted.push c }) ∧
      ring.WellFormed ∧ ring.toList = s.queue ++ [c] ∧ ring.capacity = s.ring.capacity) ∨
    (s.ring.length = s.ring.capacity ∧
      s.submit c = (.error (.ringFull s.ring.capacity), s.release c .rejected)) := by
  rcases s.enqueue?_cases h c with ⟨hroom, ring, he, hring⟩ | ⟨hfull, he⟩
  · exact .inl ⟨hroom, ring, by simp [submit, he], hring⟩
  · exact .inr ⟨hfull, by simp [submit, he]⟩

/-! ## Taking off the ring -/

theorem dequeue_of_nil (h : s.ring.WellFormed) (hnil : s.queue = []) : s.dequeue = (none, s) := by
  simp [dequeue, h.pop_of_nil hnil]

theorem dequeue_of_cons (h : s.ring.WellFormed) {c : Command} {cs : List Command}
    (hcons : s.queue = c :: cs) :
    ∃ ring, s.dequeue = (some c, { s with ring }) ∧ ring.WellFormed ∧ ring.toList = cs ∧
      ring.capacity = s.ring.capacity := by
  obtain ⟨ring, hpop, hring⟩ := h.pop_of_cons hcons
  exact ⟨ring, by simp [dequeue, hpop], hring⟩

theorem drain_eq (h : s.ring.WellFormed) :
    ∃ ring, s.drain = (s.queue, { s with ring }) ∧ ring.WellFormed ∧ ring.toList = [] ∧
      ring.capacity = s.ring.capacity := by
  obtain ⟨hall, hring⟩ := h.drain
  exact ⟨s.ring.drain.2, by simp [drain, hall, queue], hring⟩

theorem drainSurface_eq (h : s.ring.WellFormed) (id : SurfaceId) :
    ∃ ring, s.drainSurface id = (s.queue.filter (·.surface = id), { s with ring }) ∧
      ring.WellFormed ∧ ring.toList = s.queue.filter (fun c => !decide (c.surface = id)) ∧
      ring.capacity = s.ring.capacity := by
  obtain ⟨hall, hring⟩ := h.drainWhere (fun c => decide (c.surface = id))
  exact ⟨(s.ring.drainWhere fun c => decide (c.surface = id)).2, by simp [drainSurface, hall, queue], hring⟩

theorem destroySurface_eq (s : Session) (id : SurfaceId) : (s.destroySurface id).2 =
    { s with surfaces := { s.surfaces with live := s.surfaces.live.filter (·.id ≠ id) } } := by
  simp only [destroySurface, SurfaceTable.destroy]
  split
  · rename_i he
    split at he
    · cases he
      rfl
    · cases he
  · rename_i he
    split at he
    · cases he
    · rename_i hnone
      have hlive : s.surfaces.live.filter (·.id ≠ id) = s.surfaces.live := by
        refine List.filter_eq_self.mpr fun x hx => ?_
        simp only [SurfaceTable.contains, SurfaceTable.find?, List.find?_isSome, decide_eq_true_eq,
          not_exists, not_and] at hnone
        simpa using hnone x hx
      rw [hlive]

/-- The session after the queued commands of a surface were released and the surface forgotten. -/
def withdrawSurface (s : Session) (id : SurfaceId) : Session :=
  (((s.drainSurface id).2.releaseEach (s.drainSurface id).1 .teardown).2.destroySurface id).2

theorem withdrawSurface_spec (h : s.ring.WellFormed) (id : SurfaceId) :
    (s.withdrawSurface id).ring.WellFormed ∧
    (s.withdrawSurface id).queue = s.queue.filter (fun c => !decide (c.surface = id)) ∧
    (s.withdrawSurface id).notices = s.notices ++
      ((s.queue.filter (·.surface = id)).map (·.notice .teardown)).toArray ∧
    (s.withdrawSurface id).surfaces = { s.surfaces with
      live := s.surfaces.live.filter (·.id ≠ id) } ∧
    (s.withdrawSurface id).server = s.server ∧ (s.withdrawSurface id).calls = s.calls ∧
    (s.withdrawSurface id).accepted = s.accepted ∧
    (s.withdrawSurface id).builders = s.builders := by
  obtain ⟨ring, hdrain, hwf, hlist, -⟩ := s.drainSurface_eq h id
  simp only [withdrawSurface, hdrain, destroySurface_eq]
  refine ⟨?_, ?_, ?_, ?_, ?_, ?_, ?_, ?_⟩
  · simpa using hwf
  · simpa [queue] using hlist
  all_goals simp

/-- The session that has stopped its worker and is closed, with everything still in its place. -/
def closing (s : Session) : Session :=
  { s.callAttached .stop with server := { (s.callAttached .stop).server with closed := true } }

theorem closing_drain (h : s.ring.WellFormed) :
    ∃ t : Session, s.closing.drain = (s.queue, t) ∧ t.ring.WellFormed ∧ t.queue = [] ∧
      t.server = { s.server with closed := true } ∧ t.notices = s.notices ∧
      t.calls = (s.callAttached .stop).calls ∧ t.accepted = s.accepted ∧ t.surfaces = s.surfaces ∧
      t.builders = s.builders := by
  have hring : s.closing.ring = s.ring := callAttached_ring .stop
  have hqueue : s.closing.queue = s.queue := by rw [queue, hring, queue]
  obtain ⟨ring, hdrain, hwf, hnil, -⟩ := drain_eq (s := s.closing) (hring ▸ h)
  rw [hqueue] at hdrain
  exact ⟨_, hdrain, hwf, hnil, by simp [closing], callAttached_notices .stop, rfl,
    callAttached_accepted .stop, callAttached_surfaces .stop, callAttached_builders .stop⟩

/-- A shutdown leaves nothing on the ring and nothing with the server. -/
theorem shutdown_spec (h : s.ring.WellFormed) :
    s.shutdown.1 = (s.queue ++ s.server.held).map (·.notice .shutdown) ∧
    s.shutdown.2.ring.WellFormed ∧ s.shutdown.2.queue = [] ∧
    s.shutdown.2.server = { s.server with closed := true, held := [] } ∧
    s.shutdown.2.notices = s.notices ++ s.shutdown.1.toArray ∧
    s.shutdown.2.calls = (s.callAttached .stop).calls ∧ s.shutdown.2.accepted = s.accepted ∧
    s.shutdown.2.surfaces = s.surfaces ∧ s.shutdown.2.builders = s.builders := by
  obtain ⟨t, hdrain, hwf, hnil, hserver, hnotices, hcalls, haccepted, hsurfaces, hbuilders⟩ :=
    closing_drain h
  have hall : s.shutdown = ((s.queue ++ s.server.held).map (·.notice .shutdown),
      (releaseEach { (t.releaseEach s.queue .shutdown).2 with server.held := [] }
        s.server.held .shutdown).2) := by
    have hheld : (t.releaseEach s.queue .shutdown).2.server.held = s.server.held := by
      rw [releaseEach_server, hserver]
    rw [closing] at hdrain
    simp only [shutdown, hdrain, releaseAll, hheld, List.map_append]
    rfl
  rw [hall]
  refine ⟨rfl, ?_, ?_, ?_, ?_, ?_, ?_, ?_, ?_⟩
  · simpa using hwf
  · simpa [queue] using hnil
  · simp [hserver]
  · simp [hnotices]
  · simp [hcalls]
  · simp [haccepted]
  · simp [hsurfaces]
  · simp [hbuilders]

/-! ## Fetching -/

/-- The session once the server holds a drawable, in place of one with the same id. -/
def holding (s : Session) (c : Command) : Session :=
  { s with
    server.held := (insertHeld c s.server.held).2
    server.dispatched := s.server.dispatched + 1 }

theorem handOff_eq (c : Command) : s.handOff c =
    match (insertHeld c s.server.held).1 with
    | some d => (s.holding c).release d .rejected
    | none => s.holding c := rfl

section HandOff

variable (c : Command)

@[simp] theorem handOff_ring : (s.handOff c).ring = s.ring := by
  simp only [handOff]
  split <;> rfl

@[simp] theorem handOff_accepted : (s.handOff c).accepted = s.accepted := by
  simp only [handOff]
  split <;> rfl

@[simp] theorem handOff_surfaces : (s.handOff c).surfaces = s.surfaces := by
  simp only [handOff]
  split <;> rfl

@[simp] theorem handOff_builders : (s.handOff c).builders = s.builders := by
  simp only [handOff]
  split <;> rfl

@[simp] theorem handOff_calls : (s.handOff c).calls = s.calls := by
  simp only [handOff]
  split <;> rfl

@[simp] theorem handOff_server : (s.handOff c).server = { s.server with
    held := (insertHeld c s.server.held).2, dispatched := s.server.dispatched + 1 } := by
  simp only [handOff]
  split <;> rfl

theorem handOff_notices : (s.handOff c).notices =
    s.notices ++ ((insertHeld c s.server.held).1.toList.map (·.notice .rejected)).toArray := by
  simp only [handOff]
  split
  · rename_i d hd
    rw [hd]
    simp
  · rename_i hnone
    rw [hnone]
    simp

theorem find?_insertHeld (ds : List Command) :
    (insertHeld c ds).2.find? (·.id = c.id) = some c := by
  induction ds with
  | nil => simp [insertHeld]
  | cons d ds ih =>
      simp only [insertHeld]
      split
      · simp
      · split
        · simp
        · rename_i hne
          rw [List.find?_cons_of_neg (by simpa using Ne.symm hne)]
          exact ih

theorem heldCommand?_handOff : (s.handOff c).heldCommand? c.id = some c := by
  rw [heldCommand?, handOff_server]
  exact find?_insertHeld c s.server.held

end HandOff

/-- How the search for the next drawable goes: announcements are delivered on the way. -/
inductive Fetch : Session → Except Fault (Option Dispatched) → Session → Prop where
  | stop (s : Session) : Fetch s (.ok none) s
  | draw {s : Session} {c : Command} {ring : Ring Command} (hqueue : s.queue = c :: ring.toList)
      (hring : ring.WellFormed) (hrecord : c.record? = none) :
      Fetch s (.ok (some c.dispatched)) (handOff { s with ring } c)
  | reject {s : Session} {c : Command} {ring : Ring Command} {record : Wire.SurfaceRecord}
      (hqueue : s.queue = c :: ring.toList) (hring : ring.WellFormed)
      (hrecord : c.record? = some record) (hworker : s.server.worker.isNone) :
      Fetch s (.error .surfaceBeforeWorker) (release { s with ring } c .rejected)
  | announce {s s' : Session} {c : Command} {ring : Ring Command} {record : Wire.SurfaceRecord}
      {r : Except Fault (Option Dispatched)} (hqueue : s.queue = c :: ring.toList)
      (hring : ring.WellFormed) (hrecord : c.record? = some record)
      (hrest : Fetch ((call { s with ring } (.createSurface c.surface record)).release c .delivered)
        r s') :
      Fetch s r s'

theorem fetch_spec (h : s.ring.WellFormed) (n : Nat) : Fetch s (s.fetch n).1 (s.fetch n).2 := by
  induction n generalizing s with
  | zero => exact .stop s
  | succ n ih =>
      cases hq : s.queue with
      | nil =>
          simp only [fetch, dequeue_of_nil h hq]
          exact .stop s
      | cons c cs =>
          obtain ⟨ring, hd, hwf, rfl, -⟩ := dequeue_of_cons h hq
          simp only [fetch, hd]
          split
          · exact .draw hq hwf ‹_›
          · rename_i record hrecord
            split
            · exact .reject hq hwf hrecord ‹_›
            · exact .announce hq hwf hrecord (ih hwf)

/-- The drawable that the server took with an answer. -/
def takenBy (s : Session) : Except Fault (Option Dispatched) → List Command
  | .ok (some d) => (s.heldCommand? d.id).toList
  | _ => []

/-- A fetch passes announcements, and then it takes the drawable that it answers. -/
theorem Fetch.taken {s' : Session} {r : Except Fault (Option Dispatched)} (hf : Fetch s r s') :
    ∃ passed taken : List Command, s.queue = passed ++ (taken ++ s'.queue) ∧
      (∀ c ∈ passed, c.record? ≠ none) ∧ (∀ c ∈ taken, c.record? = none) ∧
      s'.surfaces = s.surfaces ∧ s'.takenBy r = taken := by
  induction hf with
  | stop s => exact ⟨[], [], rfl, by simp, by simp, rfl, rfl⟩
  | @draw s c ring hqueue hring hrecord =>
      refine ⟨[], [c], ?_, by simp, by simpa using hrecord, ?_, ?_⟩
      · simpa [queue] using hqueue
      · rw [handOff_surfaces]
      · have hid : c.dispatched.id = c.id := rfl
        rw [takenBy, hid, heldCommand?_handOff]
        rfl
  | @reject s c ring record hqueue hring hrecord hworker =>
      exact ⟨[c], [], hqueue, by simp [hrecord], by simp, rfl, rfl⟩
  | @announce s s' c ring record r hqueue hring hrecord hrest ih =>
      obtain ⟨passed, taken, hsplit, hpassed, hdrawn, hsurfaces, htaken⟩ := ih
      refine ⟨c :: passed, taken, ?_, ?_, hdrawn, hsurfaces, htaken⟩
      · rw [hqueue, List.cons_append]
        exact congrArg (c :: ·) hsplit
      · intro d hd
        rcases List.mem_cons.mp hd with rfl | hd
        · simp [hrecord]
        · exact hpassed d hd

/-- What the server gives back is in a foreign group, or unknown, or the command held under the id. -/
theorem giveBack_cases (id : ReleaseId) (group : UInt32) :
    (group ≠ Wire.memorySlotGroup ∧ s.giveBack id group = (.error (.foreignGroup group), s)) ∨
    (group = Wire.memorySlotGroup ∧ s.heldCommand? id = none ∧
      s.giveBack id group = (.error (.unknownRelease id.raw), s)) ∨
    ∃ c, group = Wire.memorySlotGroup ∧ s.heldCommand? id = some c ∧
      s.giveBack id group = (.ok (c.notice .server),
        release { s with server.held := s.server.held.filter (·.id ≠ id) } c .server) := by
  by_cases hgroup : group = Wire.memorySlotGroup
  · cases hheld : s.heldCommand? id with
    | none => exact .inr (.inl ⟨hgroup, rfl, by simp [giveBack, hgroup, hheld]⟩)
    | some c => exact .inr (.inr ⟨c, hgroup, rfl, by simp [giveBack, hgroup, hheld]⟩)
  · exact .inl ⟨hgroup, by simp [giveBack, hgroup]⟩

/-- What the server gives back, right or wrong, leaves the queue, the surfaces and the worker alone. -/
theorem giveBack_still (id : ReleaseId) (group : UInt32) :
    (s.giveBack id group).2.ring = s.ring ∧ (s.giveBack id group).2.surfaces = s.surfaces ∧
      (s.giveBack id group).2.calls = s.calls := by
  simp only [giveBack]
  split
  · exact ⟨rfl, rfl, rfl⟩
  · split <;> exact ⟨rfl, rfl, rfl⟩

/-! ## Announcing -/

def announcement (id : SurfaceId) (width height : UInt32) (record : Wire.SurfaceRecord)
    (ticket : Ticket) : Command :=
  { surface := id, bbox := .ofOrigin 0 0 width height, payload := .surface record, ticket }

/-- The session after the next surface number and a release id of the first ledger are taken. -/
def numbered (s : Session) : Session :=
  (issue { s with surfaces := s.surfaces.takeNumber.2 } 0).2

section CreateSurface

variable {width height : UInt32} {backing : Backing}

/-- The table has room, the backing has the size of the surface, and a number is left. -/
structure Admits (s : Session) (width height : UInt32) (backing : Backing) : Prop where
  room : s.surfaces.live.length < s.surfaces.capacity
  width : backing.width = width
  height : backing.height = height
  number : s.surfaces.next.toNat + 1 < 4294967296

/-- The announcement that the session makes next. -/
def nextAnnouncement (s : Session) (width height : UInt32) (record : Wire.SurfaceRecord) : Command :=
  announcement ⟨s.surfaces.next⟩ width height record ⟨0, ⟨(s.ledger 0).next⟩⟩

theorem createSurface_of_not_admits (h : ¬s.Admits width height backing) :
    ∃ e, s.createSurface width height backing = .ok (.error e, s) := by
  by_cases hroom : s.surfaces.live.length ≥ s.surfaces.capacity
  · exact ⟨_, if_pos hroom⟩
  · rw [createSurface, if_neg hroom]
    by_cases hsize : backing.width ≠ width ∨ backing.height ≠ height
    · exact ⟨_, if_pos hsize⟩
    · simp only [ne_eq, not_or, not_not] at hsize
      have hnext : ¬s.surfaces.next.toNat + 1 < 4294967296 :=
        fun hnext => h ⟨Nat.lt_of_not_le hroom, hsize.1, hsize.2, hnext⟩
      simp only [SurfaceTable.takeNumber, if_neg hnext, hsize, ne_eq, not_true_eq_false, or_self, if_false]
      exact ⟨_, rfl⟩

theorem createSurface_of_admits (h : s.Admits width height backing) :
    s.createSurface width height backing =
      (Wire.SurfaceRecord.primary width height 0).map fun record =>
        match s.numbered.submit (s.nextAnnouncement width height record) with
        | (.error e, t) => (.error e, t)
        | (.ok (), t) => (.ok ⟨s.surfaces.next⟩,
            { t with surfaces := t.surfaces.insert ⟨⟨s.surfaces.next⟩, backing⟩ }) := by
  have hnumbered : s.numbered = (issue { s with
      surfaces := { s.surfaces with next := s.surfaces.next + 1 } } 0).2 := by
    simp [numbered, SurfaceTable.takeNumber, if_pos h.number]
  rw [createSurface, if_neg (Nat.not_le.mpr h.room), if_neg (by simp [h.width, h.height])]
  simp only [SurfaceTable.takeNumber, if_pos h.number]
  cases Wire.SurfaceRecord.primary width height 0 with
  | error trap => rfl
  | ok record =>
      simp only [bind, Except.bind, Except.map, hnumbered, nextAnnouncement, announcement, issue, ledger]
      generalize Session.submit _ _ = r
      obtain ⟨_ | _, t⟩ := r <;> rfl

theorem exists_createSurface {record : Wire.SurfaceRecord}
    (hrecord : Wire.SurfaceRecord.primary width height 0 = .ok record) (backing : Backing) :
    ∃ answer t, s.createSurface width height backing = .ok (answer, t) := by
  by_cases hadmits : s.Admits width height backing
  · rw [createSurface_of_admits hadmits, hrecord]
    exact ⟨_, _, rfl⟩
  · obtain ⟨e, he⟩ := createSurface_of_not_admits hadmits
    exact ⟨_, _, he⟩

/-- An announcement is refused outright, or it takes a number and a release id and is submitted. -/
theorem createSurface_cases {r : Except Fault SurfaceId × Session}
    (h : s.createSurface width height backing = .ok r) :
    (∃ e, r = (.error e, s)) ∨
    ∃ record c, Wire.SurfaceRecord.primary width height 0 = .ok record ∧
      backing.width = width ∧ backing.height = height ∧
      s.surfaces.live.length < s.surfaces.capacity ∧
      s.surfaces.next.toNat + 1 < 4294967296 ∧
      c = announcement ⟨s.surfaces.next⟩ width height record ⟨0, ⟨(s.ledger 0).next⟩⟩ ∧
      ((∃ s', s.numbered.submit c = (.ok (), s') ∧
          r = (.ok ⟨s.surfaces.next⟩,
            { s' with surfaces := s'.surfaces.insert ⟨⟨s.surfaces.next⟩, backing⟩ })) ∨
        ∃ e s', s.numbered.submit c = (.error e, s') ∧ r = (.error e, s')) := by
  by_cases hadmits : s.Admits width height backing
  · rw [createSurface_of_admits hadmits] at h
    cases hrecord : Wire.SurfaceRecord.primary width height 0 with
    | error trap =>
        rw [hrecord] at h
        cases h
    | ok record =>
        refine .inr ⟨record, s.nextAnnouncement width height record, rfl, hadmits.width, hadmits.height,
          hadmits.room, hadmits.number, rfl, ?_⟩
        rw [hrecord] at h
        rcases hsub : s.numbered.submit (s.nextAnnouncement width height record) with ⟨_ | _, s'⟩
        · simp only [Except.map, hsub] at h
          cases h
          exact .inr ⟨_, s', rfl, rfl⟩
        · simp only [Except.map, hsub] at h
          cases h
          exact .inl ⟨s', rfl, rfl⟩
  · obtain ⟨e, he⟩ := createSurface_of_not_admits hadmits
    cases h.symm.trans he
    exact .inl ⟨e, rfl⟩

end CreateSurface

theorem lt_add_one {n : UInt32} (h : n.toNat + 1 < 4294967296) : n < n + 1 := by
  rw [UInt32.lt_iff_toNat_lt, UInt32.toNat_add, UInt32.toNat_one, Nat.mod_eq_of_lt h]
  omega

theorem numbered_surfaces (h : s.surfaces.next.toNat + 1 < 4294967296) :
    s.numbered.surfaces = { s.surfaces with next := s.surfaces.next + 1 } := by
  simp [numbered, issue, SurfaceTable.takeNumber, if_pos h]

/-- A new surface is announced at the end of the queue and live, under the next number. -/
theorem createSurface_ok (h : s.ring.WellFormed) {width height : UInt32} {backing : Backing}
    {id : SurfaceId} {s' : Session}
    (hr : s.createSurface width height backing = .ok (.ok id, s')) :
    ∃ record ticket, s.surfaces.next.toNat + 1 < 4294967296 ∧ id = ⟨s.surfaces.next⟩ ∧
      backing.width = width ∧ backing.height = height ∧
      s'.queue = s.queue ++ [announcement id width height record ticket] ∧
      s'.surfaces = { s.surfaces with
        next := s.surfaces.next + 1, live := s.surfaces.live ++ [⟨id, backing⟩] } ∧
      s'.server = s.server ∧ s'.notices = s.notices ∧
      Wire.SurfaceRecord.primary width height 0 = .ok record := by
  rcases createSurface_cases hr with ⟨e, he⟩ | ⟨record, c, hrecord, hwidth, hheight, -, hnext, rfl, hsub⟩
  · cases he
  · rcases hsub with ⟨t, hs, hlive⟩ | ⟨e, t, -, he⟩
    · cases hlive
      rcases s.numbered.submit_cases h
        (announcement ⟨s.surfaces.next⟩ width height record ⟨0, ⟨(s.ledger 0).next⟩⟩) with
        ⟨-, ring, hq, -, hlist, -⟩ | ⟨-, hq⟩
      · rw [hs] at hq
        cases hq
        refine ⟨record, _, hnext, rfl, hwidth, hheight, hlist, ?_, rfl, rfl, hrecord⟩
        rw [numbered_surfaces hnext]
        rfl
      · rw [hs] at hq
        cases hq
    · cases he

theorem createSurface_error (h : s.ring.WellFormed) {width height : UInt32} {backing : Backing}
    {e : Fault} {s' : Session} (hr : s.createSurface width height backing = .ok (.error e, s')) :
    s'.queue = s.queue ∧ s.surfaces.next ≤ s'.surfaces.next ∧
      s'.surfaces.live = s.surfaces.live ∧ s'.server = s.server := by
  rcases createSurface_cases hr with ⟨e, he⟩ | ⟨record, c, -, -, -, -, hnext, rfl, hsub⟩
  · cases he
    exact ⟨rfl, UInt32.le_refl _, rfl, rfl⟩
  · rcases hsub with ⟨t, -, he⟩ | ⟨e, t, hs, he⟩
    · cases he
    · cases he
      rcases s.numbered.submit_cases h
        (announcement ⟨s.surfaces.next⟩ width height record ⟨0, ⟨(s.ledger 0).next⟩⟩) with
        ⟨-, ring, hq, -⟩ | ⟨-, hq⟩
      · rw [hs] at hq
        cases hq
      · rw [hs] at hq
        cases hq
        refine ⟨rfl, ?_, ?_, rfl⟩
        · rw [release_surfaces, numbered_surfaces hnext]
          exact UInt32.le_of_lt (lt_add_one hnext)
        · rw [release_surfaces, numbered_surfaces hnext]

/-! ## Building drawables -/

/-- The ticket that the next drawable of a builder gets. -/
def nextTicket (s : Session) (b : Nat) : Ticket :=
  ⟨(s.builder b).ledger, ⟨(s.ledger (s.builder b).ledger).next⟩⟩

def ticketed (s : Session) (b : Nat) : Session := (s.issue (s.builder b).ledger).2

def imageNumbered (s : Session) (b : Nat) : Session := (s.takeImageNumber b).2

/-- The fill that a builder makes next. -/
def fillCommand (s : Session) (b : Nat) (surface : SurfaceId) (colour : UInt32) (bbox : Rect) :
    Command :=
  { surface, bbox
    payload := .fill (fillDrawable surface bbox (s.nextTicket b).id (s.drawingTime b) colour)
    ticket := s.nextTicket b }

/-- The copy that a builder makes next. -/
def blitCommand (s : Session) (b : Nat) (surface : SurfaceId) (bbox : Rect) (width height : UInt32)
    (pixels : View) (stride : UInt32) (damage : Damage) : Command :=
  { surface, bbox
    payload := .copy {
      drawable := copyDrawable surface bbox (s.nextTicket b).id (s.drawingTime b) width height
      image := imageRecord ⟨(s.builder b).nextImage⟩ width height stride
      imageId := ⟨(s.builder b).nextImage⟩
      damage := damage.regions
      pixels }
    ticket := s.nextTicket b }

/-- There is memory for a copy of the damage. -/
def CanCopy (s : Session) (damage : Damage) : Prop :=
  s.store.reservationError (damage.regions.length * regionSize) = none

section Building

variable {b : Nat} {surface : SurfaceId} {colour : UInt32} {x y : Int32} {width height : UInt32}
  {pixels : View} {stride : UInt32} {damage : Damage}

theorem builder_modify_ledger (i : Nat) (f : Builder → Builder) (hf : ∀ x, (f x).ledger = x.ledger) :
    (builder { s with builders := s.builders.modify b f } i).ledger = (s.builder i).ledger := by
  simp only [builder, Array.getElem?_modify]
  split
  · cases s.builders[i]? <;> simp [hf]
  · rfl

theorem builder_imageNumbered_ledger (i : Nat) :
    ((s.imageNumbered b).builder i).ledger = (s.builder i).ledger := by
  simp only [imageNumbered, takeImageNumber]
  split
  · exact builder_modify_ledger i _ fun _ => rfl
  · rfl

theorem takeImageNumber_of_lt (h : (s.builder b).nextImage.toNat + 1 < 4294967296) :
    s.takeImageNumber b = (.ok ⟨(s.builder b).nextImage⟩, s.imageNumbered b) := by
  simp [takeImageNumber, imageNumbered, h]

theorem imageNumbered_eq :
    s.imageNumbered b = { s with builders := (s.imageNumbered b).builders } := by
  simp only [imageNumbered, takeImageNumber]
  split <;> rfl

theorem size_imageNumbered : (s.imageNumbered b).builders.size = s.builders.size := by
  simp only [imageNumbered, takeImageNumber]
  split
  · simp
  · rfl

theorem nextImage_imageNumbered (hb : b < s.builders.size)
    (h : (s.builder b).nextImage.toNat + 1 < 4294967296) :
    ((s.imageNumbered b).builder b).nextImage.toNat = (s.builder b).nextImage.toNat + 1 := by
  have hn : ((s.imageNumbered b).builder b).nextImage = (s.builder b).nextImage + 1 := by
    have heq : s.imageNumbered b = { s with
        builders := s.builders.modify b fun x => { x with nextImage := (s.builder b).nextImage + 1 } } := by
      simp only [imageNumbered, takeImageNumber, if_pos h]
    rw [heq, builder, Array.getElem?_modify, if_pos rfl, Array.getElem?_eq_getElem hb]
    rfl
  rw [hn, UInt32.toNat_add, UInt32.toNat_one, Nat.mod_eq_of_lt h]

theorem nextTicket_imageNumbered : (s.imageNumbered b).nextTicket b = s.nextTicket b := by
  have hledger : ∀ i, (s.imageNumbered b).ledger i = s.ledger i := by
    intro i
    simp only [imageNumbered, takeImageNumber]
    split <;> rfl
  simp only [nextTicket, builder_imageNumbered_ledger, hledger]

theorem drawingTime_imageNumbered : (s.imageNumbered b).drawingTime b = s.drawingTime b := by
  simp only [imageNumbered, takeImageNumber]
  split
  · simp only [drawingTime, builder, Array.getElem?_modify, if_true]
    cases s.builders[b]? <;> rfl
  · rfl

/-- Only a question that the view does not answer keeps a copy from being built or refused. -/
theorem buildBlit_of_trap {trap : Trap} (h : pixels.covers s.store width height stride = .error trap) :
    s.buildBlit b surface x y width height pixels stride damage = .error trap := by
  rw [buildBlit, h]
  rfl

theorem buildBlit_of_not_covered (h : pixels.covers s.store width height stride = .ok false) :
    s.buildBlit b surface x y width height pixels stride damage =
      .ok (.error (.notCovered width height stride pixels), s.drop pixels) := by
  rw [buildBlit, h]
  rfl

theorem buildBlit_of_covered (h : pixels.covers s.store width height stride = .ok true) :
    s.buildBlit b surface x y width height pixels stride damage = .ok
      (match placement x y width height with
      | .error e => (.error e, s.drop pixels)
      | .ok bbox =>
        match s.store.reservationError (damage.regions.length * regionSize) with
        | some reason => (.error (.damageMemory reason), s.drop pixels)
        | none =>
          if (s.builder b).nextImage.toNat + 1 < 4294967296 then
            (.ok (s.blitCommand b surface bbox width height pixels stride damage),
              (s.imageNumbered b).ticketed b)
          else (.error .imageNumbersExhausted, s.drop pixels)) := by
  rw [buildBlit, h]
  simp only [bind, Except.bind, pure, Except.pure, Bool.not_true, Bool.false_eq_true, if_false]
  cases placement x y width height with
  | error e => rfl
  | ok bbox =>
      cases s.store.reservationError (damage.regions.length * regionSize) with
      | some reason => rfl
      | none =>
          by_cases hnext : (s.builder b).nextImage.toNat + 1 < 4294967296
          · simp only [takeImageNumber_of_lt hnext]
            rw [if_pos hnext, blitCommand, ← nextTicket_imageNumbered,
              ← drawingTime_imageNumbered (s := s)]
            rfl
          · simp only [takeImageNumber, if_neg hnext]

variable (s) (b) (surface) (colour) (x y) (width height) (pixels) (stride) (damage)

theorem buildFill_cases :
    (∃ e, s.buildFill b surface colour x y width height = (.error e, s)) ∨
    ∃ bbox, width ≠ 0 ∧ height ≠ 0 ∧ Rect.ofOrigin? x y width height = some bbox ∧
      s.buildFill b surface colour x y width height =
        (.ok (s.fillCommand b surface colour bbox), s.ticketed b) := by
  simp only [buildFill]
  split
  · exact .inl ⟨_, rfl⟩
  · rename_i hsize
    simp only [not_or] at hsize
    cases hr : Rect.ofOrigin? x y width height with
    | none =>
        simp only [placement, hr]
        exact .inl ⟨_, rfl⟩
    | some bbox =>
        simp only [placement, hr]
        exact .inr ⟨bbox, hsize.1, hsize.2, rfl, rfl⟩

variable {s b surface x y width height pixels stride damage} in
/-- Building a copy fails and gives up the view, or takes an image number and a release id. -/
theorem buildBlit_cases {r : Except Fault Command × Session}
    (h : s.buildBlit b surface x y width height pixels stride damage = .ok r) :
    (∃ e, r = (.error e, s.drop pixels)) ∨
    ∃ bbox, pixels.covers s.store width height stride = .ok true ∧
      Rect.ofOrigin? x y width height = some bbox ∧ s.CanCopy damage ∧
      (s.builder b).nextImage.toNat + 1 < 4294967296 ∧
      r = (.ok (s.blitCommand b surface bbox width height pixels stride damage),
        (s.imageNumbered b).ticketed b) := by
  cases hcovers : pixels.covers s.store width height stride with
  | error trap => cases h.symm.trans (buildBlit_of_trap hcovers)
  | ok covered =>
      cases covered with
      | false =>
          cases h.symm.trans (buildBlit_of_not_covered hcovers)
          exact .inl ⟨_, rfl⟩
      | true =>
          rw [buildBlit_of_covered hcovers, Except.ok.injEq] at h
          subst h
          cases hr : Rect.ofOrigin? x y width height with
          | none =>
              simp only [placement, hr]
              exact .inl ⟨_, rfl⟩
          | some bbox =>
              simp only [placement, hr]
              cases hmemory : s.store.reservationError (damage.regions.length * regionSize) with
              | some reason => exact .inl ⟨_, rfl⟩
              | none =>
                  by_cases hnext : (s.builder b).nextImage.toNat + 1 < 4294967296
                  · exact .inr ⟨bbox, trivial, rfl, hmemory, hnext, if_pos hnext⟩
                  · exact .inl ⟨_, if_neg hnext⟩

/-- A fill of an area of a live surface fails without a trace, or is built and submitted. -/
theorem fillRect_cases :
    (∃ e, s.fillRect b surface colour x y width height = (.error e, s)) ∨
    ∃ bbox live, s.surfaces.find? surface = some live ∧ width ≠ 0 ∧ height ≠ 0 ∧
      Rect.ofOrigin? x y width height = some bbox ∧
      s.fillRect b surface colour x y width height =
        (s.ticketed b).submit (s.fillCommand b surface colour bbox) := by
  simp only [fillRect]
  cases ht : s.target surface x y width height with
  | error e => exact .inl ⟨e, rfl⟩
  | ok u =>
      rcases s.buildFill_cases b surface colour x y width height with ⟨e, hb⟩ | ⟨bbox, hw, hh, hr, hb⟩
      · simp only [hb]
        exact .inl ⟨e, rfl⟩
      · simp only [hb]
        cases hf : s.surfaces.find? surface with
        | none => simp [target, placement, hr, hf, bind, Except.bind] at ht
        | some live => exact .inr ⟨bbox, live, rfl, hw, hh, hr, rfl⟩

variable {s b surface x y width height pixels stride damage} in
/-- A copy onto a live surface fails and gives up the view, or is built and submitted. -/
theorem paintImage_cases {r : Except Fault ImageId × Session}
    (h : s.paintImage b surface x y width height pixels stride damage = .ok r) :
    (∃ e, r = (.error e, s.drop pixels)) ∨
    ∃ bbox live, s.surfaces.find? surface = some live ∧
      bbox.inside (.ofOrigin 0 0 live.backing.width live.backing.height) ∧
      pixels.covers s.store width height stride = .ok true ∧
      Rect.ofOrigin? x y width height = some bbox ∧ s.CanCopy damage ∧
      (s.builder b).nextImage.toNat + 1 < 4294967296 ∧
      r = ((((s.imageNumbered b).ticketed b).submit
            (s.blitCommand b surface bbox width height pixels stride damage)).1.map
              fun _ => ⟨(s.builder b).nextImage⟩,
          (((s.imageNumbered b).ticketed b).submit
            (s.blitCommand b surface bbox width height pixels stride damage)).2) := by
  unfold paintImage at h
  cases ht : s.target surface x y width height with
  | error e =>
      rw [ht] at h
      cases h
      exact .inl ⟨e, rfl⟩
  | ok u =>
      rw [ht] at h
      cases hb : s.buildBlit b surface x y width height pixels stride damage with
      | error trap =>
          rw [hb] at h
          cases h
      | ok built =>
          rw [hb] at h
          rcases buildBlit_cases hb with ⟨e, rfl⟩ | ⟨bbox, hcovers, hr, hmemory, hnext, rfl⟩
          · cases h
            exact .inl ⟨e, rfl⟩
          · cases hf : s.surfaces.find? surface with
            | none => simp [target, placement, hr, hf, bind, Except.bind] at ht
            | some live =>
                have hin : bbox.inside (.ofOrigin 0 0 live.backing.width live.backing.height) := by
                  by_contra hout
                  simp [target, placement, hr, hf, bind, Except.bind, hout] at ht
                refine .inr ⟨bbox, live, rfl, hin, hcovers, hr, hmemory, hnext, ?_⟩
                simp only [bind, Except.bind] at h
                generalize ((s.imageNumbered b).ticketed b).submit
                  (s.blitCommand b surface bbox width height pixels stride damage) = q at h
                obtain ⟨answer, s'⟩ := q
                cases answer <;> cases h <;> rfl

theorem fillRect_queue (h : s.ring.WellFormed) :
    ∃ fills : List Command, fills.length ≤ 1 ∧
      (∀ c ∈ fills, ∃ bbox, Rect.ofOrigin? x y width height = some bbox ∧
        c = s.fillCommand b surface colour bbox) ∧
      (s.fillRect b surface colour x y width height).2.queue = s.queue ++ fills ∧
      (s.fillRect b surface colour x y width height).2.surfaces = s.surfaces ∧
      (s.fillRect b surface colour x y width height).2.server = s.server := by
  rcases s.fillRect_cases b surface colour x y width height with ⟨e, hf⟩ | ⟨bbox, live, -, -, -, hbbox, hf⟩
  · rw [hf]
    exact ⟨[], by simp, by simp, by simp, rfl, rfl⟩
  · rw [hf]
    rcases (s.ticketed b).submit_cases h (s.fillCommand b surface colour bbox) with
      ⟨-, ring, hs, -, hlist, -⟩ | ⟨-, hs⟩
    · rw [hs]
      exact ⟨[s.fillCommand b surface colour bbox], by simp,
        fun c hc => ⟨bbox, hbbox, List.mem_singleton.mp hc⟩, hlist, rfl, rfl⟩
    · rw [hs]
      exact ⟨[], by simp, by simp, by simp [queue, ticketed, issue], rfl, rfl⟩

/-- A fill of a whole live surface is queued, unless the ring refuses it. -/
theorem fillRect_whole (h : s.ring.WellFormed) {live : Surface}
    (hlive : s.surfaces.find? surface = some live) (hwidth : live.backing.width = width)
    (hheight : live.backing.height = height) (hw : width ≠ 0 ∧ width.toNat ≤ 2147483647)
    (hh : height ≠ 0 ∧ height.toNat ≤ 2147483647) :
    ∃ bbox, Rect.ofOrigin? 0 0 width height = some bbox ∧
      ((s.fillRect b surface colour 0 0 width height).2.queue =
          s.queue ++ [s.fillCommand b surface colour bbox] ∨
        (s.fillRect b surface colour 0 0 width height).2.notices =
          s.notices.push ((s.fillCommand b surface colour bbox).notice .rejected)) := by
  have hbbox := Rect.ofOrigin?_zero hw.2 hh.2
  have htarget : s.target surface 0 0 width height = .ok () := by
    have hinside : Rect.inside (.ofOrigin 0 0 width height) (.ofOrigin 0 0 width height) = true := by
      simp [Rect.inside]
    simp only [target, placement, hbbox, bind, Except.bind, hlive, hwidth, hheight, hinside, if_true]
  have hbuild : s.buildFill b surface colour 0 0 width height =
      (.ok (s.fillCommand b surface colour (.ofOrigin 0 0 width height)), s.ticketed b) := by
    rcases s.buildFill_cases b surface colour 0 0 width height with ⟨e, he⟩ | ⟨bbox, -, -, hb, he⟩
    · simp only [buildFill, hw.1, hh.1, or_self, if_false, placement, hbbox] at he
      cases he
    · rw [hbbox] at hb
      cases hb
      exact he
  have hfill : s.fillRect b surface colour 0 0 width height =
      (s.ticketed b).submit (s.fillCommand b surface colour (.ofOrigin 0 0 width height)) := by
    simp only [fillRect, htarget, hbuild]
  refine ⟨_, hbbox, ?_⟩
  rw [hfill]
  rcases (s.ticketed b).submit_cases h (s.fillCommand b surface colour (.ofOrigin 0 0 width height)) with
    ⟨-, ring, hs, -, hlist, -⟩ | ⟨-, hs⟩
  · rw [hs]
    exact .inl hlist
  · rw [hs]
    exact .inr rfl

variable {s b surface x y width height pixels stride damage} in
theorem queue_of_paintImage (h : s.ring.WellFormed) {image : ImageId} {s' : Session}
    (hp : s.paintImage b surface x y width height pixels stride damage = .ok (.ok image, s')) :
    ∃ bbox, Rect.ofOrigin? x y width height = some bbox ∧ s'.store = s.store ∧
      s'.queue = s.queue ++ [s.blitCommand b surface bbox width height pixels stride damage] ∧
      s'.server = s.server ∧ s'.surfaces = s.surfaces := by
  rcases paintImage_cases hp with ⟨e, he⟩ | ⟨bbox, live, -, -, -, hbbox, -, -, he⟩
  · cases he
  · have heq := imageNumbered_eq (s := s) (b := b)
    have hring : ((s.imageNumbered b).ticketed b).ring = s.ring := by
      rw [heq]
      rfl
    rcases ((s.imageNumbered b).ticketed b).submit_cases (hring ▸ h)
      (s.blitCommand b surface bbox width height pixels stride damage) with
      ⟨-, ring, hs, -, hlist, -⟩ | ⟨-, hs⟩
    · rw [hs] at he
      rw [queue, hring] at hlist
      cases he
      refine ⟨bbox, hbbox, ?_, hlist, ?_, ?_⟩ <;>
        · rw [heq]
          rfl
    · rw [hs] at he
      cases he

end Building

end RemoteDisplay.Session
