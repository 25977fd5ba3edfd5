import Mathlib.Logic.Relation
import RemoteDisplay.Proofs.Session.Order

/-!
# What happens to a session besides fetching

A backend opens surfaces, paints on them and withdraws them; the server gives drawables back and may
shut the session down; the rest concerns neither commands nor surfaces. Each of these is a `Move`.
Three things survive every move: each release id given out is with one command in one place, every
queued command has a live surface, and a surface that is gone never comes back.
-/

namespace RemoteDisplay

open Relation (ReflTransGen)

/-- The surface that the server learns about. -/
def Delivery.surface : Delivery → SurfaceId
  | .announced id _ => id
  | .drawn d => d.surface

theorem Command.surface_delivery (c : Command) : c.delivery.surface = c.surface := by
  unfold Command.delivery
  split <;> rfl

namespace Session

variable {s t : Session}

def liveIds (s : Session) : List SurfaceId := s.surfaces.live.map (·.id)

/-- At most pixel memory, the clock, the compression, the worker and its other calls changed. -/
structure Aside (s t : Session) : Prop where
  ring : t.ring = s.ring
  held : t.server.held = s.server.held
  notices : t.notices = s.notices
  ledgers : t.ledgers = s.ledgers
  builders : t.builders = s.builders
  surfaces : t.surfaces = s.surfaces
  announced : t.announced = s.announced

theorem aside_store (s : Session) (store : PixelStore) : Aside s { s with store } :=
  ⟨rfl, rfl, rfl, rfl, rfl, rfl, rfl⟩

theorem aside_callAttached (s : Session) {c : WorkerCall} (hc : c.delivery? = none) :
    Aside s (s.callAttached c) := by
  refine ⟨?_, ?_, ?_, ?_, ?_, ?_, announced_callAttached hc⟩ <;> simp

theorem aside_attachWorker (s : Session) (name : Nat) : Aside s (s.attachWorker name).2 := by
  unfold attachWorker
  split
  · exact ⟨rfl, rfl, rfl, rfl, rfl, rfl, rfl⟩
  · exact ⟨rfl, rfl, rfl, rfl, rfl, rfl, announced_call rfl⟩

theorem Aside.transfer (h : Aside s t) (hs : s.Sound) : Transfer s [] t [] :=
  .of_eq hs h.ring h.held h.notices h.ledgers fun i => by rw [builder, builder, h.builders]

/-- A step of a session in the hands of a backend, its host and its server, fetching aside. -/
inductive Move : Session → Session → Prop where
  | announce {s : Session} {width height : UInt32} {backing : Backing}
      {r : Except Fault SurfaceId × Session} (h : s.createSurface width height backing = .ok r) :
      Move s r.2
  /-- A new surface is announced, and its background is filled as far as there is room. -/
  | present {s s' : Session} {width height : UInt32} {backing : Backing} {surface : SurfaceId}
      (h : s.createSurface width height backing = .ok (.ok surface, s')) (colour : UInt32) :
      Move s (s'.fillRect 0 surface colour 0 0 width height).2
  | paint {s : Session} {surface : SurfaceId} {x y : Int32} {width height : UInt32} {pixels : View}
      {stride : UInt32} {damage : Damage} {r : Except Fault ImageId × Session}
      (h : s.paintImage 0 surface x y width height pixels stride damage = .ok r) : Move s r.2
  | withdraw (s : Session) (surface : SurfaceId) : Move s (s.withdrawSurface surface)
  | giveBack (s : Session) (id : ReleaseId) (group : UInt32) : Move s (s.giveBack id group).2
  | shutdown (s : Session) : Move s s.shutdown.2
  | aside {s t : Session} (h : Aside s t) : Move s t

abbrev Moves : Session → Session → Prop := ReflTransGen Move

theorem submit_surroundings (s : Session) (c : Command) :
    (s.submit c).2.surfaces = s.surfaces ∧ (s.submit c).2.builders = s.builders ∧
      (s.submit c).2.server = s.server := by
  simp only [submit, enqueue?]
  split
  · rename_i he
    obtain ⟨ring, -, rfl⟩ := Option.map_eq_some_iff.mp he
    exact ⟨rfl, rfl, rfl⟩
  · exact ⟨rfl, rfl, rfl⟩

theorem fillRect_surroundings (s : Session) (b : Nat) (surface : SurfaceId) (colour : UInt32)
    (x y : Int32) (width height : UInt32) :
    (s.fillRect b surface colour x y width height).2.surfaces = s.surfaces ∧
      (s.fillRect b surface colour x y width height).2.server = s.server := by
  rcases s.fillRect_cases b surface colour x y width height with ⟨e, hf⟩ | ⟨bbox, live, -, -, -, -, hf⟩
  · rw [hf]
    exact ⟨rfl, rfl⟩
  · obtain ⟨hsurfaces, -, hserver⟩ := (s.ticketed b).submit_surroundings (s.fillCommand b surface colour bbox)
    rw [hf, hsurfaces, hserver]
    exact ⟨rfl, rfl⟩

theorem paintImage_surroundings {s : Session} {b : Nat} {surface : SurfaceId} {x y : Int32}
    {width height : UInt32} {pixels : View} {stride : UInt32} {damage : Damage}
    {r : Except Fault ImageId × Session}
    (hr : s.paintImage b surface x y width height pixels stride damage = .ok r) :
    r.2.surfaces = s.surfaces ∧ r.2.server = s.server := by
  rcases paintImage_cases hr with ⟨e, rfl⟩ | ⟨bbox, live, -, -, -, -, -, -, rfl⟩
  · exact ⟨rfl, rfl⟩
  · obtain ⟨hsurfaces, -, hserver⟩ := ((s.imageNumbered b).ticketed b).submit_surroundings
      (s.blitCommand b surface bbox width height pixels stride damage)
    rw [hsurfaces, hserver, imageNumbered_eq]
    exact ⟨rfl, rfl⟩

/-! ## The account of release ids -/

/-- The ticket was given out. -/
def HasIssued (s : Session) (t : Ticket) : Prop :=
  t.ledger < s.ledgers.size ∧ 0 < t.id.raw ∧ t.id.raw < (s.ledger t.ledger).next

instance (s : Session) (t : Ticket) : Decidable (s.HasIssued t) :=
  inferInstanceAs (Decidable (_ ∧ _ ∧ _))

/-- After a ledger gave out a ticket, that one is given out too. -/
theorem hasIssued_succ {i : Nat} (hi : i < s.ledgers.size) (hpos : 0 < (s.ledger i).next)
    (hsize : t.ledgers.size = s.ledgers.size)
    (hnext : ∀ j < s.ledgers.size,
      (t.ledger j).next.toNat = (s.ledger j).next.toNat + if j = i then 1 else 0) (u : Ticket) :
    t.HasIssued u ↔ s.HasIssued u ∨ ⟨i, ⟨(s.ledger i).next⟩⟩ = u := by
  obtain ⟨j, ⟨n⟩⟩ := u
  simp only [HasIssued, hsize, Ticket.mk.injEq, ReleaseId.mk.injEq, UInt64.lt_iff_toNat_lt] at hpos ⊢
  constructor
  · rintro ⟨hj, hn, hlt⟩
    rw [hnext j hj] at hlt
    by_cases he : j = i
    · subst he
      rw [← UInt64.toNat_inj]
      simp only [if_true] at hlt
      omega
    · exact .inl ⟨hj, hn, by simpa [he] using hlt⟩
  · rintro (⟨hj, hn, hlt⟩ | ⟨rfl, rfl⟩)
    · refine ⟨hj, hn, ?_⟩
      rw [hnext j hj]
      omega
    · refine ⟨hi, hpos, ?_⟩
      rw [hnext i hi, if_pos rfl]
      omega

/-- A bound on the release ids that a backend takes: two for each surface number that is used up, and
one for each image number. -/
def supply (s : Session) : Nat := 2 * s.surfaces.next.toNat + (s.builder 0).nextImage.toNat

/-- Every ticket given out is in one place, and no other ticket is. `spare` more can be given out
before the next surface or image number. -/
structure Accounted (spare : Nat) (s : Session) : Prop where
  sound : s.Sound
  first : 0 < s.ledgers.size
  painter : 0 < s.builders.size
  ledger : (s.builder 0).ledger < s.ledgers.size
  positive : ∀ i < s.ledgers.size, 0 < (s.ledger i).next
  few : ∀ i < s.ledgers.size, (s.ledger i).next.toNat + spare ≤ s.supply
  places : ∀ u, s.tickets.count u = if s.HasIssued u then 1 else 0

namespace Accounted

variable {spare spare' : Nat}

theorem weaken (h : Accounted spare s) (hspare : spare' ≤ spare) : Accounted spare' s :=
  { h with few := fun i hi => Nat.le_trans (Nat.add_le_add_left hspare _) (h.few i hi) }

/-- Commands changed their places. -/
theorem transfer (h : Accounted spare s) (ht : Transfer s [] t []) (hbuilders : t.builders = s.builders)
    (hnext : t.surfaces.next = s.surfaces.next) : Accounted spare t := by
  have hsupply : t.supply = s.supply := by rw [supply, supply, hnext, builder, builder, hbuilders]
  refine ⟨ht.sound, ht.size ▸ h.first, hbuilders ▸ h.painter, ?_, fun i hi => ?_, fun i hi => ?_,
    fun u => ?_⟩
  · rw [ht.builders, ht.size]
    exact h.ledger
  · rw [ht.next]
    exact h.positive i (ht.size ▸ hi)
  · rw [ht.next, hsupply]
    exact h.few i (ht.size ▸ hi)
  · have hcount := ht.tickets.count_eq u
    have hissued : t.HasIssued u ↔ s.HasIssued u := by simp only [HasIssued, ht.size, ht.next]
    simp only [List.map_nil, List.nil_append] at hcount
    simp only [hcount, h.places u, hissued]

/-- A ticket was given out, and its command went to the session. -/
theorem issue (h : Accounted spare s) {i : Nat} (hi : i < s.ledgers.size) {u : Session}
    (hissued : Issued s i u) {c : Command} (hc : c.ticket = ⟨i, ⟨(s.ledger i).next⟩⟩)
    (ht : Transfer u [c] t []) (hpainter : t.builders.size = s.builders.size)
    (hspare : 1 + spare' + s.supply ≤ spare + t.supply) : Accounted spare' t := by
  obtain ⟨hsound, htickets, hnext, hsize, hbuilders⟩ := hissued.transfer ht
  -- Surface and image numbers are short enough that the ledger's counter does not wrap around.
  have hbound : (s.ledger i).next.toNat + 1 < 2 ^ 64 := by
    have hf := h.few i hi
    have hs := t.surfaces.next.toNat_lt
    have hb := (t.builder 0).nextImage.toNat_lt
    simp only [supply] at hf hspare
    omega
  have hsucc : ∀ j < s.ledgers.size,
      (t.ledger j).next.toNat = (s.ledger j).next.toNat + if j = i then 1 else 0 := by
    intro j hj
    rw [hnext j hj]
    split
    · rename_i he
      subst he
      rw [UInt64.toNat_add, UInt64.toNat_one, Nat.mod_eq_of_lt hbound]
    · simp
  refine ⟨hsound, hsize ▸ h.first, hpainter ▸ h.painter, ?_, fun j hj => ?_, fun j hj => ?_, fun v => ?_⟩
  · rw [hbuilders, hsize]
    exact h.ledger
  · have hpos := h.positive j (hsize ▸ hj)
    rw [UInt64.lt_iff_toNat_lt] at hpos ⊢
    rw [hsucc j (hsize ▸ hj)]
    omega
  · have hf := h.few j (hsize ▸ hj)
    rw [hsucc j (hsize ▸ hj)]
    split <;> omega
  · have hcount := htickets.count_eq v
    simp only [List.map_nil, List.nil_append, List.map_cons, List.singleton_append, hc,
      List.count_cons, h.places v, beq_iff_eq] at hcount
    have hnew : ¬ s.HasIssued ⟨i, ⟨(s.ledger i).next⟩⟩ := fun hn => UInt64.lt_irrefl _ hn.2.2
    have hiff : t.HasIssued v ↔ s.HasIssued v ∨ ⟨i, ⟨(s.ledger i).next⟩⟩ = v :=
      hasIssued_succ hi (h.positive i hi) hsize hsucc v
    rw [hcount]
    by_cases he : (⟨i, ⟨(s.ledger i).next⟩⟩ : Ticket) = v
    · subst he
      simp [hiff, hnew]
    · simp [hiff, he]

/-- A new command is submitted; whatever becomes of it, its ticket is accounted for. -/
theorem submit (h : Accounted spare s) {i : Nat} (hi : i < s.ledgers.size) {u : Session}
    (hissued : Issued s i u) {c : Command} (hc : c.ticket = ⟨i, ⟨(s.ledger i).next⟩⟩)
    (hpainter : u.builders.size = s.builders.size) (hspare : 1 + spare' + s.supply ≤ spare + u.supply) :
    Accounted spare' (u.submit c).2 := by
  obtain ⟨hsurfaces, hbuilders, -⟩ := u.submit_surroundings c
  have hsupply : (u.submit c).2.supply = u.supply := by
    rw [supply, supply, hsurfaces, builder, builder, hbuilders]
  exact h.issue hi hissued hc (hissued.sound.submit c) (by rw [hbuilders, hpainter]) (hsupply ▸ hspare)

/-- A new surface leaves a release id to spare. -/
theorem createSurface (h : Accounted 0 s) {width height : UInt32} {backing : Backing}
    {r : Except Fault SurfaceId × Session} (hr : s.createSurface width height backing = .ok r) :
    Accounted 0 r.2 ∧ ∀ id, r.1 = .ok id → Accounted 1 r.2 := by
  rcases createSurface_cases hr with ⟨e, rfl⟩ | ⟨record, c, -, -, -, -, hnext, rfl, hsub⟩
  · exact ⟨h, by simp⟩
  · have hsucc : (s.surfaces.next + 1).toNat = s.surfaces.next.toNat + 1 := by
      rw [UInt32.toNat_add, UInt32.toNat_one, Nat.mod_eq_of_lt hnext]
    -- The surface number pays for two release ids, and its announcement takes one of them.
    have hbuilder : s.numbered.builder 0 = s.builder 0 := rfl
    have hsubmit : Accounted 1 (s.numbered.submit (announcement ⟨s.surfaces.next⟩ width height record
        ⟨0, ⟨(s.ledger 0).next⟩⟩)).2 :=
      h.submit h.first h.sound.numbered rfl rfl (by
        rw [supply, supply, numbered_surfaces hnext, hbuilder]
        simp only
        omega)
    rcases hsub with ⟨s', hs, rfl⟩ | ⟨e, s', hs, rfl⟩
    · rw [hs] at hsubmit
      have hlive : Accounted 1 { s' with surfaces := s'.surfaces.insert ⟨⟨s.surfaces.next⟩, backing⟩ } :=
        hsubmit.transfer (.of_eq hsubmit.sound rfl rfl rfl rfl fun _ => rfl) rfl rfl
      exact ⟨hlive.weaken (Nat.zero_le 1), fun _ _ => hlive⟩
    · rw [hs] at hsubmit
      exact ⟨hsubmit.weaken (Nat.zero_le 1), fun id he => by cases he⟩

theorem fillRect (h : Accounted 1 s) (surface : SurfaceId) (colour : UInt32) (x y : Int32)
    (width height : UInt32) : Accounted 0 (s.fillRect 0 surface colour x y width height).2 := by
  rcases s.fillRect_cases 0 surface colour x y width height with ⟨e, hf⟩ | ⟨bbox, live, -, -, -, -, hf⟩
  · rw [hf]
    exact h.weaken (Nat.zero_le 1)
  · rw [hf]
    exact h.submit h.ledger (h.sound.ticketed 0) rfl rfl (Nat.le_refl _)

theorem paintImage (h : Accounted 0 s) (surface : SurfaceId) (x y : Int32) (width height : UInt32)
    (pixels : View) (stride : UInt32) (damage : Damage) {r : Except Fault ImageId × Session}
    (hr : s.paintImage 0 surface x y width height pixels stride damage = .ok r) : Accounted 0 r.2 := by
  rcases paintImage_cases hr with ⟨e, rfl⟩ | ⟨bbox, live, -, -, -, -, -, hnext, rfl⟩
  · exact h.transfer (.of_eq h.sound rfl rfl rfl rfl fun _ => rfl) rfl rfl
  · have himage := nextImage_imageNumbered h.painter hnext
    have hsurfaces : ((s.imageNumbered 0).ticketed 0).surfaces = s.surfaces := by
      rw [imageNumbered_eq]
      rfl
    have hbuilder : ((s.imageNumbered 0).ticketed 0).builder 0 = (s.imageNumbered 0).builder 0 := rfl
    refine h.submit h.ledger (h.sound.imageTicketed 0) rfl size_imageNumbered ?_
    rw [supply, supply, hsurfaces, hbuilder, himage]
    omega

theorem withdrawSurface (h : Accounted spare s) (id : SurfaceId) :
    Accounted spare (s.withdrawSurface id) := by
  obtain ⟨-, -, -, hsurfaces, -, -, -, hbuilders⟩ := s.withdrawSurface_spec h.sound.ring id
  exact h.transfer (h.sound.withdrawSurface id) hbuilders (by rw [hsurfaces])

theorem shutdown (h : Accounted spare s) : Accounted spare s.shutdown.2 := by
  obtain ⟨-, -, -, -, -, -, -, hsurfaces, hbuilders⟩ := shutdown_spec h.sound.ring
  exact h.transfer h.sound.shutdown hbuilders (by rw [hsurfaces])

end Accounted

/-! ## Queued commands and live surfaces -/

/-- Every queued command has a live surface, and no two live surfaces have one number. -/
structure Housed (s : Session) : Prop where
  queue : ∀ c ∈ s.queue, c.surface ∈ s.liveIds
  below : ∀ id ∈ s.liveIds, id.raw < s.surfaces.next
  distinct : s.liveIds.Nodup

/-- The worker was told of no surface, and live surfaces that were not live before are new. -/
structure Later (s t : Session) : Prop where
  announced : t.announced = s.announced
  next : s.surfaces.next ≤ t.surfaces.next
  live : ∀ id ∈ t.liveIds, id ∈ s.liveIds ∨ s.surfaces.next ≤ id.raw

theorem Later.refl (s : Session) : Later s s :=
  ⟨rfl, UInt32.le_refl _, fun _ hid => .inl hid⟩

theorem Later.trans {u : Session} (h : Later s t) (h' : Later t u) : Later s u where
  announced := h'.announced.trans h.announced
  next := UInt32.le_trans h.next h'.next
  live id hid := by
    rcases h'.live id hid with hid | hid
    · exact h.live id hid
    · exact .inr (UInt32.le_trans h.next hid)

theorem Later.of_eq (hannounced : t.announced = s.announced) (hsurfaces : t.surfaces = s.surfaces) :
    Later s t := by
  refine ⟨hannounced, hsurfaces ▸ UInt32.le_refl _, fun id hid => .inl ?_⟩
  rwa [liveIds, hsurfaces] at hid

theorem announced_of_calls (h : t.calls = s.calls) : t.announced = s.announced := by
  rw [announced, h, announced]

theorem mem_liveIds_of_find? {id : SurfaceId} {x : Surface} (h : s.surfaces.find? id = some x) :
    id ∈ s.liveIds :=
  List.mem_map.mpr ⟨x, List.mem_of_find?_eq_some h, by simpa using List.find?_some h⟩

namespace Housed

/-- The surfaces are the same, and commands for live surfaces were queued at most. -/
theorem keep (h : Housed s) (hsurfaces : t.surfaces = s.surfaces)
    (hqueue : ∀ c ∈ t.queue, c ∈ s.queue ∨ c.surface ∈ s.liveIds) : Housed t := by
  have hlive : t.liveIds = s.liveIds := by rw [liveIds, hsurfaces, liveIds]
  refine ⟨fun c hc => ?_, ?_, hlive ▸ h.distinct⟩
  · rw [hlive]
    exact (hqueue c hc).elim (h.queue c) id
  · rw [hlive, hsurfaces]
    exact h.below

theorem submit (h : Housed s) (hring : s.ring.WellFormed) {c : Command} (hc : c.surface ∈ s.liveIds) :
    Housed (s.submit c).2 := by
  refine h.keep (s.submit_surroundings c).1 fun d hd => ?_
  rcases s.submit_cases hring c with ⟨-, ring, hs, -, hlist, -⟩ | ⟨-, hs⟩
  · rw [hs, Session.queue, hlist, List.mem_append, List.mem_singleton] at hd
    rcases hd with hd | rfl
    · exact .inl hd
    · exact .inr hc
  · rw [hs] at hd
    exact .inl hd

/-- A new surface gets the next number, and so does an attempt that the ring refuses. -/
theorem createSurface (h : Housed s) (hring : s.ring.WellFormed) {width height : UInt32}
    {backing : Backing} {r : Except Fault SurfaceId × Session}
    (hr : s.createSurface width height backing = .ok r) : Housed r.2 ∧ Later s r.2 := by
  have hannounced := announced_of_calls (createSurface_calls hr)
  obtain ⟨answer, t⟩ := r
  cases answer with
  | error e =>
      obtain ⟨hqueue, hnext, hlive, -⟩ := createSurface_error hring hr
      have hids : t.liveIds = s.liveIds := by rw [liveIds, hlive, liveIds]
      refine ⟨⟨fun c hc => ?_, fun id hid => ?_, hids ▸ h.distinct⟩, hannounced, hnext, fun id hid => ?_⟩
      · rw [hqueue] at hc
        exact hids ▸ h.queue c hc
      · exact UInt32.lt_of_lt_of_le (h.below id (hids ▸ hid)) hnext
      · exact .inl (hids ▸ hid)
  | ok surface =>
      obtain ⟨record, ticket, hnext, rfl, -, -, hqueue, hsurfaces, -⟩ := createSurface_ok hring hr
      have hids : t.liveIds = s.liveIds ++ [⟨s.surfaces.next⟩] := by simp [liveIds, hsurfaces]
      have hlt := lt_add_one hnext
      have hnew : (⟨s.surfaces.next⟩ : SurfaceId) ∉ s.liveIds := fun hmem =>
        UInt32.lt_irrefl _ (h.below _ hmem)
      refine ⟨⟨fun c hc => ?_, fun id hid => ?_, ?_⟩, hannounced, ?_, fun id hid => ?_⟩
      · rw [hids]
        rw [hqueue, List.mem_append, List.mem_singleton] at hc
        rcases hc with hc | rfl
        · exact List.mem_append_left _ (h.queue c hc)
        · exact List.mem_append_right _ (List.mem_singleton.mpr rfl)
      · rw [hsurfaces]
        rw [hids, List.mem_append, List.mem_singleton] at hid
        rcases hid with hid | rfl
        · exact UInt32.lt_trans (h.below id hid) hlt
        · exact hlt
      · rw [hids]
        exact nodup_concat h.distinct hnew
      · rw [hsurfaces]
        exact UInt32.le_of_lt hlt
      · rw [hids, List.mem_append, List.mem_singleton] at hid
        rcases hid with hid | rfl
        · exact .inl hid
        · exact .inr (UInt32.le_refl _)

theorem fillRect (h : Housed s) (hring : s.ring.WellFormed) (surface : SurfaceId) (colour : UInt32)
    (x y : Int32) (width height : UInt32) :
    Housed (s.fillRect 0 surface colour x y width height).2 ∧
      Later s (s.fillRect 0 surface colour x y width height).2 := by
  have hannounced := announced_of_calls (s.fillRect_calls 0 surface colour x y width height)
  rcases s.fillRect_cases 0 surface colour x y width height with ⟨e, hf⟩ | ⟨bbox, live, hlive, -, -, -, hf⟩
  · rw [hf]
    exact ⟨h, .refl s⟩
  · rw [hf] at hannounced ⊢
    have hticketed : Housed (s.ticketed 0) := h.keep rfl fun c hc => .inl hc
    exact ⟨hticketed.submit hring (mem_liveIds_of_find? (s := s) hlive),
      .of_eq hannounced (submit_surroundings _ _).1⟩

theorem paintImage (h : Housed s) (hring : s.ring.WellFormed) (surface : SurfaceId) (x y : Int32)
    (width height : UInt32) (pixels : View) (stride : UInt32) (damage : Damage)
    {r : Except Fault ImageId × Session}
    (hr : s.paintImage 0 surface x y width height pixels stride damage = .ok r) :
    Housed r.2 ∧ Later s r.2 := by
  have hannounced :=
    announced_of_calls (paintImage_calls hr)
  rcases paintImage_cases hr with ⟨e, rfl⟩ | ⟨bbox, live, hlive, -, -, -, -, -, rfl⟩
  · exact ⟨h.keep rfl fun c hc => .inl hc, .of_eq rfl rfl⟩
  · have hsame : ((s.imageNumbered 0).ticketed 0).ring = s.ring ∧
        ((s.imageNumbered 0).ticketed 0).surfaces = s.surfaces := by
      rw [imageNumbered_eq]
      exact ⟨rfl, rfl⟩
    have hticketed : Housed ((s.imageNumbered 0).ticketed 0) := by
      refine h.keep hsame.2 fun c hc => .inl ?_
      rwa [Session.queue, hsame.1] at hc
    have hsurface : surface ∈ ((s.imageNumbered 0).ticketed 0).liveIds := by
      rw [liveIds, hsame.2]
      exact mem_liveIds_of_find? hlive
    exact ⟨hticketed.submit (hsame.1 ▸ hring) hsurface,
      .of_eq hannounced ((submit_surroundings _ _).1.trans hsame.2)⟩

theorem withdrawSurface (h : Housed s) (hring : s.ring.WellFormed) (id : SurfaceId) :
    Housed (s.withdrawSurface id) ∧ Later s (s.withdrawSurface id) ∧
      (s.withdrawSurface id).liveIds = s.liveIds.filter (· ≠ id) := by
  obtain ⟨-, hqueue, -, hsurfaces, -, hcalls, -⟩ := s.withdrawSurface_spec hring id
  have hids : (s.withdrawSurface id).liveIds = s.liveIds.filter (· ≠ id) := by
    simp [liveIds, hsurfaces, List.filter_map, Function.comp_def]
  refine ⟨⟨fun c hc => ?_, fun i hi => ?_, ?_⟩, ⟨announced_of_calls hcalls, ?_, fun i hi => .inl ?_⟩, hids⟩
  · rw [hqueue, List.mem_filter] at hc
    rw [hids, List.mem_filter]
    exact ⟨h.queue c hc.1, by simpa using hc.2⟩
  · rw [hsurfaces]
    rw [hids, List.mem_filter] at hi
    exact h.below i hi.1
  · rw [hids]
    exact h.distinct.filter _
  · rw [hsurfaces]
    exact UInt32.le_refl _
  · rw [hids, List.mem_filter] at hi
    exact hi.1

theorem shutdown (h : Housed s) (hring : s.ring.WellFormed) :
    Housed s.shutdown.2 ∧ Later s s.shutdown.2 := by
  obtain ⟨-, -, hnil, -, -, hcalls, -, hsurfaces, -⟩ := shutdown_spec hring
  have hstop := announced_of_calls hcalls
  exact ⟨h.keep hsurfaces (by simp [hnil]), .of_eq (hstop.trans (announced_callAttached rfl)) hsurfaces⟩

theorem giveBack (h : Housed s) (id : ReleaseId) (group : UInt32) :
    Housed (s.giveBack id group).2 ∧ Later s (s.giveBack id group).2 := by
  obtain ⟨hring, hsurfaces, hcalls⟩ := s.giveBack_still id group
  refine ⟨h.keep hsurfaces fun c hc => .inl ?_, .of_eq (announced_of_calls hcalls) hsurfaces⟩
  rwa [Session.queue, hring] at hc

/-- No surface has the next number, and no command is queued for it. -/
theorem next_unused (h : Housed s) :
    s.surfaces.live.filter (fun x => decide (x.id ≠ ⟨s.surfaces.next⟩)) = s.surfaces.live ∧
      ∀ c ∈ s.queue, c.surface ≠ ⟨s.surfaces.next⟩ := by
  have hlow : ∀ id ∈ s.liveIds, id ≠ ⟨s.surfaces.next⟩ := by
    rintro id hid rfl
    exact UInt32.lt_irrefl _ (h.below _ hid)
  refine ⟨List.filter_eq_self.mpr fun x hx => ?_, fun c hc => hlow _ (h.queue c hc)⟩
  simpa using hlow x.id (List.mem_map_of_mem hx)

end Housed

/-! ## Moves and fetches -/

theorem Move.keeps (h : Move s t) (ha : Accounted 0 s) (hh : Housed s) :
    Accounted 0 t ∧ Housed t ∧ Later s t := by
  have hring := ha.sound.ring
  cases h with
  | announce hr => exact ⟨(ha.createSurface hr).1, hh.createSurface hring hr⟩
  | @present s' width height backing surface hr colour =>
      obtain ⟨hhoused, hlater⟩ := hh.createSurface hring hr
      have ha' : Accounted 1 s' := (ha.createSurface hr).2 surface rfl
      obtain ⟨hfilled, hlater'⟩ := hhoused.fillRect ha'.sound.ring surface colour 0 0 width height
      exact ⟨ha'.fillRect surface colour 0 0 width height, hfilled, hlater.trans hlater'⟩
  | @paint surface x y width height pixels stride damage r hr =>
      exact ⟨ha.paintImage surface x y width height pixels stride damage hr,
        hh.paintImage hring surface x y width height pixels stride damage hr⟩
  | withdraw surface =>
      obtain ⟨hhoused, hlater, -⟩ := hh.withdrawSurface hring surface
      exact ⟨ha.withdrawSurface surface, hhoused, hlater⟩
  | giveBack id group =>
      obtain ⟨-, hsurfaces, -⟩ := s.giveBack_still id group
      have hbuilders : (s.giveBack id group).2.builders = s.builders := by
        simp only [Session.giveBack]
        split
        · rfl
        · split <;> rfl
      exact ⟨ha.transfer (ha.sound.giveBack id group) hbuilders (by rw [hsurfaces]), hh.giveBack id group⟩
  | shutdown => exact ⟨ha.shutdown, hh.shutdown hring⟩
  | aside h =>
      refine ⟨ha.transfer (h.transfer ha.sound) h.builders (by rw [h.surfaces]),
        hh.keep h.surfaces fun c hc => .inl ?_, .of_eq h.announced h.surfaces⟩
      rwa [queue, h.ring] at hc

theorem Moves.keeps (h : Moves s t) (ha : Accounted 0 s) (hh : Housed s) :
    Accounted 0 t ∧ Housed t ∧ Later s t := by
  induction h with
  | refl => exact ⟨ha, hh, .refl s⟩
  | tail _ hmove ih =>
      obtain ⟨ha', hh', hlater⟩ := ih
      obtain ⟨ha'', hh'', hlater'⟩ := hmove.keeps ha' hh'
      exact ⟨ha'', hh'', hlater.trans hlater'⟩

/-- All that the server sees of a fetch was queued. -/
theorem Fetch.seen {r : Except Fault (Option Dispatched)} (hf : Fetch s r t) :
    t.builders = s.builders ∧ ∃ told, t.announced = s.announced ++ told ∧
      ∀ d ∈ told ++ drawnBy r, ∃ c ∈ s.queue, d = c.delivery := by
  induction hf with
  | stop s => exact ⟨rfl, [], by simp, by simp [drawnBy]⟩
  | @draw s c ring hqueue hring hrecord =>
      refine ⟨by simp, [], by simp [announced], fun d hd => ⟨c, by simp [hqueue], ?_⟩⟩
      rw [List.nil_append, drawnBy, List.mem_singleton] at hd
      rw [hd, Command.delivery, hrecord]
  | reject => exact ⟨rfl, [], by simp [announced], by simp [drawnBy]⟩
  | @announce s s' c ring record r hqueue hring hrecord hrest ih =>
      obtain ⟨hbuilders, told, hannounced, hseen⟩ := ih
      refine ⟨hbuilders, .announced c.surface record :: told, ?_, fun d hd => ?_⟩
      · rw [hannounced]
        simp [announced, call, WorkerCall.delivery?]
      · rw [List.cons_append] at hd
        rcases List.mem_cons.mp hd with rfl | hd
        · exact ⟨c, by simp [hqueue], by simp [Command.delivery, hrecord]⟩
        · obtain ⟨e, he, hde⟩ := hseen d hd
          rw [hqueue]
          exact ⟨e, List.mem_cons_of_mem c he, hde⟩

/-- A fetch keeps the accounts, and the server sees queued commands only. -/
theorem nextCommand_keeps_accounts (ha : Accounted 0 s) (hh : Housed s) :
    Accounted 0 s.nextCommand.2 ∧ Housed s.nextCommand.2 ∧ s.nextCommand.2.surfaces = s.surfaces ∧
      ∃ told, s.nextCommand.2.announced = s.announced ++ told ∧
        ∀ d ∈ told ++ drawnBy s.nextCommand.1, ∃ c ∈ s.queue, d = c.delivery := by
  have hsound := ha.sound.nextCommand
  revert hsound
  unfold nextCommand
  split
  · exact fun _ => ⟨ha, hh, rfl, [], by simp, by simp [drawnBy]⟩
  · intro hsound
    have hfetch := fetch_spec ha.sound.ring s.ring.length
    obtain ⟨passed, taken, hsplit, -, -, hsurfaces, -⟩ := hfetch.taken
    obtain ⟨hbuilders, hseen⟩ := hfetch.seen
    refine ⟨ha.transfer hsound hbuilders (by rw [hsurfaces]), hh.keep hsurfaces fun c hc => .inl ?_,
      hsurfaces, hseen⟩
    rw [hsplit]
    exact List.mem_append_right _ (List.mem_append_right _ hc)

/-! ## The beginning -/

theorem Untouched.accounted (h : s.Untouched) : Accounted 0 s := by
  refine ⟨h.conserved.sound, h.first, h.painter, h.builders 0, fun i _ => ?_, fun i _ => ?_, fun u => ?_⟩
  · rw [h.ledgers i]
    decide
  · have himages := h.images
    simp only [h.ledgers i, UInt64.toNat_one, supply]
    omega
  · have hnone : ¬ s.HasIssued u := by
      simp only [HasIssued, h.ledgers, UInt64.lt_iff_toNat_lt, UInt64.toNat_one, UInt64.toNat_zero]
      omega
    simp [tickets, released, h.queue, h.held, h.notices, hnone]

theorem Untouched.housed (h : s.Untouched) : Housed s := by
  refine ⟨?_, ?_, ?_⟩ <;> simp [liveIds, h.live, h.queue]

end Session

end RemoteDisplay
