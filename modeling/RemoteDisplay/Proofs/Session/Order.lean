import Mathlib.Data.List.Nodup
import RemoteDisplay.Proofs.Session.Conservation

/-!
# Commands reach the server in the order of their acceptance

What the ring took and did not lose to a teardown or a shutdown is a queue: the server has seen its
front, the ring holds the rest. `InOrder` says so, and that on this queue every drawable comes after
the announcement of its surface, with the surfaces announced by increasing number. Every operation
of a session keeps it.
-/

namespace RemoteDisplay

/-- What the server sees of a command. -/
inductive Delivery where
  | announced (surface : SurfaceId) (record : Wire.SurfaceRecord)
  | drawn (drawable : Dispatched)
  deriving DecidableEq, Repr

/-- What the server sees of the command once it takes it. -/
def Command.delivery (c : Command) : Delivery :=
  match c.record? with
  | some record => .announced c.surface record
  | none => .drawn c.dispatched

/-- The delivery that a call on the worker is. -/
def WorkerCall.delivery? : WorkerCall → Option Delivery
  | .createSurface id record => some (.announced id record)
  | _ => none

/-- The delivery that an answer to the server is. -/
def drawnBy : Except Fault (Option Dispatched) → List Delivery
  | .ok (some d) => [.drawn d]
  | _ => []

/-! ## Announcements before drawables -/

def announcements (cs : List Command) : List SurfaceId :=
  cs.filterMap fun c => c.record?.map fun _ => c.surface

/-- Every drawable comes after the announcement of its surface, the known ones aside. -/
def AnnouncedFirst (known : List SurfaceId) : List Command → Prop
  | [] => True
  | c :: cs => (c.record? = none → c.surface ∈ known) ∧ AnnouncedFirst (known ++ announcements [c]) cs

section Announcements

variable {known known' : List SurfaceId} {as bs : List Command} {c : Command}

@[simp] theorem announcements_append (as bs : List Command) :
    announcements (as ++ bs) = announcements as ++ announcements bs :=
  List.filterMap_append

theorem announcements_cons (c : Command) (as : List Command) :
    announcements (c :: as) = announcements [c] ++ announcements as :=
  announcements_append [c] as

theorem mem_announcements {id : SurfaceId} :
    id ∈ announcements as ↔ ∃ c ∈ as, c.record?.isSome ∧ c.surface = id := by
  simp only [announcements, List.mem_filterMap, Option.map_eq_some_iff, Option.isSome_iff_exists]
  constructor
  · rintro ⟨c, hc, record, hr, rfl⟩
    exact ⟨c, hc, ⟨record, hr⟩, rfl⟩
  · rintro ⟨c, hc, ⟨record, hr⟩, rfl⟩
    exact ⟨c, hc, record, hr, rfl⟩

theorem announcements_of_none (h : c.record? = none) : announcements [c] = [] := by
  simp [announcements, h]

theorem announcements_of_some (h : c.record?.isSome) : announcements [c] = [c.surface] := by
  obtain ⟨record, hr⟩ := Option.isSome_iff_exists.mp h
  simp [announcements, hr]

theorem announcedFirst_append :
    AnnouncedFirst known (as ++ bs) ↔
      AnnouncedFirst known as ∧ AnnouncedFirst (known ++ announcements as) bs := by
  induction as generalizing known with
  | nil => simp [AnnouncedFirst, announcements]
  | cons c as ih =>
      simp only [List.cons_append, AnnouncedFirst, ih]
      rw [announcements_cons c as, ← List.append_assoc, and_assoc]

/-- Without the commands of a surface, the surface need not be announced. -/
theorem AnnouncedFirst.filter {id : SurfaceId} (h : AnnouncedFirst known as)
    (hknown : ∀ x ∈ known, x ≠ id → x ∈ known') :
    AnnouncedFirst known' (as.filter fun c => !decide (c.surface = id)) := by
  induction as generalizing known known' with
  | nil => exact trivial
  | cons c as ih =>
      obtain ⟨hc, has⟩ := h
      by_cases he : c.surface = id
      · rw [List.filter_cons_of_neg (by simp [he])]
        refine ih has fun x hx hne => ?_
        rcases List.mem_append.mp hx with hx | hx
        · exact hknown x hx hne
        · obtain ⟨d, hd, -, hs⟩ := mem_announcements.mp hx
          rw [List.mem_singleton.mp hd, he] at hs
          exact absurd hs.symm hne
      · rw [List.filter_cons_of_pos (by simp [he])]
        refine ⟨fun hr => hknown _ (hc hr) he, ih has fun x hx hne => ?_⟩
        rcases List.mem_append.mp hx with hx | hx
        · exact List.mem_append_left _ (hknown x hx hne)
        · exact List.mem_append_right _ hx

end Announcements

namespace Session

variable {s s' : Session}

/-- The tickets of the commands that were released because their output was torn down. -/
def tornDown (s : Session) : List Ticket :=
  (s.notices.toList.filter fun n => decide (n.reason = .teardown)).map (·.ticket)

/-- What the worker was told of surfaces. -/
def announced (s : Session) : List Delivery := s.calls.toList.filterMap (·.delivery?)

@[simp] theorem announced_release (c : Command) (reason : ReleaseReason) :
    (s.release c reason).announced = s.announced := rfl

theorem tornDown_release (c : Command) {reason : ReleaseReason} (h : reason ≠ .teardown) :
    (s.release c reason).tornDown = s.tornDown := by
  simp [tornDown, Command.notice, h]

theorem tornDown_of_notices {cs : List Command} {reason : ReleaseReason}
    (h : s'.notices = s.notices ++ (cs.map (·.notice reason)).toArray) :
    s'.tornDown = s.tornDown ++ if reason = .teardown then cs.map (·.ticket) else [] := by
  simp only [tornDown, h, Array.toList_append, List.filter_append, List.map_append]
  congr 1
  split
  · rename_i he
    rw [List.filter_eq_self.mpr (by simp [Command.notice, he])]
    simp [Command.notice]
  · rename_i hne
    rw [List.filter_eq_nil_iff.mpr (by simp [Command.notice, hne])]
    rfl

/-! ## The queue of what was accepted -/

/-- `sent` is what the server has seen, `shut` was queued when the session ended. Without what was
torn down or shut, the accepted commands are those sent and those queued. New commands get new
tickets; `spare` release ids can still be given out before the next surface or image number. -/
structure InOrder (spare : Nat) (s : Session) (sent : List Command) (shut : List Ticket) : Prop where
  sound : s.Sound
  ledgers_pos : 0 < s.ledgers.size
  builders_pos : 0 < s.builders.size
  builder_lt : (s.builder 0).ledger < s.ledgers.size
  few : ∀ i < s.ledgers.size, (s.ledger i).next.toNat + spare ≤
    2 * s.surfaces.next.toNat + (s.builder 0).nextImage.toNat
  kept : (s.accepted.toList.filter fun c => decide (c.ticket ∉ s.tornDown ++ shut)) = sent ++ s.queue
  distinct : (s.accepted.toList.map (·.ticket)).Nodup
  low : ∀ c ∈ s.accepted.toList, c.ticket.ledger < s.ledgers.size ∧
    c.ticket.id.raw < (s.ledger c.ticket.ledger).next
  gone : ∀ t ∈ s.tornDown ++ shut, t ∈ s.accepted.toList.map (·.ticket)
  increasing : (announcements (sent ++ s.queue)).Pairwise (·.raw < ·.raw)
  below : ∀ id ∈ announcements (sent ++ s.queue), id.raw < s.surfaces.next
  known : s.server.closed = false → ∀ x ∈ s.surfaces.live, x.id ∈ announcements (sent ++ s.queue)
  ahead : s.server.closed = false → AnnouncedFirst [] (sent ++ s.queue)
  first : AnnouncedFirst [] sent

namespace InOrder

variable {spare spare' : Nat} {sent : List Command} {shut : List Ticket}

theorem nodup (h : InOrder spare s sent shut) : ((sent ++ s.queue).map (·.ticket)).Nodup := by
  rw [← h.kept]
  exact h.distinct.sublist (List.filter_sublist.map _)

theorem weaken (h : InOrder spare s sent shut) (hspare : spare' ≤ spare) :
    InOrder spare' s sent shut :=
  { h with few := fun i hi => Nat.le_trans (Nat.add_le_add_left hspare _) (h.few i hi) }

/-- Commands went from the front of the queue to the server, and nothing else that concerns the
order changed. -/
theorem move (h : InOrder spare s sent shut) {as bs taken : List Command} (ht : Transfer s as s' bs)
    (hqueue : s.queue = taken ++ s'.queue) (haccepted : s'.accepted = s.accepted)
    (htorn : s'.tornDown = s.tornDown) (hsurfaces : s'.surfaces = s.surfaces)
    (hbuilders : s'.builders = s.builders)
    (hclosed : s'.server.closed = s.server.closed)
    (hopen : taken ≠ [] → s.server.closed = false) : InOrder spare s' (sent ++ taken) shut := by
  have hall : (sent ++ taken) ++ s'.queue = sent ++ s.queue := by rw [hqueue, List.append_assoc]
  refine ⟨ht.sound, ht.size ▸ h.ledgers_pos, hbuilders ▸ h.builders_pos, ?_, fun i hi => ?_, ?_,
    haccepted ▸ h.distinct, fun c hc => ?_, ?_, ?_, ?_, fun hc => ?_, fun hc => ?_, ?_⟩
  · rw [ht.builders, ht.size]
    exact h.builder_lt
  · rw [ht.next, hsurfaces, builder, hbuilders]
    exact h.few i (ht.size ▸ hi)
  · rw [hall, haccepted, htorn]
    exact h.kept
  · rw [ht.size, ht.next]
    exact h.low c (haccepted ▸ hc)
  · rw [htorn, haccepted]
    exact h.gone
  · rw [hall]
    exact h.increasing
  · rw [hall, hsurfaces]
    exact h.below
  · rw [hall, hsurfaces]
    exact h.known (hclosed ▸ hc)
  · rw [hall]
    exact h.ahead (hclosed ▸ hc)
  · cases htaken : taken with
    | nil =>
        rw [List.append_nil]
        exact h.first
    | cons c cs =>
        have hahead := h.ahead (hopen (by simp [htaken]))
        rw [← hall, announcedFirst_append] at hahead
        exact htaken ▸ hahead.1

theorem keep (h : InOrder spare s sent shut) {as bs : List Command} (ht : Transfer s as s' bs)
    (hring : s'.ring = s.ring) (haccepted : s'.accepted = s.accepted) (htorn : s'.tornDown = s.tornDown)
    (hsurfaces : s'.surfaces = s.surfaces) (hbuilders : s'.builders = s.builders)
    (hclosed : s'.server.closed = s.server.closed) : InOrder spare s' sent shut := by
  have hqueue : s.queue = [] ++ s'.queue := by rw [queue, queue, hring, List.nil_append]
  have hm := h.move ht hqueue haccepted htorn hsurfaces hbuilders hclosed fun hne => absurd rfl hne
  rwa [List.append_nil] at hm

/-! ## New commands -/

/-- A release id was given out, with a number that makes up for it. -/
theorem issue (h : InOrder spare s sent shut) {i : Nat} (hi : i < s.ledgers.size)
    (hissued : Issued s i s') (hring : s'.ring = s.ring) (haccepted : s'.accepted = s.accepted)
    (hnotices : s'.notices = s.notices) (hlive : s'.surfaces.live = s.surfaces.live)
    (hserver : s'.server = s.server) (hbuilders : s'.builders.size = s.builders.size)
    (hsurfaces : s.surfaces.next ≤ s'.surfaces.next)
    (hspare : 1 + spare' + (2 * s.surfaces.next.toNat + (s.builder 0).nextImage.toNat) ≤
      spare + (2 * s'.surfaces.next.toNat + (s'.builder 0).nextImage.toNat)) :
    InOrder spare' s' sent shut ∧ (s'.ledger i).next.toNat = (s.ledger i).next.toNat + 1 := by
  have hqueue : s'.queue = s.queue := by rw [queue, queue, hring]
  have htorn : s'.tornDown = s.tornDown := by rw [tornDown, tornDown, hnotices]
  have hbound : (s.ledger i).next.toNat + 1 < 2 ^ 64 := by
    have hf := h.few i hi
    have hs := s.surfaces.next.toNat_lt
    have hb := (s.builder 0).nextImage.toNat_lt
    omega
  have hnext : ∀ j < s.ledgers.size,
      (s'.ledger j).next.toNat = (s.ledger j).next.toNat + if j = i then 1 else 0 := by
    intro j hj
    rw [hissued.next j hj]
    split
    · rename_i he
      subst he
      rw [UInt64.toNat_add, UInt64.toNat_one, Nat.mod_eq_of_lt hbound]
    · simp
  refine ⟨⟨hissued.sound, hissued.size ▸ h.ledgers_pos, hbuilders ▸ h.builders_pos, ?_, fun j hj => ?_, ?_,
    haccepted ▸ h.distinct, fun c hc => ?_, ?_, hqueue ▸ h.increasing, fun id hid => ?_, fun hc => ?_,
    fun hc => ?_, h.first⟩, ?_⟩
  · rw [hissued.builders, hissued.size]
    exact h.builder_lt
  · have hf := h.few j (hissued.size ▸ hj)
    rw [hnext j (hissued.size ▸ hj)]
    split <;> omega
  · rw [haccepted, htorn, hqueue]
    exact h.kept
  · obtain ⟨hl, hlt⟩ := h.low c (haccepted ▸ hc)
    refine ⟨hissued.size ▸ hl, ?_⟩
    rw [UInt64.lt_iff_toNat_lt] at hlt ⊢
    rw [hnext _ hl]
    omega
  · rw [htorn, haccepted]
    exact h.gone
  · rw [hqueue] at hid
    exact UInt32.lt_of_lt_of_le (h.below id hid) hsurfaces
  · rw [hlive, hqueue]
    exact h.known (hserver ▸ hc)
  · rw [hqueue]
    exact h.ahead (hserver ▸ hc)
  · rw [hnext i hi, if_pos rfl]

/-- A command with a new ticket is submitted: a drawable for an announced surface, or the
announcement of a surface with a number higher than those before. -/
theorem submit (h : InOrder spare s sent shut) {c : Command}
    (hnew : c.ticket ∉ s.accepted.toList.map (·.ticket)) (hl : c.ticket.ledger < s.ledgers.size)
    (hlow : c.ticket.id.raw < (s.ledger c.ticket.ledger).next)
    (hdraw : c.record? = none → s.server.closed = false → c.surface ∈ announcements (sent ++ s.queue))
    (hannounce : c.record?.isSome →
      (∀ id ∈ announcements (sent ++ s.queue), id.raw < c.surface.raw) ∧
        c.surface.raw < s.surfaces.next) :
    InOrder spare (s.submit c).2 sent shut := by
  have ht := h.sound.submit c
  rcases s.submit_cases h.sound.ring c with ⟨-, ring, hs, hwf, hlist, -⟩ | ⟨-, hs⟩
  · rw [hs] at ht ⊢
    have hqueue : queue { s with ring, accepted := s.accepted.push c } = s.queue ++ [c] := hlist
    have hnotgone : c.ticket ∉ s.tornDown ++ shut := fun hg => hnew (h.gone _ hg)
    have hall : announcements (sent ++ (s.queue ++ [c])) =
        announcements (sent ++ s.queue) ++ announcements [c] := by
      rw [← List.append_assoc, announcements_append]
    refine ⟨ht.sound, h.ledgers_pos, h.builders_pos, h.builder_lt, h.few, ?_, ?_, fun d hd => ?_,
      fun t hg => ?_, ?_, ?_, fun hc x hx => ?_, fun hc => ?_, h.first⟩
    · rw [hqueue, ← List.append_assoc, ← h.kept, Array.toList_push, List.filter_append]
      congr 1
      exact List.filter_eq_self.mpr (by simpa [tornDown] using hnotgone)
    · rw [Array.toList_push, List.map_append]
      exact nodup_concat h.distinct hnew
    · rw [Array.toList_push, List.mem_append, List.mem_singleton] at hd
      rcases hd with hd | rfl
      · exact h.low d hd
      · exact ⟨hl, hlow⟩
    · rw [Array.toList_push, List.map_append]
      exact List.mem_append_left _ (h.gone t hg)
    · rw [hqueue, hall, List.pairwise_append]
      refine ⟨h.increasing, ?_, fun id hid id' hid' => ?_⟩
      · cases hr : c.record? with
        | none => simp [announcements_of_none hr]
        | some record => simp [announcements_of_some (c := c) (by simp [hr])]
      · obtain ⟨d, hd, hsome, rfl⟩ := mem_announcements.mp hid'
        rw [List.mem_singleton.mp hd] at hsome ⊢
        exact (hannounce hsome).1 id hid
    · intro id hid
      rw [hqueue, hall, List.mem_append] at hid
      rcases hid with hid | hid
      · exact h.below id hid
      · obtain ⟨d, hd, hsome, rfl⟩ := mem_announcements.mp hid
        rw [List.mem_singleton.mp hd] at hsome ⊢
        exact (hannounce hsome).2
    · rw [hqueue, hall]
      exact List.mem_append_left _ (h.known hc x hx)
    · rw [hqueue, ← List.append_assoc, announcedFirst_append]
      exact ⟨h.ahead hc, fun hr => hdraw hr hc, trivial⟩
  · rw [hs] at ht ⊢
    exact h.keep ht rfl rfl (tornDown_release c (by simp)) rfl rfl rfl

/-- An announced surface becomes live. -/
theorem goLive (h : InOrder spare s sent shut) {x : Surface}
    (hx : x.id ∈ announcements (sent ++ s.queue)) :
    InOrder spare { s with surfaces := s.surfaces.insert x } sent shut :=
  { h with
    sound := ⟨h.sound.ring, h.sound.held, h.sound.counted⟩
    known := fun hc y hy => by
      rcases List.mem_append.mp hy with hy | hy
      · exact h.known hc y hy
      · rw [List.mem_singleton.mp hy]
        exact hx }

theorem known_of_find? (h : InOrder spare s sent shut) (hopen : s.server.closed = false)
    {id : SurfaceId} {x : Surface} (hx : s.surfaces.find? id = some x) :
    id ∈ announcements (sent ++ s.queue) := by
  have hid : x.id = id := by simpa using List.find?_some hx
  rw [← hid]
  exact h.known hopen x (List.mem_of_find?_eq_some hx)

theorem ticket_new (h : InOrder spare s sent shut) (i : Nat) :
    (⟨i, ⟨(s.ledger i).next⟩⟩ : Ticket) ∉ s.accepted.toList.map (·.ticket) := by
  intro hmem
  obtain ⟨c, hc, ht⟩ := List.mem_map.mp hmem
  have hlow := (h.low c hc).2
  rw [ht] at hlow
  exact UInt64.lt_irrefl _ hlow

theorem next_lt {a b : UInt64} (h : b.toNat = a.toNat + 1) : a < b := by
  rw [UInt64.lt_iff_toNat_lt]
  omega

/-- An announcement keeps the order; a surface that it makes live is announced, and a fill of it may
still take a release id. -/
theorem createSurface (h : InOrder 0 s sent shut) {width height : UInt32} {backing : Backing}
    {r : Except Fault SurfaceId × Session} (hr : s.createSurface width height backing = .ok r) :
    InOrder 0 r.2 sent shut ∧ ∀ id, r.1 = .ok id → InOrder 1 r.2 sent shut := by
  rcases createSurface_cases hr with ⟨e, rfl⟩ | ⟨record, c, -, -, -, -, hnext, rfl, hsub⟩
  · exact ⟨h, by simp⟩
  · have hsucc : (s.surfaces.next + 1).toNat = s.surfaces.next.toNat + 1 := by
      rw [UInt32.toNat_add, UInt32.toNat_one, Nat.mod_eq_of_lt hnext]
    have hsurfaces := numbered_surfaces hnext
    have hlt : s.surfaces.next < s.numbered.surfaces.next := by
      rw [hsurfaces]
      exact lt_add_one hnext
    have hbuilder : s.numbered.builder 0 = s.builder 0 := rfl
    obtain ⟨hnum, hledger⟩ : InOrder 1 s.numbered sent shut ∧ _ :=
      h.issue h.ledgers_pos h.sound.numbered rfl rfl rfl (by rw [hsurfaces]) rfl rfl
        (UInt32.le_of_lt hlt) (by
          rw [hsurfaces, hbuilder]
          simp only
          omega)
    have hsubmit := hnum.submit
      (c := announcement ⟨s.surfaces.next⟩ width height record ⟨0, ⟨(s.ledger 0).next⟩⟩)
      (h.ticket_new 0) hnum.ledgers_pos (next_lt hledger) (fun hnone => by cases hnone)
      (fun _ => ⟨h.below, hlt⟩)
    rcases hsub with ⟨s', hs, rfl⟩ | ⟨e, s', hs, rfl⟩
    · have hcases := s.numbered.submit_cases hnum.sound.ring
        (announcement ⟨s.surfaces.next⟩ width height record ⟨0, ⟨(s.ledger 0).next⟩⟩)
      rw [hs] at hsubmit hcases
      rcases hcases with ⟨-, ring, he, -, hlist, -⟩ | ⟨-, he⟩
      · cases he
        have hlive := hsubmit.goLive (x := ⟨⟨s.surfaces.next⟩, backing⟩) (by
          rw [queue, hlist, announcements_append, announcements_append]
          exact List.mem_append_right _ (List.mem_append_right _ (List.mem_singleton.mpr rfl)))
        exact ⟨hlive.weaken (Nat.zero_le 1), fun _ _ => hlive⟩
      · cases he
    · rw [hs] at hsubmit
      exact ⟨hsubmit.weaken (Nat.zero_le 1), fun id he => by cases he⟩

theorem fillRect (h : InOrder 1 s sent shut) (surface : SurfaceId) (colour : UInt32) (x y : Int32)
    (width height : UInt32) :
    InOrder 0 (s.fillRect 0 surface colour x y width height).2 sent shut := by
  rcases s.fillRect_cases 0 surface colour x y width height with ⟨e, hf⟩ | ⟨bbox, live, hlive, -, -, -, hf⟩
  · rw [hf]
    exact h.weaken (Nat.zero_le 1)
  · rw [hf]
    obtain ⟨hnum, hledger⟩ : InOrder 0 (s.ticketed 0) sent shut ∧ _ :=
      h.issue h.builder_lt (h.sound.ticketed 0) rfl rfl rfl rfl rfl rfl (UInt32.le_refl _)
        (Nat.le_refl _)
    exact hnum.submit (h.ticket_new _) (hnum.builder_lt) (next_lt hledger)
      (fun _ hopen => h.known_of_find? hopen hlive) (fun hsome => by cases hsome)

theorem paintImage (h : InOrder 0 s sent shut) (surface : SurfaceId) (x y : Int32)
    (width height : UInt32) (pixels : View) (stride : UInt32) (damage : Damage)
    {r : Except Fault ImageId × Session}
    (hr : s.paintImage 0 surface x y width height pixels stride damage = .ok r) :
    InOrder 0 r.2 sent shut := by
  rcases paintImage_cases hr with ⟨e, rfl⟩ | ⟨bbox, live, hlive, -, -, -, -, hnext, rfl⟩
  · have ht : Transfer s [] (s.drop pixels) [] := .of_eq h.sound rfl rfl rfl rfl fun _ => rfl
    exact h.keep ht rfl rfl rfl rfl rfl rfl
  · have heq := imageNumbered_eq (s := s) (b := 0)
    have himage := nextImage_imageNumbered h.builders_pos hnext
    have hsize : ((s.imageNumbered 0).ticketed 0).builders.size = s.builders.size :=
      size_imageNumbered
    have hsame : ((s.imageNumbered 0).ticketed 0).ring = s.ring ∧
        ((s.imageNumbered 0).ticketed 0).accepted = s.accepted ∧
        ((s.imageNumbered 0).ticketed 0).notices = s.notices ∧
        ((s.imageNumbered 0).ticketed 0).surfaces = s.surfaces ∧
        ((s.imageNumbered 0).ticketed 0).server = s.server := by
      rw [heq]
      exact ⟨rfl, rfl, rfl, rfl, rfl⟩
    obtain ⟨hring, haccepted, hnotices, hsurfaces, hserver⟩ := hsame
    obtain ⟨hnum, hledger⟩ : InOrder 0 ((s.imageNumbered 0).ticketed 0) sent shut ∧ _ :=
      h.issue h.builder_lt (h.sound.imageTicketed 0) hring haccepted hnotices (by rw [hsurfaces])
        hserver hsize (by rw [hsurfaces]; exact UInt32.le_refl _) (by
          have hb : ((s.imageNumbered 0).ticketed 0).builder 0 = (s.imageNumbered 0).builder 0 := rfl
          rw [hsurfaces, hb, himage]
          omega)
    refine hnum.submit ?_ ?_ (next_lt hledger) (fun _ hopen => ?_) (fun hsome => by cases hsome)
    · rw [haccepted]
      exact h.ticket_new _
    · exact (h.sound.imageTicketed 0).size ▸ h.builder_lt
    · rw [hserver] at hopen
      rw [queue, hring]
      exact h.known_of_find? hopen hlive

/-! ## Commands that never reach the server -/

/-- Without the tickets of some queued commands, those commands are missing and no others. -/
theorem filter_ticket {queue : List Command} (h : ((sent ++ queue).map (·.ticket)).Nodup)
    (p : Command → Bool) :
    (sent ++ queue).filter (fun c => decide (c.ticket ∉ (queue.filter p).map (·.ticket))) =
      sent ++ queue.filter (fun c => !p c) := by
  rw [List.map_append, List.nodup_append] at h
  obtain ⟨-, hqueue, hdisjoint⟩ := h
  rw [List.filter_append]
  congr 1
  · refine List.filter_eq_self.mpr fun c hc => ?_
    rw [decide_eq_true_eq]
    intro hmem
    obtain ⟨d, hd, he⟩ := List.mem_map.mp hmem
    exact hdisjoint _ (List.mem_map_of_mem hc) _
      (List.mem_map_of_mem (List.mem_filter.mp hd).1) he.symm
  · refine List.filter_congr fun c hc => ?_
    have hiff : c.ticket ∈ (queue.filter p).map (·.ticket) ↔ p c = true := by
      constructor
      · intro hmem
        obtain ⟨d, hd, he⟩ := List.mem_map.mp hmem
        obtain ⟨hd, hp⟩ := List.mem_filter.mp hd
        rw [← List.inj_on_of_nodup_map hqueue hd hc he]
        exact hp
      · exact fun hp => List.mem_map_of_mem (List.mem_filter.mpr ⟨hc, hp⟩)
    simp only [hiff, Bool.not_eq_true, Bool.decide_eq_false]

/-- Queued commands were lost. What is left of the live surfaces is still announced first. -/
theorem withdraw (h : InOrder spare s sent shut) {p : Command → Bool} {shut' : List Ticket}
    {as bs : List Command} (ht : Transfer s as s' bs)
    (hqueue : s'.queue = s.queue.filter (fun c => !p c)) (haccepted : s'.accepted = s.accepted)
    (hgone : s'.tornDown ++ shut' ⊆ s.tornDown ++ shut ++ (s.queue.filter p).map (·.ticket))
    (hgone' : s.tornDown ++ shut ++ (s.queue.filter p).map (·.ticket) ⊆ s'.tornDown ++ shut')
    (hnext : s'.surfaces.next = s.surfaces.next) (hbuilders : s'.builders = s.builders)
    (hknown : s'.server.closed = false →
      ∀ x ∈ s'.surfaces.live, x.id ∈ announcements (sent ++ s'.queue))
    (hahead : s'.server.closed = false → AnnouncedFirst [] (sent ++ s'.queue)) :
    InOrder spare s' sent shut' := by
  have hsub : (announcements (sent ++ s'.queue)).Sublist (announcements (sent ++ s.queue)) := by
    rw [hqueue]
    exact (List.filter_sublist.append_left sent).filterMap _
  have hmem : ∀ t, t ∈ s'.tornDown ++ shut' ↔
      t ∈ s.tornDown ++ shut ∨ t ∈ (s.queue.filter p).map (·.ticket) := fun t =>
    ⟨fun ht => List.mem_append.mp (hgone ht), fun ht => hgone' (List.mem_append.mpr ht)⟩
  refine ⟨ht.sound, ht.size ▸ h.ledgers_pos, hbuilders ▸ h.builders_pos, ?_, fun i hi => ?_, ?_,
    haccepted ▸ h.distinct, fun c hc => ?_, fun t htm => ?_, h.increasing.sublist hsub, fun id hid => ?_,
    hknown, hahead, h.first⟩
  · rw [ht.builders, ht.size]
    exact h.builder_lt
  · rw [ht.next, hnext, builder, hbuilders]
    exact h.few i (ht.size ▸ hi)
  · rw [hqueue, ← filter_ticket h.nodup p, ← h.kept, List.filter_filter, haccepted]
    refine List.filter_congr fun c _ => ?_
    rw [← Bool.decide_and, decide_eq_decide, hmem, not_or]
    exact And.comm
  · rw [ht.size, ht.next]
    exact h.low c (haccepted ▸ hc)
  · rw [haccepted]
    rcases (hmem t).mp htm with htm | htm
    · exact h.gone t htm
    · obtain ⟨c, hc, rfl⟩ := List.mem_map.mp htm
      have hkept : c ∈ sent ++ s.queue := List.mem_append_right _ (List.mem_filter.mp hc).1
      rw [← h.kept] at hkept
      exact List.mem_map_of_mem (List.mem_filter.mp hkept).1
  · rw [hnext]
    exact h.below id (hsub.subset hid)

theorem withdrawSurface (h : InOrder spare s sent shut) (id : SurfaceId) :
    InOrder spare (s.withdrawSurface id) sent shut := by
  obtain ⟨-, hqueue, hnotices, hsurfaces, hserver, -, haccepted, hbuilders⟩ :=
    s.withdrawSurface_spec h.sound.ring id
  have htorn : (s.withdrawSurface id).tornDown =
      s.tornDown ++ (s.queue.filter (·.surface = id)).map (·.ticket) := tornDown_of_notices hnotices
  refine h.withdraw (h.sound.withdrawSurface id) hqueue haccepted ?_ ?_ (by rw [hsurfaces]) hbuilders
    (fun hopen x hx => ?_) (fun hopen => ?_)
  · rw [htorn]
    intro t
    simp only [List.mem_append]
    tauto
  · rw [htorn]
    intro t
    simp only [List.mem_append]
    tauto
  · rw [hserver] at hopen
    rw [hsurfaces] at hx
    obtain ⟨hx, hne⟩ := List.mem_filter.mp hx
    obtain ⟨c, hc, hsome, hs⟩ := mem_announcements.mp (h.known hopen x hx)
    refine mem_announcements.mpr ⟨c, ?_, hsome, hs⟩
    rcases List.mem_append.mp hc with hc | hc
    · exact List.mem_append_left _ hc
    · rw [hqueue]
      exact List.mem_append_right _ (List.mem_filter.mpr ⟨hc, by simpa [hs] using hne⟩)
  · rw [hserver] at hopen
    have hahead := h.ahead hopen
    rw [announcedFirst_append] at hahead
    rw [hqueue, announcedFirst_append]
    exact ⟨hahead.1, hahead.2.filter fun x hx _ => hx⟩

/-- A shutdown keeps the order: what was queued never reaches the server. -/
theorem shutdown (h : InOrder spare s sent shut) :
    InOrder spare s.shutdown.2 sent (shut ++ s.queue.map (·.ticket)) := by
  obtain ⟨hall, -, hnil, hserver, hnotices, -, haccepted, hsurfaces, hbuilders⟩ :=
    shutdown_spec h.sound.ring
  have htorn : s.shutdown.2.tornDown = s.tornDown := by
    rw [hall] at hnotices
    simpa using tornDown_of_notices hnotices
  refine h.withdraw (p := fun _ => true) h.sound.shutdown ?_ haccepted ?_ ?_ (by rw [hsurfaces])
    hbuilders (fun hopen => ?_) (fun hopen => ?_)
  · simp [hnil]
  · simp [htorn, List.append_assoc]
  · simp [htorn, List.append_assoc]
  · rw [hserver] at hopen
    cases hopen
  · rw [hserver] at hopen
    cases hopen

/-! ## The server's side -/

/-- A fetch takes commands off the front of the queue, and the server sees them. -/
theorem fetch {r : Except Fault (Option Dispatched)} (hf : Fetch s r s')
    (h : InOrder spare s sent shut) (hopen : s.server.closed = false)
    (hworker : s.server.worker.isSome) :
    ∃ taken told, InOrder spare s' (sent ++ taken) shut ∧ s'.announced = s.announced ++ told ∧
      told ++ drawnBy r = taken.map (·.delivery) := by
  induction hf generalizing sent with
  | stop s => exact ⟨[], [], by simpa using h, by simp, rfl⟩
  | @draw s c ring hqueue hring hrecord =>
      have ht := h.sound.pop hqueue hring
      refine ⟨[c], [], h.move (ht.trans (ht.sound.handOff c)) ?_ ?_ ?_ ?_ ?_ ?_ fun _ => hopen, ?_, ?_⟩
      · simpa [queue] using hqueue
      · simp
      · have htorn := tornDown_of_notices (handOff_notices (s := { s with ring }) c)
        exact htorn.trans (by simp [tornDown])
      · simp
      · simp
      · simp
      · simp [announced]
      · simp [Command.delivery, hrecord, drawnBy]
  | @reject s c ring record hqueue hring hrecord hnone =>
      rw [Option.isNone_iff_eq_none.mp hnone] at hworker
      cases hworker
  | @announce s s' c ring record r hqueue hring hrecord hrest ih =>
      have ht := h.sound.pop hqueue hring
      have hdel := ht.trans (ht.sound.deliver c (.createSurface c.surface record))
      have hsent : InOrder spare _ (sent ++ [c]) shut :=
        h.move hdel hqueue rfl (tornDown_release c (by simp)) rfl rfl rfl fun _ => hopen
      obtain ⟨taken, told, horder, hannounced, htold⟩ := ih hsent hopen hworker
      refine ⟨c :: taken, .announced c.surface record :: told, by simpa using horder, ?_, ?_⟩
      · rw [hannounced]
        simp [announced, Session.call, WorkerCall.delivery?]
      · simp [htold, Command.delivery, hrecord]

/-- What the server gets is what comes next. -/
theorem nextCommand (h : InOrder spare s sent shut) (hworker : s.server.worker.isSome) :
    ∃ taken told, InOrder spare s.nextCommand.2 (sent ++ taken) shut ∧
      s.nextCommand.2.announced = s.announced ++ told ∧
      told ++ drawnBy s.nextCommand.1 = taken.map (·.delivery) := by
  cases hc : s.server.closed with
  | true =>
      have hnext : s.nextCommand = (.ok none, s) := by simp [Session.nextCommand, hc]
      rw [hnext]
      exact ⟨[], [], by simpa using h, by simp, rfl⟩
  | false =>
      have hnext : s.nextCommand = s.fetch s.ring.length := by simp [Session.nextCommand, hc]
      rw [hnext]
      exact h.fetch (fetch_spec h.sound.ring s.ring.length) hc hworker

theorem giveBack (h : InOrder spare s sent shut) (id : ReleaseId) (group : UInt32) :
    InOrder spare (s.giveBack id group).2 sent shut := by
  have ht := h.sound.giveBack id group
  simp only [Session.giveBack] at ht ⊢
  by_cases hgroup : group ≠ Wire.memorySlotGroup
  · rw [if_pos hgroup]
    exact h
  · rw [if_neg hgroup] at ht ⊢
    cases hc : s.heldCommand? id with
    | none => exact h
    | some c =>
        rw [hc] at ht
        exact h.keep ht rfl rfl (tornDown_release c (by simp)) rfl rfl rfl

theorem withStore (h : InOrder spare s sent shut) (store : PixelStore) :
    InOrder spare { s with store } sent shut := by
  have ht : Transfer s [] { s with store } [] := .of_eq h.sound rfl rfl rfl rfl fun _ => rfl
  exact h.keep ht rfl rfl rfl rfl rfl rfl

theorem call (h : InOrder spare s sent shut) (c : WorkerCall) : InOrder spare (s.call c) sent shut := by
  have ht : Transfer s [] (s.call c) [] := .of_eq h.sound rfl rfl rfl rfl fun _ => rfl
  exact h.keep ht rfl rfl rfl rfl rfl rfl

theorem callAttached (h : InOrder spare s sent shut) (c : WorkerCall) :
    InOrder spare (s.callAttached c) sent shut := by
  simp only [Session.callAttached]
  split
  · exact h.call c
  · exact h

theorem attachWorker (h : InOrder spare s sent shut) (name : Nat) :
    InOrder spare (s.attachWorker name).2 sent shut := by
  simp only [Session.attachWorker]
  split
  · exact h
  · have ht : Transfer s [] { s with server := { s.server with worker := some name } } [] :=
      .of_eq h.sound rfl rfl rfl rfl fun _ => rfl
    exact (h.keep ht rfl rfl rfl rfl rfl rfl).call _

/-- What was shut may be listed again, and what was torn down may be counted as shut. -/
theorem congr (h : InOrder spare s sent shut) {shut' : List Ticket}
    (hshut : ∀ t, t ∈ s.tornDown ++ shut' ↔ t ∈ s.tornDown ++ shut) :
    InOrder spare s sent shut' :=
  { h with
    kept := by simpa only [hshut] using h.kept
    gone := fun t ht => h.gone t ((hshut t).mp ht) }

end InOrder

/-! ## What the worker is told in the meantime -/

theorem announced_call {c : WorkerCall} (hc : c.delivery? = none) :
    (s.call c).announced = s.announced := by
  simp [announced, call, hc]

theorem announced_callAttached {c : WorkerCall} (hc : c.delivery? = none) :
    (s.callAttached c).announced = s.announced := by
  simp only [callAttached]
  split
  · exact announced_call hc
  · rfl

theorem submit_calls (c : Command) : (s.submit c).2.calls = s.calls := by
  simp only [submit, enqueue?]
  split
  · rename_i he
    obtain ⟨ring, -, rfl⟩ := Option.map_eq_some_iff.mp he
    rfl
  · rfl

theorem createSurface_calls {width height : UInt32} {backing : Backing}
    {r : Except Fault SurfaceId × Session} (hr : s.createSurface width height backing = .ok r) :
    r.2.calls = s.calls := by
  rcases createSurface_cases hr with ⟨e, rfl⟩ | ⟨record, c, -, -, -, -, -, rfl, hsub⟩
  · rfl
  · have hcalls := s.numbered.submit_calls
      (announcement ⟨s.surfaces.next⟩ width height record ⟨0, ⟨(s.ledger 0).next⟩⟩)
    rcases hsub with ⟨s', hs, rfl⟩ | ⟨e, s', hs, rfl⟩ <;>
      · rw [hs] at hcalls
        exact hcalls

theorem fillRect_calls (b : Nat) (surface : SurfaceId) (colour : UInt32) (x y : Int32)
    (width height : UInt32) : (s.fillRect b surface colour x y width height).2.calls = s.calls := by
  rcases s.fillRect_cases b surface colour x y width height with ⟨e, hf⟩ | ⟨bbox, live, -, -, -, -, hf⟩
  · rw [hf]
  · rw [hf]
    exact submit_calls _

theorem paintImage_calls {b : Nat} {surface : SurfaceId} {x y : Int32} {width height : UInt32}
    {pixels : View} {stride : UInt32} {damage : Damage} {r : Except Fault ImageId × Session}
    (hr : s.paintImage b surface x y width height pixels stride damage = .ok r) : r.2.calls = s.calls := by
  rcases paintImage_cases hr with ⟨e, rfl⟩ | ⟨bbox, live, -, -, -, -, -, -, rfl⟩
  · rfl
  · rw [submit_calls, imageNumbered_eq]
    rfl

/-! ## The beginning -/

/-- A session that nothing was done with yet. -/
structure Untouched (s : Session) : Prop extends s.Fresh where
  accepted : s.accepted = #[]
  live : s.surfaces.live = []
  painter : 0 < s.builders.size
  images : 0 < (s.builder 0).nextImage.toNat

theorem untouched_ofRing {ring : Ring Command} (hring : ring.WellFormed)
    (hnil : ring.toList = []) (retries surfaceCapacity : Nat) {skews : List UInt32}
    (hskews : skews ≠ []) : (Session.ofRing ring retries surfaceCapacity skews).Untouched where
  toFresh := fresh_ofRing hring hnil retries surfaceCapacity hskews
  accepted := rfl
  live := rfl
  painter := by simpa [ofRing] using List.length_pos_iff.mpr hskews
  images := by
    cases skews with
    | nil => exact absurd rfl hskews
    | cons skew skews => simp [ofRing, builder]

theorem Untouched.inOrder {s : Session} (h : s.Untouched) : s.InOrder 0 [] [] := by
  have hnil : s.tornDown = [] := by simp [tornDown, h.notices]
  refine ⟨⟨h.ring, by simp [h.held], fun i _ => ?_⟩, h.first, h.painter, h.builders 0, fun i _ => ?_, ?_, ?_,
    ?_, ?_, ?_, ?_, ?_, ?_, trivial⟩
  · simp [h.ledgers i, released, h.notices]
  · have himages := h.images
    simp only [h.ledgers i, UInt64.toNat_one]
    omega
  · simp [h.accepted, h.queue]
  · simp [h.accepted]
  · simp [h.accepted]
  · simp [hnil]
  · simp [h.queue, announcements]
  · simp [h.queue, announcements]
  · simp [h.live]
  · simp [h.queue, AnnouncedFirst]

end Session

end RemoteDisplay
