import RemoteDisplay.Proofs.Session.Closing
import RemoteDisplay.Proofs.Session.Sizes
import RemoteDisplay.Proofs.Since
import RemoteDisplay.Proofs.Table

/-!
# The table of live surfaces

A surface is created if the table has room for it, its backing fits, a number is left and the ring takes
the announcement. Its number is used up before the ring is asked, so numbers grow whatever becomes of the
attempts, and a surface is live from its creation until it is destroyed.
-/

namespace RemoteDisplay

namespace Session

variable {s t : Session} {width height : UInt32} {backing : Backing} {id : SurfaceId}

/-! ## Creating a surface -/

theorem spans_announcement (hw : width.toNat ≤ 2147483647) (hh : height.toNat ≤ 2147483647)
    (surface : SurfaceId) (record : Wire.SurfaceRecord) (ticket : Ticket) :
    (announcement surface width height record ticket).bbox.Spans 0 0 width height :=
  Rect.spans_of_ofOrigin? (Rect.ofOrigin?_zero hw hh)

/-- How a creation ends: it is refused outright, it goes through, or the full ring rejects it after it
took its number. -/
inductive Creation (s : Session) (width height : UInt32) (backing : Backing) :
    Except Fault SurfaceId → Session → Prop where
  | refused (hunfit : ¬s.Admits width height backing) (e : Fault) :
      Creation s width height backing (.error e) s
  | created {record : Wire.SurfaceRecord} {t : Session} (hadmits : s.Admits width height backing)
      (hroom : s.ring.length < s.ring.capacity)
      (hrecord : Wire.SurfaceRecord.primary width height 0 = .ok record)
      (hqueue : t.queue = s.queue ++ [s.nextAnnouncement width height record])
      (hnotices : t.notices = s.notices)
      (hsurfaces : t.surfaces = { s.surfaces with
        next := s.surfaces.next + 1, live := s.surfaces.live ++ [⟨⟨s.surfaces.next⟩, backing⟩] }) :
      Creation s width height backing (.ok ⟨s.surfaces.next⟩) t
  | rejected {record : Wire.SurfaceRecord} {t : Session} (hadmits : s.Admits width height backing)
      (hfull : s.ring.length = s.ring.capacity) (hring : t.ring = s.ring)
      (hnotices : t.notices =
        s.notices.push ((s.nextAnnouncement width height record).notice .rejected))
      (hsurfaces : t.surfaces = { s.surfaces with next := s.surfaces.next + 1 }) :
      Creation s width height backing (.error (.ringFull s.ring.capacity)) t

theorem creation_of_createSurface (h : s.ring.WellFormed) {answer : Except Fault SurfaceId}
    (hr : s.createSurface width height backing = .ok (answer, t)) :
    Creation s width height backing answer t := by
  by_cases hadmits : s.Admits width height backing
  · rw [createSurface_of_admits hadmits] at hr
    cases hrecord : Wire.SurfaceRecord.primary width height 0 with
    | error trap =>
        rw [hrecord] at hr
        cases hr
    | ok record =>
        rcases s.numbered.submit_cases h (s.nextAnnouncement width height record) with
          ⟨hroom, ring, hs, -, hlist, -⟩ | ⟨hfull, hs⟩
        · simp only [hrecord, Except.map, hs] at hr
          cases hr
          refine .created hadmits hroom hrecord hlist rfl ?_
          simp only [numbered_surfaces hadmits.number, SurfaceTable.insert]
        · simp only [hrecord, Except.map, hs] at hr
          cases hr
          exact .rejected hadmits hfull rfl rfl (numbered_surfaces hadmits.number)
  · obtain ⟨e, he⟩ := createSurface_of_not_admits hadmits
    cases hr.symm.trans he
    exact .refused hadmits e

/-! ## Histories -/

/-- What happens to the table. -/
inductive TableEvent where
  | created (id : SurfaceId)
  | destroyed (id : SurfaceId)
  deriving DecidableEq, Repr

def TableEvent.created? : TableEvent → Option SurfaceId
  | created id => some id
  | destroyed _ => none

/-- The numbers given out, in order. -/
def createdIn (log : List TableEvent) : List SurfaceId := log.filterMap (·.created?)

/-- The calls on the table from `s₀` on, with any use of the rest of the session in between. -/
inductive TableHistory (s₀ : Session) : List TableEvent → Session → Prop where
  | start : TableHistory s₀ [] s₀
  | created {log : List TableEvent} {s t : Session} {width height : UInt32} {backing : Backing}
      {id : SurfaceId} (h : TableHistory s₀ log s)
      (hr : s.createSurface width height backing = .ok (.ok id, t)) :
      TableHistory s₀ (log ++ [.created id]) t
  | refused {log : List TableEvent} {s t : Session} {width height : UInt32} {backing : Backing}
      {e : Fault} (h : TableHistory s₀ log s)
      (hr : s.createSurface width height backing = .ok (.error e, t)) : TableHistory s₀ log t
  | destroyed {log : List TableEvent} {s : Session} (h : TableHistory s₀ log s) (id : SurfaceId) :
      TableHistory s₀ (log ++ [.destroyed id]) (s.destroySurface id).2
  | traffic {log : List TableEvent} {s t : Session} (h : TableHistory s₀ log s) (hu : Use s t)
      (hsurfaces : t.surfaces = s.surfaces) : TableHistory s₀ log t

/-- The table is as its log says: numbers grew, and a surface is live since it was created. -/
structure Tabled (n : Nat) (log : List TableEvent) (s : Session) : Prop where
  sound : s.Sound
  capacity : s.surfaces.capacity = n
  bounded : s.surfaces.live.length ≤ n
  nodup : (s.surfaces.live.map (·.id)).Nodup
  ascending : (createdIn log).Pairwise (·.raw < ·.raw)
  low : ∀ id ∈ createdIn log, id.raw < s.surfaces.next
  live : ∀ id, id ∈ s.surfaces.live.map (·.id) ↔ Since (· = .created id) (· = .destroyed id) log

variable {n : Nat} {log : List TableEvent}

theorem contains_iff : s.surfaces.contains id = true ↔ id ∈ s.surfaces.live.map (·.id) :=
  find?_key_isSome Surface.id

theorem createdIn_created (log : List TableEvent) (id : SurfaceId) :
    createdIn (log ++ [.created id]) = createdIn log ++ [id] := by
  simp [createdIn, TableEvent.created?]

theorem createdIn_destroyed (log : List TableEvent) (id : SurfaceId) :
    createdIn (log ++ [.destroyed id]) = createdIn log := by
  simp [createdIn, TableEvent.created?]

theorem mem_createdIn_of_since (h : Since (· = .created id) (· = .destroyed id) log) :
    id ∈ createdIn log := by
  obtain ⟨earlier, x, later, rfl, rfl, -⟩ := h
  exact List.mem_filterMap.mpr ⟨.created id, by simp, rfl⟩

theorem Tabled.live_low (h : Tabled n log s) (hid : id ∈ s.surfaces.live.map (·.id)) :
    id.raw < s.surfaces.next :=
  h.low id (mem_createdIn_of_since ((h.live id).mp hid))

theorem Tabled.created (h : Tabled n log s)
    (hr : s.createSurface width height backing = .ok (.ok id, t)) :
    Tabled n (log ++ [.created id]) t := by
  have hsound := (Use.steady (.createSurface hr) h.sound).sound
  cases creation_of_createSurface h.sound.ring hr with
  | created hadmits hroom hrecord hqueue hnotices hsurfaces =>
      have hgrow := lt_add_one hadmits.number
      have hnew : (⟨s.surfaces.next⟩ : SurfaceId) ∉ s.surfaces.live.map (·.id) :=
        fun hmem => UInt32.lt_irrefl _ (h.live_low hmem)
      refine ⟨hsound, ?_, ?_, ?_, ?_, fun x hx => ?_, fun x => ?_⟩
      · rw [hsurfaces]
        exact h.capacity
      · have hlt := hadmits.room
        rw [h.capacity] at hlt
        rw [hsurfaces, List.length_append]
        exact hlt
      · rw [hsurfaces]
        simpa using nodup_concat h.nodup hnew
      · rw [createdIn_created]
        exact List.pairwise_append.mpr ⟨h.ascending, List.pairwise_singleton _ _,
          fun x hx y hy => List.mem_singleton.mp hy ▸ h.low x hx⟩
      · rw [hsurfaces]
        rw [createdIn_created] at hx
        rcases List.mem_append.mp hx with hx | hx
        · exact UInt32.lt_trans (h.low x hx) hgrow
        · rw [List.mem_singleton.mp hx]
          exact hgrow
      · rw [hsurfaces, since_concat, ← h.live x]
        simp [eq_comm, or_comm]

theorem Tabled.refused {e : Fault} (h : Tabled n log s)
    (hr : s.createSurface width height backing = .ok (.error e, t)) : Tabled n log t := by
  have hsound := (Use.steady (.createSurface hr) h.sound).sound
  cases creation_of_createSurface h.sound.ring hr with
  | refused hunfit => exact h
  | rejected hadmits hfull hring hnotices hsurfaces =>
      refine ⟨hsound, ?_, ?_, ?_, h.ascending, fun x hx => ?_, ?_⟩ <;> rw [hsurfaces]
      · exact h.capacity
      · exact h.bounded
      · exact h.nodup
      · exact UInt32.lt_trans (h.low x hx) (lt_add_one hadmits.number)
      · exact h.live

theorem Tabled.destroyed (h : Tabled n log s) (id : SurfaceId) :
    Tabled n (log ++ [.destroyed id]) (s.destroySurface id).2 := by
  have hsound := (Use.steady (.destroySurface s id) h.sound).sound
  rw [destroySurface_eq] at hsound ⊢
  refine ⟨hsound, h.capacity, ?_, ?_, ?_, ?_, fun x => ?_⟩
  · exact Nat.le_trans (List.length_filter_le _ _) h.bounded
  · exact h.nodup.sublist (List.filter_sublist.map _)
  · rw [createdIn_destroyed]
    exact h.ascending
  · rw [createdIn_destroyed]
    exact h.low
  · rw [since_concat, ← h.live x, map_filter_key Surface.id, List.mem_filter]
    simp only [reduceCtorEq, false_or, TableEvent.destroyed.injEq, decide_eq_true_eq, ne_eq,
      @eq_comm _ id x]

theorem Tabled.traffic (h : Tabled n log s) (hu : Use s t) (hsurfaces : t.surfaces = s.surfaces) :
    Tabled n log t :=
  ⟨(hu.steady h.sound).sound, hsurfaces ▸ h.capacity, hsurfaces ▸ h.bounded, hsurfaces ▸ h.nodup,
    h.ascending, hsurfaces ▸ h.low, hsurfaces ▸ h.live⟩

theorem TableHistory.tabled {s₀ : Session} (hh : TableHistory s₀ log s) (h₀ : s₀.Sound)
    (hempty : s₀.surfaces = { capacity := n }) : Tabled n log s := by
  induction hh with
  | start =>
      refine ⟨h₀, ?_, ?_, ?_, .nil, nofun, fun id => ?_⟩ <;> rw [hempty]
      · exact Nat.zero_le _
      · exact .nil
      · simp [not_since_nil]
  | created h hr ih => exact ih.created hr
  | refused h hr ih => exact ih.refused hr
  | destroyed h id ih => exact ih.destroyed id
  | traffic h hu hsurfaces ih => exact ih.traffic hu hsurfaces

/-! ## The laws of the table -/

/-- What a creation answers and leaves behind. Just those numbers were given out before that are
`earlier`. -/
structure Creates (s : Session) (earlier : List SurfaceId) (width height : UInt32) (backing : Backing)
    (answer : Except Fault SurfaceId) (t : Session) : Prop where
  succeeds : (∃ id, answer = .ok id) ↔
    s.Admits width height backing ∧ s.ring.length < s.ring.capacity
  created : ∀ id, answer = .ok id → (∀ old ∈ earlier, old.raw < id.raw) ∧
    (∃ c, t.queue = s.queue ++ [c] ∧ c.Announces id width height ∧
      c.bbox.Spans 0 0 width height) ∧
    t.surfaces.live = s.surfaces.live ++ [⟨id, backing⟩] ∧ t.notices = s.notices
  failed : ∀ e, answer = .error e → t.surfaces.live = s.surfaces.live ∧ t.ring = s.ring
  /-- Only a full ring stood in the way. -/
  rejected : ∀ e, answer = .error e → s.Admits width height backing →
    ∃ ticket, t.notices =
      s.notices.push ⟨ticket, .createSurface, ⟨s.surfaces.next⟩, .rejected⟩
  refused : ∀ e, answer = .error e → ¬s.Admits width height backing → t = s

structure TableLaws (n : Nat) (log : List TableEvent) (s : Session) : Prop where
  bounded : s.surfaces.live.length ≤ n
  distinct : (s.surfaces.live.map (·.id)).Nodup
  ascending : (createdIn log).Pairwise (·.raw < ·.raw)
  live : ∀ id, s.surfaces.contains id = true ↔ Since (· = .created id) (· = .destroyed id) log
  create : ∀ width height backing, width.toNat ≤ 536870912 → height.toNat ≤ 2147483647 →
    ∃ answer t, s.createSurface width height backing = .ok (answer, t) ∧
      Creates s (createdIn log) width height backing answer t
  destroy : ∀ id, s.surfaces.contains id = true → s.destroySurface id = (.ok (), { s with
    surfaces.live := s.surfaces.live.filter (·.id ≠ id) })
  unknown : ∀ id, s.surfaces.contains id = false →
    s.destroySurface id = (.error (.destroyOfUnknown id), s)

theorem Creation.creates {answer : Except Fault SurfaceId}
    (h : Creation s width height backing answer t) (hw : width.toNat ≤ 536870912)
    (hh : height.toNat ≤ 2147483647) {earlier : List SurfaceId}
    (hlow : ∀ old ∈ earlier, old.raw < s.surfaces.next) :
    Creates s earlier width height backing answer t := by
  cases h with
  | refused hunfit e =>
      exact {
        succeeds := by simp [hunfit]
        created := nofun
        failed := fun _ _ => ⟨rfl, rfl⟩
        rejected := fun _ _ hadmits => absurd hadmits hunfit
        refused := fun _ _ _ => rfl }
  | created hadmits hroom hrecord hqueue hnotices hsurfaces =>
      refine ⟨by simp [hadmits, hroom], ?_, nofun, nofun, nofun⟩
      rintro id ⟨⟩
      exact ⟨hlow, ⟨_, hqueue, announces_announcement hw hrecord _ _,
        spans_announcement (by omega) hh _ _ _⟩, by rw [hsurfaces], hnotices⟩
  | rejected hadmits hfull hring hnotices hsurfaces =>
      exact {
        succeeds := by simp [hfull]
        created := nofun
        failed := fun _ _ => ⟨by rw [hsurfaces], hring⟩
        rejected := fun _ _ _ => ⟨_, hnotices⟩
        refused := fun _ _ hunfit => absurd hadmits hunfit }

theorem Tabled.laws (h : Tabled n log s) : TableLaws n log s where
  bounded := h.bounded
  distinct := h.nodup
  ascending := h.ascending
  live id := contains_iff.trans (h.live id)
  create width height backing hw hh := by
    obtain ⟨record, hrecord, -⟩ := Wire.SurfaceRecord.primary_eq_ok height 0 hw
    obtain ⟨answer, t, hr⟩ := exists_createSurface hrecord backing
    exact ⟨answer, t, hr, (creation_of_createSurface h.sound.ring hr).creates hw hh h.low⟩
  destroy id hid := by simp [destroySurface, SurfaceTable.destroy, hid]
  unknown id hid := by simp [destroySurface, SurfaceTable.destroy, hid]

/-- Whatever is created and destroyed, and whatever else happens to the session in between. -/
theorem TableHistory.table_laws {s₀ : Session} (hh : TableHistory s₀ log s) (h₀ : s₀.Sound)
    (hempty : s₀.surfaces = { capacity := n }) : TableLaws n log s :=
  (hh.tabled h₀ hempty).laws

/-- The ring has one slot. A second creation is rejected, and the third surface is number two. -/
theorem TableHistory.table_laws_one_slot :
    ∃ s₀ s : Session, s₀.Sound ∧ s₀.surfaces = { capacity := 2 } ∧
      TableHistory s₀ [.created ⟨0⟩, .destroyed ⟨0⟩, .created ⟨2⟩] s ∧
      TableLaws 2 [.created ⟨0⟩, .destroyed ⟨0⟩, .created ⟨2⟩] s := by
  let s₀ : Session := ofRing (.ofCapacity 1 0) 0 2 [350]
  have hfresh : s₀.Fresh :=
    fresh_ofRing (Ring.wellFormed_ofCapacity 1 0) (Ring.toList_ofCapacity 1 0) 0 2 (by simp)
  have hmade : (do
      let first ← (s₀.createSurface 4 3 ⟨4, 3, 48⟩).toOption
      let second ← (first.2.createSurface 4 3 ⟨4, 3, 48⟩).toOption
      let s := (second.2.destroySurface ⟨0⟩).2.dequeue.2
      let third ← (s.createSurface 4 3 ⟨4, 3, 48⟩).toOption
      return (first.1.toOption, second.1.toOption, third.1.toOption)) =
      some (some ⟨0⟩, none, some ⟨2⟩) := by
    decide +kernel
  cases hfirst : s₀.createSurface 4 3 ⟨4, 3, 48⟩ with
  | error trap =>
      rw [hfirst] at hmade
      cases hmade
  | ok r =>
      obtain ⟨first, s⟩ := r
      cases hsecond : s.createSurface 4 3 ⟨4, 3, 48⟩ with
      | error trap =>
          simp [hfirst, hsecond, Except.toOption] at hmade
      | ok r =>
          obtain ⟨second, t⟩ := r
          cases hthird : (t.destroySurface ⟨0⟩).2.dequeue.2.createSurface 4 3 ⟨4, 3, 48⟩ with
          | error trap =>
              simp [hfirst, hsecond, hthird, Except.toOption] at hmade
          | ok r =>
              obtain ⟨third, u⟩ := r
              simp only [hfirst, hsecond, hthird, Except.toOption, Option.bind_eq_bind,
                Option.bind_some, Option.pure_def] at hmade
              cases first <;> cases second <;> cases third <;> cases hmade
              have hhistory : TableHistory s₀ [.created ⟨0⟩, .destroyed ⟨0⟩, .created ⟨2⟩] u :=
                .created (.traffic (.destroyed (.refused (.created .start hfirst) hsecond) ⟨0⟩)
                  (.dequeue _) rfl) hthird
              exact ⟨s₀, u, hfresh.conserved.sound, rfl, hhistory,
                hhistory.table_laws hfresh.conserved.sound rfl⟩

/-- The ring is full, but it is the table that has no room: nothing is announced, and no notice given. -/
theorem full_table_gives_no_notice :
    ∃ s₀ s t : Session, s₀.Sound ∧ s₀.surfaces = { capacity := 1 } ∧
      TableHistory s₀ [.created ⟨0⟩] s ∧ s.ring.length = s.ring.capacity ∧
      s.createSurface 4 3 ⟨4, 3, 48⟩ = .ok (.error (.surfaceLimit 1), t) ∧ t.notices = s.notices := by
  let s₀ : Session := ofRing (.ofCapacity 1 0) 0 1 [350]
  have hfresh : s₀.Fresh :=
    fresh_ofRing (Ring.wellFormed_ofCapacity 1 0) (Ring.toList_ofCapacity 1 0) 0 1 (by simp)
  have hmade : (s₀.createSurface 4 3 ⟨4, 3, 48⟩).toOption.map (fun r =>
      (r.1.toOption, r.2.ring.length, r.2.ring.capacity, r.2.surfaces.live.length,
        r.2.surfaces.capacity)) = some (some ⟨0⟩, 1, 1, 1, 1) := by
    decide +kernel
  cases hcreate : s₀.createSurface 4 3 ⟨4, 3, 48⟩ with
  | error trap =>
      rw [hcreate] at hmade
      cases hmade
  | ok r =>
      obtain ⟨answer, s⟩ := r
      simp only [hcreate, Except.toOption, Option.map_some, Option.some.injEq, Prod.mk.injEq] at hmade
      obtain ⟨hanswer, hlength, hcapacity, hlive, hlimit⟩ := hmade
      cases answer with
      | error e => cases hanswer
      | ok id =>
          cases hanswer
          refine ⟨s₀, s, s, hfresh.conserved.sound, rfl, .created .start hcreate, by omega, ?_, rfl⟩
          rw [createSurface, if_pos (by omega), hlimit]
          rfl

end Session

end RemoteDisplay
