import RemoteDisplay.Proofs.Frame.Covering
import RemoteDisplay.Proofs.Frame.Pattern
import RemoteDisplay.Proofs.Session.Closing
import RemoteDisplay.Proofs.Session.Records

/-!
# Painting is all or nothing

A drawing is checked against its surface, built and queued. A check that fails leaves no trace but
the hold on the pixels that is given up. A drawing that passes them all either becomes the last
command on the ring, or the full ring refuses it and it is released at once. There is no answer only
where the view of an image starts past the end of its memory and the rows are asked for.
-/

namespace RemoteDisplay

/-- The fault is that the ring had no room. -/
def Fault.OfRing (e : Fault) : Prop := ∃ capacity, e = .ringFull capacity

theorem Fault.not_ofRing_invalidGeometry (reason : String) : ¬(invalidGeometry reason).OfRing := by
  rintro ⟨capacity, he⟩
  cases he

theorem Fault.not_ofRing_protocolViolation (reason : String) :
    ¬(protocolViolation reason).OfRing := by
  rintro ⟨capacity, he⟩
  cases he

theorem Fault.not_ofRing_allocationFailed (reason : String) : ¬(allocationFailed reason).OfRing := by
  rintro ⟨capacity, he⟩
  cases he

theorem Command.blit?_eq_none (c : Command) : c.blit? = none ↔ c.kind ≠ .drawCopy := by
  unfold blit? kind
  cases c.payload <;> simp

namespace Session

/-- Paints a drawing at a place of a surface. An image answers its number. -/
def paint (s : Session) (b : Nat) (surface : SurfaceId) (x y : Int32) (width height : UInt32) :
    Drawing → Except Trap (Except Fault (Option ImageId) × Session)
  | .image pixels stride damage => do
    let (answer, s) ← s.paintImage b surface x y width height pixels stride damage
    return (answer.map some, s)
  | .solid colour =>
    let (answer, s) := s.fillRect b surface colour x y width height
    return (answer.map fun _ => none, s)

/-- The view holds the image, and there are memory for the damage and a number for the image. -/
def Provides (s : Session) (b : Nat) (width height : UInt32) : Drawing → Prop
  | .image pixels stride damage =>
    pixels.covers s.store width height stride = .ok true ∧ s.CanCopy damage ∧
      (s.builder b).nextImage.toNat + 1 < 4294967296
  | .solid _ => True

/-- The view of an image does not start past the end of its memory. -/
def Starts (s : Session) : Drawing → Prop
  | .image pixels _ _ => pixels.offset ≤ (s.store.bytes pixels.block).size
  | .solid _ => True

/-- The drawing has pixels, and its rectangle lies on a live surface. -/
structure Placed (s : Session) (surface : SurfaceId) (x y : Int32) (width height : UInt32)
    (live : Surface) (bbox : Rect) : Prop where
  found : s.surfaces.find? surface = some live
  pixels : width ≠ 0 ∧ height ≠ 0
  size : width.toNat ≤ 2147483647 ∧ height.toNat ≤ 2147483647
  spans : bbox.Spans x y width height
  within : bbox.Within live.backing.width live.backing.height

/-- One command more is queued, and nothing else happened to the queue, the surfaces and the server. -/
structure Painted (s : Session) (b : Nat) (surface : SurfaceId) (drawing : Drawing) (live : Surface)
    (bbox : Rect) (answer : Option ImageId) (t : Session) : Prop where
  appended : ∃ c, t.queue = s.queue ++ [c] ∧ c.kind = drawing.kind ∧ c.surface = surface ∧
    c.bbox = bbox ∧ c.ticket = s.nextTicket b ∧ answer = c.blit?.map (·.imageId)
  live : t.surfaces.find? surface = some live
  surfaces : t.surfaces = s.surfaces
  server : t.server = s.server
  notices : t.notices = s.notices

/-- What a refusal leaves. Only a full ring costs a release id, and that is released at once. -/
structure Refused (s : Session) (b : Nat) (surface : SurfaceId) (drawing : Drawing) (e : Fault)
    (t : Session) : Prop where
  ring : t.ring = s.ring
  surfaces : t.surfaces = s.surfaces
  server : t.server = s.server
  rejected : e.OfRing → e = .ringFull s.ring.capacity ∧ s.issuedBetween t = [s.nextTicket b] ∧
    t.notices = s.notices.push ⟨s.nextTicket b, drawing.kind, surface, .rejected⟩
  unspent : ¬e.OfRing → t = { s with store := t.store }

variable {s t : Session} {b : Nat} {surface : SurfaceId} {x y : Int32} {width height : UInt32}
  {drawing : Drawing} {live : Surface} {bbox : Rect} {e : Fault}

/-! ## Checks -/

theorem placement_eq_ok : placement x y width height = .ok bbox ↔
    Rect.ofOrigin? x y width height = some bbox := by
  unfold placement
  cases Rect.ofOrigin? x y width height with
  | none => simp
  | some r => simp

theorem placement_error (h : placement x y width height = .error e) : ¬e.OfRing := by
  unfold placement at h
  cases hr : Rect.ofOrigin? x y width height with
  | none =>
      rw [hr] at h
      cases h
      exact Fault.not_ofRing_invalidGeometry _
  | some r =>
      rw [hr] at h
      cases h

/-- The target is right if the rectangle exists and lies on a live surface. -/
theorem target_eq_ok : s.target surface x y width height = .ok () ↔
    ∃ live bbox, s.surfaces.find? surface = some live ∧
      Rect.ofOrigin? x y width height = some bbox ∧
      bbox.Within live.backing.width live.backing.height := by
  unfold target
  cases hp : placement x y width height with
  | error e =>
      have hnone : ∀ bbox, Rect.ofOrigin? x y width height ≠ some bbox := by
        intro bbox hr
        rw [placement_eq_ok.mpr hr] at hp
        cases hp
      simp [bind, Except.bind, hnone]
  | ok bbox =>
      have hr := placement_eq_ok.mp hp
      cases hf : s.surfaces.find? surface with
      | none => simp [bind, Except.bind]
      | some live => simp [bind, Except.bind, hr, ← Rect.inside_ofOrigin_zero]

theorem target_error (h : s.target surface x y width height = .error e) : ¬e.OfRing := by
  unfold target at h
  cases hp : placement x y width height with
  | error e' =>
      rw [hp] at h
      cases h
      exact placement_error hp
  | ok bbox =>
      rw [hp] at h
      simp only [bind, Except.bind] at h
      split at h
      · cases h
        exact Fault.not_ofRing_protocolViolation _
      · split at h
        · cases h
        · cases h
          exact Fault.not_ofRing_invalidGeometry _

/-! ## Building -/

/-- A drawing that cannot be built costs nothing but its hold on the pixels. -/
theorem build_error (h : s.build b surface x y width height drawing = .ok (.error e, t)) :
    t = { s with store := t.store } ∧ ¬e.OfRing := by
  cases drawing with
  | image pixels stride damage =>
      rw [build] at h
      cases hcovers : pixels.covers s.store width height stride with
      | error trap => cases (buildBlit_of_trap hcovers).symm.trans h
      | ok covered =>
          cases covered with
          | false =>
              cases (buildBlit_of_not_covered hcovers).symm.trans h
              exact ⟨rfl, Fault.not_ofRing_invalidGeometry _⟩
          | true =>
              rw [buildBlit_of_covered hcovers, Except.ok.injEq] at h
              cases hp : placement x y width height with
              | error e' =>
                  rw [hp] at h
                  cases h
                  exact ⟨rfl, placement_error hp⟩
              | ok bbox =>
                  rw [hp] at h
                  cases hmemory : s.store.reservationError (damage.regions.length * regionSize) with
                  | some reason =>
                      rw [hmemory] at h
                      cases h
                      exact ⟨rfl, Fault.not_ofRing_allocationFailed _⟩
                  | none =>
                      simp only [hmemory] at h
                      by_cases hnext : (s.builder b).nextImage.toNat + 1 < 4294967296
                      · rw [if_pos hnext] at h
                        cases h
                      · rw [if_neg hnext] at h
                        cases h
                        exact ⟨rfl, Fault.not_ofRing_protocolViolation _⟩
  | solid colour =>
      have hfill := Except.ok.inj h
      unfold buildFill at hfill
      split at hfill
      · cases hfill
        exact ⟨rfl, Fault.not_ofRing_invalidGeometry _⟩
      · cases hp : placement x y width height with
        | error e' =>
            rw [hp] at hfill
            cases hfill
            exact ⟨rfl, placement_error hp⟩
        | ok bbox =>
            rw [hp] at hfill
            cases hfill

/-- Building a drawing answers unless the rows of its view are asked for and it has no bytes. -/
theorem build_eq_error (b : Nat) (surface : SurfaceId) (x y : Int32) {trap : Trap} :
    s.build b surface x y width height drawing = .error trap ↔
      ∃ pixels stride damage, drawing = .image pixels stride damage ∧
        pixels.covers s.store width height stride = .error trap := by
  cases drawing with
  | solid colour => simp [build, pure, Except.pure]
  | image pixels stride damage =>
      simp only [build, Drawing.image.injEq]
      constructor
      · intro h
        refine ⟨pixels, stride, damage, ⟨rfl, rfl, rfl⟩, ?_⟩
        cases hcovers : pixels.covers s.store width height stride with
        | error trap' =>
            cases (buildBlit_of_trap hcovers).symm.trans h
            rfl
        | ok covered =>
            cases covered with
            | false => cases (buildBlit_of_not_covered hcovers).symm.trans h
            | true => cases (buildBlit_of_covered hcovers).symm.trans h
      · rintro ⟨_, _, _, ⟨rfl, rfl, rfl⟩, hcovers⟩
        exact buildBlit_of_trap hcovers

/-- What can be built of a drawing that has its rectangle. -/
structure Builds (s : Session) (b : Nat) (surface : SurfaceId) (bbox : Rect) (drawing : Drawing)
    (c : Command) (t : Session) : Prop where
  kind : c.kind = drawing.kind
  surface : c.surface = surface
  bbox : c.bbox = bbox
  ticket : c.ticket = s.nextTicket b
  ring : t.ring = s.ring
  surfaces : t.surfaces = s.surfaces
  server : t.server = s.server
  notices : t.notices = s.notices
  issued : s.Sound → Issued s (s.builder b).ledger t

theorem Builds.queue {c : Command} (h : Builds s b surface bbox drawing c t) : t.queue = s.queue := by
  rw [Session.queue, Session.queue, h.ring]

theorem build_eq_ok (b : Nat) (surface : SurfaceId) (drawing : Drawing)
    (hr : Rect.ofOrigin? x y width height = some bbox) :
    (∃ c t, s.build b surface x y width height drawing = .ok (.ok c, t)) ↔
      width ≠ 0 ∧ height ≠ 0 ∧ s.Provides b width height drawing := by
  cases drawing with
  | image pixels stride damage =>
      constructor
      · rintro ⟨c, t, h⟩
        rcases buildBlit_cases h with ⟨e, he⟩ | ⟨r, hcovers, -, hmemory, hnext, -⟩
        · cases he
        · obtain ⟨⟨hwide, hhigh, -⟩, -⟩ := View.covers_iff.mp hcovers
          exact ⟨hwide, hhigh, hcovers, hmemory, hnext⟩
      · rintro ⟨-, -, hcovers, hmemory, hnext⟩
        rw [CanCopy] at hmemory
        rw [build, buildBlit_of_covered hcovers]
        simp only [placement_eq_ok.mpr hr, hmemory, if_pos hnext]
        exact ⟨_, _, rfl⟩
  | solid colour =>
      constructor
      · rintro ⟨c, t, h⟩
        rcases s.buildFill_cases b surface colour x y width height with ⟨e, he⟩ | ⟨r, hw, hh, -⟩
        · rw [build, he] at h
          cases h
        · exact ⟨hw, hh, trivial⟩
      · rintro ⟨hw, hh, -⟩
        rw [build, buildFill, if_neg (by simp [hw, hh]), placement_eq_ok.mpr hr]
        exact ⟨_, _, rfl⟩

theorem builds_of_build {c : Command} (hr : Rect.ofOrigin? x y width height = some bbox)
    (h : s.build b surface x y width height drawing = .ok (.ok c, t)) :
    Builds s b surface bbox drawing c t := by
  cases drawing with
  | image pixels stride damage =>
      rcases buildBlit_cases h with ⟨e, he⟩ | ⟨r, -, hr', -, -, he⟩
      · cases he
      · cases he
        obtain rfl : r = bbox := Option.some.inj (hr'.symm.trans hr)
        have heq := imageNumbered_eq (s := s) (b := b)
        refine ⟨rfl, rfl, rfl, rfl, ?_, ?_, ?_, ?_, fun hs => hs.imageTicketed b⟩ <;>
          · rw [heq]
            rfl
  | solid colour =>
      rcases s.buildFill_cases b surface colour x y width height with ⟨e, he⟩ | ⟨r, -, -, hr', he⟩
      · rw [build, he] at h
        cases h
      · rw [build, he] at h
        cases h
        obtain rfl : r = bbox := Option.some.inj (hr'.symm.trans hr)
        exact ⟨rfl, rfl, rfl, rfl, rfl, rfl, rfl, rfl, fun hs => hs.ticketed b⟩

/-! ## Painting -/

theorem Placed.rect (h : s.Placed surface x y width height live bbox) :
    Rect.ofOrigin? x y width height = some bbox :=
  Rect.ofOrigin?_eq_some_iff.mpr ⟨h.spans, h.size.1, h.size.2⟩

theorem Placed.target (h : s.Placed surface x y width height live bbox) :
    s.target surface x y width height = .ok () :=
  target_eq_ok.mpr ⟨live, bbox, h.found, h.rect, h.within⟩

theorem paint_of_target_error (b : Nat) (drawing : Drawing)
    (h : s.target surface x y width height = .error e) :
    ∃ store, s.paint b surface x y width height drawing = .ok (.error e, { s with store }) := by
  cases drawing with
  | image pixels stride damage =>
      rw [paint, paintImage, h]
      exact ⟨_, rfl⟩
  | solid colour =>
      rw [paint, fillRect, h]
      exact ⟨_, rfl⟩

theorem paint_of_build_trap {trap : Trap} (h : s.target surface x y width height = .ok ())
    (hb : s.build b surface x y width height drawing = .error trap) :
    s.paint b surface x y width height drawing = .error trap := by
  cases drawing with
  | image pixels stride damage =>
      rw [build] at hb
      rw [paint, paintImage, h, hb]
      rfl
  | solid colour => cases hb

theorem paint_of_build_error (h : s.target surface x y width height = .ok ())
    (hb : s.build b surface x y width height drawing = .ok (.error e, t)) :
    s.paint b surface x y width height drawing = .ok (.error e, t) := by
  cases drawing with
  | image pixels stride damage =>
      rw [build] at hb
      rw [paint, paintImage, h, hb]
      rfl
  | solid colour =>
      have hfill : s.buildFill b surface colour x y width height = (.error e, t) := Except.ok.inj hb
      rw [paint, fillRect, h, hfill]
      rfl

theorem paint_of_build {c : Command} (h : s.target surface x y width height = .ok ())
    (hb : s.build b surface x y width height drawing = .ok (.ok c, t)) (hkind : c.kind = drawing.kind) :
    s.paint b surface x y width height drawing =
      .ok ((t.submit c).1.map fun _ => c.blit?.map (·.imageId), (t.submit c).2) := by
  cases drawing with
  | image pixels stride damage =>
      have hcopies : c.blit? ≠ none := fun hnone => c.blit?_eq_none.mp hnone hkind
      obtain ⟨blit, hblit⟩ := Option.ne_none_iff_exists'.mp hcopies
      rw [build] at hb
      rw [paint, paintImage, h, hb]
      simp only [bind, Except.bind, pure, Except.pure]
      cases hs : t.submit c with
      | mk answer u => cases answer <;> simp [hblit, Except.map]
  | solid colour =>
      have hblit : c.blit? = none := by
        rw [c.blit?_eq_none, hkind]
        simp [Drawing.kind]
      have hfill : s.buildFill b surface colour x y width height = (.ok c, t) := Except.ok.inj hb
      rw [paint, fillRect, h, hfill]
      cases hs : t.submit c with
      | mk answer u => cases answer <;> simp [hs, hblit, Except.map, pure, Except.pure]

/-- A drawing that does not pass its checks leaves the session as it was. One that does is submitted. -/
theorem paint_cases (s : Session) (b : Nat) (surface : SurfaceId) (x y : Int32)
    (width height : UInt32) (drawing : Drawing) :
    (∃ trap, s.target surface x y width height = .ok () ∧
      s.build b surface x y width height drawing = .error trap ∧
      s.paint b surface x y width height drawing = .error trap) ∨
    (∃ e store, s.paint b surface x y width height drawing = .ok (.error e, { s with store }) ∧
      ¬e.OfRing ∧ ∀ live bbox, s.Placed surface x y width height live bbox →
        ¬s.Provides b width height drawing) ∨
    ∃ live bbox c t, s.Placed surface x y width height live bbox ∧
      s.Provides b width height drawing ∧ Builds s b surface bbox drawing c t ∧
      s.paint b surface x y width height drawing =
        .ok ((t.submit c).1.map fun _ => c.blit?.map (·.imageId), (t.submit c).2) := by
  cases ht : s.target surface x y width height with
  | error e =>
      obtain ⟨store, hpaint⟩ := paint_of_target_error b drawing ht
      refine .inr (.inl ⟨e, store, hpaint, target_error ht, ?_⟩)
      intro live bbox hplaced
      rw [hplaced.target] at ht
      cases ht
  | ok u =>
      obtain ⟨live, bbox, hfound, hr, hwithin⟩ := target_eq_ok.mp ht
      have hbuild := build_eq_ok (s := s) b surface drawing hr
      cases hb : s.build b surface x y width height drawing with
      | error trap => exact .inl ⟨trap, rfl, rfl, paint_of_build_trap ht hb⟩
      | ok built =>
          obtain ⟨e | c, t⟩ := built
          · obtain ⟨hstate, hring⟩ := build_error hb
            refine .inr (.inl ⟨e, t.store, ?_, hring, ?_⟩)
            · rw [paint_of_build_error ht hb, ← hstate]
            · intro live bbox hplaced hprovides
              obtain ⟨c, u, hc⟩ := hbuild.mpr ⟨hplaced.pixels.1, hplaced.pixels.2, hprovides⟩
              cases hb.symm.trans hc
          · obtain ⟨hw, hh, hprovides⟩ := hbuild.mp ⟨c, t, hb⟩
            obtain ⟨hspans, hsize⟩ := Rect.ofOrigin?_eq_some_iff.mp hr
            have hbuilds := builds_of_build hr hb
            refine .inr (.inr ⟨live, bbox, c, t, ?_, hprovides, hbuilds, ?_⟩)
            · exact ⟨hfound, ⟨hw, hh⟩, hsize, hspans, hwithin⟩
            · exact paint_of_build ht hb hbuilds.kind

/-- Painting goes without an answer exactly if the target is right and the view, which starts past the
end of its memory, is asked for rows that do not reach into each other. -/
theorem paint_eq_error {trap : Trap} : s.paint b surface x y width height drawing = .error trap ↔
    s.target surface x y width height = .ok () ∧
      ∃ pixels stride damage, drawing = .image pixels stride damage ∧
        View.Apart width height stride ∧ (s.store.bytes pixels.block).size < pixels.offset ∧
        trap = .pastStart pixels.offset (s.store.bytes pixels.block).size := by
  have htrapped : ∀ pixels : View, ∀ stride, pixels.covers s.store width height stride = .error trap ↔
      View.Apart width height stride ∧ (s.store.bytes pixels.block).size < pixels.offset ∧
        trap = .pastStart pixels.offset (s.store.bytes pixels.block).size := fun pixels stride =>
    (pixels.covering s.store width height stride).trapped trap
  simp only [← htrapped]
  rw [← build_eq_error b surface x y]
  constructor
  · intro h
    rcases s.paint_cases b surface x y width height drawing with
      ⟨trap', htarget, hb, hpaint⟩ | ⟨e, store, hpaint, -⟩ | ⟨live, bbox, c, t, -, -, -, hpaint⟩
    · cases hpaint.symm.trans h
      exact ⟨htarget, hb⟩
    · cases hpaint.symm.trans h
    · cases hpaint.symm.trans h
  · rintro ⟨htarget, hb⟩
    exact paint_of_build_trap htarget hb

theorem exists_paint (h : s.Starts drawing) (b : Nat) (surface : SurfaceId) (x y : Int32)
    (width height : UInt32) : ∃ r, s.paint b surface x y width height drawing = .ok r := by
  cases hpaint : s.paint b surface x y width height drawing with
  | ok r => exact ⟨r, rfl⟩
  | error trap =>
      obtain ⟨-, pixels, stride, damage, rfl, -, hpast, -⟩ := paint_eq_error.mp hpaint
      exact absurd h (Nat.not_le.mpr hpast)

theorem Builds.painted {c : Command} {ring : Ring Command} (h : Builds s b surface bbox drawing c t)
    (hplaced : s.Placed surface x y width height live bbox) (hring : ring.toList = t.queue ++ [c]) :
    Painted s b surface drawing live bbox (c.blit?.map (·.imageId))
      { t with ring, accepted := t.accepted.push c } where
  appended := by
    refine ⟨c, ?_, h.kind, h.surface, h.bbox, h.ticket, rfl⟩
    rw [← h.queue]
    exact hring
  live := by rw [← hplaced.found, ← h.surfaces]
  surfaces := h.surfaces
  server := h.server
  notices := h.notices

theorem refused_of_check (store : PixelStore) (h : ¬e.OfRing) :
    Refused s b surface drawing e { s with store } :=
  ⟨rfl, rfl, rfl, fun hfull => absurd hfull h, fun _ => rfl⟩

theorem Builds.refused {c : Command} (h : Builds s b surface bbox drawing c t) (hs : s.Sound)
    (hledger : (s.builder b).ledger < s.ledgers.size) :
    Refused s b surface drawing (.ringFull t.ring.capacity) (t.release c .rejected) where
  ring := h.ring
  surfaces := h.surfaces
  server := h.server
  rejected := by
    intro _
    have hissued := h.issued hs
    obtain ⟨-, -, hnext, -⟩ := hissued.transfer (hissued.sound.release c .rejected)
    refine ⟨by rw [h.ring], issuedBetween_of_next hledger hnext, ?_⟩
    rw [release_notices, h.notices, Command.notice, h.ticket, h.kind, h.surface]
  unspent := by
    intro hother
    exact absurd ⟨_, rfl⟩ hother

/-- However the session was used before, a drawing is painted whole or not at all, and it is painted
exactly if it fits on a live surface, has what it needs and finds room on the ring. There is an answer
whenever the view of an image starts within its memory. -/
theorem Fresh.paint_all_or_nothing {s₀ : Session} (h : s₀.Fresh) (hu : Uses s₀ s) (b : Nat)
    (surface : SurfaceId) (x y : Int32) (width height : UInt32) (drawing : Drawing) :
    (s.Starts drawing → ∃ r, s.paint b surface x y width height drawing = .ok r) ∧
    ((∃ answer t, s.paint b surface x y width height drawing = .ok (.ok answer, t)) ↔
      (∃ live bbox, s.Placed surface x y width height live bbox) ∧
        s.Provides b width height drawing ∧ s.ring.length < s.ring.capacity) ∧
    (∀ answer t, s.paint b surface x y width height drawing = .ok (.ok answer, t) →
      ∃ live bbox, s.Placed surface x y width height live bbox ∧
        Painted s b surface drawing live bbox answer t) ∧
    ∀ e t, s.paint b surface x y width height drawing = .ok (.error e, t) →
      Refused s b surface drawing e t := by
  have hsteady := Uses.steady hu h.conserved.sound
  have hledger : (s.builder b).ledger < s.ledgers.size := by
    rw [hsteady.builders, hsteady.size]
    exact h.builders b
  refine ⟨fun hstarts => exists_paint hstarts b surface x y width height, ?_⟩
  rcases s.paint_cases b surface x y width height drawing with
    ⟨trap, htarget, hb, hpaint⟩ | ⟨e, store, hpaint, hring, hunfit⟩ |
      ⟨live, bbox, c, u, hplaced, hprovides, hbuilds, hpaint⟩
  · refine ⟨⟨?_, ?_⟩, ?_, ?_⟩
    · rintro ⟨answer, t, he⟩
      cases hpaint.symm.trans he
    · rintro ⟨⟨live, bbox, hplaced⟩, hprovides, -⟩
      obtain ⟨c, t, hc⟩ :=
        (build_eq_ok b surface drawing hplaced.rect).mpr ⟨hplaced.pixels.1, hplaced.pixels.2, hprovides⟩
      cases hb.symm.trans hc
    · intro answer t he
      cases hpaint.symm.trans he
    · intro e t he
      cases hpaint.symm.trans he
  · refine ⟨⟨?_, ?_⟩, ?_, ?_⟩
    · rintro ⟨answer, t, he⟩
      cases hpaint.symm.trans he
    · rintro ⟨⟨live, bbox, hplaced⟩, hprovides, -⟩
      exact absurd hprovides (hunfit live bbox hplaced)
    · intro answer t he
      cases hpaint.symm.trans he
    · intro e' t he
      cases hpaint.symm.trans he
      exact refused_of_check store hring
  · have hcapacity : u.ring.capacity = s.ring.capacity := by rw [hbuilds.ring]
    have hlength : u.ring.length = s.ring.length := by rw [hbuilds.ring]
    rcases u.submit_cases (hbuilds.issued hsteady.sound).sound.ring c with
      ⟨hroom, ring, hs, -, hlist, -⟩ | ⟨hfull, hs⟩
    · rw [hpaint, hs]
      refine ⟨⟨?_, ?_⟩, ?_, ?_⟩
      · intro _
        exact ⟨⟨live, bbox, hplaced⟩, hprovides, by omega⟩
      · intro _
        exact ⟨_, _, rfl⟩
      · intro answer t he
        cases he
        exact ⟨live, bbox, hplaced, hbuilds.painted hplaced hlist⟩
      · intro e t he
        cases he
    · rw [hpaint, hs]
      refine ⟨⟨?_, ?_⟩, ?_, ?_⟩
      · rintro ⟨answer, t, he⟩
        cases he
      · rintro ⟨-, -, hroom⟩
        omega
      · intro answer t he
        cases he
      · intro e t he
        cases he
        exact hbuilds.refused hsteady.sound hledger

/-- An image takes the last place on the ring, and the fill after it is refused. -/
theorem paint_all_or_nothing_last_place :
    ∃ s₀ s t u : Session, s₀.Fresh ∧ Uses s₀ s ∧ Uses s₀ t ∧
      s.paint 0 ⟨0⟩ 1 2 3 1 (.image ⟨⟨0⟩, 0, 3, 1, 12⟩ 12 .empty) = .ok (.ok (some ⟨1⟩), t) ∧
      (∃ live bbox, s.Placed ⟨0⟩ 1 2 3 1 live bbox ∧
        Painted s 0 ⟨0⟩ (.image ⟨⟨0⟩, 0, 3, 1, 12⟩ 12 .empty) live bbox (some ⟨1⟩) t) ∧
      t.paint 0 ⟨0⟩ 0 0 4 3 (.solid 7) = .ok (.error (.ringFull 2), u) ∧
      Refused t 0 ⟨0⟩ (.solid 7) (.ringFull 2) u := by
  let s₀ : Session := ofRing (.ofCapacity 2 0) 0 2 [350]
  have hfresh : s₀.Fresh :=
    fresh_ofRing (Ring.wellFormed_ofCapacity 2 0) (Ring.toList_ofCapacity 2 0) 0 2 (by simp)
  let store : PixelStore := { blocks := #[⟨⟨#[1, 2, 3, 4, 5, 6, 7, 8, 9, 10, 11, 12]⟩, 1⟩] }
  let image : Drawing := .image ⟨⟨0⟩, 0, 3, 1, 12⟩ 12 .empty
  have hmade : (do
      let r ← s₀.createSurface 4 3 ⟨4, 3, 48⟩
      let p ← paint { r.2 with store } 0 ⟨0⟩ 1 2 3 1 image
      let q ← p.2.paint 0 ⟨0⟩ 0 0 4 3 (.solid 7)
      return (p.1.toOption, match q.1 with
        | .ok _ => none
        | .error e => some e)).toOption = some (some (some ⟨1⟩), some (.ringFull 2)) := by
    decide +kernel
  cases hcreate : s₀.createSurface 4 3 ⟨4, 3, 48⟩ with
  | error trap =>
      rw [hcreate] at hmade
      cases hmade
  | ok r =>
      rw [hcreate] at hmade
      have hs : Uses s₀ { r.2 with store } := .tail (.single (.createSurface hcreate)) (.render _ store)
      obtain ⟨hanswers, -, hpainted, -⟩ := hfresh.paint_all_or_nothing hs 0 ⟨0⟩ 1 2 3 1 image
      obtain ⟨⟨answer, t⟩, hp⟩ := hanswers (Nat.zero_le _)
      have ht : Uses s₀ t := by
        refine .tail hs ?_
        obtain ⟨q, hq, hrest⟩ := Trap.bind_eq_ok.mp hp
        cases hrest
        exact .paintImage hq
      obtain ⟨hanswers', -, -, hrefused⟩ := hfresh.paint_all_or_nothing ht 0 ⟨0⟩ 0 0 4 3 (.solid 7)
      obtain ⟨⟨answer', u⟩, hq⟩ := hanswers' trivial
      simp only [bind, Except.bind, hp, hq] at hmade
      cases answer <;> cases answer' <;> cases hmade
      exact ⟨s₀, _, t, u, hfresh, hs, ht, hp, hpainted _ _ hp, hq, hrefused _ _ hq⟩

/-! ## Where painting falls short -/

/-- A surface of that size is live, and there are a number for an image and a place on the ring. -/
structure Furnished (s : Session) (width height : UInt32) : Prop where
  reached : ∃ s₀, Fresh s₀ ∧ Uses s₀ s
  live : ∃ live, s.surfaces.find? ⟨0⟩ = some live ∧ live.backing.width = width ∧
    live.backing.height = height
  images : (s.builder 0).nextImage.toNat + 1 < 4294967296
  room : s.ring.length < s.ring.capacity

theorem exists_furnished (width height : UInt32) (size : Nat)
    (hmade : ((ofRing (.ofCapacity 2 0) 0 2 [350]).createSurface width height
      ⟨width, height, size⟩).toOption.map (fun r => (r.2.surfaces.find? ⟨0⟩, (r.2.builder 0).nextImage,
        r.2.ring.length, r.2.ring.capacity)) = some (some ⟨⟨0⟩, width, height, size⟩, 1, 1, 2)) :
    ∃ s : Session, ∀ store, Furnished { s with store } width height := by
  have hfresh : (ofRing (.ofCapacity 2 0) 0 2 [350]).Fresh :=
    fresh_ofRing (Ring.wellFormed_ofCapacity 2 0) (Ring.toList_ofCapacity 2 0) 0 2 (by simp)
  cases hcreate : (ofRing (.ofCapacity 2 0) 0 2 [350]).createSurface width height
      ⟨width, height, size⟩ with
  | error trap =>
      rw [hcreate] at hmade
      cases hmade
  | ok r =>
      simp only [hcreate, Except.toOption, Option.map_some, Option.some.injEq, Prod.mk.injEq] at hmade
      obtain ⟨hfind, hnext, hlength, hcapacity⟩ := hmade
      refine ⟨r.2, fun store => ⟨⟨_, hfresh, .tail (.single (.createSurface hcreate)) (.render _ store)⟩,
        ⟨_, hfind, rfl, rfl⟩, ?_, ?_⟩⟩
      · rw [show ({ r.2 with store } : Session).builder 0 = r.2.builder 0 from rfl, hnext]
        decide
      · show r.2.ring.length < r.2.ring.capacity
        omega

/-- Without memory for a copy of the damage the view is given up. -/
theorem paintImage_of_refused {pixels : View} {stride : UInt32} {damage : Damage} {reason : String}
    (hplaced : s.Placed surface x y width height live bbox)
    (hcovers : pixels.covers s.store width height stride = .ok true)
    (hrefused : s.store.reservationError (damage.regions.length * regionSize) = some reason) :
    s.paintImage b surface x y width height pixels stride damage =
      .ok (.error (.damageMemory reason), s.drop pixels) := by
  rw [paintImage, hplaced.target]
  simp only [buildBlit_of_covered hcovers, placement_eq_ok.mpr hplaced.rect, hrefused]
  rfl

/-- The image fits, and the allocator refuses the sixteen bytes of one region of damage. -/
theorem paint_without_memory : ∃ s t live bbox, Furnished s 4 3 ∧ s.Placed ⟨0⟩ 1 2 3 1 live bbox ∧
    View.covers ⟨⟨0⟩, 0, 3, 1, 12⟩ s.store 3 1 12 = .ok true ∧
    s.paint 0 ⟨0⟩ 1 2 3 1 (.image ⟨⟨0⟩, 0, 3, 1, 12⟩ 12 (.full 3 1)) = .ok (.error (.damageMemory
      "memory allocation failed because the memory allocator returned an error"), t) := by
  obtain ⟨s, hfurnished⟩ := exists_furnished 4 3 48 (by decide +kernel)
  let store : PixelStore :=
    { blocks := #[⟨⟨#[1, 2, 3, 4, 5, 6, 7, 8, 9, 10, 11, 12]⟩, 1⟩], refuses := fun n => n = 16 }
  obtain ⟨live, hfind, hwidth, hheight⟩ := (hfurnished store).live
  have hplaced : Placed { s with store } ⟨0⟩ 1 2 3 1 live ⟨2, 1, 3, 4⟩ := by
    refine ⟨hfind, by decide, by decide, ⟨rfl, rfl, rfl, rfl⟩, ?_⟩
    rw [hwidth, hheight]
    exact ⟨by decide, by decide, by decide, by decide⟩
  have hcovers : View.covers ⟨⟨0⟩, 0, 3, 1, 12⟩ store 3 1 12 = .ok true := by decide +kernel
  have hrefused : store.reservationError ((Damage.full 3 1).regions.length * regionSize) =
      some "memory allocation failed because the memory allocator returned an error" := by
    decide +kernel
  have hpaint := paintImage_of_refused (b := 0) hplaced hcovers hrefused
  exact ⟨_, _, live, _, hfurnished store, hplaced, hcovers, Trap.bind_eq_ok.mpr ⟨_, hpaint, rfl⟩⟩

/-- The view starts past the end of its memory, and the image gets no answer. -/
theorem paint_past_start : ∃ s f v, Furnished s 4 3 ∧
    Frame.ofBytes {} 1073741834 1 4294967295 (zeros 4294967295) = .ok (f, s.store) ∧
    f.view ⟨1073741829, 0, 1, 1⟩ = .ok v ∧
    s.paint 0 ⟨0⟩ 0 0 1 1 (.image v 4 .empty) = .error (.pastStart 4294967316 4294967295) := by
  obtain ⟨s, hfurnished⟩ := exists_furnished 4 3 48 (by decide +kernel)
  obtain ⟨store, hframe, hsize⟩ := Frame.exists_stride_below_row
  obtain ⟨live, hfind, hwidth, hheight⟩ := (hfurnished store).live
  have htarget : target { s with store } ⟨0⟩ 0 0 1 1 = .ok () := by
    refine target_eq_ok.mpr ⟨live, ⟨0, 0, 1, 1⟩, hfind, rfl, ?_⟩
    rw [hwidth, hheight]
    exact ⟨by decide, by decide, by decide, by decide⟩
  refine ⟨{ s with store }, _, _, hfurnished store, hframe, rfl, paint_eq_error.mpr
    ⟨htarget, _, _, _, rfl, ⟨by decide, by decide, by decide⟩, ?_, ?_⟩⟩
  · exact Nat.lt_of_le_of_lt (Nat.le_of_eq hsize) (by decide)
  · exact congrArg _ hsize.symm

/-- The rectangle lies on its surface, at the largest coordinate, and its lower edge has none. -/
theorem fill_past_coordinates : ∃ s t, Furnished s 1 2147483658 ∧
    s.paint 0 ⟨0⟩ 0 2147483647 1 5 (.solid 7) = .ok (.error (.placementOverflow 0 2147483647 1 5), t) := by
  obtain ⟨s, hfurnished⟩ := exists_furnished 1 2147483658 8589934632 (by decide +kernel)
  exact ⟨{ s with store := {} }, _, hfurnished {}, rfl⟩

/-- A drawing can pass the checks of its size, its place and its pixels and not be painted: there is no
memory for a copy of its damage, its view starts past the end, or an edge has no coordinate. -/
theorem paint_fails_past_its_checks :
    (∃ s t live bbox, Furnished s 4 3 ∧ s.Placed ⟨0⟩ 1 2 3 1 live bbox ∧
      View.covers ⟨⟨0⟩, 0, 3, 1, 12⟩ s.store 3 1 12 = .ok true ∧
      s.paint 0 ⟨0⟩ 1 2 3 1 (.image ⟨⟨0⟩, 0, 3, 1, 12⟩ 12 (.full 3 1)) = .ok (.error (.damageMemory
        "memory allocation failed because the memory allocator returned an error"), t)) ∧
    (∃ s f v, Furnished s 4 3 ∧
      Frame.ofBytes {} 1073741834 1 4294967295 (zeros 4294967295) = .ok (f, s.store) ∧
      f.view ⟨1073741829, 0, 1, 1⟩ = .ok v ∧
      s.paint 0 ⟨0⟩ 0 0 1 1 (.image v 4 .empty) = .error (.pastStart 4294967316 4294967295)) ∧
    ∃ s t, Furnished s 1 2147483658 ∧
      s.paint 0 ⟨0⟩ 0 2147483647 1 5 (.solid 7) = .ok (.error (.placementOverflow 0 2147483647 1 5), t) :=
  ⟨paint_without_memory, paint_past_start, fill_past_coordinates⟩

end Session

end RemoteDisplay
