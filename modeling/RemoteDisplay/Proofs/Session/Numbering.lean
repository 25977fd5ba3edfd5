import RemoteDisplay.Proofs.Session.InFlight
import RemoteDisplay.Proofs.Session.Moves

/-!
# Numbers only grow

Release ids, image numbers and surface numbers come from three counters. A command that is built has
used its numbers up, whether the ring takes it or not, and commands leave the queue at its head or by a
teardown, so what was taken and what is still queued stay in the order in which they were numbered.
`Session.Proceeds` says this of one operation.
-/

namespace RemoteDisplay

/-- The numbers of the images that commands copy. -/
def imagesOf (cs : List Command) : List ImageId := cs.filterMap fun c => c.blit?.map (·.imageId)

theorem imagesOf_append (as bs : List Command) : imagesOf (as ++ bs) = imagesOf as ++ imagesOf bs :=
  List.filterMap_append

/-- The drawable that an answer hands over. -/
def answered : Except Fault (Option Dispatched) → List Dispatched
  | .ok (some d) => [d]
  | _ => []

/-- A counter gave out some numbers: none, or the one that it stood at. -/
def Counts (n : UInt32) (given : List UInt32) (n' : UInt32) : Prop :=
  (given = [] ∧ n' = n) ∨ (given = [n] ∧ n'.toNat = n.toNat + 1)

/-- The numbers that a counter gave out before it stood at `n`. -/
structure Numbered (n : UInt32) (given : List UInt32) : Prop where
  ascending : given.Pairwise (· < ·)
  below : ∀ m ∈ given, m < n

theorem Numbered.counts {n n' : UInt32} {given more : List UInt32} (h : Numbered n given)
    (hmore : Counts n more n') : Numbered n' (given ++ more) := by
  rcases hmore with ⟨rfl, rfl⟩ | ⟨rfl, hn⟩
  · simpa using h
  · have hlt : n < n' := by
      rw [UInt32.lt_iff_toNat_lt]
      omega
    refine ⟨?_, fun m hm => ?_⟩
    · rw [List.pairwise_append]
      refine ⟨h.ascending, List.pairwise_singleton _ _, fun m hm k hk => ?_⟩
      rw [List.mem_singleton.mp hk]
      exact h.below m hm
    · rcases List.mem_append.mp hm with hm | hm
      · exact UInt32.lt_trans (h.below m hm) hlt
      · exact List.mem_singleton.mp hm ▸ hlt

theorem insertHeld_of_below {c : Command} {held : List Command}
    (h : ∀ d ∈ held, d.id.raw < c.id.raw) : (insertHeld c held).1 = none := by
  induction held with
  | nil => rfl
  | cons d held ih =>
      have hlt := h d List.mem_cons_self
      have hne : c.id ≠ d.id := fun he => UInt64.lt_irrefl _ (he ▸ hlt)
      rw [insertHeld, if_neg (UInt64.lt_asymm hlt), if_neg hne]
      exact ih fun e he => h e (List.mem_cons_of_mem d he)

namespace Session

variable {s t u : Session} {made taken : List Command}

/-! ## One operation -/

/-- `made` were built and `taken` went to the server. The order of the commands stays, and every
counter gave out the numbers of `made`. -/
structure Proceeds (s : Session) (made taken : List Command) (t : Session) : Prop where
  commands : (made = [] ∧ Transfer s [] t []) ∨ ∃ c u, made = [c] ∧ Issued s 0 u ∧
    c.ticket = ⟨0, ⟨(s.ledger 0).next⟩⟩ ∧ Transfer u [c] t []
  stream : (taken ++ t.queue).Sublist (s.queue ++ made)
  held : ∀ c ∈ t.server.held, c ∈ s.server.held ∨ c ∈ taken
  painters : t.builders.size = s.builders.size
  images : Counts (s.builder 0).nextImage ((imagesOf made).map (·.raw)) (t.builder 0).nextImage
  surfaces : Counts s.surfaces.next ((announcements made).map (·.raw)) t.surfaces.next

/-- Commands were only moved: the server took some from the queue, and others were released. -/
theorem Proceeds.move (ht : Transfer s [] t []) (hqueue : (taken ++ t.queue).Sublist s.queue)
    (hheld : ∀ c ∈ t.server.held, c ∈ s.server.held ∨ c ∈ taken) (hbuilders : t.builders = s.builders)
    (hnext : t.surfaces.next = s.surfaces.next) : Proceeds s [] taken t where
  commands := .inl ⟨rfl, ht⟩
  stream := by simpa using hqueue
  held := hheld
  painters := by rw [hbuilders]
  images := .inl ⟨rfl, by rw [builder, hbuilders, builder]⟩
  surfaces := .inl ⟨rfl, hnext⟩

theorem Proceeds.of_eq (h : s.Sound) (hring : t.ring = s.ring)
    (hheld : t.server.held = s.server.held) (hnotices : t.notices = s.notices)
    (hledgers : t.ledgers = s.ledgers) (hbuilders : t.builders = s.builders)
    (hnext : t.surfaces.next = s.surfaces.next) : Proceeds s [] [] t := by
  refine .move (.of_eq h hring hheld hnotices hledgers fun i => ?_) ?_ (fun c hc => .inl ?_) hbuilders hnext
  · rw [builder, hbuilders, builder]
  · rw [List.nil_append, queue, hring, queue]
  · rwa [hheld] at hc

/-- A new command is submitted. The queue keeps its order even when the ring refuses the command. -/
theorem Proceeds.submit {c : Command} (hissued : Issued s 0 u)
    (hc : c.ticket = ⟨0, ⟨(s.ledger 0).next⟩⟩) (hring : u.ring = s.ring) (hserver : u.server = s.server)
    (hpainters : u.builders.size = s.builders.size)
    (himages : Counts (s.builder 0).nextImage ((imagesOf [c]).map (·.raw)) (u.builder 0).nextImage)
    (hsurfaces : Counts s.surfaces.next ((announcements [c]).map (·.raw)) u.surfaces.next) :
    Proceeds s [c] [] (u.submit c).2 := by
  obtain ⟨hsame, hbuilders, hheld⟩ := u.submit_surroundings c
  refine ⟨.inr ⟨c, u, rfl, hissued, hc, hissued.sound.submit c⟩, ?_, fun d hd => .inl ?_, ?_, ?_, ?_⟩
  · have hqueue : u.queue = s.queue := by rw [queue, hring, queue]
    rw [List.nil_append, ← hqueue]
    rcases u.submit_cases hissued.sound.ring c with ⟨-, ring, hs, -, hlist, -⟩ | ⟨-, hs⟩
    · rw [hs, queue, hlist]
    · rw [hs]
      exact List.sublist_append_left u.queue [c]
  · rwa [hheld, hserver] at hd
  · rw [hbuilders, hpainters]
  · have hsameBuilder : (u.submit c).2.builder 0 = u.builder 0 := by rw [builder, hbuilders, builder]
    rwa [hsameBuilder]
  · rwa [hsame]

/-- Making a surface live changes no number. -/
theorem Proceeds.goLive (h : Proceeds s made taken t) (ht : t.Sound) (x : Surface) :
    Proceeds s made taken { t with surfaces := t.surfaces.insert x } where
  commands := by
    have hlive : Transfer t [] { t with surfaces := t.surfaces.insert x } [] :=
      .of_eq ht rfl rfl rfl rfl fun _ => rfl
    rcases h.commands with ⟨hnone, htransfer⟩ | ⟨c, u, hmade, hissued, hc, htransfer⟩
    · exact .inl ⟨hnone, htransfer.trans hlive⟩
    · exact .inr ⟨c, u, hmade, hissued, hc, htransfer.trans hlive⟩
  stream := h.stream
  held := h.held
  painters := h.painters
  images := h.images
  surfaces := h.surfaces

/-- The surface number that an attempt to announce a surface used up. The notice of a refused
announcement names it. -/
def surfaceTaken (s : Session) (r : Except Fault SurfaceId × Session) : List SurfaceId :=
  match r.1 with
  | .ok id => [id]
  | .error _ => (r.2.notices.toList.drop s.notices.size).map (·.surface)

theorem createSurface_proceeds (h : s.Sound) {width height : UInt32} {backing : Backing}
    {r : Except Fault SurfaceId × Session} (hr : s.createSurface width height backing = .ok r) :
    ∃ made, Proceeds s made [] r.2 ∧ imagesOf made = [] ∧ announcements made = s.surfaceTaken r := by
  rcases createSurface_cases hr with ⟨e, rfl⟩ | ⟨record, c, -, -, -, -, hnext, hc, hsub⟩
  · exact ⟨[], .of_eq h rfl rfl rfl rfl rfl rfl, rfl, by simp [announcements, surfaceTaken]⟩
  · have himages : imagesOf [c] = [] := by simp [imagesOf, hc, announcement, Command.blit?]
    have hannounced : announcements [c] = [⟨s.surfaces.next⟩] := by
      simp [announcements, hc, announcement, Command.record?]
    have hsubmit : Proceeds s [c] [] (s.numbered.submit c).2 := by
      refine .submit h.numbered (by rw [hc]; rfl) rfl rfl rfl (.inl ⟨by rw [himages]; rfl, rfl⟩) (.inr ⟨?_, ?_⟩)
      · rw [hannounced, List.map_singleton]
      · rw [numbered_surfaces hnext, UInt32.toNat_add, UInt32.toNat_one, Nat.mod_eq_of_lt hnext]
    rcases hsub with ⟨s', hs, rfl⟩ | ⟨e, s', hs, rfl⟩
    · have hsound := (h.numbered.sound.submit c).sound
      rw [hs] at hsubmit hsound
      exact ⟨[c], hsubmit.goLive hsound _, himages, hannounced⟩
    · rw [hs] at hsubmit
      refine ⟨[c], hsubmit, himages, ?_⟩
      rcases s.numbered.submit_cases h.ring c with ⟨-, ring, hq, -⟩ | ⟨-, hq⟩
      · rw [hs] at hq
        cases hq
      · rw [hs] at hq
        cases hq
        -- The notice of the rejection is the only one that is new.
        have hnotices : s.numbered.notices = s.notices := rfl
        rw [hannounced]
        simp [surfaceTaken, hnotices, hc, announcement, Command.notice]

section Painting

variable (surface : SurfaceId) (colour : UInt32) (x y : Int32) (width height : UInt32)
  (pixels : View) (stride : UInt32) (damage : Damage)

/-- The image number that an attempt to copy an image used up. One that the ring refuses has used up
the number of the copy that was built for it. -/
def imageTaken (s : Session) (answer : Except Fault ImageId) : List ImageId :=
  match answer with
  | .ok id => [id]
  | .error _ =>
    match s.target surface x y width height,
        s.buildBlit 0 surface x y width height pixels stride damage with
    | .ok (), .ok (.ok c, _) => imagesOf [c]
    | _, _ => []

theorem paintImage_proceeds (h : s.Sound) (hpainter : 0 < s.builders.size)
    (hledger : (s.builder 0).ledger = 0) {r : Except Fault ImageId × Session}
    (hr : s.paintImage 0 surface x y width height pixels stride damage = .ok r) :
    ∃ made, Proceeds s made [] r.2 ∧ announcements made = [] ∧
      imagesOf made = s.imageTaken surface x y width height pixels stride damage r.1 := by
  unfold paintImage at hr
  unfold imageTaken
  cases ht : s.target surface x y width height with
  | error e =>
      rw [ht] at hr
      cases hr
      exact ⟨[], .of_eq h rfl rfl rfl rfl rfl rfl, rfl, rfl⟩
  | ok _ =>
      rw [ht] at hr
      obtain ⟨built, hb, hr⟩ := Trap.bind_eq_ok.mp hr
      rw [hb]
      rcases buildBlit_cases hb with ⟨e, rfl⟩ | ⟨bbox, -, -, -, hnext, rfl⟩
      · cases hr
        exact ⟨[], .of_eq h rfl rfl rfl rfl rfl rfl, rfl, rfl⟩
      · have hsame : ((s.imageNumbered 0).ticketed 0).ring = s.ring ∧
            ((s.imageNumbered 0).ticketed 0).server = s.server ∧
            ((s.imageNumbered 0).ticketed 0).surfaces = s.surfaces := by
          rw [imageNumbered_eq]
          exact ⟨rfl, rfl, rfl⟩
        have hticket : s.nextTicket 0 = ⟨0, ⟨(s.ledger 0).next⟩⟩ := by rw [nextTicket, hledger]
        have hissued := h.imageTicketed 0
        rw [hledger] at hissued
        have hsubmit := Proceeds.submit
          (c := s.blitCommand 0 surface bbox width height pixels stride damage) hissued hticket
          hsame.1 hsame.2.1 size_imageNumbered (.inr ⟨rfl, nextImage_imageNumbered hpainter hnext⟩)
          (.inl ⟨rfl, by rw [hsame.2.2]⟩)
        dsimp only at hr
        generalize Session.submit _ _ = q at hr hsubmit
        obtain ⟨answer, s'⟩ := q
        cases answer <;> cases hr <;> exact ⟨_, hsubmit, rfl, rfl⟩

theorem fillRect_proceeds (h : s.Sound) (hledger : (s.builder 0).ledger = 0) :
    ∃ made, Proceeds s made [] (s.fillRect 0 surface colour x y width height).2 ∧
      announcements made = [] ∧ imagesOf made = [] := by
  rcases s.fillRect_cases 0 surface colour x y width height with ⟨e, hf⟩ | ⟨bbox, live, -, -, -, -, hf⟩
  · rw [hf]
    exact ⟨[], .of_eq h rfl rfl rfl rfl rfl rfl, rfl, rfl⟩
  · have hissued := h.ticketed 0
    rw [hledger] at hissued
    rw [hf]
    refine ⟨[s.fillCommand 0 surface colour bbox], .submit hissued ?_ rfl rfl rfl (.inl ⟨rfl, rfl⟩)
      (.inl ⟨rfl, rfl⟩), rfl, rfl⟩
    rw [fillCommand, nextTicket, hledger]

end Painting

theorem withdrawSurface_proceeds (h : s.Sound) (id : SurfaceId) :
    Proceeds s [] [] (s.withdrawSurface id) := by
  obtain ⟨-, hqueue, -, hsurfaces, hserver, -, -, hbuilders⟩ := s.withdrawSurface_spec h.ring id
  refine .move (h.withdrawSurface id) ?_ (fun c hc => .inl (hserver ▸ hc)) hbuilders (by rw [hsurfaces])
  rw [List.nil_append, hqueue]
  exact List.filter_sublist

theorem shutdown_proceeds (h : s.Sound) : Proceeds s [] [] s.shutdown.2 := by
  obtain ⟨-, -, hqueue, hserver, -, -, -, hsurfaces, hbuilders⟩ := shutdown_spec h.ring
  refine .move h.shutdown ?_ (fun c hc => ?_) hbuilders (by rw [hsurfaces])
  · rw [List.nil_append, hqueue]
    exact List.nil_sublist _
  · rw [hserver] at hc
    cases hc

theorem giveBack_proceeds (h : s.Sound) (id : ReleaseId) (group : UInt32) :
    Proceeds s [] [] (s.giveBack id group).2 := by
  rcases s.giveBack_cases id group with ⟨-, hb⟩ | ⟨-, -, hb⟩ | ⟨c, -, -, hb⟩
  · rw [hb]
    exact .of_eq h rfl rfl rfl rfl rfl rfl
  · rw [hb]
    exact .of_eq h rfl rfl rfl rfl rfl rfl
  · have ht := h.giveBack id group
    rw [hb] at ht ⊢
    exact .move ht (List.Sublist.refl _) (fun d hd => .inl (List.mem_filter.mp hd).1) rfl rfl

theorem attachWorker_proceeds (h : s.Sound) (name : Nat) : Proceeds s [] [] (s.attachWorker name).2 := by
  have haside := s.aside_attachWorker name
  exact .of_eq h haside.ring haside.held haside.notices haside.ledgers haside.builders
    (by rw [haside.surfaces])

/-- The answer is the drawable that the server took, and it was ahead of all that is still queued. -/
theorem nextCommand_proceeds (h : s.Sound) :
    Proceeds s [] (s.nextCommand.2.takenBy s.nextCommand.1) s.nextCommand.2 ∧
      answered s.nextCommand.1 =
        (s.nextCommand.2.takenBy s.nextCommand.1).map (·.dispatched) := by
  obtain ⟨-, hover⟩ := nextCommand_held h.ring
  have ht := h.nextCommand
  have hfetch : s.server.closed = false → Fetch s s.nextCommand.1 s.nextCommand.2 := by
    intro hopen
    rw [nextCommand, if_neg (by simp [hopen])]
    exact fetch_spec h.ring s.ring.length
  have hstream : (s.nextCommand.2.takenBy s.nextCommand.1 ++ s.nextCommand.2.queue).Sublist s.queue ∧
      s.nextCommand.2.builders = s.builders ∧ s.nextCommand.2.surfaces = s.surfaces := by
    cases hclosed : s.server.closed with
    | true =>
        rw [nextCommand, if_pos hclosed]
        exact ⟨List.Sublist.refl _, rfl, rfl⟩
    | false =>
        obtain ⟨passed, taken, hsplit, -, -, hsurfaces, htaken⟩ := (hfetch hclosed).taken
        rw [htaken, hsplit]
        exact ⟨List.sublist_append_right passed _, (hfetch hclosed).seen.1, hsurfaces⟩
  have hheld : (∀ c ∈ s.nextCommand.2.server.held,
        c ∈ s.server.held ∨ c ∈ s.nextCommand.2.takenBy s.nextCommand.1) ∧
      answered s.nextCommand.1 = (s.nextCommand.2.takenBy s.nextCommand.1).map (·.dispatched) := by
    cases hr : s.nextCommand.1 with
    | error e =>
        rw [hr] at hover
        exact ⟨fun c hc => .inl (hover ▸ hc), rfl⟩
    | ok answer =>
        rw [hr] at hover
        cases answer with
        | none => exact ⟨fun c hc => .inl (hover ▸ hc), rfl⟩
        | some d =>
            obtain ⟨c, -, rfl, hheld⟩ := hover
            have htaken : s.nextCommand.2.takenBy (.ok (some c.dispatched)) = [c] := by
              have hid : c.dispatched.id = c.id := rfl
              rw [takenBy, heldCommand?, hheld, hid, find?_insertHeld]
              rfl
            rw [htaken]
            refine ⟨fun x hx => ?_, rfl⟩
            rw [hheld] at hx
            exact (mem_insertHeld hx).symm.imp_right List.mem_singleton.mpr
  exact ⟨.move ht hstream.1 hheld.1 hstream.2.1 (by rw [hstream.2.2]), hheld.2⟩

/-- A fresh session with one ledger and one builder. -/
structure Single (s : Session) : Prop extends s.Fresh where
  registry : s.ledgers.size = 1
  painter : s.builders.size = 1

theorem single_ofRing {ring : Ring Command} (hring : ring.WellFormed) (hnil : ring.toList = [])
    (retries surfaceCapacity : Nat) (skew : UInt32) :
    (Session.ofRing ring retries surfaceCapacity [skew]).Single where
  toFresh := fresh_ofRing hring hnil retries surfaceCapacity (by simp)
  registry := rfl
  painter := rfl

end Session

/-! ## Runs -/

/-- A session with the numbers that it gave out, the answers that the server got, and the commands
that it took. -/
structure Numbering extends Holding where
  images : List ImageId := []
  surfaces : List SurfaceId := []
  answers : List Dispatched := []
  drawn : List Command := []

namespace Numbering

inductive Deed where
  | createSurface (width height : UInt32) (backing : Backing)
  | paintImage (surface : SurfaceId) (x y : Int32) (width height : UInt32) (pixels : View)
      (stride : UInt32) (damage : Damage)
  | fillRect (surface : SurfaceId) (colour : UInt32) (x y : Int32) (width height : UInt32)
  /-- The output of a surface is torn down. -/
  | withdraw (surface : SurfaceId)
  | attachWorker (name : Nat)
  | getCommand
  | giveBack (id : ReleaseId) (group : UInt32)
  | shutdown
  | setClock (time : UInt32)
  /-- Pixel memory changes in any way. -/
  | render (store : PixelStore)

def goOn (w : Numbering) (s : Session) : Numbering := { w with toHolding := w.next s w.hand }

def perform (w : Numbering) : Deed → Except Trap Numbering
  | .createSurface width height backing => do
    let r ← w.session.createSurface width height backing
    return { w.goOn r.2 with surfaces := w.surfaces ++ w.session.surfaceTaken r }
  | .paintImage surface x y width height pixels stride damage => do
    let r ← w.session.paintImage 0 surface x y width height pixels stride damage
    return { w.goOn r.2 with
      images := w.images ++ w.session.imageTaken surface x y width height pixels stride damage r.1 }
  | .fillRect surface colour x y width height =>
    return w.goOn (w.session.fillRect 0 surface colour x y width height).2
  | .withdraw surface => return w.goOn (w.session.withdrawSurface surface)
  | .attachWorker name => return w.goOn (w.session.attachWorker name).2
  | .getCommand =>
    return { w.goOn w.session.nextCommand.2 with
      answers := w.answers ++ answered w.session.nextCommand.1
      drawn := w.drawn ++ w.session.nextCommand.2.takenBy w.session.nextCommand.1 }
  | .giveBack id group => return w.goOn (w.session.giveBack id group).2
  | .shutdown => return w.goOn w.session.shutdown.2
  | .setClock time => return w.goOn (w.session.setClock time)
  | .render store => return w.goOn { w.session with store }

def run (w : Numbering) : List Deed → Except Trap Numbering
  | [] => .ok w
  | deed :: deeds => do (← w.perform deed).run deeds

/-- The session went on, and the numbers of `made` were given out. -/
def after (w : Numbering) (made taken : List Command) (s : Session) : Numbering :=
  { w.goOn s with
    images := w.images ++ imagesOf made
    surfaces := w.surfaces ++ announcements made
    answers := w.answers ++ taken.map (·.dispatched)
    drawn := w.drawn ++ taken }

/-- Nobody but the session has commands. What was drawn and what is queued is in the order of the
tickets and of the images given out, and the server holds some of what was drawn. -/
structure Ascending (w : Numbering) : Prop where
  conserved : w.toHolding.Conserved
  hand : w.hand = []
  registry : ∀ t ∈ w.built, t.ledger = 0
  painter : 0 < w.session.builders.size
  ledger : (w.session.builder 0).ledger = 0
  built : w.built.Pairwise (·.id.raw < ·.id.raw)
  tickets : ((w.drawn ++ w.session.queue).map (·.ticket)).Sublist w.built
  copies : (imagesOf (w.drawn ++ w.session.queue)).Sublist w.images
  held : ∀ c ∈ w.session.server.held, c ∈ w.drawn
  images : Numbered (w.session.builder 0).nextImage (w.images.map (·.raw))
  surfaces : Numbered w.session.surfaces.next (w.surfaces.map (·.raw))
  answers : w.answers = w.drawn.map (·.dispatched)

variable {w w' : Numbering} {made taken : List Command} {s : Session}

/-- Every step of a run is one operation of the session. -/
theorem Ascending.perform (h : w.Ascending) {deed : Deed} (hw : w.perform deed = .ok w') :
    ∃ made taken s, w.session.Proceeds made taken s ∧ w' = w.after made taken s := by
  have hsound := h.conserved.sound
  have hmoved : ∀ {s : Session}, w.session.Proceeds [] [] s → w' = w.goOn s →
      ∃ made taken s, w.session.Proceeds made taken s ∧ w' = w.after made taken s := by
    rintro s hs rfl
    exact ⟨[], [], s, hs, by simp [after, goOn, imagesOf, announcements]⟩
  cases deed with
  | createSurface width height backing =>
      obtain ⟨r, hr, hnext⟩ := Trap.bind_eq_ok.mp hw
      cases hnext
      obtain ⟨made, hs, himages, hsurfaces⟩ := Session.createSurface_proceeds hsound hr
      exact ⟨made, [], r.2, hs, by simp [after, goOn, himages, hsurfaces]⟩
  | paintImage surface x y width height pixels stride damage =>
      obtain ⟨r, hr, hnext⟩ := Trap.bind_eq_ok.mp hw
      cases hnext
      obtain ⟨made, hs, hsurfaces, himages⟩ := Session.paintImage_proceeds surface x y width height
        pixels stride damage hsound h.painter h.ledger hr
      exact ⟨made, [], r.2, hs, by simp [after, goOn, himages, hsurfaces]⟩
  | fillRect surface colour x y width height =>
      cases hw
      obtain ⟨made, hs, hsurfaces, himages⟩ :=
        Session.fillRect_proceeds surface colour x y width height hsound h.ledger
      exact ⟨made, [], _, hs, by simp [after, goOn, himages, hsurfaces]⟩
  | withdraw surface => exact hmoved (Session.withdrawSurface_proceeds hsound surface) (by cases hw; rfl)
  | attachWorker name => exact hmoved (Session.attachWorker_proceeds hsound name) (by cases hw; rfl)
  | getCommand =>
      cases hw
      obtain ⟨hs, hanswer⟩ := Session.nextCommand_proceeds hsound
      exact ⟨[], _, _, hs, by simp [after, goOn, imagesOf, announcements, hanswer]⟩
  | giveBack id group => exact hmoved (Session.giveBack_proceeds hsound id group) (by cases hw; rfl)
  | shutdown => exact hmoved (Session.shutdown_proceeds hsound) (by cases hw; rfl)
  | setClock time =>
      cases hw
      exact hmoved (s := w.session.setClock time) (.of_eq hsound rfl rfl rfl rfl rfl rfl) rfl
  | render store =>
      cases hw
      exact hmoved (s := { w.session with store }) (.of_eq hsound rfl rfl rfl rfl rfl rfl) rfl

theorem change_of_proceeds (h : w.toHolding.Standing) (hs : w.session.Proceeds made taken s) :
    Holding.Change w.toHolding (w.after made taken s).toHolding := by
  rcases hs.commands with ⟨-, ht⟩ | ⟨c, u, -, hissued, hc, ht⟩
  · exact .call ht
  · exact .submitNew h.first hissued hc ht

/-- The tickets that an operation gave out are those of the commands that it built. -/
theorem built_after (h : w.toHolding.Standing) (hs : w.session.Proceeds made taken s) :
    (w.after made taken s).built = w.built ++ made.map (·.ticket) := by
  rcases hs.commands with ⟨rfl, ht⟩ | ⟨c, u, rfl, hissued, hc, ht⟩
  · simp [after, goOn, Holding.next, ht.issuedBetween]
  · obtain ⟨-, -, hnext, -⟩ := hissued.transfer ht
    simp [after, goOn, Holding.next, Session.issuedBetween_of_next h.first hnext, hc]

/-- A new ticket is above all that were given out. -/
theorem Ascending.built_after (h : w.Ascending) (hs : w.session.Proceeds made taken s)
    (hfew : (w.after made taken s).built.length < 2 ^ 64) :
    (w.after made taken s).built.Pairwise (·.id.raw < ·.id.raw) ∧
      ∀ t ∈ (w.after made taken s).built, t.ledger = 0 := by
  rw [Numbering.built_after h.conserved.standing hs] at hfew ⊢
  rcases hs.commands with ⟨rfl, -⟩ | ⟨c, u, rfl, -, hc, -⟩
  · simpa using ⟨h.built, h.registry⟩
  · have hid : c.ticket.id.raw.toNat = w.built.countP (·.ledger = 0) + 1 := by
      have hcount := List.countP_le_length (p := fun u : Ticket => decide (u.ledger = 0)) (l := w.built)
      simp only [List.length_append, List.map_cons, List.map_nil, List.length_singleton] at hfew
      rw [hc, h.conserved.next 0 h.conserved.first,
        UInt64.toNat_ofNat_of_lt' (by simp only [UInt64.size]; omega)]
    refine ⟨List.pairwise_append.mpr ⟨h.built, by simp, fun t ht v hv => ?_⟩, fun t ht => ?_⟩
    · obtain rfl : v = c.ticket := by simpa using hv
      have hlow := h.conserved.low t ht
      rw [h.registry t ht] at hlow
      rw [UInt64.lt_iff_toNat_lt, hid]
      omega
    · rcases List.mem_append.mp ht with ht | ht
      · exact h.registry t ht
      · obtain rfl : t = c.ticket := by simpa using ht
        rw [hc]

/-- What was drawn and what is queued afterwards is part of what it was, with the new command last. -/
theorem stream_after (hs : w.session.Proceeds made taken s) :
    ((w.drawn ++ taken) ++ s.queue).Sublist ((w.drawn ++ w.session.queue) ++ made) := by
  rw [List.append_assoc, List.append_assoc]
  exact hs.stream.append_left w.drawn

theorem Ascending.after (h : w.Ascending) (hs : w.session.Proceeds made taken s)
    (hfew : (w.after made taken s).built.length < 2 ^ 64) : (w.after made taken s).Ascending := by
  have hstanding := h.conserved.standing
  obtain ⟨hbuilt, hregistry⟩ := h.built_after hs hfew
  have hchange := change_of_proceeds hstanding hs
  refine ⟨h.conserved.change hchange hfew, h.hand, hregistry, ?_, ?_, hbuilt, ?_, ?_, fun c hc => ?_,
    ?_, ?_, ?_⟩
  · exact hs.painters ▸ h.painter
  · have hsame : (s.builder 0).ledger = (w.session.builder 0).ledger := by
      rcases hs.commands with ⟨-, ht⟩ | ⟨c, u, -, hissued, -, ht⟩
      · exact ht.builders 0
      · exact (ht.builders 0).trans (hissued.builders 0)
    exact hsame.trans h.ledger
  · rw [Numbering.built_after hstanding hs]
    refine ((stream_after hs).map _).trans ?_
    rw [List.map_append]
    exact h.tickets.append_right _
  · refine ((stream_after hs).filterMap _).trans ?_
    rw [List.filterMap_append]
    exact h.copies.append_right _
  · rcases hs.held c hc with hc | hc
    · exact List.mem_append_left _ (h.held c hc)
    · exact List.mem_append_right _ hc
  · rw [Numbering.after, List.map_append]
    exact h.images.counts hs.images
  · rw [Numbering.after, List.map_append]
    exact h.surfaces.counts hs.surfaces
  · simp [Numbering.after, h.answers]

/-- Tickets are only added. -/
theorem perform_built {deed : Deed} (hw : w.perform deed = .ok w') : w.built <+: w'.built := by
  cases deed with
  | createSurface | paintImage =>
      obtain ⟨r, -, hnext⟩ := Trap.bind_eq_ok.mp hw
      cases hnext
      exact List.prefix_append _ _
  | _ =>
      cases hw
      exact List.prefix_append _ _

theorem run_built {deeds : List Deed} (hw : w.run deeds = .ok w') : w.built <+: w'.built := by
  induction deeds generalizing w with
  | nil =>
      cases hw
      exact List.prefix_rfl
  | cons deed deeds ih =>
      simp only [run, bind, Except.bind] at hw
      split at hw
      · cases hw
      · rename_i w₁ hstep
        exact (perform_built hstep).trans (ih hw)

theorem Ascending.run (h : w.Ascending) {deeds : List Deed} (hw : w.run deeds = .ok w')
    (hfew : w'.built.length < 2 ^ 64) : w'.Ascending := by
  induction deeds generalizing w with
  | nil =>
      cases hw
      exact h
  | cons deed deeds ih =>
      simp only [Numbering.run, bind, Except.bind] at hw
      split at hw
      · cases hw
      · rename_i w₁ hstep
        obtain ⟨made, taken, s, hs, rfl⟩ := h.perform hstep
        exact ih (h.after hs (Nat.lt_of_le_of_lt (run_built hw).length_le hfew)) hw

/-- The ids of what was drawn and what is queued grow from the first drawable to the tail. -/
theorem Ascending.ids (h : w.Ascending) :
    (w.drawn ++ w.session.queue).Pairwise (·.id.raw < ·.id.raw) := by
  have htickets := h.built.sublist h.tickets
  rw [List.pairwise_map] at htickets
  exact htickets

theorem Ascending.held_below (h : w.Ascending) :
    ∀ c ∈ w.session.server.held, ∀ d ∈ w.session.queue, c.id.raw < d.id.raw := fun c hc d hd =>
  (List.pairwise_append.mp h.ids).2.2 c (h.held c hc) d hd

end Numbering

theorem Session.Single.ascending {s : Session} (h : s.Single) : Numbering.Ascending { session := s } where
  conserved := h.conserved
  hand := rfl
  registry _ ht := by cases ht
  painter := by simp [h.painter]
  ledger := by
    have hlt := h.builders 0
    rw [h.registry] at hlt
    exact Nat.lt_one_iff.mp hlt
  built := .nil
  tickets := by simp [h.queue]
  copies := by simp [h.queue, imagesOf]
  held c hc := by
    rw [h.held] at hc
    cases hc
  images := ⟨.nil, fun _ hm => by cases hm⟩
  surfaces := ⟨.nil, fun _ hm => by cases hm⟩
  answers := rfl

/-- Numbers only grow: on the ring from head to tail, from what the server holds to what is queued, and
from each answer to the next. Each ticket is in one place, no number of any kind is given out twice,
and what the server takes never replaces what it holds. -/
theorem Session.Single.numbers_ascend {s : Session} (h : s.Single) {deeds : List Numbering.Deed}
    {w : Numbering} (hrun : Numbering.run { session := s } deeds = .ok w)
    (hfew : w.built.length < 2 ^ 64) :
    w.session.queue.Pairwise (·.id.raw < ·.id.raw) ∧
    (∀ c ∈ w.session.server.held, ∀ d ∈ w.session.queue, c.id.raw < d.id.raw) ∧
    w.answers.Pairwise (·.id.raw < ·.id.raw) ∧ w.answers = w.drawn.map (·.dispatched) ∧
    (imagesOf w.drawn).Pairwise (·.raw < ·.raw) ∧
    w.built.Pairwise (·.id.raw < ·.id.raw) ∧ w.session.tickets.Perm w.built ∧
    w.images.Pairwise (·.raw < ·.raw) ∧
    (imagesOf (w.drawn ++ w.session.queue)).Sublist w.images ∧
    w.surfaces.Pairwise (·.raw < ·.raw) ∧
    ∀ c ∈ w.session.queue, (insertHeld c w.session.server.held).1 = none := by
  have ha := h.ascending.run hrun hfew
  obtain ⟨hdrawn, hqueue, -⟩ := List.pairwise_append.mp ha.ids
  have himages := List.pairwise_map.mp ha.images.ascending
  refine ⟨hqueue, ha.held_below, ?_, ha.answers, ?_, ha.built, ?_, himages, ha.copies,
    List.pairwise_map.mp ha.surfaces.ascending, fun c hc => ?_⟩
  · rw [ha.answers]
    exact List.pairwise_map.mpr hdrawn
  · refine himages.sublist (List.Sublist.trans ?_ ha.copies)
    rw [imagesOf_append]
    exact List.sublist_append_left _ _
  · simpa [ha.hand] using ha.conserved.places
  · exact insertHeld_of_below fun d hd => ha.held_below d hd c hc

/-- The ring refuses the second copy, which has used up its numbers all the same, and the announcement
of another surface is withdrawn before the server sees it. -/
theorem Session.numbers_ascend_refused :
    ∃ s : Session, s.Single ∧ ∃ deeds w, Numbering.run { session := s } deeds = .ok w ∧
      w.built.length < 2 ^ 64 ∧ w.answers.map (·.id.raw) = [2, 3, 5] ∧
      (imagesOf w.drawn).map (·.raw) = [1, 3] ∧ w.images.map (·.raw) = [1, 2, 3] ∧
      w.surfaces.map (·.raw) = [0, 1] ∧ w.session.queue.map (·.id.raw) = [7] ∧
      w.built.Pairwise (·.id.raw < ·.id.raw) ∧
      ∀ c ∈ w.session.queue, (insertHeld c w.session.server.held).1 = none := by
  let pixels : View := ⟨⟨0⟩, 0, 1, 1, 4⟩
  let deeds : List Numbering.Deed :=
    [.attachWorker 0, .createSurface 1 1 ⟨1, 1, 4⟩, .render { blocks := #[⟨⟨#[1, 2, 3, 4]⟩, 3⟩] },
      .paintImage ⟨0⟩ 0 0 1 1 pixels 4 .empty, .fillRect ⟨0⟩ 7 0 0 1 1,
      .paintImage ⟨0⟩ 0 0 1 1 pixels 4 .empty, .getCommand, .paintImage ⟨0⟩ 0 0 1 1 pixels 4 .empty,
      .getCommand, .getCommand, .createSurface 1 1 ⟨1, 1, 4⟩, .withdraw ⟨1⟩, .fillRect ⟨0⟩ 7 0 0 1 1]
  have hsingle : (Session.ofRing (.ofCapacity 3 0) 0 2 [0]).Single :=
    Session.single_ofRing (Ring.wellFormed_ofCapacity 3 0) (Ring.toList_ofCapacity 3 0) 0 2 0
  have hmade : (Numbering.run { session := .ofRing (.ofCapacity 3 0) 0 2 [0] } deeds).toOption.map
        (fun w => ((w.built.length, w.answers.map (·.id.raw), w.session.queue.map (·.id.raw)),
          (imagesOf w.drawn).map (·.raw), w.images.map (·.raw), w.surfaces.map (·.raw))) =
      some ((7, [2, 3, 5], [7]), [1, 3], [1, 2, 3], [0, 1]) := by
    decide +kernel
  cases hrun : Numbering.run { session := .ofRing (.ofCapacity 3 0) 0 2 [0] } deeds with
  | error fault =>
      rw [hrun] at hmade
      cases hmade
  | ok w =>
      rw [hrun] at hmade
      obtain ⟨⟨hbuilt, hanswers, hqueue⟩, hdrawn, himages, hsurfaces⟩ : (w.built.length = 7 ∧
          w.answers.map (·.id.raw) = [2, 3, 5] ∧ w.session.queue.map (·.id.raw) = [7]) ∧
          (imagesOf w.drawn).map (·.raw) = [1, 3] ∧ w.images.map (·.raw) = [1, 2, 3] ∧
          w.surfaces.map (·.raw) = [0, 1] := by
        simpa only [Except.toOption, Option.map_some, Option.some.injEq, Prod.mk.injEq] using hmade
      have hfew : w.built.length < 2 ^ 64 := by omega
      obtain ⟨-, -, -, -, -, hascend, -, -, -, -, hroom⟩ := hsingle.numbers_ascend hrun hfew
      exact ⟨_, hsingle, deeds, w, hrun, hfew, hanswers, hdrawn, himages, hsurfaces, hqueue, hascend, hroom⟩

end RemoteDisplay
