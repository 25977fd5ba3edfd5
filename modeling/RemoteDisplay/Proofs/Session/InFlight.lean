import RemoteDisplay.Proofs.Session.Conservation

/-!
# What the server can give back

The log of a session says which drawables the server took, which ids it gave back and when the session
ended. The commands that the server holds are those of the log that did not come back: every turn of a
run changes both in the same way.
-/

namespace RemoteDisplay

/-- What happens to the drawables that the server takes. -/
inductive Handover where
  | taken (d : Dispatched)
  | returned (id : ReleaseId)
  | ended
  deriving DecidableEq, Repr

namespace Handover

/-- Nothing with the id is left with the server. -/
def Ends (id : ReleaseId) : Handover → Prop
  | taken _ => False
  | returned i => i = id
  | ended => True

/-- How the held commands change. -/
def Moves (held held' : List Command) : Handover → Prop
  | taken d => ∃ c : Command, c.dispatched = d ∧ held' = (insertHeld c held).2
  | returned id => held' = held.filter (·.id ≠ id)
  | ended => held' = []

def takenId? : Handover → Option ReleaseId
  | taken d => some d.id
  | _ => none

end Handover

/-- The server took the drawable; since then nothing was given back under its id, and the session did
not end. -/
def Unreturned (log : List Handover) (d : Dispatched) : Prop :=
  ∃ earlier later, log = earlier ++ .taken d :: later ∧ ∀ e ∈ later, ¬ e.Ends d.id

/-- The ids of all drawables that the server took. -/
def takenIds (log : List Handover) : List ReleaseId := log.filterMap (·.takenId?)

/-! ## The log and the held commands -/

section Log

variable {log : List Handover} {e : Handover} {d : Dispatched} {held held' : List Command}

theorem unreturned_concat :
    Unreturned (log ++ [e]) d ↔ e = .taken d ∨ (Unreturned log d ∧ ¬ e.Ends d.id) := by
  constructor
  · rintro ⟨earlier, later, hlog, hlater⟩
    rcases List.eq_nil_or_concat later with rfl | ⟨later, x, rfl⟩
    · exact .inl (List.append_inj_right' hlog rfl |> List.singleton_inj.mp)
    · rw [List.concat_eq_append, ← List.cons_append, ← List.append_assoc] at hlog
      obtain ⟨rfl, hx⟩ := List.append_inj' hlog rfl
      obtain rfl := List.singleton_inj.mp hx
      refine .inr ⟨⟨earlier, later, rfl, fun y hy => hlater y ?_⟩, hlater e ?_⟩ <;> simp_all
  · rintro (rfl | ⟨⟨earlier, later, rfl, hlater⟩, hlast⟩)
    · exact ⟨log, [], rfl, by simp⟩
    · refine ⟨earlier, later ++ [e], by simp, fun x hx => ?_⟩
      rcases List.mem_append.mp hx with hx | hx
      · exact hlater x hx
      · exact List.mem_singleton.mp hx ▸ hlast

theorem not_unreturned_nil : ¬ Unreturned [] d := by
  rintro ⟨earlier, later, hlog, -⟩
  simp at hlog

theorem takenIds_append (log log' : List Handover) :
    takenIds (log ++ log') = takenIds log ++ takenIds log' :=
  List.filterMap_append

/-- Some command is held under every id that was taken and not returned, and every held command is one
of those. -/
structure Agree (log : List Handover) (held : List Command) : Prop where
  unreturned : ∀ c ∈ held, Unreturned log c.dispatched
  found : ∀ d, Unreturned log d → ∃ c ∈ held, c.id = d.id

theorem exists_mem_insertHeld {c x : Command} (hx : x ∈ held) :
    ∃ y ∈ (insertHeld c held).2, y.id = x.id := by
  induction held with
  | nil => cases hx
  | cons y ys ih =>
      simp only [insertHeld]
      split
      · exact ⟨x, List.mem_cons_of_mem c hx, rfl⟩
      · split
        · rename_i hid
          rcases List.mem_cons.mp hx with rfl | hx
          · exact ⟨c, List.mem_cons_self, hid⟩
          · exact ⟨x, List.mem_cons_of_mem c hx, rfl⟩
        · rcases List.mem_cons.mp hx with rfl | hx
          · exact ⟨x, List.mem_cons_self, rfl⟩
          · obtain ⟨z, hz, hid⟩ := ih hx
            exact ⟨z, List.mem_cons_of_mem y hz, hid⟩

theorem Agree.step (h : Agree log held) (he : e.Moves held held') : Agree (log ++ [e]) held' := by
  cases e with
  | taken d =>
      obtain ⟨c, rfl, rfl⟩ := he
      have hmem := List.mem_of_find?_eq_some (Session.find?_insertHeld c held)
      refine ⟨fun x hx => ?_, fun x hx => ?_⟩
      · rcases Session.mem_insertHeld hx with rfl | hx
        · exact unreturned_concat.mpr (.inl rfl)
        · exact unreturned_concat.mpr (.inr ⟨h.unreturned x hx, id⟩)
      · rcases unreturned_concat.mp hx with hx | ⟨hx, -⟩
        · cases hx
          exact ⟨c, hmem, rfl⟩
        · obtain ⟨y, hy, hid⟩ := h.found x hx
          obtain ⟨z, hz, hid'⟩ := exists_mem_insertHeld (c := c) hy
          exact ⟨z, hz, hid'.trans hid⟩
  | returned id =>
      obtain rfl := he
      refine ⟨fun x hx => ?_, fun x hx => ?_⟩
      · obtain ⟨hx, hne⟩ := List.mem_filter.mp hx
        exact unreturned_concat.mpr (.inr ⟨h.unreturned x hx, fun hid => of_decide_eq_true hne hid.symm⟩)
      · rcases unreturned_concat.mp hx with hx | ⟨hx, hne⟩
        · cases hx
        · obtain ⟨y, hy, hid⟩ := h.found x hx
          refine ⟨y, List.mem_filter.mpr ⟨hy, decide_eq_true fun heq => hne ?_⟩, hid⟩
          exact heq.symm.trans hid
  | ended =>
      obtain rfl := he
      refine ⟨fun x hx => (by cases hx), fun x hx => ?_⟩
      rcases unreturned_concat.mp hx with hx | ⟨-, hx⟩
      · cases hx
      · exact absurd trivial hx

end Log

/-! ## Turns that the server has no part in -/

namespace Session

variable {s t u : Session}

/-- The tickets of the commands that the server holds, and of those that are released. -/
def past (s : Session) : List Ticket := s.server.held.map (·.ticket) ++ s.released

/-- The server takes nothing and gives nothing back. -/
structure Quiet (s t : Session) : Prop where
  held : t.server.held = s.server.held
  released : s.released ⊆ t.released

theorem Quiet.of_eq (hserver : t.server.held = s.server.held) (hnotices : t.notices = s.notices) :
    Quiet s t :=
  ⟨hserver, by rw [Session.released, Session.released, hnotices]; exact List.Subset.refl _⟩

theorem Quiet.trans (h : Quiet s t) (h' : Quiet t u) : Quiet s u :=
  ⟨h'.held.trans h.held, List.Subset.trans h.released h'.released⟩

theorem Quiet.past (h : Quiet s t) : s.past ⊆ t.past := by
  intro x hx
  rw [Session.past, List.mem_append] at hx ⊢
  rw [h.held]
  exact hx.imp_right (h.released ·)

theorem released_subset_release (c : Command) (reason : ReleaseReason) :
    s.released ⊆ (s.release c reason).released := by
  rw [released_release]
  exact List.subset_append_left _ _

theorem release_quiet (c : Command) (reason : ReleaseReason) : Quiet s (s.release c reason) :=
  ⟨rfl, released_subset_release c reason⟩

theorem submit_quiet (c : Command) : Quiet s (s.submit c).2 := by
  simp only [submit, enqueue?]
  cases s.ring.enqueue c s.retries with
  | none => exact release_quiet c .rejected
  | some ring => exact .of_eq rfl rfl

theorem createSurface_quiet {width height : UInt32} {backing : Backing}
    {r : Except Fault SurfaceId × Session} (hr : s.createSurface width height backing = .ok r) :
    Quiet s r.2 := by
  rcases createSurface_cases hr with ⟨e, rfl⟩ | ⟨record, c, -, -, -, -, -, rfl, hsub⟩
  · exact .of_eq rfl rfl
  · have hnumbered : Quiet s s.numbered := .of_eq rfl rfl
    have hsubmit := hnumbered.trans (submit_quiet (announcement ⟨s.surfaces.next⟩ width height record
      ⟨0, ⟨(s.ledger 0).next⟩⟩))
    rcases hsub with ⟨s', hs, rfl⟩ | ⟨e, s', hs, rfl⟩
    · rw [hs] at hsubmit
      exact hsubmit.trans (.of_eq rfl rfl)
    · rw [hs] at hsubmit
      exact hsubmit

theorem imageTicketed_quiet (b : Nat) : Quiet s ((s.imageNumbered b).ticketed b) := by
  rw [imageNumbered_eq]
  exact .of_eq rfl rfl

section Building

variable (b : Nat) (surface : SurfaceId) (colour : UInt32) (x y : Int32) (width height : UInt32)
  (pixels : View) (stride : UInt32) (damage : Damage)

theorem buildFill_quiet : Quiet s (s.buildFill b surface colour x y width height).2 := by
  rcases s.buildFill_cases b surface colour x y width height with ⟨e, hb⟩ | ⟨bbox, -, -, -, hb⟩
  · rw [hb]
    exact .of_eq rfl rfl
  · rw [hb]
    exact .of_eq rfl rfl

variable {b surface x y width height pixels stride damage} in
theorem buildBlit_quiet {r : Except Fault Command × Session}
    (hr : s.buildBlit b surface x y width height pixels stride damage = .ok r) : Quiet s r.2 := by
  rcases buildBlit_cases hr with ⟨e, rfl⟩ | ⟨bbox, -, -, -, -, rfl⟩
  · exact .of_eq rfl rfl
  · exact imageTicketed_quiet b

theorem fillRect_quiet : Quiet s (s.fillRect b surface colour x y width height).2 := by
  rcases s.fillRect_cases b surface colour x y width height with ⟨e, hp⟩ | ⟨bbox, live, -, -, -, -, hp⟩
  · rw [hp]
    exact .of_eq rfl rfl
  · rw [hp]
    have hticketed : Quiet s (s.ticketed b) := .of_eq rfl rfl
    exact hticketed.trans (submit_quiet _)

variable {b surface x y width height pixels stride damage} in
theorem paintImage_quiet {r : Except Fault ImageId × Session}
    (hr : s.paintImage b surface x y width height pixels stride damage = .ok r) : Quiet s r.2 := by
  rcases paintImage_cases hr with ⟨e, rfl⟩ | ⟨bbox, live, -, -, -, -, -, -, rfl⟩
  · exact .of_eq rfl rfl
  · exact (imageTicketed_quiet b).trans (submit_quiet _)

end Building

/-! ## Fetching, giving back and ending -/

/-- An answer hands over one queued drawable, or none. -/
def HandsOver (s t : Session) : Except Fault (Option Dispatched) → Prop
  | .ok (some d) => ∃ c ∈ s.queue, c.dispatched = d ∧ t.server.held = (insertHeld c s.server.held).2
  | _ => t.server.held = s.server.held

theorem Fetch.held {r : Except Fault (Option Dispatched)} (hf : Fetch s r t) :
    s.past ⊆ t.past ∧ s.HandsOver t r := by
  induction hf with
  | stop s => exact ⟨List.Subset.refl _, rfl⟩
  | @draw s c ring hqueue hring hrecord =>
      refine ⟨fun x hx => ?_, c, by rw [hqueue]; exact List.mem_cons_self, rfl, by rw [handOff_server]⟩
      -- The command that had the same id is released, the others are still held.
      have hperm := ((insertHeld_perm c s.server.held).map (·.ticket)).mem_iff (a := x)
      have hreleased : (handOff { s with ring } c).released = s.released ++
          (insertHeld c s.server.held).1.toList.map (·.ticket) := by
        rw [released, handOff_notices, released]
        simp [Command.notice, Function.comp_def]
      rw [List.map_append, List.map_cons, List.mem_append, List.mem_cons] at hperm
      simp only [past, List.mem_append] at hx
      simp only [past, handOff_server, hreleased, List.mem_append]
      tauto
  | @reject s c ring record hqueue hring hrecord hworker =>
      exact ⟨(release_quiet (s := { s with ring }) c .rejected).past, rfl⟩
  | @announce s s' c ring record r hqueue hring hrecord hrest ih =>
      have hquiet : Quiet s ((call { s with ring } (.createSurface c.surface record)).release c .delivered) :=
        Quiet.trans (t := call { s with ring } (.createSurface c.surface record)) (.of_eq rfl rfl)
          (release_quiet c .delivered)
      refine ⟨List.Subset.trans hquiet.past ih.1, ?_⟩
      have hheld := ih.2
      cases r with
      | error e => exact hheld
      | ok answer =>
          cases answer with
          | none => exact hheld
          | some d =>
              obtain ⟨x, hx, hd, hx'⟩ := hheld
              exact ⟨x, by rw [hqueue]; exact List.mem_cons_of_mem c hx, hd, hx'⟩

theorem nextCommand_held (h : s.ring.WellFormed) :
    s.past ⊆ s.nextCommand.2.past ∧ s.HandsOver s.nextCommand.2 s.nextCommand.1 := by
  by_cases hclosed : s.server.closed
  · rw [nextCommand, if_pos hclosed]
    exact ⟨List.Subset.refl _, rfl⟩
  · rw [nextCommand, if_neg hclosed]
    exact (fetch_spec h s.ring.length).held

theorem Sound.giveBack_past (h : s.Sound) (id : ReleaseId) (group : UInt32) :
    s.past ⊆ (s.giveBack id group).2.past := by
  rcases s.giveBack_cases id group with ⟨-, hb⟩ | ⟨-, -, hb⟩ | ⟨c, -, hc, hb⟩
  · rw [hb]
    exact List.Subset.refl _
  · rw [hb]
    exact List.Subset.refl _
  · rw [hb]
    intro x hx
    simp only [past, List.mem_append, List.mem_map] at hx
    simp only [past, release_server, released_release, List.mem_append, List.mem_map, List.mem_singleton]
    rcases hx with ⟨y, hy, rfl⟩ | hx
    · by_cases hid : y.id = id
      · -- No other command is held under the id.
        have hfind := find?_held h.held hy
        rw [hid] at hfind
        obtain rfl : y = c := Option.some.inj (hfind.symm.trans hc)
        exact .inr (.inr rfl)
      · exact .inl ⟨y, List.mem_filter.mpr ⟨hy, by simpa using hid⟩, rfl⟩
    · exact .inr (.inl hx)

theorem shutdown_past (h : s.ring.WellFormed) : s.past ⊆ s.shutdown.2.past := by
  obtain ⟨hall, -, -, hserver, hnotices, -⟩ := shutdown_spec h
  intro x hx
  simp only [past, released, hserver, hnotices, hall]
  simp only [past, released, List.mem_append] at hx
  rcases hx with hx | hx
  · simp only [List.mem_map] at hx
    obtain ⟨c, hc, rfl⟩ := hx
    simp only [List.mem_append, List.mem_map, Array.toList_append]
    exact .inr ⟨c.notice .shutdown, .inr ⟨c, by simp [hc], rfl⟩, rfl⟩
  · simp only [List.map_nil, List.nil_append, Array.toList_append, List.map_append, List.mem_append]
    exact .inl hx

end Session

/-! ## Runs -/

namespace Holding

/-- All that callers, the device and the server do with a session. -/
inductive Turn where
  | operation (op : Operation)
  | destroySurface (id : SurfaceId)
  /-- Takes the oldest command off the ring into the callers' hand. -/
  | dequeue
  /-- Takes all commands off the ring into the callers' hand. -/
  | drain
  | setClock (time : UInt32)
  | setCompression (level : Int32)
  /-- Tells the worker something, if there is one. -/
  | tell (c : WorkerCall)

def advance (w : Holding) : Turn → Except Trap Holding
  | .operation op => w.perform op
  | .destroySurface id => return w.next (w.session.destroySurface id).2 w.hand
  | .dequeue => return w.next w.session.dequeue.2 (w.hand ++ w.session.dequeue.1.toList)
  | .drain => return w.next w.session.drain.2 (w.hand ++ w.session.drain.1)
  | .setClock time => return w.next (w.session.setClock time) w.hand
  | .setCompression level => return w.next (w.session.setCompression level) w.hand
  | .tell c => return w.next (w.session.callAttached c) w.hand

/-- What a turn does to the drawables that the server takes, by the answers that it gets. -/
def Turn.handover? (s : Session) : Turn → Option Handover
  | .operation .getCommand =>
    match s.nextCommand.1 with
    | .ok (some d) => some (.taken d)
    | _ => none
  | .operation (.giveBack id group) =>
    match (s.giveBack id group).1 with
    | .ok n => some (.returned n.id)
    | .error _ => none
  | .operation .shutdown => some .ended
  | _ => none

variable {w w' : Holding} {turn : Turn}

theorem Standing.advance (h : w.Standing) (hw : w.advance turn = .ok w') : Change w w' := by
  have hidle : ∀ {s : Session}, s.ring = w.session.ring → s.server.held = w.session.server.held →
      s.notices = w.session.notices → s.ledgers = w.session.ledgers →
      s.builders = w.session.builders → Change w (w.next s w.hand) := by
    intro s hring hheld hnotices hledgers hbuilders
    exact .call (.of_eq h.sound hring hheld hnotices hledgers fun i => by
      rw [Session.builder, Session.builder, hbuilders])
  cases turn with
  | operation op => exact h.perform op hw
  | destroySurface id =>
      cases hw
      rw [Session.destroySurface_eq]
      exact hidle rfl rfl rfl rfl rfl
  | dequeue =>
      cases hw
      cases hq : w.session.queue with
      | nil =>
          rw [Session.dequeue_of_nil h.sound.ring hq]
          simpa using hidle (s := w.session) rfl rfl rfl rfl rfl
      | cons c cs =>
          obtain ⟨t, ht, htr⟩ := h.sound.dequeue_of_cons hq
          rw [ht]
          refine .transfer htr ?_
          rw [List.nil_append]
          exact List.perm_append_comm
  | drain =>
      cases hw
      refine .transfer h.sound.drain ?_
      rw [List.nil_append]
      exact List.perm_append_comm
  | setClock => cases hw; exact hidle rfl rfl rfl rfl rfl
  | setCompression => cases hw; exact hidle rfl rfl rfl rfl rfl
  | tell c =>
      cases hw
      exact hidle (Session.callAttached_ring c) (by rw [Session.callAttached_server])
        (Session.callAttached_notices c) (Session.callAttached_ledgers c) (Session.callAttached_builders c)

/-- What a turn did to the held commands. -/
def Moved (w w' : Holding) : Option Handover → Prop
  | none => w'.session.server.held = w.session.server.held
  | some e => e.Moves w.session.server.held w'.session.server.held ∧
    ∀ id, e.takenId? = some id → ∃ c ∈ w.session.queue, c.id = id ∧ c ∈ w'.session.server.held

theorem Standing.perform_moved (h : w.Standing) {op : Operation} (hw : w.perform op = .ok w') :
    w.session.past ⊆ w'.session.past ∧ Moved w w' (Turn.handover? w.session (.operation op)) := by
  have hquiet : ∀ {s hand}, Session.Quiet w.session s →
      w.session.past ⊆ (w.next s hand).session.past ∧ Moved w (w.next s hand) none := by
    intro s hand hs
    exact ⟨hs.past, hs.held⟩
  have htake : ∀ r : Except Fault Command × Session, Session.Quiet w.session r.2 →
      w.session.past ⊆ (w.take r).session.past ∧ Moved w (w.take r) none := by
    rintro ⟨_ | c, s⟩ hs <;> exact hquiet hs
  cases op with
  | createSurface width height backing =>
      obtain ⟨r, hr, hnext⟩ := Trap.bind_eq_ok.mp hw
      cases hnext
      exact hquiet (Session.createSurface_quiet hr)
  | paintImage b surface x y width height pixels stride damage =>
      obtain ⟨r, hr, hnext⟩ := Trap.bind_eq_ok.mp hw
      cases hnext
      exact hquiet (Session.paintImage_quiet hr)
  | fillRect b surface colour x y width height =>
      cases hw
      exact hquiet (Session.fillRect_quiet b surface colour x y width height)
  | buildBlit b surface x y width height pixels stride damage =>
      obtain ⟨r, hr, htaken⟩ := Trap.bind_eq_ok.mp hw
      cases htaken
      exact htake r (Session.buildBlit_quiet hr)
  | buildFill b surface colour x y width height =>
      cases hw
      exact htake _ (Session.buildFill_quiet b surface colour x y width height)
  | submit i =>
      simp only [Holding.perform] at hw
      split at hw
      · rename_i c hc
        cases hw
        exact hquiet (Session.submit_quiet c)
      · cases hw
        exact ⟨List.Subset.refl _, rfl⟩
  | release i reason =>
      simp only [Holding.perform] at hw
      split at hw
      · rename_i c hc
        cases hw
        exact hquiet (Session.release_quiet c reason)
      · cases hw
        exact ⟨List.Subset.refl _, rfl⟩
  | drainSurface surface =>
      cases hw
      exact hquiet (.of_eq rfl rfl)
  | attachWorker name =>
      cases hw
      refine hquiet (.of_eq ?_ ?_) <;>
        · simp only [Session.attachWorker]
          split <;> rfl
  | getCommand =>
      cases hw
      obtain ⟨hpast, hover⟩ := Session.nextCommand_held h.sound.ring
      refine ⟨hpast, ?_⟩
      simp only [Turn.handover?]
      cases hr : w.session.nextCommand.1 with
      | error e =>
          rw [hr] at hover
          exact hover
      | ok answer =>
          rw [hr] at hover
          cases answer with
          | none => exact hover
          | some d =>
              obtain ⟨c, hc, rfl, hheld⟩ := hover
              refine ⟨⟨c, rfl, hheld⟩, fun id hid => ⟨c, hc, Option.some.inj hid, ?_⟩⟩
              simp only [Holding.next, hheld]
              exact List.mem_of_find?_eq_some (Session.find?_insertHeld c _)
  | giveBack id group =>
      cases hw
      refine ⟨h.sound.giveBack_past id group, ?_⟩
      simp only [Turn.handover?]
      rcases w.session.giveBack_cases id group with ⟨-, hb⟩ | ⟨-, -, hb⟩ | ⟨c, -, hc, hb⟩
      · rw [hb]
        rfl
      · rw [hb]
        rfl
      · obtain rfl : c.id = id := by simpa using List.find?_some hc
        rw [hb]
        exact ⟨rfl, fun id hid => by cases hid⟩
  | shutdown =>
      cases hw
      obtain ⟨-, -, -, hserver, -⟩ := Session.shutdown_spec h.sound.ring
      exact ⟨Session.shutdown_past h.sound.ring, by simp [Holding.next, Handover.Moves, hserver],
        fun id hid => by cases hid⟩
  | render store =>
      cases hw
      exact hquiet (.of_eq rfl rfl)

theorem Standing.advance_moved (h : w.Standing) (hw : w.advance turn = .ok w') :
    w.session.past ⊆ w'.session.past ∧ Moved w w' (turn.handover? w.session) := by
  have hquiet : ∀ {s hand}, Session.Quiet w.session s →
      w.session.past ⊆ (w.next s hand).session.past ∧ Moved w (w.next s hand) none := by
    intro s hand hs
    exact ⟨hs.past, hs.held⟩
  cases turn with
  | operation op => exact h.perform_moved hw
  | destroySurface id =>
      cases hw
      rw [Session.destroySurface_eq]
      exact hquiet (.of_eq rfl rfl)
  | tell c =>
      cases hw
      exact hquiet (.of_eq (by rw [Session.callAttached_server]) (Session.callAttached_notices c))
  | _ =>
      cases hw
      exact hquiet (.of_eq rfl rfl)

end Holding

/-- Callers and a session, with the log of what happened to the drawables that the server took. -/
structure Logged extends Holding where
  log : List Handover := []

namespace Logged

def advance (w : Logged) (turn : Holding.Turn) : Except Trap Logged := do
  let holding ← w.toHolding.advance turn
  return { holding with log := w.log ++ (turn.handover? w.session).toList }

def run (w : Logged) : List Holding.Turn → Except Trap Logged
  | [] => .ok w
  | turn :: turns => do (← w.advance turn).run turns

/-- The log agrees with what the server holds, and no id is taken twice from one ledger. -/
structure Exact (w : Logged) : Prop where
  standing : w.toHolding.Standing
  agree : Agree w.log w.session.server.held
  conserved : w.built.length < 2 ^ 64 → w.toHolding.Conserved
  once : ∀ registry, (∀ t ∈ w.built, t.ledger = registry) → w.built.length < 2 ^ 64 →
    (takenIds w.log).Nodup ∧ ∀ id ∈ takenIds w.log, ⟨registry, id⟩ ∈ w.session.past

variable {w w' : Logged}

theorem Exact.ticket_eq (h : w.Exact) {registry : Nat} (hone : ∀ t ∈ w.built, t.ledger = registry)
    {c : Command} (hc : c.ticket ∈ w.session.tickets) : c.ticket = ⟨registry, c.id⟩ := by
  rw [← hone _ (h.standing.known _ (List.mem_append_right _ hc))]
  rfl

theorem mem_tickets_of_held {s : Session} {c : Command} (hc : c ∈ s.server.held) :
    c.ticket ∈ s.tickets := by
  simp only [Session.tickets, List.mem_append]
  exact .inl (.inr (List.mem_map_of_mem hc))

theorem mem_tickets_of_queue {s : Session} {c : Command} (hc : c ∈ s.queue) : c.ticket ∈ s.tickets := by
  simp only [Session.tickets, List.mem_append]
  exact .inl (.inl (List.mem_map_of_mem hc))

/-- A command that is still queued was not taken before. -/
theorem Exact.untaken (h : w.Exact) {registry : Nat} (hone : ∀ t ∈ w.built, t.ledger = registry)
    (hfew : w.built.length < 2 ^ 64) {c : Command} (hc : c ∈ w.session.queue) :
    c.id ∉ takenIds w.log := by
  intro hid
  have hconserved := h.conserved hfew
  have hmem : c.ticket ∈ w.session.queue.map (·.ticket) := List.mem_map_of_mem hc
  have hticket := h.ticket_eq hone (mem_tickets_of_queue hc)
  have hnodup : (w.session.queue.map (·.ticket) ++ w.session.past).Nodup := by
    have hall := hconserved.places.nodup_iff.mpr hconserved.distinct
    rw [Session.tickets, List.append_assoc] at hall
    exact (List.nodup_append.mp hall).2.1
  exact (List.nodup_append.mp hnodup).2.2 _ hmem _ ((h.once registry hone hfew).2 _ hid) hticket

theorem Exact.advance (h : w.Exact) {turn : Holding.Turn} (hw : w.advance turn = .ok w') :
    w'.Exact := by
  simp only [Logged.advance, bind, Except.bind] at hw
  split at hw
  · cases hw
  · rename_i holding hstep
    cases hw
    have hchange := h.standing.advance hstep
    obtain ⟨hpast, hmoved⟩ := h.standing.advance_moved hstep
    obtain ⟨issued, hbuilt⟩ := hchange.built
    refine ⟨hchange.standing h.standing, ?_, fun hfew => ?_, fun registry hone hfew => ?_⟩
    · cases he : turn.handover? w.session with
      | none =>
          rw [he] at hmoved
          simpa [show holding.session.server.held = _ from hmoved] using h.agree
      | some e =>
          rw [he] at hmoved
          exact h.agree.step hmoved.1
    · exact (h.conserved (hchange.few hfew)).change hchange hfew
    · have hone' : ∀ t ∈ w.built, t.ledger = registry := by
        intro t ht
        refine hone t ?_
        rw [hbuilt]
        exact List.mem_append_left _ ht
      obtain ⟨hdistinct, htaken⟩ := h.once registry hone' (hchange.few hfew)
      cases he : turn.handover? w.session with
      | none =>
          refine ⟨by simpa using hdistinct, fun id hid => hpast (htaken id ?_)⟩
          simpa using hid
      | some e =>
          rw [he] at hmoved
          simp only [Option.toList_some, takenIds_append]
          cases hid : e.takenId? with
          | none =>
              simp only [takenIds, List.filterMap_cons, hid, List.filterMap_nil, List.append_nil]
              exact ⟨hdistinct, fun id hid => hpast (htaken id hid)⟩
          | some id =>
              obtain ⟨c, hc, rfl, hheld⟩ := hmoved.2 id hid
              have hnew := h.untaken hone' (hchange.few hfew) hc
              have hsingle : takenIds [e] = [c.id] := by simp [takenIds, hid]
              rw [hsingle]
              refine ⟨?_, fun id hid => ?_⟩
              · exact nodup_concat hdistinct hnew
              · rcases List.mem_append.mp hid with hid | hid
                · exact hpast (htaken id hid)
                · obtain rfl := List.mem_singleton.mp hid
                  have hknown := (hchange.standing h.standing).known _
                    (List.mem_append_right _ (mem_tickets_of_held hheld))
                  rw [← hone _ hknown]
                  exact List.mem_append_left _ (List.mem_map_of_mem hheld)

theorem Exact.run (h : w.Exact) {turns : List Holding.Turn} (hw : w.run turns = .ok w') : w'.Exact := by
  induction turns generalizing w with
  | nil =>
      cases hw
      exact h
  | cons turn turns ih =>
      simp only [Logged.run, bind, Except.bind] at hw
      split at hw
      · cases hw
      · rename_i w₁ hstep
        exact ih (h.advance hstep) hw

/-- What holds at first and after every turn that is taken holds after a run. -/
theorem Exact.run_induction {P : Holding → Prop} (hstep : ∀ {w w' : Holding} {turn : Holding.Turn},
      P w → w.Standing → w.advance turn = .ok w' → P w')
    (h : w.Exact) (hw : P w.toHolding) {turns : List Holding.Turn} (hrun : w.run turns = .ok w') :
    P w'.toHolding := by
  induction turns generalizing w with
  | nil =>
      cases hrun
      exact hw
  | cons turn turns ih =>
      simp only [Logged.run, bind, Except.bind] at hrun
      split at hrun
      · cases hrun
      · rename_i w₁ hturn
        have hexact := h.advance hturn
        simp only [Logged.advance, bind, Except.bind] at hturn
        split at hturn
        · cases hturn
        · rename_i holding hadvance
          cases hturn
          exact ih hexact (hstep hw h.standing hadvance) hrun

/-- Nothing is held under an id whose ticket was not given out or is elsewhere. -/
theorem Exact.not_held (h : w.Exact) {registry : Nat} (hone : ∀ t ∈ w.built, t.ledger = registry)
    (hfew : w.built.length < 2 ^ 64) {id : ReleaseId}
    (hid : ⟨registry, id⟩ ∉ w.built ∨ ⟨registry, id⟩ ∈ w.hand.map (·.ticket) ++
      w.session.queue.map (·.ticket) ++ w.session.released) : w.session.heldCommand? id = none := by
  cases hheld : w.session.heldCommand? id with
  | none => rfl
  | some c =>
      have hmem : c ∈ w.session.server.held := List.mem_of_find?_eq_some hheld
      obtain rfl : c.id = id := by simpa using List.find?_some hheld
      have hticket := h.ticket_eq hone (mem_tickets_of_held hmem)
      rw [← hticket] at hid
      have hplaces := (h.conserved hfew).places
      have hbuilt := hplaces.mem_iff.mp (List.mem_append_right _ (mem_tickets_of_held hmem))
      have hcount := hplaces.count_eq c.ticket
      rw [(h.conserved hfew).distinct.count, if_pos hbuilt] at hcount
      have hhere := List.count_pos_iff.mpr (List.mem_map_of_mem (f := (·.ticket)) hmem)
      have helsewhere := List.count_pos_iff.mpr (hid.resolve_left (not_not_intro hbuilt))
      simp only [Session.tickets, List.count_append] at hcount helsewhere
      omega

end Logged

theorem Session.Fresh.exact {s : Session} (h : s.Fresh) : Logged.Exact { session := s } where
  standing := h.conserved.standing
  agree := by
    refine ⟨fun c hc => ?_, fun d hd => absurd hd not_unreturned_nil⟩
    rw [h.held] at hc
    cases hc
  conserved _ := h.conserved
  once _ _ _ := ⟨.nil, fun _ hid => by cases hid⟩

/-- However a session is used whose commands have their tickets from one ledger, the server can give
back a drawable that it took and did not give back since, and nothing else. That fires one notice and
frees the id; whatever is refused changes nothing. -/
theorem Session.Fresh.giveBack_iff_unreturned {s : Session} (h : s.Fresh) {turns : List Holding.Turn}
    {w : Logged} (hrun : Logged.run { session := s } turns = .ok w) {registry : Nat}
    (hone : ∀ t ∈ w.built, t.ledger = registry) (id : ReleaseId) (group : UInt32) :
    ((∃ n t, w.session.giveBack id group = (.ok n, t)) ↔
      group = Wire.memorySlotGroup ∧ ∃ d, Unreturned w.log d ∧ d.id = id) ∧
    (∀ n t, w.session.giveBack id group = (.ok n, t) →
      (∃ d, Unreturned w.log d ∧ d.id = id ∧ n = ⟨⟨registry, id⟩, d.kind, d.surface, .server⟩) ∧
      t.notices = w.session.notices.push n ∧ t.ring = w.session.ring ∧
      t.server = { w.session.server with held := w.session.server.held.filter (·.id ≠ id) }) ∧
    (∀ e t, w.session.giveBack id group = (.error e, t) → t = w.session ∧
      e = if group = Wire.memorySlotGroup then .unknownRelease id.raw else .foreignGroup group) ∧
    (w.built.length < 2 ^ 64 → (takenIds w.log).Nodup ∧
      (⟨registry, id⟩ ∉ w.built ∨ ⟨registry, id⟩ ∈ w.hand.map (·.ticket) ++
          w.session.queue.map (·.ticket) ++ w.session.released →
        w.session.giveBack id Wire.memorySlotGroup = (.error (.unknownRelease id.raw), w.session))) := by
  have hexact := h.exact.run hrun
  refine ⟨⟨?_, ?_⟩, ?_, ?_, fun hfew => ⟨(hexact.once registry hone hfew).1, fun hid => ?_⟩⟩
  · rintro ⟨n, t, hback⟩
    rcases w.session.giveBack_cases id group with ⟨-, hb⟩ | ⟨-, -, hb⟩ | ⟨c, hgroup, hc, -⟩
    · rw [hb] at hback
      cases hback
    · rw [hb] at hback
      cases hback
    · obtain rfl : c.id = id := by simpa using List.find?_some hc
      exact ⟨hgroup, c.dispatched, hexact.agree.unreturned c (List.mem_of_find?_eq_some hc), rfl⟩
  · rintro ⟨rfl, d, hd, rfl⟩
    obtain ⟨c, hc, hid⟩ := hexact.agree.found d hd
    obtain ⟨t, ht⟩ := hexact.standing.sound.giveBack_held hc
    rw [hid] at ht
    exact ⟨_, t, ht⟩
  · intro n t hback
    rcases w.session.giveBack_cases id group with ⟨-, hb⟩ | ⟨-, -, hb⟩ | ⟨c, -, hc, hb⟩
    · rw [hb] at hback
      cases hback
    · rw [hb] at hback
      cases hback
    · rw [hb] at hback
      cases hback
      have hmem : c ∈ w.session.server.held := List.mem_of_find?_eq_some hc
      obtain rfl : c.id = id := by simpa using List.find?_some hc
      refine ⟨⟨c.dispatched, hexact.agree.unreturned c hmem, rfl, ?_⟩, rfl, rfl, rfl⟩
      rw [← hexact.ticket_eq hone (Logged.mem_tickets_of_held hmem)]
      rfl
  · intro e t hback
    rcases w.session.giveBack_cases id group with ⟨hgroup, hb⟩ | ⟨hgroup, -, hb⟩ | ⟨c, -, -, hb⟩
    · rw [hb] at hback
      cases hback
      exact ⟨rfl, (if_neg hgroup).symm⟩
    · rw [hb] at hback
      cases hback
      exact ⟨rfl, (if_pos hgroup).symm⟩
    · rw [hb] at hback
      cases hback
  · have hnone := hexact.not_held hone hfew hid
    rcases w.session.giveBack_cases id Wire.memorySlotGroup with ⟨hgroup, -⟩ | ⟨-, -, hb⟩ | ⟨c, -, hc, -⟩
    · exact absurd rfl hgroup
    · exact hb
    · rw [hnone] at hc
      cases hc

/-- The server took two drawables and gave one back: that one it cannot give back again, the other it
can. -/
theorem giveBack_iff_unreturned_second :
    ∃ s : Session, s.Fresh ∧ ∃ w : Logged, Logged.run { session := s }
        [.operation (.buildFill 0 ⟨0⟩ 7 0 0 1 1), .operation (.buildFill 0 ⟨3⟩ 7 0 0 1 1),
          .operation (.submit 0), .operation (.submit 0), .operation .getCommand,
          .operation .getCommand, .operation (.giveBack ⟨1⟩ 0)] = .ok w ∧
      (∀ t ∈ w.built, t.ledger = 0) ∧ w.built.length < 2 ^ 64 ∧
      (∃ n t, w.session.giveBack ⟨2⟩ 0 = (.ok n, t)) ∧
      w.session.giveBack ⟨1⟩ 0 = (.error (.unknownRelease 1), w.session) := by
  have hfresh : (Session.ofRing (.ofCapacity 2 0) 0 2 [0]).Fresh :=
    Session.fresh_ofRing (Ring.wellFormed_ofCapacity 2 0) (Ring.toList_ofCapacity 2 0) 0 2 (by simp)
  let turns : List Holding.Turn :=
    [.operation (.buildFill 0 ⟨0⟩ 7 0 0 1 1), .operation (.buildFill 0 ⟨3⟩ 7 0 0 1 1),
      .operation (.submit 0), .operation (.submit 0), .operation .getCommand,
      .operation .getCommand, .operation (.giveBack ⟨1⟩ 0)]
  let draw (n : UInt64) (surface : UInt32) : Dispatched :=
    ⟨.ofType Wire.GroupedEntry.drawType 0, .drawFill, ⟨surface⟩, ⟨0, 0, 1, 1⟩, ⟨n⟩⟩
  have hmade : (Logged.run { session := .ofRing (.ofCapacity 2 0) 0 2 [0] } turns).toOption.map
        (fun w => (w.log, w.built, w.session.released)) =
      some ([.taken (draw 1 0), .taken (draw 2 3), .returned ⟨1⟩], [⟨0, ⟨1⟩⟩, ⟨0, ⟨2⟩⟩],
        [⟨0, ⟨1⟩⟩]) := by
    decide +kernel
  cases hrun : Logged.run { session := .ofRing (.ofCapacity 2 0) 0 2 [0] } turns with
  | error fault =>
      rw [hrun] at hmade
      cases hmade
  | ok w =>
      rw [hrun] at hmade
      obtain ⟨hlog, hbuilt, hreleased⟩ : w.log = _ ∧ w.built = _ ∧ w.session.released = _ := by
        simpa [Except.toOption] using hmade
      have hone : ∀ t ∈ w.built, t.ledger = 0 := by
        rw [hbuilt]
        decide
      have hfew : w.built.length < 2 ^ 64 := by
        rw [hbuilt]
        decide
      refine ⟨_, hfresh, w, hrun, hone, hfew, ?_, ?_⟩
      · refine (hfresh.giveBack_iff_unreturned hrun hone ⟨2⟩ 0).1.mpr ⟨rfl, draw 2 3, ?_, rfl⟩
        exact ⟨[.taken (draw 1 0)], [.returned ⟨1⟩], hlog, by simp [Handover.Ends, draw]⟩
      · refine ((hfresh.giveBack_iff_unreturned hrun hone ⟨1⟩ 0).2.2.2 hfew).2 (.inr ?_)
        rw [hreleased]
        exact List.mem_append_right _ List.mem_cons_self

end RemoteDisplay
