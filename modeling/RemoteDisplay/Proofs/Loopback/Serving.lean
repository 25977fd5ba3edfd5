import Mathlib.Algebra.GroupWithZero.Nat
import RemoteDisplay.Loopback.Server
import RemoteDisplay.Proofs.Geometry.Edges
import RemoteDisplay.Proofs.Loopback.Pass

/-!
# The loopback server serves everything once

Whatever is on the ring of an open session, one pass of the loopback server takes all of it: the worker
hears of every surface, and every drawable is taken and given back before the next one is taken. The
counters grow by what was on the ring. Nothing stops the pass but a number of pixels that is too large.
-/

namespace RemoteDisplay

/-! ## Areas -/

namespace Rect

def pixels (r : Rect) : Nat :=
  (r.right.toInt - r.left.toInt).toNat * (r.bottom.toInt - r.top.toInt).toNat

end Rect

namespace LoopbackServer

theorem area_of_measured {r : Rect} (h : r.Measured) : area r = .ok r.pixels := by
  obtain ⟨⟨n, hn, -, hwidth⟩, ⟨m, hm, -, hheight⟩⟩ := h
  simp [area, hn, hm, hwidth, hheight, Rect.pixels, bind, Except.bind, pure, Except.pure]

end LoopbackServer

/-! ## Counting -/

/-- The pixels that the server counts for a command. -/
def Command.blitted (c : Command) : Nat := if c.kind = .drawCopy then c.bbox.pixels else 0

theorem Command.record?_eq_none (c : Command) : c.record? = none ↔ c.kind ≠ .createSurface := by
  obtain ⟨surface, bbox, payload, ticket⟩ := c
  cases payload <;> simp [record?, kind]

/-- The counters of drawables have room for some commands. -/
structure LoopbackStats.Fits (stats : LoopbackStats) (cs : List Command) : Prop where
  commands : stats.commands.toNat + (drawn cs).length < 2 ^ 64
  fills : stats.fills.toNat + cs.countP (·.kind = .drawFill) < 2 ^ 64
  blits : stats.blits.toNat + cs.countP (·.kind = .drawCopy) < 2 ^ 64
  pixels : stats.pixels.toNat + (cs.map (·.blitted)).sum < 2 ^ 64

/-- The counters once the drawables among some commands were counted. -/
structure LoopbackStats.Counted (stats : LoopbackStats) (cs : List Command) (stats' : LoopbackStats) :
    Prop where
  commands : stats'.commands.toNat = stats.commands.toNat + (drawn cs).length
  fills : stats'.fills.toNat = stats.fills.toNat + cs.countP (·.kind = .drawFill)
  blits : stats'.blits.toNat = stats.blits.toNat + cs.countP (·.kind = .drawCopy)
  pixels : stats'.pixels.toNat = stats.pixels.toNat + (cs.map (·.blitted)).sum
  others : stats'.surfaces = stats.surfaces ∧ stats'.slots = stats.slots ∧ stats'.wakeups = stats.wakeups

/-- The worker after some commands were served. -/
structure LoopbackWorker.Served (w : LoopbackWorker) (cs : List Command) (w' : LoopbackWorker) :
    Prop where
  commands : w'.stats.commands.toNat = w.stats.commands.toNat + (drawn cs).length
  fills : w'.stats.fills.toNat = w.stats.fills.toNat + cs.countP (·.kind = .drawFill)
  blits : w'.stats.blits.toNat = w.stats.blits.toNat + cs.countP (·.kind = .drawCopy)
  pixels : w'.stats.pixels.toNat = w.stats.pixels.toNat + (cs.map (·.blitted)).sum
  created : w'.stats.surfaces.toNat = w.stats.surfaces.toNat + cs.countP (·.kind = .createSurface)
  surfaces : w'.surfaces = w.surfaces ++ cs.filterMap (·.announced?)
  slots : w'.stats.slots = w.stats.slots
  wakeups : w'.stats.wakeups = w.stats.wakeups
  running : w'.running = w.running
  stopped : w'.stopped = w.stopped
  pending : w'.pending = w.pending

/-- All counters have room for some commands. -/
structure LoopbackWorker.Room (w : LoopbackWorker) (cs : List Command) : Prop where
  drawables : w.stats.Fits cs
  created : w.stats.surfaces.toNat + cs.countP (·.kind = .createSurface) < 2 ^ 32

/-- Every drawable is a fill or a copy. -/
theorem length_drawn (cs : List Command) :
    (drawn cs).length = cs.countP (·.kind = .drawFill) + cs.countP (·.kind = .drawCopy) := by
  induction cs with
  | nil => rfl
  | cons c cs ih =>
      have hcons : drawn (c :: cs) = drawn [c] ++ drawn cs := drawn_append [c] cs
      have hone : (drawn [c]).length =
          (if c.kind = .drawFill then 1 else 0) + if c.kind = .drawCopy then 1 else 0 := by
        cases hkind : c.kind with
        | createSurface => simp [drawn, Command.record?_eq_none, hkind]
        | drawCopy => simp [drawn, Command.record?_eq_none, hkind]
        | drawFill => simp [drawn, Command.record?_eq_none, hkind]
      rw [hcons, List.length_append, hone, ih, List.countP_cons, List.countP_cons]
      simp only [decide_eq_true_eq]
      omega

theorem length_announced (cs : List Command) :
    (cs.filterMap (·.announced?)).length = cs.countP (·.kind = .createSurface) := by
  induction cs with
  | nil => rfl
  | cons c cs ih =>
      by_cases hc : c.kind = .createSurface
      · obtain ⟨record, hrecord⟩ : ∃ record, c.record? = some record := by
          rw [← Option.ne_none_iff_exists', ne_eq, c.record?_eq_none]
          exact not_not_intro hc
        have hone : c.announced? = some (c.surface, record) := by rw [Command.announced?, hrecord]; rfl
        simp [hone, hc, ih]
      · have hnone : c.announced? = none := by
          rw [Command.announced?, c.record?_eq_none.mpr hc]
          rfl
        simp [hnone, hc, ih]

theorem countP_kind_eq_zero {cs : List Command} (kind : CommandKind) (hkind : kind ≠ .createSurface)
    (h : ∀ c ∈ cs, c.record? ≠ none) : cs.countP (·.kind = kind) = 0 := by
  rw [List.countP_eq_zero]
  intro c hc hk
  refine h c hc (c.record?_eq_none.mpr ?_)
  rw [of_decide_eq_true hk]
  exact hkind

theorem blitted_eq_zero {c : Command} (h : c.record? ≠ none) : c.blitted = 0 := by
  rw [ne_eq, c.record?_eq_none, not_not] at h
  simp [Command.blitted, h]

namespace LoopbackStats

variable {stats stats' stats'' : LoopbackStats} {cs ds : List Command} {c : Command}

/-- Announcements are not counted among the drawables. -/
theorem counted_announcements (stats : LoopbackStats) (h : ∀ c ∈ cs, c.record? ≠ none) :
    stats.Counted cs stats where
  commands := by simp [drawn_eq_nil h]
  fills := by simp [countP_kind_eq_zero .drawFill nofun h]
  blits := by simp [countP_kind_eq_zero .drawCopy nofun h]
  pixels := by
    have hzero : cs.map (·.blitted) = cs.map fun _ => 0 :=
      List.map_congr_left fun c hc => blitted_eq_zero (h c hc)
    simp [hzero]
  others := ⟨rfl, rfl, rfl⟩

theorem Counted.trans (h : stats.Counted cs stats') (h' : stats'.Counted ds stats'') :
    stats.Counted (cs ++ ds) stats'' where
  commands := by rw [h'.commands, h.commands, drawn_append, List.length_append, Nat.add_assoc]
  fills := by rw [h'.fills, h.fills, List.countP_append, Nat.add_assoc]
  blits := by rw [h'.blits, h.blits, List.countP_append, Nat.add_assoc]
  pixels := by rw [h'.pixels, h.pixels, List.map_append, List.sum_append, Nat.add_assoc]
  others := ⟨h'.others.1.trans h.others.1, h'.others.2.1.trans h.others.2.1,
    h'.others.2.2.trans h.others.2.2⟩

/-- What was counted has found room. -/
theorem Counted.fits_append (h : stats.Counted cs stats') : stats.Fits (cs ++ ds) ↔ stats'.Fits ds := by
  constructor
  · rintro ⟨hcommands, hfills, hblits, hpixels⟩
    rw [drawn_append, List.length_append, ← Nat.add_assoc, ← h.commands] at hcommands
    rw [List.countP_append, ← Nat.add_assoc, ← h.fills] at hfills
    rw [List.countP_append, ← Nat.add_assoc, ← h.blits] at hblits
    rw [List.map_append, List.sum_append, ← Nat.add_assoc, ← h.pixels] at hpixels
    exact ⟨hcommands, hfills, hblits, hpixels⟩
  · rintro ⟨hcommands, hfills, hblits, hpixels⟩
    refine ⟨?_, ?_, ?_, ?_⟩
    · rwa [drawn_append, List.length_append, ← Nat.add_assoc, ← h.commands]
    · rwa [List.countP_append, ← Nat.add_assoc, ← h.fills]
    · rwa [List.countP_append, ← Nat.add_assoc, ← h.blits]
    · rwa [List.map_append, List.sum_append, ← Nat.add_assoc, ← h.pixels]

theorem Fits.of_append (h : stats.Fits (cs ++ ds)) : stats.Fits cs := by
  obtain ⟨hcommands, hfills, hblits, hpixels⟩ := h
  rw [drawn_append, List.length_append] at hcommands
  rw [List.countP_append] at hfills hblits
  rw [List.map_append, List.sum_append] at hpixels
  exact ⟨by omega, by omega, by omega, by omega⟩

theorem Counted.fits (h : stats.Counted cs stats') : stats.Fits cs := by
  refine ⟨?_, ?_, ?_, ?_⟩
  · rw [← h.commands]
    exact stats'.commands.toNat_lt
  · rw [← h.fills]
    exact stats'.fills.toNat_lt
  · rw [← h.blits]
    exact stats'.blits.toNat_lt
  · rw [← h.pixels]
    exact stats'.pixels.toNat_lt

open LoopbackServer in
/-- A drawable is counted, or one of its counters has no room. -/
theorem count_cases (stats : LoopbackStats) (hc : c.record? = none) (hm : c.bbox.Measured) :
    (∃ stats', count stats c.dispatched = .ok stats' ∧ stats.Counted [c] stats') ∨
    (¬stats.Fits [c] ∧ count stats c.dispatched = .error .addOverflow) := by
  have harea := area_of_measured hm
  have hone : (drawn [c]).length = 1 := by rw [drawn_singleton hc]; rfl
  have hbox : c.dispatched.bbox = c.bbox := rfl
  have hkind : c.dispatched.kind = c.kind := rfl
  unfold count
  rw [hbox, harea, hkind]
  rcases Checked.next64_cases stats.commands with ⟨-, commands, hnext, hcommands⟩ | ⟨hfull, hnext⟩
  · simp only [hnext, bind, Except.bind, pure, Except.pure]
    rw [c.record?_eq_none] at hc
    cases hk : c.kind with
    | createSurface => exact absurd hk hc
    | drawFill =>
        rcases Checked.next64_cases stats.fills with ⟨-, fills, hf, hfills⟩ | ⟨hfull, hf⟩
        · refine .inl ⟨{ stats with commands, fills }, by simp only [hf], ?_, ?_, ?_, ?_, rfl, rfl, rfl⟩
          · rw [hone, hcommands]
          · simp [hfills, hk]
          · simp [hk]
          · simp [Command.blitted, hk]
        · refine .inr ⟨fun hfits => ?_, by simp only [hf]⟩
          have hroom := hfits.fills
          simp only [List.countP_singleton, hk, decide_true, if_true] at hroom
          omega
    | drawCopy =>
        rcases Checked.next64_cases stats.blits with ⟨-, blits, hb, hblits⟩ | ⟨hfull, hb⟩
        · rcases Checked.u64_cases .addOverflow (stats.pixels.toNat + c.bbox.pixels) with
            ⟨-, pixels, hp⟩ | ⟨hfull, hp⟩
          · refine .inl ⟨{ stats with commands, blits, pixels }, by simp only [hb, hp], ?_, ?_, ?_, ?_, rfl,
              rfl, rfl⟩
            · rw [hone, hcommands]
            · simp [hk]
            · simp [hblits, hk]
            · simp [Command.blitted, hk, Checked.toNat_of_u64 hp]
          · refine .inr ⟨fun hfits => ?_, by simp only [hb, hp]⟩
            have hroom := hfits.pixels
            simp only [List.map_cons, List.map_nil, List.sum_cons, List.sum_nil, Command.blitted, hk,
              if_true] at hroom
            omega
        · refine .inr ⟨fun hfits => ?_, by simp only [hb]⟩
          have hroom := hfits.blits
          simp only [List.countP_singleton, hk, decide_true, if_true] at hroom
          omega
  · refine .inr ⟨fun hfits => ?_, by simp only [hnext, bind, Except.bind]⟩
    have hroom := hfits.commands
    rw [hone] at hroom
    omega

end LoopbackStats

/-! ## Listening -/

namespace LoopbackWorker

variable {w w' : LoopbackWorker}

/-- The worker with the counters of drawables that are kept elsewhere. -/
def drew (w : LoopbackWorker) (stats : LoopbackStats) : LoopbackWorker :=
  { w with stats := { w.stats with
      commands := stats.commands
      fills := stats.fills
      blits := stats.blits
      pixels := stats.pixels } }

theorem fits_drew (w : LoopbackWorker) (stats : LoopbackStats) (cs : List Command) :
    (w.drew stats).stats.Fits cs ↔ stats.Fits cs :=
  ⟨fun h => ⟨h.commands, h.fills, h.blits, h.pixels⟩, fun h => ⟨h.commands, h.fills, h.blits, h.pixels⟩⟩

/-- The worker counts and listens independently. -/
theorem foldlM_receive_drew (w : LoopbackWorker) (stats : LoopbackStats) (calls : List WorkerCall) :
    calls.foldlM receive (w.drew stats) = (calls.foldlM receive w).map (·.drew stats) := by
  induction calls generalizing w with
  | nil => rfl
  | cons call calls ih =>
      have hone : (w.drew stats).receive call = (w.receive call).map (·.drew stats) := by
        cases call with
        | addMemorySlot slot =>
            simp only [receive, drew]
            cases Checked.next32 w.stats.slots <;> rfl
        | createSurface id record =>
            simp only [receive, drew]
            cases Checked.next32 w.stats.surfaces <;> rfl
        | start => rfl
        | stop => rfl
        | wakeup =>
            simp only [receive, drew]
            cases Checked.next64 w.stats.wakeups <;> rfl
      rw [List.foldlM_cons, List.foldlM_cons, hone]
      cases w.receive call with
      | error trap => rfl
      | ok v => exact ih v

theorem foldlM_receive_error {calls : List WorkerCall} {trap : Trap}
    (h : calls.foldlM receive w = .error trap) : trap = .addOverflow := by
  induction calls generalizing w with
  | nil => cases h
  | cons call calls ih =>
      rw [List.foldlM_cons] at h
      cases hone : w.receive call with
      | ok v =>
          rw [hone] at h
          exact ih h
      | error trap' =>
          rw [hone] at h
          cases h
          cases call with
          | start => cases hone
          | stop => cases hone
          | addMemorySlot slot =>
              rcases Checked.next32_cases w.stats.slots with ⟨-, m, hm, -⟩ | ⟨-, hm⟩ <;>
                · rw [receive, hm] at hone
                  cases hone
                  try rfl
          | createSurface id record =>
              rcases Checked.next32_cases w.stats.surfaces with ⟨-, m, hm, -⟩ | ⟨-, hm⟩ <;>
                · rw [receive, hm] at hone
                  cases hone
                  try rfl
          | wakeup =>
              rcases Checked.next64_cases w.stats.wakeups with ⟨-, m, hm, -⟩ | ⟨-, hm⟩ <;>
                · rw [receive, hm] at hone
                  cases hone
                  try rfl

/-- The worker is told of surfaces. -/
def tell (w : LoopbackWorker) (as : List (SurfaceId × Wire.SurfaceRecord)) :
    Except Trap LoopbackWorker :=
  (as.map fun a => WorkerCall.createSurface a.1 a.2).foldlM receive w

/-- The worker knows more surfaces, and nothing else happened to it. -/
structure Told (w : LoopbackWorker) (as : List (SurfaceId × Wire.SurfaceRecord)) (w' : LoopbackWorker) :
    Prop where
  created : w'.stats.surfaces.toNat = w.stats.surfaces.toNat + as.length
  surfaces : w'.surfaces = w.surfaces ++ as
  others : w' = { w with
    stats := { w.stats with surfaces := w'.stats.surfaces }
    surfaces := w'.surfaces }

theorem tell_cases (w : LoopbackWorker) (as : List (SurfaceId × Wire.SurfaceRecord)) :
    (w.stats.surfaces.toNat + as.length < 4294967296 ∧ ∃ w', w.tell as = .ok w' ∧ w.Told as w') ∨
    (4294967296 ≤ w.stats.surfaces.toNat + as.length ∧ w.tell as = .error .addOverflow) := by
  induction as generalizing w with
  | nil => exact .inl ⟨w.stats.surfaces.toNat_lt, w, rfl, rfl, (List.append_nil _).symm, rfl⟩
  | cons a as ih =>
      simp only [tell, List.map_cons, List.foldlM_cons, receive, List.length_cons]
      rcases Checked.next32_cases w.stats.surfaces with ⟨-, m, hm, hvalue⟩ | ⟨hfull, hm⟩
      · simp only [hm, bind, Except.bind, pure, Except.pure]
        rcases ih { w with
          stats := { w.stats with surfaces := m }
          surfaces := w.surfaces ++ [(a.1, a.2)] } with ⟨hlt, w', hw, htold⟩ | ⟨hle, hw⟩
        · have hcreated := htold.created
          simp only at hlt hcreated
          refine .inl ⟨by omega, w', hw, ?_, ?_, htold.others⟩
          · rw [List.length_cons]
            omega
          · rw [htold.surfaces, List.append_assoc]
            rfl
        · simp only at hle
          exact .inr ⟨by omega, hw⟩
      · simp only [hm, bind, Except.bind]
        exact .inr ⟨by omega, trivial⟩

end LoopbackWorker

namespace LoopbackServer

open LoopbackWorker LoopbackStats

variable {l : LoopbackServer} {s t : Session} {c : Command} {cs front : List Command}
  {known : LoopbackWorker} {stats : LoopbackStats}

/-- What the worker knows when it has heard all calls of the session. -/
def heard (l : LoopbackServer) (s : Session) : Except Trap LoopbackWorker :=
  (l.listen s).map (·.1.worker)

theorem heard_eq (l : LoopbackServer) (s : Session) :
    l.heard s = s.calls.toList.foldlM receive l.worker := by
  simp only [heard, listen, Session.takeCalls]
  cases s.calls.toList.foldlM receive l.worker <;> rfl

theorem listen_eq (l : LoopbackServer) (s : Session) :
    l.listen s = (l.heard s).map fun worker => (⟨worker⟩, { s with calls := #[] }) := by
  rw [heard_eq]
  simp only [listen, Session.takeCalls]
  cases s.calls.toList.foldlM receive l.worker <;> rfl

theorem heard_passed (h : s.Passed cs t) :
    l.heard t = l.heard s >>= fun w => w.tell (cs.filterMap (·.announced?)) := by
  rw [heard_eq, heard_eq, h.calls, Array.toList_append, List.foldlM_append]
  rfl

/-- The drawables that were counted are heard of like any others. -/
theorem heard_counted (h : l.worker.stats.Counted cs stats) (s : Session) :
    heard ⟨{ l.worker with stats }⟩ s = (l.heard s).map (·.drew stats) := by
  have hdrew : { l.worker with stats } = l.worker.drew stats := by
    obtain ⟨hsurfaces, hslots, hwakeups⟩ := h.others
    simp only [drew, ← hsurfaces, ← hslots, ← hwakeups]
  rw [heard_eq, heard_eq, hdrew, foldlM_receive_drew]

/-- The worker hears nothing of the drawables. -/
theorem drew_of_heard (h : l.heard s = .ok known) : known = known.drew l.worker.stats := by
  have hdrew := foldlM_receive_drew l.worker l.worker.stats s.calls.toList
  rw [heard_eq] at h
  rw [show l.worker.drew l.worker.stats = l.worker from rfl, h] at hdrew
  exact Except.ok.inj hdrew

/-! ## A pass -/

/-- What the server does during a pass, as turns of the session. -/
def rounds (cs : List Command) : List Holding.Turn :=
  (drawn cs).flatMap (fun c =>
    [.operation .getCommand, .operation (.giveBack c.id Wire.memorySlotGroup)]) ++
  [.operation .getCommand]

/-- The drawables in order, each taken and then given back. -/
def exchanges (cs : List Command) : List Handover :=
  (drawn cs).flatMap fun c => [.taken c.dispatched, .returned c.id]

section Round

variable {rest : List Command}

theorem drawn_split (hfront : ∀ d ∈ front, d.record? ≠ none) (hc : c.record? = none) :
    drawn (front ++ c :: rest) = c :: drawn rest := by
  rw [drawn_append, drawn_eq_nil hfront, List.nil_append, ← List.singleton_append, drawn_append,
    drawn_singleton hc, List.singleton_append]

theorem rounds_split (hfront : ∀ d ∈ front, d.record? ≠ none) (hc : c.record? = none) :
    rounds (front ++ c :: rest) = .operation .getCommand ::
      .operation (.giveBack c.id Wire.memorySlotGroup) :: rounds rest := by
  rw [rounds, drawn_split hfront hc]
  rfl

theorem exchanges_split (hfront : ∀ d ∈ front, d.record? ≠ none) (hc : c.record? = none) :
    exchanges (front ++ c :: rest) = [.taken c.dispatched, .returned c.id] ++ exchanges rest := by
  rw [exchanges, drawn_split hfront hc]
  rfl

variable {w : Logged} {u : Session}

/-- The turns of a pass that finds no drawable. -/
theorem run_nothing (hnext : w.session.nextCommand = (.ok none, t)) :
    w.run [.operation .getCommand] = .ok ⟨w.next t w.hand, w.log⟩ := by
  simp [Logged.run, Logged.advance, Holding.advance, Holding.perform, Holding.Turn.handover?, hnext, bind,
    Except.bind, pure, Except.pure]

/-- The turns of a pass that takes a drawable first and gives it back. -/
theorem run_round {turns : List Holding.Turn}
    (hnext : w.session.nextCommand = (.ok (some c.dispatched), u))
    (hback : u.giveBack c.id Wire.memorySlotGroup = (.ok (c.notice .server), t)) :
    w.run (.operation .getCommand :: .operation (.giveBack c.id Wire.memorySlotGroup) :: turns) =
      Logged.run ⟨(w.next u w.hand).next t w.hand, w.log ++ [.taken c.dispatched, .returned c.id]⟩
        turns := by
  have hgiven : (w.next u w.hand).session.giveBack c.id Wire.memorySlotGroup =
      (.ok (c.notice .server), t) := hback
  simp [Logged.run, Logged.advance, Holding.advance, Holding.perform, Holding.Turn.handover?, hnext,
    hgiven, bind, Except.bind, pure, Except.pure]
  rfl

theorem serveUpTo_round {n : Nat} (hnext : s.nextCommand = (.ok (some c.dispatched), u))
    (hback : u.giveBack c.id Wire.memorySlotGroup = (.ok (c.notice .server), t)) :
    l.serveUpTo s (n + 1) = count l.worker.stats c.dispatched >>= fun stats =>
      serveUpTo ⟨{ l.worker with stats }⟩ t n := by
  have hid : c.dispatched.id = c.id := rfl
  rw [serveUpTo, hnext]
  simp only [hid, hback]

end Round

/-- A pass over the whole queue, as the log of the session shows it and as the counters do. -/
structure Pass (w : Logged) (n : Nat) (w' : Logged) : Prop where
  run : w.run (rounds w.session.queue) = .ok w'
  log : w'.log = w.log ++ exchanges w.session.queue
  passed : w.session.Passed w.session.queue w'.session
  counts : ∀ l : LoopbackServer, l.worker.stats.Fits w.session.queue →
    ∃ stats, l.worker.stats.Counted w.session.queue stats ∧
      l.serveUpTo w.session n = do return (.ok (), ← listen ⟨{ l.worker with stats }⟩ w'.session)
  traps : ∀ l : LoopbackServer, ¬l.worker.stats.Fits w.session.queue →
    l.serveUpTo w.session n = .error .addOverflow

variable {w w' : Logged} {n : Nat}

/-- The last part of a pass: the server finds no drawable any more. -/
theorem pass_of_announcements (hall : ∀ c ∈ w.session.queue, c.record? ≠ none)
    (hnext : w.session.nextCommand = (.ok none, t)) (hp : w.session.Passed w.session.queue t) :
    Pass w (n + 1) ⟨w.next t w.hand, w.log⟩ where
  run := by
    rw [rounds, drawn_eq_nil hall]
    exact run_nothing hnext
  log := by simp [exchanges, drawn_eq_nil hall]
  passed := hp
  counts l _ := by
    refine ⟨l.worker.stats, counted_announcements _ hall, ?_⟩
    rw [serveUpTo, hnext]
    rfl
  traps l hfull := absurd (counted_announcements _ hall).fits hfull

/-- A round comes before the rest of the pass. -/
theorem Pass.round {rest : List Command} {u : Session} (hqueue : w.session.queue = front ++ c :: rest)
    (hfront : ∀ d ∈ front, d.record? ≠ none) (hc : c.record? = none) (hm : c.bbox.Measured)
    (hnext : w.session.nextCommand = (.ok (some c.dispatched), u))
    (hback : u.giveBack c.id Wire.memorySlotGroup = (.ok (c.notice .server), t))
    (hp : w.session.Passed (front ++ [c]) t) (hrest : t.queue = rest)
    (h : Pass ⟨(w.next u w.hand).next t w.hand, w.log ++ [.taken c.dispatched, .returned c.id]⟩ n w') :
    Pass w (n + 1) w' := by
  subst hrest
  have hall : w.session.queue = front ++ [c] ++ t.queue := by rw [hqueue]; simp
  have hround : ∀ l : LoopbackServer, l.serveUpTo w.session (n + 1) =
      count l.worker.stats c.dispatched >>= fun stats => serveUpTo ⟨{ l.worker with stats }⟩ t n :=
    fun l => serveUpTo_round hnext hback
  -- What precedes the drawable in the queue is not counted.
  have hbefore : ∀ l : LoopbackServer, l.worker.stats.Counted front l.worker.stats :=
    fun l => counted_announcements _ hfront
  refine ⟨?_, ?_, ?_, fun l hfits => ?_, fun l hfull => ?_⟩
  · rw [hqueue, rounds_split hfront hc, run_round hnext hback]
    exact h.run
  · have hlog : w'.log = (w.log ++ [.taken c.dispatched, .returned c.id]) ++ exchanges t.queue := h.log
    rw [hqueue, exchanges_split hfront hc, hlog, List.append_assoc]
  · rw [hall]
    exact hp.trans h.passed
  · rw [hall, List.append_assoc, (hbefore l).fits_append] at hfits
    rcases count_cases l.worker.stats hc hm with ⟨stats, hcount, hone⟩ | ⟨hnone, -⟩
    · rw [hone.fits_append] at hfits
      obtain ⟨stats', hcounted, hserve⟩ := h.counts ⟨{ l.worker with stats }⟩ hfits
      refine ⟨stats', ?_, ?_⟩
      · rw [hall]
        exact ((hbefore l).trans hone).trans hcounted
      · rw [hround, hcount]
        exact hserve
    · exact absurd hfits.of_append hnone
  · rw [hround]
    rw [hall, List.append_assoc, (hbefore l).fits_append] at hfull
    rcases count_cases l.worker.stats hc hm with ⟨stats, hcount, hone⟩ | ⟨-, hcount⟩
    · rw [hone.fits_append] at hfull
      rw [hcount]
      exact h.traps ⟨{ l.worker with stats }⟩ hfull
    · rw [hcount]
      rfl

theorem exists_pass (h : w.session.Ready) (hn : w.session.queue.length < n) : ∃ w', Pass w n w' := by
  induction n generalizing w with
  | zero => omega
  | succ n ih =>
      rcases drawn_cases w.session.queue with hall | ⟨front, c, rest, hqueue, hfront, hc⟩
      · obtain ⟨t, hnext, hp⟩ := h.nextCommand_of_announcements hall
        exact ⟨_, pass_of_announcements hall hnext hp⟩
      · obtain ⟨u, t, hnext, hback, hp⟩ := h.nextCommand_of_drawable hqueue hfront hc
        have hrest : t.queue = rest := by
          have hsplit := hp.queue
          rw [hqueue, List.append_assoc] at hsplit
          exact (List.cons.inj (List.append_cancel_left hsplit)).2.symm
        have hboxed : c.Boxed := h.boxed c (hqueue ▸ List.mem_append_right front List.mem_cons_self)
        obtain ⟨x, y, width, height, hbox⟩ := hboxed hc
        have hlength : t.queue.length < n := by
          have hall := congrArg List.length hqueue
          rw [List.length_append, List.length_cons] at hall
          rw [hrest]
          omega
        obtain ⟨w', hpass⟩ := ih
          (w := ⟨(w.next u w.hand).next t w.hand, w.log ++ [.taken c.dispatched, .returned c.id]⟩)
          (h.passed hp) hlength
        exact ⟨w', hpass.round hqueue hfront hc (Rect.measured_of_ofOrigin? hbox) hnext hback hp hrest⟩

/-! ## The counters after a pass -/

/-- What the server counted and what its worker heard of, together. -/
theorem served_of_told {before : LoopbackStats} {worker : LoopbackWorker}
    (hknown : known = known.drew before) (hcounted : before.Counted cs stats)
    (htold : (known.drew stats).Told (cs.filterMap (·.announced?)) worker) : known.Served cs worker := by
  have hothers := htold.others
  refine ⟨?_, ?_, ?_, ?_, ?_, htold.surfaces, ?_, ?_, ?_, ?_, ?_⟩
  · rw [hothers, hknown]
    exact hcounted.commands
  · rw [hothers, hknown]
    exact hcounted.fills
  · rw [hothers, hknown]
    exact hcounted.blits
  · rw [hothers, hknown]
    exact hcounted.pixels
  · rw [htold.created, length_announced]
    rfl
  all_goals
    rw [hothers]
    rfl

theorem heard_after (hp : w.session.Passed w.session.queue w'.session)
    (hcounted : l.worker.stats.Counted w.session.queue stats) (hheard : l.heard w.session = .ok known) :
    heard ⟨{ l.worker with stats }⟩ w'.session =
      (known.drew stats).tell (w.session.queue.filterMap (·.announced?)) := by
  rw [heard_passed hp, heard_counted hcounted, hheard]
  rfl

theorem Pass.served (h : Pass w n w') (hheard : l.heard w.session = .ok known)
    (hroom : known.Room w.session.queue) : ∃ worker,
      l.serveUpTo w.session n = .ok (.ok (), ⟨worker⟩, { w'.session with calls := #[] }) ∧
      known.Served w.session.queue worker := by
  have hknown := drew_of_heard hheard
  have hfits : l.worker.stats.Fits w.session.queue := by
    have hdrawables := hroom.drawables
    rw [hknown] at hdrawables
    exact (fits_drew _ _ _).mp hdrawables
  obtain ⟨stats, hcounted, hserve⟩ := h.counts l hfits
  have hafter := heard_after h.passed hcounted hheard
  rcases (known.drew stats).tell_cases (w.session.queue.filterMap (·.announced?)) with
    ⟨-, worker, htell, htold⟩ | ⟨hfull, -⟩
  · refine ⟨worker, ?_, served_of_told hknown hcounted htold⟩
    rw [hserve, listen_eq, hafter, htell]
    rfl
  · have hcreated : (known.drew stats).stats.surfaces = known.stats.surfaces := rfl
    have hroom' := hroom.created
    rw [hcreated, length_announced] at hfull
    omega

theorem Pass.full (h : Pass w n w')
    (hfull : ∀ known, l.heard w.session = .ok known → ¬known.Room w.session.queue) :
    l.serveUpTo w.session n = .error .addOverflow := by
  by_cases hfits : l.worker.stats.Fits w.session.queue
  · obtain ⟨stats, hcounted, hserve⟩ := h.counts l hfits
    rw [hserve, listen_eq]
    cases hheard : l.heard w.session with
    | error trap =>
        rw [heard_passed h.passed, heard_counted hcounted, hheard]
        rw [heard_eq] at hheard
        rw [foldlM_receive_error hheard]
        rfl
    | ok known =>
        rw [heard_after h.passed hcounted hheard]
        rcases (known.drew stats).tell_cases (w.session.queue.filterMap (·.announced?)) with
          ⟨hlt, -⟩ | ⟨-, htell⟩
        · refine absurd ⟨?_, ?_⟩ (hfull known hheard)
          · rw [drew_of_heard hheard]
            exact (fits_drew _ _ _).mpr hfits
          · rwa [length_announced] at hlt
        · rw [htell]
          rfl
  · exact h.traps l hfits

theorem Served.balanced {worker : LoopbackWorker} (h : known.Served cs worker)
    (hknown : known.stats.commands.toNat = known.stats.fills.toNat + known.stats.blits.toNat) :
    worker.stats.commands.toNat = worker.stats.fills.toNat + worker.stats.blits.toNat := by
  have hdrawn := length_drawn cs
  rw [h.commands, h.fills, h.blits]
  omega

end LoopbackServer

/-! ## Runs -/

open LoopbackServer

/-- No release id on the ring is one that the server holds already. -/
theorem Logged.Exact.ready {w : Logged} (h : w.Exact) (hboxed : w.Boxed) {registry : Nat}
    (hone : ∀ c ∈ w.session.commands, c.ticket.ledger = registry)
    (hfew : w.session.server.held = [] ∨ w.built.length < 2 ^ 64)
    (hopen : w.session.server.closed = false) (hworker : w.session.server.worker.isSome) :
    w.session.Ready := by
  refine ⟨h.standing.sound.ring, hopen, hworker, fun c hc d hd hid => ?_, fun c hc =>
    hboxed.session c (Session.mem_commands.mpr (.inl hc))⟩
  rcases hfew with hnil | hfew
  · rw [hnil] at hd
    cases hd
  · have hticket : d.ticket = c.ticket := by
      have hledger := hone c (Session.mem_commands.mpr (.inl hc))
      rw [← hone d (Session.mem_commands.mpr (.inr hd))] at hledger
      calc d.ticket = ⟨d.ticket.ledger, d.id⟩ := rfl
        _ = ⟨c.ticket.ledger, c.id⟩ := by rw [hledger, hid]
        _ = c.ticket := rfl
    have hconserved := h.conserved hfew
    have hall := hconserved.places.nodup_iff.mpr hconserved.distinct
    rw [Session.tickets, List.append_assoc] at hall
    have hdisjoint := (List.nodup_append.mp (List.nodup_append.mp hall).2.1).2.2
    exact hdisjoint _ (List.mem_map_of_mem hc) _
      (List.mem_append_left _ (List.mem_map_of_mem hd)) hticket.symm

/-- However a session was used: when it is open, has a worker and has commands of one ledger only, a pass
of the loopback server empties the ring. It takes the drawables in order, gives each back before it takes
the next, and tells the worker of every surface; each command leaves with one notice, and the server
holds what it held before. The counters grow by the commands of each kind and by the pixels of the
copies, unless one of them has no room left. Every area that has to be measured can be. -/
theorem Session.Fresh.served_once {s : Session} (h : s.Fresh) {turns : List Holding.Turn} {w : Logged}
    (hrun : Logged.run { session := s } turns = .ok w) {registry : Nat}
    (hone : ∀ c ∈ w.session.commands, c.ticket.ledger = registry)
    (hfew : w.session.server.held = [] ∨ w.built.length < 2 ^ 64)
    (hopen : w.session.server.closed = false) (hworker : w.session.server.worker.isSome)
    (l : LoopbackServer) :
    (∀ c ∈ w.session.queue, c.record? = none → c.bbox.Measured) ∧
    ∃ w', w.run (rounds w.session.queue) = .ok w' ∧
      w'.log = w.log ++ exchanges w.session.queue ∧ w.session.Passed w.session.queue w'.session ∧
      w'.session.queue = [] ∧ w'.session.server.held = w.session.server.held ∧
      (∀ known, l.heard w.session = .ok known → known.Room w.session.queue →
        ∃ worker, l.serve w.session = .ok (.ok (), ⟨worker⟩, { w'.session with calls := #[] }) ∧
          known.Served w.session.queue worker ∧
          (known.stats.commands.toNat = known.stats.fills.toNat + known.stats.blits.toNat →
            worker.stats.commands.toNat = worker.stats.fills.toNat + worker.stats.blits.toNat)) ∧
      ((∀ known, l.heard w.session = .ok known → ¬known.Room w.session.queue) →
        l.serve w.session = .error .addOverflow) := by
  have hexact := h.exact.run hrun
  have hready := hexact.ready (Logged.boxed_run h.boxed h.exact hrun) hone hfew hopen hworker
  have hlength : w.session.queue.length < w.session.ring.length + 1 := by
    rw [← hready.ring.length_toList]
    exact Nat.lt_succ_self _
  obtain ⟨w', hpass⟩ := exists_pass hready hlength
  refine ⟨fun c hc hrecord => ?_, w', hpass.run, hpass.log, hpass.passed, ?_, hpass.passed.held, ?_,
    fun hfull => hpass.full hfull⟩
  · obtain ⟨x, y, width, height, hbox⟩ := hready.boxed c hc hrecord
    exact Rect.measured_of_ofOrigin? hbox
  · simpa using hpass.passed.queue
  · intro known hheard hroom
    obtain ⟨worker, hserve, hserved⟩ := hpass.served hheard hroom
    exact ⟨worker, hserve, hserved, fun hknown => Served.balanced hserved hknown⟩

/-- The server holds one fill from before; on the ring are a copy that lies left of its surface, a second
surface and its fill. -/
theorem served_once_left_of_surface :
    ∃ s : Session, s.Fresh ∧ ∃ w : Logged, Logged.run { session := s }
        [.operation (.attachWorker 5), .operation (.createSurface 4 4 ⟨4, 4, 64⟩),
          .operation (.fillRect 0 ⟨0⟩ 7 0 0 4 4), .operation .getCommand,
          .operation (.render { blocks := #[⟨⟨#[1, 2, 3, 4, 5, 6, 7, 8]⟩, 1⟩] }),
          .operation (.buildBlit 0 ⟨0⟩ (-3) 4 2 1 ⟨⟨0⟩, 0, 2, 1, 8⟩ 8 .empty), .operation (.submit 0),
          .operation (.createSurface 3 3 ⟨3, 3, 36⟩), .operation (.fillRect 0 ⟨1⟩ 9 0 0 3 3)] = .ok w ∧
      (∀ c ∈ w.session.commands, c.ticket.ledger = 0) ∧ w.built.length < 2 ^ 64 ∧
      w.session.server.closed = false ∧ w.session.server.worker.isSome ∧
      ∃ worker t, LoopbackServer.serve {} w.session = .ok (.ok (), ⟨worker⟩, t) ∧
        worker.stats.commands.toNat = 2 ∧ worker.stats.fills.toNat = 1 ∧ worker.stats.blits.toNat = 1 ∧
        worker.stats.pixels.toNat = 2 ∧ worker.stats.surfaces.toNat = 2 ∧
        t.queue = [] ∧ t.server.held.map (·.id.raw) = [2] := by
  have hfresh : (Session.ofRing (.ofCapacity 4 0) 0 2 [0]).Fresh :=
    Session.fresh_ofRing (Ring.wellFormed_ofCapacity 4 0) (Ring.toList_ofCapacity 4 0) 0 2 (by simp)
  let turns : List Holding.Turn :=
    [.operation (.attachWorker 5), .operation (.createSurface 4 4 ⟨4, 4, 64⟩),
      .operation (.fillRect 0 ⟨0⟩ 7 0 0 4 4), .operation .getCommand,
      .operation (.render { blocks := #[⟨⟨#[1, 2, 3, 4, 5, 6, 7, 8]⟩, 1⟩] }),
      .operation (.buildBlit 0 ⟨0⟩ (-3) 4 2 1 ⟨⟨0⟩, 0, 2, 1, 8⟩ 8 .empty), .operation (.submit 0),
      .operation (.createSurface 3 3 ⟨3, 3, 36⟩), .operation (.fillRect 0 ⟨1⟩ 9 0 0 3 3)]
  have hmade : (Logged.run { session := .ofRing (.ofCapacity 4 0) 0 2 [0] } turns).toOption.map
        (fun w => (w.session.queue.map (·.kind), (w.session.queue.map (·.blitted)).sum,
          w.session.server.held.map (·.id.raw), w.built.length)) =
      some ([.drawCopy, .createSurface, .drawFill], 2, [2], 5) := by
    decide +kernel
  have hserver : (Logged.run { session := .ofRing (.ofCapacity 4 0) 0 2 [0] } turns).toOption.map
        (fun w => (w.session.commands.all (·.ticket.ledger = 0), w.session.server.closed,
          w.session.server.worker.isSome, (heard {} w.session).toOption.map (·.stats))) =
      some (true, false, true, some { surfaces := 1, slots := 1 }) := by
    decide +kernel
  cases hrun : Logged.run { session := .ofRing (.ofCapacity 4 0) 0 2 [0] } turns with
  | error fault =>
      rw [hrun] at hmade
      cases hmade
  | ok w =>
      rw [hrun] at hmade hserver
      simp only [Except.toOption, Option.map_some, Option.some.injEq, Prod.mk.injEq] at hmade hserver
      obtain ⟨hkinds, hsum, hheld, hbuilt⟩ := hmade
      obtain ⟨hledgers, hopen, hworker, hstats⟩ := hserver
      have hone : ∀ c ∈ w.session.commands, c.ticket.ledger = 0 := fun c hc => by
        simpa using List.all_eq_true.mp hledgers c hc
      have hfew : w.built.length < 2 ^ 64 := by omega
      obtain ⟨-, w', -, -, -, hempty, hheld', hserve⟩ :=
        hfresh.served_once hrun hone (.inr hfew) hopen hworker {}
      have hcount : ∀ kind, w.session.queue.countP (·.kind = kind) =
          [CommandKind.drawCopy, .createSurface, .drawFill].countP (· = kind) := by
        intro kind
        rw [← hkinds, List.countP_map]
        rfl
      cases hheard : heard {} w.session with
      | error trap =>
          rw [hheard] at hstats
          cases hstats
      | ok known =>
          rw [hheard] at hstats
          have hknown : known.stats = { surfaces := 1, slots := 1 } := Option.some.inj hstats
          have hroom : known.Room w.session.queue := by
            have hdrawn : (drawn w.session.queue).length = 2 := by
              rw [length_drawn, hcount, hcount]
              rfl
            refine ⟨⟨?_, ?_, ?_, ?_⟩, ?_⟩ <;> rw [hknown]
            · rw [hdrawn]
              decide
            · rw [hcount]
              decide
            · rw [hcount]
              decide
            · rw [hsum]
              decide
            · rw [hcount]
              decide
          obtain ⟨worker, hdone, hcounts, hbalanced⟩ := hserve.1 known hheard hroom
          have hfills := hcounts.fills
          have hblits := hcounts.blits
          have hcreated := hcounts.created
          have hpixels := hcounts.pixels
          rw [hknown, hcount] at hfills hblits hcreated
          rw [hknown, hsum] at hpixels
          refine ⟨_, hfresh, w, hrun, hone, hfew, hopen, hworker, worker, _, hdone, ?_, hfills, hblits,
            hpixels, hcreated, hempty, ?_⟩
          · rw [hbalanced (by rw [hknown]; rfl), hfills, hblits]
            rfl
          · exact (congrArg _ hheld').trans hheld

end RemoteDisplay
