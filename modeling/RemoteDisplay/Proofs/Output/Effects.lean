import Mathlib.Data.List.Nodup
import RemoteDisplay.Output.Backend
import RemoteDisplay.Proofs.Session.Effects
import RemoteDisplay.Proofs.Table

/-!
# What the operations of a backend do

For each operation, the states in which it can end. The long ones, creating and repainting an
output, are relations with a named case for every way out.
-/

namespace RemoteDisplay

/-! ## Timers -/

namespace TimerHost

variable {h : TimerHost}

@[simp] theorem isArmed_disarm (t u : TimerId) :
    (h.disarm t).isArmed u = (h.isArmed u && decide (u ≠ t)) := by
  rw [Bool.eq_iff_iff]
  simp only [isArmed, disarm, List.any_filter, List.any_eq_true, Bool.and_eq_true, decide_eq_true_eq]
  constructor
  · rintro ⟨x, hx, hne, rfl⟩
    exact ⟨⟨x, hx, rfl⟩, hne⟩
  · rintro ⟨⟨x, hx, rfl⟩, hne⟩
    exact ⟨x, hx, hne, rfl⟩

/-- A timer that was removed is unknown and does not run; the others are untouched. -/
theorem isArmed_remove (t u : TimerId) :
    ((h.cancel t).remove t).isArmed u = (h.isArmed u && decide (u ≠ t)) := by
  have hremove : ((h.cancel t).remove t).isArmed u = ((h.disarm t).disarm t).isArmed u := rfl
  rw [hremove, isArmed_disarm, isArmed_disarm, Bool.and_assoc, Bool.and_self]

theorem owner?_remove {t u : TimerId} (hne : u ≠ t) :
    ((h.cancel t).remove t).owner? u = h.owner? u :=
  lookup_filter hne

theorem start_cases (h : TimerHost) (t : TimerId) (ms : UInt32) :
    (∃ f, h.refuseStart = some f ∧ h.start t ms = (.error f, { h with refuseStart := none })) ∨
    ∃ h', h.refuseStart = none ∧ h.start t ms = (.ok (), h') ∧ h'.next = h.next ∧
      h'.registered = h.registered ∧ h'.refuseStart = none ∧ h'.refuseAdd = h.refuseAdd ∧
      ∀ u, h'.isArmed u = (decide (u = t) || h.isArmed u) := by
  cases hf : h.refuseStart with
  | some f => exact .inl ⟨f, rfl, by simp [start, hf]⟩
  | none =>
      have hs : h.start t ms = (.ok (), { h.disarm t with
          armed := (h.disarm t).armed ++ [(t, ms)], calls := h.calls.push (.start t ms) }) := by
        simp only [start, hf]
        rfl
      refine .inr ⟨_, rfl, hs, rfl, rfl, hf, rfl, fun u => ?_⟩
      have hd := isArmed_disarm (h := h) t u
      simp only [isArmed, List.any_append, List.any_cons, List.any_nil, Bool.or_false] at hd ⊢
      rw [hd]
      by_cases hu : u = t
      · simp [hu]
      · simp [hu, Ne.symm hu]

end TimerHost

/-! ## The halves of a repaint -/

namespace Output

variable {ρ : Type} [Renderer ρ] {o : Output} {st : Stage ρ}

section Blit

variable {st' : Stage ρ} {damage : Damage} {extents : Region} {r : Except Fault ImageId}

/-- A frame that does not fit is given up. Otherwise the session paints a view of it. -/
theorem sendFrame_cases {s s' : Session} {f : Frame} (h : o.sendFrame s f damage extents = .ok (r, s')) :
    (∃ e, e.isFatal = false ∧ r = .error e ∧ s' = s.drop f) ∨
    ∃ v t, f.width = o.geometry.width ∧ f.height = o.geometry.height ∧ f.view extents = .ok v ∧
      Session.paintImage { s with store := s.store.share v } 0 o.surface extents.x extents.y
        extents.width extents.height v v.stride damage = .ok (r, t) ∧ s' = t.drop f := by
  simp only [sendFrame] at h
  split at h
  · cases h
    exact .inl ⟨_, rfl, rfl, rfl⟩
  · rename_i hsize
    simp only [not_or, ne_eq, not_not] at hsize
    cases hview : f.view extents with
    | error e =>
        rw [hview] at h
        cases h
        have houtside : e = .outsideFrame extents f.width f.height := by
          unfold Frame.view at hview
          split at hview <;> cases hview
          rfl
        exact .inl ⟨e, houtside ▸ rfl, rfl, rfl⟩
    | ok v =>
        rw [hview] at h
        obtain ⟨⟨answer, t⟩, hpaint, hnext⟩ := Trap.bind_eq_ok.mp h
        cases hnext
        exact .inr ⟨v, t, hsize.1, hsize.2, rfl, hpaint, rfl⟩

/-- The renderer fails, or its frame is sent. -/
theorem blit_cases (h : o.blit st damage extents = .ok (r, st')) :
    ∃ frame renderer store, Renderer.repaint st.renderer st.session.store o.id damage =
        .ok (frame, renderer, store) ∧
      ((∃ e, frame = .error e ∧ r = .error e ∧
          st' = { st with renderer, session := { st.session with store } }) ∨
        ∃ f session, frame = .ok f ∧
          o.sendFrame { st.session with store } f damage extents = .ok (r, session) ∧
          st' = { st with renderer, session }) := by
  obtain ⟨⟨frame, renderer, store⟩, hrender, h⟩ := Trap.bind_eq_ok.mp h
  refine ⟨frame, renderer, store, hrender, ?_⟩
  cases frame with
  | error e =>
      cases h
      exact .inl ⟨e, rfl, rfl, rfl⟩
  | ok f =>
      obtain ⟨⟨answer, session⟩, hsend, hnext⟩ := Trap.bind_eq_ok.mp h
      cases hnext
      exact .inr ⟨f, session, rfl, hsend, rfl⟩

/-- What holds of a session whose memory changed, and of one that painted, holds after a blit. -/
theorem blit_induction {P : Except Fault ImageId → Session → Prop}
    (h : o.blit st damage extents = .ok (r, st'))
    (hfailed : ∀ e store, P (.error e) { st.session with store })
    (hpainted : ∀ v store store' answer t, Session.paintImage { st.session with store } 0 o.surface
      extents.x extents.y extents.width extents.height v v.stride damage = .ok (answer, t) →
      P answer { t with store := store' }) :
    P r st'.session := by
  obtain ⟨frame, renderer, store, -, ⟨e, -, rfl, rfl⟩ | ⟨f, session, -, hsend, rfl⟩⟩ := blit_cases h
  · exact hfailed e store
  · rcases sendFrame_cases hsend with ⟨e, -, rfl, rfl⟩ | ⟨v, t, -, -, -, hpaint, rfl⟩
    · exact hfailed e _
    · exact hpainted v _ _ _ t hpaint

theorem blit_timers (h : o.blit st damage extents = .ok (r, st')) : st'.timers = st.timers := by
  obtain ⟨frame, renderer, store, -, ⟨e, -, -, rfl⟩ | ⟨f, session, -, -, rfl⟩⟩ := blit_cases h <;> rfl

end Blit

/-- How the sending half of a repaint can end. -/
inductive Sending (o : Output) (st : Stage ρ) (damage : Damage) :
    Except Fault RepaintOutcome → Output → Stage ρ → Prop where
  | skipped {skipped : UInt64} (hnone : damage.extents = none)
      (hcount : skipped.toNat = o.stats.skipped.toNat + 1) :
      Sending o st damage (.ok .skipped) { o with stats := { o.stats with skipped } } st
  | sent {extents : Region} {image : ImageId} {st' : Stage ρ} {sent : UInt64}
      (hsome : damage.extents = some extents)
      (hblit : o.blit st damage extents = .ok (.ok image, st'))
      (hcount : sent.toNat = o.stats.sent.toNat + 1) :
      Sending o st damage (.ok (.sent image)) { o with dropStreak := 0, stats := { o.stats with sent } } st'
  | broken {extents : Region} {e : Fault} {st' : Stage ρ} (hsome : damage.extents = some extents)
      (hblit : o.blit st damage extents = .ok (.error e, st')) (hfatal : e.isFatal = true) :
      Sending o st damage (.error e) o st'
  | dropped {extents : Region} {e : Fault} {st' : Stage ρ} {dropped : UInt64} {dropStreak : UInt32}
      (hsome : damage.extents = some extents)
      (hblit : o.blit st damage extents = .ok (.error e, st')) (hmild : e.isFatal = false)
      (hcount : dropped.toNat = o.stats.dropped.toNat + 1)
      (hstreak : dropStreak.toNat = o.dropStreak.toNat + 1) :
      Sending o st damage (.ok (.dropped e)) { o with dropStreak, stats := { o.stats with dropped } } st'

theorem sending_of_send {damage : Damage} {r : Except Fault RepaintOutcome} {o' : Output}
    {st' : Stage ρ} (h : o.send st damage = .ok (r, o', st')) : Sending o st damage r o' st' := by
  simp only [send] at h
  split at h
  · rename_i hnone
    obtain ⟨skipped, hskipped, hnext⟩ := Trap.bind_eq_ok.mp h
    cases hnext
    exact .skipped hnone (Checked.toNat_of_u64 hskipped)
  · rename_i extents hsome
    obtain ⟨⟨answer, st₁⟩, hblit, h⟩ := Trap.bind_eq_ok.mp h
    cases answer with
    | ok image =>
        obtain ⟨sent, hsent, hnext⟩ := Trap.bind_eq_ok.mp h
        cases hnext
        exact .sent hsome hblit (Checked.toNat_of_u64 hsent)
    | error e =>
        cases hf : e.isFatal with
        | true =>
            simp only [hf, if_true] at h
            cases h
            exact .broken hsome hblit hf
        | false =>
            simp only [hf] at h
            obtain ⟨o₁, hnoted, hnext⟩ := Trap.bind_eq_ok.mp h
            obtain ⟨dropped, hdropped, hnoted⟩ := Trap.bind_eq_ok.mp hnoted
            obtain ⟨dropStreak, hstreak, hnoted⟩ := Trap.bind_eq_ok.mp hnoted
            cases hnoted
            cases hnext
            exact .dropped hsome hblit hf (Checked.toNat_of_u64 hdropped) (Checked.toNat_of_u32 hstreak)

theorem destroy_session (o : Output) (s : Session) (timers : TimerHost) :
    (o.destroy s timers).2.1 = s.withdrawSurface o.surface := by
  simp only [destroy, Session.withdrawSurface]
  split
  · rename_i hs
    rw [hs]
  · rename_i hs
    rw [hs]

/-- A wakeup that was due is counted. Otherwise nothing happens. -/
theorem wakeup_cases {due : Bool} {o' : Output} (h : o.wakeup = .ok (due, o')) :
    (due = false ∧ o' = o ∧ o.state ≠ .awaitingWakeup) ∨
    (due = true ∧ ∃ wakeups : UInt64, o.state = .awaitingWakeup ∧
      wakeups.toNat = o.stats.wakeups.toNat + 1 ∧
      o' = { o with state := .repaintScheduled, stats := { o.stats with wakeups } }) := by
  unfold wakeup at h
  cases hstate : o.state with
  | awaitingWakeup =>
      rw [hstate] at h
      obtain ⟨wakeups, hwakeups, hnext⟩ := Trap.bind_eq_ok.mp h
      cases hnext
      exact .inr ⟨rfl, wakeups, rfl, Checked.toNat_of_u64 hwakeups, rfl⟩
  | _ =>
      rw [hstate] at h
      cases h
      exact .inl ⟨rfl, rfl, by simp⟩

/-- The same output at another moment. -/
structure Kin (o o' : Output) : Prop where
  id : o'.id = o.id
  geometry : o'.geometry = o.geometry
  surface : o'.surface = o.surface
  timer : o'.timer = o.timer
  interval : o'.interval = o.interval

theorem Kin.refl (o : Output) : Kin o o := ⟨rfl, rfl, rfl, rfl, rfl⟩

section

variable {damage : Damage} {r : Except Fault RepaintOutcome} {o' : Output} {st' : Stage ρ}

theorem Sending.kin (h : Sending o st damage r o' st') : Kin o o' := by
  cases h <;> exact ⟨rfl, rfl, rfl, rfl, rfl⟩

theorem Sending.state (h : Sending o st damage r o' st') : o'.state = o.state := by
  cases h <;> rfl

theorem Sending.outcome {outcome : RepaintOutcome} (h : Sending o st damage (.ok outcome) o' st') :
    outcome ≠ .notScheduled := by
  rintro rfl
  cases h

theorem Sending.timers (h : Sending o st damage r o' st') : st'.timers = st.timers := by
  cases h with
  | skipped => rfl
  | sent _ hblit | broken _ hblit | dropped _ hblit => exact blit_timers hblit

end

end Output

namespace Output

variable {ρ : Type} {o o' : Output} {st st' : Stage ρ} {answer : Except Fault RepaintOutcome}

/-- The timer was started, or it was not: a fatal fault is the answer, and another one is counted. -/
theorem awaitWakeup_cases {outcome : RepaintOutcome}
    (h : o.awaitWakeup st outcome = .ok (answer, o', st')) :
    (∃ timers, st.timers.start o.timer o.interval = (.ok (), timers) ∧ answer = .ok outcome ∧
      o' = { o with state := .awaitingWakeup } ∧ st' = { st with timers }) ∨
    (∃ f timers, st.timers.start o.timer o.interval = (.error f, timers) ∧ f.isFatal = true ∧
      answer = .error f ∧ o' = { o with state := .idle } ∧ st' = { st with timers }) ∨
    (∃ f timers, ∃ wakeupsMissed : UInt64, st.timers.start o.timer o.interval = (.error f, timers) ∧
      f.isFatal = false ∧ wakeupsMissed.toNat = o.stats.wakeupsMissed.toNat + 1 ∧ answer = .ok outcome ∧
      o' = { o with state := .idle, stats := { o.stats with wakeupsMissed } } ∧ st' = { st with timers }) := by
  unfold awaitWakeup at h
  cases hstart : st.timers.start o.timer o.interval with
  | mk started timers =>
      rw [hstart] at h
      cases started with
      | ok u =>
          cases h
          exact .inl ⟨timers, rfl, rfl, rfl, rfl⟩
      | error f =>
          cases hfatal : f.isFatal with
          | true =>
              simp only [hfatal, if_true] at h
              cases h
              exact .inr (.inl ⟨f, timers, rfl, hfatal, rfl, rfl, rfl⟩)
          | false =>
              simp only [hfatal] at h
              obtain ⟨wakeupsMissed, hmissed, hnext⟩ := Trap.bind_eq_ok.mp h
              cases hnext
              exact .inr (.inr ⟨f, timers, wakeupsMissed, rfl, hfatal, Checked.toNat_of_u64 hmissed, rfl, rfl,
                rfl⟩)

variable [Renderer ρ] {damage : Damage}

theorem repaint_of_not_scheduled (st : Stage ρ) (damage : Damage) (h : o.state ≠ .repaintScheduled) :
    o.repaint st damage = .ok (.ok .notScheduled, o, st) := by
  rw [repaint, if_pos h]
  rfl

/-- A repaint sends, and if the fault was not fatal it starts the wakeup timer. -/
theorem repaint_cases (hstate : o.state = .repaintScheduled)
    (h : o.repaint st damage = .ok (answer, o', st')) :
    (∃ e, answer = .error e ∧ Sending { o with state := .repainting } st
      (damage.clipped o.geometry.bounds) (.error e) o' st') ∨
    ∃ outcome o₁ st₁, Sending { o with state := .repainting } st
      (damage.clipped o.geometry.bounds) (.ok outcome) o₁ st₁ ∧
      o₁.awaitWakeup st₁ outcome = .ok (answer, o', st') := by
  rw [repaint, if_neg (not_not_intro hstate)] at h
  obtain ⟨⟨sent, o₁, st₁⟩, hs, hnext⟩ := Trap.bind_eq_ok.mp h
  cases sent with
  | error e =>
      cases hnext
      exact .inl ⟨e, rfl, sending_of_send hs⟩
  | ok outcome => exact .inr ⟨outcome, o₁, st₁, sending_of_send hs, hnext⟩

end Output

/-! ## The operations -/

namespace Backend

variable {ρ : Type} {b b' : Backend ρ}

theorem mem_of_output? {id : OutputId} {o : Output} (h : b.output? id = some o) :
    o ∈ b.outputs ∧ o.id = id :=
  mem_of_find?_key Output.id h

theorem output?_of_mem (hids : (b.outputs.map (·.id)).Nodup) {o : Output} (ho : o ∈ b.outputs) :
    b.output? o.id = some o :=
  find?_key_of_mem Output.id hids ho

/-- What an output has in common with the one in its place stays the same for all outputs. -/
theorem map_setOutput {β : Type} {f : Output → β} {o o' : Output}
    (hids : (b.outputs.map (·.id)).Nodup) (ho : o ∈ b.outputs) (hid : o'.id = o.id) (hf : f o' = f o) :
    (b.setOutput o').outputs.map f = b.outputs.map f := by
  simp only [setOutput, List.map_map]
  refine List.map_congr_left fun x hx => ?_
  simp only [Function.comp_apply]
  split
  · rename_i he
    rw [hf, List.inj_on_of_nodup_map hids hx ho (he.trans hid)]
  · rfl

/-- The session after the background of a new output is painted, as far as there is room. -/
def backgrounded (s : Session) (surface : SurfaceId) (background : UInt32) (g : Geometry) : Session :=
  (s.fillRect 0 surface background 0 0 g.width g.height).2

/-- The new output, waiting for its first repaint. -/
def newOutput (b : Backend ρ) (g : Geometry) (surface : SurfaceId) : Output where
  id := ⟨b.nextOutput⟩
  geometry := g
  surface
  timer := ⟨b.timers.next⟩
  interval := b.settings.display.wakeupInterval
  state := .repaintScheduled

def opened (b : Backend ρ) (g : Geometry) (surface : SurfaceId) (s : Session) : Backend ρ :=
  { b with
    session := s.callAttached .start
    timers := (b.timers.add ⟨b.nextOutput⟩).2
    queue := b.queue.schedule ⟨b.nextOutput⟩
    nextOutput := b.nextOutput + 1
    outputs := b.outputs ++ [b.newOutput g surface] }

/-- How the creation of an output can end. -/
inductive Creation (b : Backend ρ) (g : Geometry) : Except Fault OutputId → Backend ρ → Prop where
  | refused {e : Fault} : Creation b g (.error e) b
  | unannounced {backing : Backing} {e : Fault} {s : Session}
      (hsurface : b.session.createSurface g.width g.height backing = .ok (.error e, s)) :
      Creation b g (.error e) { b with session := s }
  | colourless {backing : Backing} {surface : SurfaceId} {e : Fault} {s : Session}
      (hsurface : b.session.createSurface g.width g.height backing = .ok (.ok surface, s))
      (hcolour : b.settings.display.backgroundColour = .error e) :
      Creation b g (.error e) { b with session := s }
  | rolledBack {backing : Backing} {surface : SurfaceId} {s : Session} {background : UInt32} {f : Fault}
      (hsurface : b.session.createSurface g.width g.height backing = .ok (.ok surface, s))
      (hcolour : b.settings.display.backgroundColour = .ok background)
      (hadd : b.timers.refuseAdd = some f) :
      Creation b g (.error (rollBack (backgrounded s surface background g) surface f).1) { b with
        session := (rollBack (backgrounded s surface background g) surface f).2
        timers := { b.timers with refuseAdd := none } }
  | created {backing : Backing} {surface : SurfaceId} {s : Session} {background : UInt32}
      (hwidth : g.width ≠ 0 ∧ g.width ≤ maxOutputWidth)
      (hheight : g.height ≠ 0 ∧ g.height ≤ maxOutputHeight)
      (hsurface : b.session.createSurface g.width g.height backing = .ok (.ok surface, s))
      (hcolour : b.settings.display.backgroundColour = .ok background)
      (hadd : b.timers.refuseAdd = none) (hnext : b.nextOutput.toNat + 1 < 4294967296)
      (hbacking : Backing.allocate b.session.store.refuses g.width g.height = .ok (.ok backing)) :
      Creation b g (.ok ⟨b.nextOutput⟩)
        (b.opened g surface (backgrounded s surface background g))

theorem creation_of_createOutput {g : Geometry} {answer : Except Fault OutputId}
    (h : b.createOutput g = .ok (answer, b')) : Creation b g answer b' := by
  simp only [createOutput] at h
  split at h
  · cases h
    exact .refused
  · rename_i hsize
    simp only [not_or, UInt32.not_lt] at hsize
    obtain ⟨hw, hh, hwmax, hhmax⟩ := hsize
    simp only [bind, Except.bind] at h
    split at h
    · cases h
    · rename_i hallocate
      split at h
      · cases h
        exact .refused
      · split at h
        · cases h
        · split at h
          · rename_i hsurface
            cases h
            exact .unannounced hsurface
          · rename_i surface s hsurface
            split at h
            · rename_i e hcolour
              cases h
              exact .colourless hsurface hcolour
            · rename_i background hcolour
              cases hadd : b.timers.refuseAdd with
              | some f =>
                  simp only [TimerHost.add, hadd] at h
                  cases h
                  exact .rolledBack hsurface hcolour hadd
              | none =>
                  simp only [TimerHost.add, hadd, Checked.next32, Checked.u32] at h
                  split at h
                  · cases h
                  · rename_i next hnext
                    split at hnext
                    · rename_i hlt
                      cases hnext
                      cases h
                      have hone : UInt32.ofNat (b.nextOutput.toNat + 1) = b.nextOutput + 1 := by
                        simp [UInt32.ofNat_add]
                      have hcreated := Creation.created ⟨hw, hwmax⟩ ⟨hh, hhmax⟩ hsurface hcolour hadd
                        hlt hallocate
                      simp only [opened, TimerHost.add, hadd, ← hone] at hcreated
                      exact hcreated
                    · cases hnext

theorem destroyOutput_cases (b : Backend ρ) (id : OutputId) :
    (b.output? id = none ∧ b.destroyOutput id = (.error (.destroyOfUnknownOutput id), b)) ∨
    ∃ o, b.output? id = some o ∧ b.destroyOutput id = ((o.destroy b.session b.timers).1, { b with
      session := b.session.withdrawSurface o.surface
      timers := (b.timers.cancel o.timer).remove o.timer
      outputs := b.outputs.filter (·.id ≠ id) }) := by
  cases ho : b.output? id with
  | none => exact .inl ⟨rfl, by simp [destroyOutput, ho]⟩
  | some o =>
      have hsession := o.destroy_session b.session b.timers
      have htimers : (o.destroy b.session b.timers).2.2 = (b.timers.cancel o.timer).remove o.timer := by
        simp only [Output.destroy]
        split <;> rfl
      exact .inr ⟨o, rfl, by simp only [destroyOutput, ho, htimers, hsession]⟩

/-- What every removal of an output keeps, the removal of several keeps. -/
theorem destroyEach_induction {P : Backend ρ → Prop} (hstep : ∀ b id, P b → P (b.destroyOutput id).2)
    (h : P b) (ids : List OutputId) : P (b.destroyEach ids).2 := by
  induction ids generalizing b with
  | nil => exact h
  | cons id ids ih =>
      have hd := hstep b id h
      simp only [destroyEach]
      split
      · rename_i he
        rw [he] at hd
        exact hd
      · rename_i he
        rw [he] at hd
        have hds := ih hd
        split <;> rename_i hes <;> rw [hes] at hds <;> exact hds

theorem shutdown_induction {P : Backend ρ → Prop} (hstep : ∀ b id, P b → P (b.destroyOutput id).2)
    (hend : ∀ b, P b → P { b with session := b.session.shutdown.2 }) (h : P b) : P b.shutdown.2 := by
  have hds := destroyEach_induction hstep h (b.outputs.map (·.id))
  simp only [shutdown]
  split
  · rename_i he
    rw [he] at hds
    exact hds
  · rename_i he
    rw [he] at hds
    exact hend _ hds

section Repaint

variable [Renderer ρ]

def stage (b : Backend ρ) : Stage ρ := ⟨b.renderer, b.session, b.timers⟩

def restaged (b : Backend ρ) (st : Stage ρ) : Backend ρ :=
  { b with renderer := st.renderer, session := st.session, timers := st.timers }

/-- How a repaint of the output `o` can end. -/
inductive Repaint (b : Backend ρ) (o : Output) (damage : Damage) :
    Except Fault RepaintOutcome → Backend ρ → Prop where
  | early (hstate : o.state ≠ .repaintScheduled) :
      Repaint b o damage (.ok .notScheduled)
        (setOutput { b with queue := (b.startCycle o).2.2 } (b.startCycle o).2.1)
  | broken {e : Fault} {o' : Output} {st : Stage ρ} (hstate : o.state = .repaintScheduled)
      (hsend : Output.Sending { o with state := .repainting } b.stage
        (damage.clipped o.geometry.bounds) (.error e) o' st) :
      Repaint b o damage (.error e) ((b.restaged st).setOutput o')
  | awaiting {outcome : RepaintOutcome} {o' : Output} {st : Stage ρ} {timers : TimerHost}
      (hstate : o.state = .repaintScheduled)
      (hsend : Output.Sending { o with state := .repainting } b.stage
        (damage.clipped o.geometry.bounds) (.ok outcome) o' st)
      (hstart : b.timers.start o.timer o.interval = (.ok (), timers)) :
      Repaint b o damage (.ok outcome)
        ((b.restaged { st with timers }).setOutput { o' with state := .awaitingWakeup })
  | stopped {outcome : RepaintOutcome} {o' : Output} {st : Stage ρ} {timers : TimerHost} {f : Fault}
      (hstate : o.state = .repaintScheduled)
      (hsend : Output.Sending { o with state := .repainting } b.stage
        (damage.clipped o.geometry.bounds) (.ok outcome) o' st)
      (hstart : b.timers.start o.timer o.interval = (.error f, timers)) (hfatal : f.isFatal = true) :
      Repaint b o damage (.error f)
        ((b.restaged { st with timers }).setOutput { o' with state := .idle })
  | again {outcome : RepaintOutcome} {o' : Output} {st : Stage ρ} {timers : TimerHost} {f : Fault}
      {wakeupsMissed : UInt64} (hstate : o.state = .repaintScheduled)
      (hsend : Output.Sending { o with state := .repainting } b.stage
        (damage.clipped o.geometry.bounds) (.ok outcome) o' st)
      (hstart : b.timers.start o.timer o.interval = (.error f, timers)) (hmild : f.isFatal = false)
      (hcount : wakeupsMissed.toNat = o'.stats.wakeupsMissed.toNat + 1) :
      Repaint b o damage (.ok outcome)
        (setOutput { b.restaged { st with timers } with queue := b.queue.schedule o.id }
          { o' with state := .repaintScheduled, stats := { o'.stats with wakeupsMissed } })

theorem repaint_of_repaintOutput {id : OutputId} {damage : Damage}
    {answer : Except Fault RepaintOutcome} (h : b.repaintOutput id damage = .ok (answer, b')) :
    (b.output? id = none ∧ answer = .error (.repaintOfUnknown id) ∧ b' = b) ∨
    ∃ o, b.output? id = some o ∧ Repaint b o damage answer b' := by
  simp only [repaintOutput] at h
  cases ho : b.output? id with
  | none =>
      rw [ho] at h
      cases h
      exact .inl ⟨rfl, rfl, rfl⟩
  | some o =>
      refine .inr ⟨o, rfl, ?_⟩
      rw [ho] at h
      obtain ⟨⟨answer', o', st⟩, hrepaint, hnext⟩ := Trap.bind_eq_ok.mp h
      by_cases hstate : o.state = .repaintScheduled
      · rcases Output.repaint_cases hstate hrepaint with ⟨e, rfl, hs⟩ | ⟨outcome, o₁, st₁, hs, hwait⟩
        · cases hnext
          exact .broken hstate hs
        · have hstart : st₁.timers.start o₁.timer o₁.interval = b.timers.start o.timer o.interval := by
            rw [hs.timers, hs.kin.timer, hs.kin.interval]
          rcases Output.awaitWakeup_cases hwait with ⟨timers, hok, rfl, rfl, rfl⟩ |
            ⟨f, timers, hrefused, hfatal, rfl, rfl, rfl⟩ |
            ⟨f, timers, wakeupsMissed, hrefused, hmild, hcount, rfl, rfl, rfl⟩
          · cases hnext
            exact .awaiting hstate hs (hstart ▸ hok)
          · cases hnext
            exact .stopped hstate hs (hstart ▸ hrefused) hfatal
          · cases hnext
            have hagain := Repaint.again hstate hs (hstart ▸ hrefused) hmild hcount
            rw [← hs.kin.id] at hagain
            exact hagain
      · rw [Output.repaint_of_not_scheduled _ _ hstate] at hrepaint
        cases hrepaint
        cases hnext
        exact .early hstate

end Repaint

/-- How the expiry of a timer can end. -/
inductive Expiry (b : Backend ρ) (timer : TimerId) : Backend ρ → Prop where
  | unowned (howner : b.timers.owner? timer = none) :
      Expiry b timer { b with timers := b.timers.disarm timer }
  | gone {id : OutputId} (howner : b.timers.owner? timer = some id) (hnone : b.output? id = none) :
      Expiry b timer { b with
        timers := b.timers.disarm timer
        session := b.session.callAttached .wakeup }
  | spurious {id : OutputId} {o : Output} (howner : b.timers.owner? timer = some id)
      (hsome : b.output? id = some o) (hstate : o.state ≠ .awaitingWakeup) :
      Expiry b timer (setOutput { b with
        timers := b.timers.disarm timer
        session := b.session.callAttached .wakeup } o)
  | woken {id : OutputId} {o : Output} {wakeups : UInt64} (howner : b.timers.owner? timer = some id)
      (hsome : b.output? id = some o) (hstate : o.state = .awaitingWakeup)
      (hcount : wakeups.toNat = o.stats.wakeups.toNat + 1) :
      Expiry b timer (setOutput { b with
          timers := b.timers.disarm timer
          session := b.session.callAttached .wakeup
          queue := (b.queue.finishFrame id).schedule id }
        { o with state := .repaintScheduled, stats := { o.stats with wakeups } })

theorem expiry {timer : TimerId} (h : b.expire timer = .ok b') : Expiry b timer b' := by
  unfold expire wakeOwner at h
  have howns : (b.timers.disarm timer).owner? timer = b.timers.owner? timer := rfl
  simp only [howns] at h
  cases howner : b.timers.owner? timer with
  | none =>
      rw [howner] at h
      cases h
      exact .unowned howner
  | some id =>
      have hfind : output? { b with
          timers := b.timers.disarm timer
          session := b.session.callAttached .wakeup } id = b.output? id := rfl
      simp only [howner, onWakeup, hfind] at h
      cases hsome : b.output? id with
      | none =>
          rw [hsome] at h
          cases h
          exact .gone howner hsome
      | some o =>
          simp only [hsome] at h
          obtain ⟨⟨due, o'⟩, hwakeup, hnext⟩ := Trap.bind_eq_ok.mp h
          rcases Output.wakeup_cases hwakeup with ⟨rfl, rfl, hstate⟩ | ⟨rfl, wakeups, hstate, hcount, rfl⟩
          · cases hnext
            exact .spurious howner hsome hstate
          · cases hnext
            exact .woken howner hsome hstate hcount

theorem requestRepaint_cases (b : Backend ρ) (id : OutputId) :
    (b.output? id = none ∧ b.requestRepaint id = (.error (.requestForUnknown id), b)) ∨
    (∃ o, b.output? id = some o ∧ o.state ≠ .idle ∧ b.requestRepaint id = (.ok false, b.setOutput o)) ∨
    ∃ o, b.output? id = some o ∧ o.state = .idle ∧ b.requestRepaint id =
      (.ok true, setOutput { b with queue := b.queue.schedule o.id }
        { o with state := .repaintScheduled }) := by
  cases ho : b.output? id with
  | none => exact .inl ⟨rfl, by simp [requestRepaint, ho]⟩
  | some o =>
      right
      by_cases hstate : o.state = .idle
      · exact .inr ⟨o, rfl, hstate, by simp [requestRepaint, ho, startCycle, Output.requestRepaint, hstate]⟩
      · refine .inl ⟨o, rfl, hstate, ?_⟩
        have hrequest : o.requestRepaint = (false, o) := by
          unfold Output.requestRepaint
          cases hs : o.state <;> simp_all
        simp [requestRepaint, ho, startCycle, hrequest]

theorem requestRepaint_session (b : Backend ρ) (id : OutputId) :
    (b.requestRepaint id).2.session = b.session := by
  rcases b.requestRepaint_cases id with ⟨-, hb⟩ | ⟨o, -, -, hb⟩ | ⟨o, -, -, hb⟩
  · rw [hb]
  · rw [hb, setOutput]
  · rw [hb, setOutput]

theorem expire_session {timer : TimerId} (h : b.expire timer = .ok b') :
    b'.session = b.session ∨ b'.session = b.session.callAttached .wakeup := by
  cases expiry h with
  | unowned => exact .inl rfl
  | gone | spurious | woken => exact .inr rfl

end Backend

end RemoteDisplay
