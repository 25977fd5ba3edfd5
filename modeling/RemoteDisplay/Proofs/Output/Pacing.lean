import Mathlib.Data.List.Nodup
import RemoteDisplay.Proofs.Output.Effects
import RemoteDisplay.Proofs.Output.History

/-!
# Every output is always on its way to a repaint

An output either waits for a repaint that was asked for, or for the expiry of its running timer. The
requests sent for it and the repaints that it accepted are counted: in the first case one request is
open, in the second none is. `Paced` keeps that account over all outputs, together with what makes a
timer wake its own output and no other.
-/

namespace RemoteDisplay.Backend

variable {ρ : Type}

/-- The output whose repaint the step carried out, unless it came too early. -/
def Step.accepted? (step : Step ρ) : Option OutputId :=
  match step.action, step.answer with
  | .repaintOutput id _, .repainted (.ok outcome) => if outcome = .notScheduled then none else some id
  | _, _ => none

/-- No repaint of an existing output answered a fatal fault. -/
def Step.Mild (step : Step ρ) : Prop :=
  ∀ id damage fault, step.action = .repaintOutput id damage → (step.before.output? id).isSome →
    step.answer = .repainted (.error fault) → fault.isFatal = false

theorem Step.Mild.fault {b b' : Backend ρ} {id : OutputId} {damage : Damage}
    {answer : Except Fault RepaintOutcome} (h : Step.Mild ⟨b, .repaintOutput id damage, .repainted answer, b'⟩)
    {o : Output} (ho : b.output? id = some o) {f : Fault} (hf : answer = .error f) : f.isFatal = false :=
  h id damage f rfl (by simp [ho]) (by rw [hf])

def Step.faultless (step : Step ρ) : Bool :=
  match step.answer with
  | .repainted (.error _) => false
  | _ => true

theorem Step.mild_of_faultless {step : Step ρ} (h : step.faultless = true) : step.Mild := by
  intro id damage fault _ _ hanswer
  rw [faultless, hanswer] at h
  cases h

def History.accepted (h : History ρ) : List OutputId := h.steps.filterMap (·.accepted?)

theorem History.accepted_concat {w w' : History ρ} {step : Step ρ} (h : w'.steps = w.steps ++ [step]) :
    w'.accepted = w.accepted ++ step.accepted?.toList := by
  rw [accepted, h, List.filterMap_append, accepted]
  cases hs : step.accepted? <;> simp [hs]

def requested (b : Backend ρ) (id : OutputId) : Nat := b.queue.requests.count id

/-! ## Outputs and their timers -/

section Outputs

variable {b : Backend ρ} {o x : Output}

theorem map_id_setOutput : (b.setOutput o).outputs.map (·.id) = b.outputs.map (·.id) :=
  map_key_update Output.id (f := fun _ => o) fun _ _ => rfl

theorem mem_setOutput (hx : x ∈ (b.setOutput o).outputs) :
    x = o ∨ x ∈ b.outputs ∧ x.id ≠ o.id := by
  simp only [setOutput, List.mem_map] at hx
  obtain ⟨y, hy, rfl⟩ := hx
  split
  · exact .inl rfl
  · rename_i hne
    exact .inr ⟨hy, hne⟩

theorem setOutput_self (hids : (b.outputs.map (·.id)).Nodup) (ho : o ∈ b.outputs) :
    b.setOutput o = b := by
  have houtputs : b.outputs.map (fun x => if x.id = o.id then o else x) = b.outputs := by
    conv_rhs => rw [← List.map_id b.outputs]
    refine List.map_congr_left fun x hx => ?_
    split
    · rename_i he
      exact List.inj_on_of_nodup_map hids ho hx he.symm
    · rfl
  simp only [setOutput, houtputs]

end Outputs

/-! ## The account of requests and repaints -/

/-- A repaint of the output is asked for once more than accepted, and expected; or as often, and the
timer is running that will ask for the next. -/
def OnTrack (b : Backend ρ) (accepted : List OutputId) (o : Output) : Prop :=
  (o.state = .repaintScheduled ∧ b.requested o.id = accepted.count o.id + 1) ∨
    (o.state = .awaitingWakeup ∧ b.requested o.id = accepted.count o.id ∧
      b.timers.isArmed o.timer = true)

/-- Every output is on track; outputs and timers are told apart by their numbers, and the timer of an
output wakes that output. -/
structure Paced (b : Backend ρ) (accepted : List OutputId) : Prop where
  ids : (b.outputs.map (·.id)).Nodup
  low : ∀ o ∈ b.outputs, o.id.raw < b.nextOutput
  owned : ∀ o ∈ b.outputs, b.timers.owner? o.timer = some o.id
  registered : ∀ p ∈ b.timers.registered, p.1.raw < b.timers.next
  unseen : ∀ id : OutputId, b.nextOutput ≤ id.raw → b.requested id = 0 ∧ accepted.count id = 0
  track : ∀ o ∈ b.outputs, OnTrack b accepted o

namespace Paced

variable {b b' : Backend ρ} {accepted accepted' : List OutputId} {o o' : Output}

/-- Running timers kept running, and nothing else that concerns outputs changed. -/
theorem keep (h : Paced b accepted) (houtputs : b'.outputs = b.outputs)
    (hnext : b'.nextOutput = b.nextOutput) (hregistered : b'.timers.registered = b.timers.registered)
    (htimer : b'.timers.next = b.timers.next)
    (hrequests : b'.queue.requests = b.queue.requests)
    (harmed : ∀ x ∈ b.outputs, b.timers.isArmed x.timer = true → b'.timers.isArmed x.timer = true) :
    Paced b' accepted where
  ids := houtputs ▸ h.ids
  low := by
    rw [houtputs, hnext]
    exact h.low
  owned := by
    simp only [houtputs, TimerHost.owner?, hregistered]
    exact h.owned
  registered := by
    rw [hregistered, htimer]
    exact h.registered
  unseen := by
    rw [hnext]
    simp only [requested, hrequests]
    exact h.unseen
  track x hx := by
    rw [houtputs] at hx
    simp only [OnTrack, requested, hrequests]
    rcases h.track x hx with hscheduled | ⟨hstate, hcount, ha⟩
    · exact .inl hscheduled
    · exact .inr ⟨hstate, hcount, harmed x hx ha⟩

/-- Only what concerns one output changed, and that is on track. -/
theorem update (h : Paced b accepted) (ho : o ∈ b.outputs) (hkin : Output.Kin o o')
    (houtputs : b'.outputs = (b.setOutput o').outputs) (hnext : b'.nextOutput = b.nextOutput)
    (hregistered : b'.timers.registered = b.timers.registered)
    (htimer : b'.timers.next = b.timers.next)
    (hrequests : ∀ id, id ≠ o.id → b'.requested id = b.requested id)
    (haccepted : ∀ id, id ≠ o.id → accepted'.count id = accepted.count id)
    (harmed : ∀ x ∈ b.outputs, x.id ≠ o.id → b.timers.isArmed x.timer = true →
      b'.timers.isArmed x.timer = true)
    (htrack : OnTrack b' accepted' o') : Paced b' accepted' := by
  have hmem : ∀ x ∈ b'.outputs, x = o' ∨ x ∈ b.outputs ∧ x.id ≠ o.id := by
    intro x hx
    rw [houtputs] at hx
    rw [← hkin.id]
    exact mem_setOutput hx
  constructor
  · rw [houtputs, map_id_setOutput]
    exact h.ids
  · intro x hx
    rw [hnext]
    rcases hmem x hx with rfl | ⟨hx, -⟩
    · rw [hkin.id]
      exact h.low o ho
    · exact h.low x hx
  · intro x hx
    rw [TimerHost.owner?, hregistered]
    rcases hmem x hx with rfl | ⟨hx, -⟩
    · rw [hkin.timer, hkin.id]
      exact h.owned o ho
    · exact h.owned x hx
  · rw [hregistered, htimer]
    exact h.registered
  · intro id hid
    rw [hnext] at hid
    have hne : id ≠ o.id := by
      rintro rfl
      exact UInt32.not_le.mpr (h.low o ho) hid
    rw [hrequests id hne, haccepted id hne]
    exact h.unseen id hid
  · intro x hx
    rcases hmem x hx with rfl | ⟨hx, hne⟩
    · exact htrack
    · rw [OnTrack, hrequests x.id hne, haccepted x.id hne]
      rcases h.track x hx with hscheduled | ⟨hstate, hcount, ha⟩
      · exact .inl hscheduled
      · exact .inr ⟨hstate, hcount, harmed x hx hne ha⟩

/-- A timer stops that no awaiting output depends on. -/
theorem disarm (h : Paced b accepted) {timer : TimerId}
    (hfree : ∀ x ∈ b.outputs, b.timers.owner? timer ≠ some x.id) (s : Session) :
    Paced { b with timers := b.timers.disarm timer, session := s } accepted := by
  refine h.keep rfl rfl rfl rfl rfl fun x hx ha => ?_
  have hne : x.timer ≠ timer := fun he => hfree x hx (he ▸ h.owned x hx)
  simp [ha, hne]

theorem created (h : Paced b accepted) {g : Geometry} {surface : SurfaceId} {s : Session}
    (hadd : b.timers.refuseAdd = none) (hnext : b.nextOutput.toNat + 1 < 4294967296) :
    Paced (b.opened g surface s) accepted := by
  have hlt : b.nextOutput < b.nextOutput + 1 := by
    rw [UInt32.lt_iff_toNat_lt, UInt32.toNat_add]
    simp only [UInt32.toNat_one]
    omega
  have htimers : (b.timers.add ⟨b.nextOutput⟩).2 = { b.timers with
      next := b.timers.next + 1
      registered := b.timers.registered ++ [(⟨b.timers.next⟩, ⟨b.nextOutput⟩)]
      calls := b.timers.calls.push (.add ⟨b.timers.next⟩) } := by
    simp [TimerHost.add, hadd]
  have hrequested : ∀ id, (b.opened g surface s).requested id =
      b.requested id + if id.raw = b.nextOutput then 1 else 0 := by
    intro id
    have heq : id.raw = b.nextOutput ↔ (⟨b.nextOutput⟩ : OutputId) = id := by
      rw [eq_comm]
      exact ⟨fun he => by rw [he], fun he => by rw [← he]⟩
    simp only [requested, opened, RepaintQueue.schedule, Array.count_push, beq_iff_eq, heq]
  have hnew : (b.opened g surface s).outputs = b.outputs ++ [b.newOutput g surface] := rfl
  constructor
  · rw [hnew, List.map_append]
    refine nodup_concat h.ids fun hmem => ?_
    obtain ⟨x, hx, he⟩ := List.mem_map.mp hmem
    exact UInt32.lt_irrefl _ (congrArg OutputId.raw he ▸ h.low x hx)
  · intro x hx
    rw [hnew, List.mem_append, List.mem_singleton] at hx
    rcases hx with hx | rfl
    · exact UInt32.lt_trans (h.low x hx) hlt
    · exact hlt
  · intro x hx
    rw [hnew, List.mem_append, List.mem_singleton] at hx
    simp only [opened, htimers, TimerHost.owner?, List.lookup_append]
    rcases hx with hx | rfl
    · have howned := h.owned x hx
      rw [TimerHost.owner?] at howned
      rw [howned, Option.some_or]
    · have hfresh : b.timers.registered.lookup ⟨b.timers.next⟩ = none := by
        rw [List.lookup_eq_none_iff]
        intro p hp
        have hlow := h.registered p hp
        simp only [bne_iff_ne, ne_eq]
        rintro he
        rw [← he] at hlow
        exact Nat.lt_irrefl _ hlow
      simp [newOutput, hfresh]
  · intro p hp
    simp only [opened, htimers, List.mem_append, List.mem_singleton] at hp ⊢
    rcases hp with hp | rfl
    · exact Nat.lt_succ_of_lt (h.registered p hp)
    · exact Nat.lt_succ_self _
  · intro id hid
    have hlow : b.nextOutput < id.raw := UInt32.lt_of_lt_of_le hlt hid
    rw [hrequested id, if_neg (UInt32.ne_of_lt hlow).symm]
    exact h.unseen id (UInt32.le_of_lt hlow)
  · intro x hx
    rw [hnew, List.mem_append, List.mem_singleton] at hx
    rw [OnTrack, hrequested x.id]
    rcases hx with hx | rfl
    · rw [if_neg (UInt32.ne_of_lt (h.low x hx)), Nat.add_zero]
      have harmed : (b.opened g surface s).timers.isArmed x.timer = b.timers.isArmed x.timer := by
        simp only [opened, htimers, TimerHost.isArmed]
      rw [harmed]
      exact h.track x hx
    · obtain ⟨hnone, hcount⟩ := h.unseen ⟨b.nextOutput⟩ (UInt32.le_refl _)
      exact .inl ⟨rfl, by simp [newOutput, hnone, hcount]⟩

theorem destroyed (h : Paced b accepted) (id : OutputId) :
    Paced (b.destroyOutput id).2 accepted := by
  rcases b.destroyOutput_cases id with ⟨-, hb⟩ | ⟨o, ho, hb⟩
  · rw [hb]
    exact h
  · rw [hb]
    obtain ⟨hmem, rfl⟩ := mem_of_output? ho
    have hothers : ∀ x, x ∈ b.outputs.filter (fun x => decide (x.id ≠ o.id)) ↔
        x ∈ b.outputs ∧ x.id ≠ o.id := by
      intro x
      rw [List.mem_filter, decide_eq_true_eq]
    have hne : ∀ x ∈ b.outputs, x.id ≠ o.id → x.timer ≠ o.timer := by
      intro x hx hxo he
      have howned := h.owned x hx
      rw [he, h.owned o hmem] at howned
      exact hxo (Option.some.inj howned).symm
    constructor
    · exact h.ids.sublist (List.filter_sublist.map _)
    · intro x hx
      exact h.low x ((hothers x).mp hx).1
    · intro x hx
      obtain ⟨hx, hxo⟩ := (hothers x).mp hx
      simp only [TimerHost.owner?_remove (hne x hx hxo)]
      exact h.owned x hx
    · intro p hp
      exact h.registered p (List.mem_filter.mp hp).1
    · exact h.unseen
    · intro x hx
      obtain ⟨hx, hxo⟩ := (hothers x).mp hx
      simp only [OnTrack, TimerHost.isArmed_remove, hne x hx hxo, ne_eq, not_false_eq_true,
        decide_true, Bool.and_true]
      exact h.track x hx

theorem expired (h : Paced b accepted) {timer : TimerId} (he : b.expire timer = .ok b') :
    Paced b' accepted := by
  -- an output that another output's timer could stop would have that output's number
  have hfree : ∀ {id : OutputId}, b.timers.owner? timer = some id →
      ∀ x ∈ b.outputs, x.id ≠ id → x.timer ≠ timer := by
    intro id howner x hx hne he
    have howned := h.owned x hx
    rw [he, howner] at howned
    exact hne (Option.some.inj howned).symm
  cases expiry he with
  | unowned howner => exact h.disarm (by simp [howner]) b.session
  | @gone id howner hnone =>
      refine h.disarm (fun x hx he => ?_) _
      rw [howner] at he
      have hfind := output?_of_mem h.ids hx
      rw [← Option.some.inj he, hnone] at hfind
      cases hfind
  | @spurious id o howner hsome hstate =>
      obtain ⟨ho, rfl⟩ := mem_of_output? hsome
      refine h.update ho (.refl o) rfl rfl rfl rfl (fun _ _ => rfl) (fun _ _ => rfl)
        (fun x hx hne ha => ?_) ?_
      · have hx := hfree howner x hx hne
        simp [setOutput, ha, hx]
      · rcases h.track o ho with hscheduled | ⟨hs, -⟩
        · exact .inl hscheduled
        · exact absurd hs hstate
  | @woken id o wakeups howner hsome hstate =>
      obtain ⟨ho, rfl⟩ := mem_of_output? hsome
      have hkin : Output.Kin o { o with state := .repaintScheduled, stats := { o.stats with wakeups } } :=
        ⟨rfl, rfl, rfl, rfl, rfl⟩
      refine h.update ho hkin rfl rfl rfl rfl (fun id hne => ?_) (fun _ _ => rfl)
        (fun x hx hne ha => ?_) ?_
      · simp [requested, setOutput, RepaintQueue.schedule, RepaintQueue.finishFrame, Ne.symm hne]
      · have hx := hfree howner x hx hne
        simp [setOutput, ha, hx]
      · rcases h.track o ho with ⟨hs, -⟩ | ⟨-, hcount, -⟩
        · rw [hstate] at hs
          cases hs
        · refine .inl ⟨rfl, ?_⟩
          rw [← hcount]
          simp [requested, setOutput, RepaintQueue.schedule, RepaintQueue.finishFrame]

/-- A request for an output that is on its way changes nothing. -/
theorem requestRepaint (h : Paced b accepted) (id : OutputId) : (b.requestRepaint id).2 = b := by
  rcases b.requestRepaint_cases id with ⟨-, hb⟩ | ⟨o, ho, -, hb⟩ | ⟨o, ho, hidle, -⟩
  · rw [hb]
  · rw [hb]
    exact setOutput_self h.ids (mem_of_output? ho).1
  · rcases h.track o (mem_of_output? ho).1 with ⟨hs, -⟩ | ⟨hs, -⟩
    · rw [hidle] at hs
      cases hs
    · rw [hidle] at hs
      cases hs

theorem early (h : Paced b accepted) (ho : o ∈ b.outputs) (hstate : o.state ≠ .repaintScheduled) :
    setOutput { b with queue := (b.startCycle o).2.2 } (b.startCycle o).2.1 = b := by
  have hawaiting : o.state = .awaitingWakeup := by
    rcases h.track o ho with ⟨hs, -⟩ | ⟨hs, -⟩
    · exact absurd hs hstate
    · exact hs
  have hcycle : b.startCycle o = (false, o, b.queue) := by
    simp [startCycle, Output.requestRepaint, hawaiting]
  rw [hcycle]
  exact setOutput_self h.ids ho

section Repaint

variable [Renderer ρ] {damage : Damage}

/-- A repaint of an output is accepted and puts it on track for the next one. -/
theorem repainted (h : Paced b accepted) (ho : o ∈ b.outputs) {answer : Except Fault RepaintOutcome}
    (hr : Repaint b o damage answer b') (hmild : ∀ f, answer = .error f → f.isFatal = false) :
    (answer = .ok .notScheduled ∧ b' = b) ∨
    ∃ outcome, outcome ≠ .notScheduled ∧ answer = .ok outcome ∧ Paced b' (accepted ++ [o.id]) := by
  have hcount : ∀ id, id ≠ o.id → (accepted ++ [o.id]).count id = accepted.count id := by
    intro id hne
    simp [Ne.symm hne]
  have hscheduled : o.state = .repaintScheduled → b.requested o.id = (accepted ++ [o.id]).count o.id := by
    intro hstate
    rcases h.track o ho with ⟨-, hr⟩ | ⟨hs, -⟩
    · simp [hr]
    · rw [hstate] at hs
      cases hs
  cases hr with
  | early hstate => exact .inl ⟨rfl, h.early ho hstate⟩
  | @broken e o' st hstate hsend =>
      cases hsend with
      | broken hsome hblit hfatal =>
          rw [hmild e rfl] at hfatal
          cases hfatal
  | @stopped outcome o' st timers f hstate hsend hstart hfatal =>
      rw [hmild f rfl] at hfatal
      cases hfatal
  | @awaiting outcome o' st timers hstate hsend hstart =>
      refine .inr ⟨outcome, hsend.outcome, rfl, ?_⟩
      have hk := hsend.kin
      rcases b.timers.start_cases o.timer o.interval with
        ⟨f, -, hs⟩ | ⟨timers', -, hs, hnext, hregistered, -, -, harmed⟩
      · rw [hs] at hstart
        cases hstart
      · rw [hs] at hstart
        cases hstart
        have hkin : Output.Kin o { o' with state := .awaitingWakeup } :=
          ⟨hk.id, hk.geometry, hk.surface, hk.timer, hk.interval⟩
        refine h.update ho hkin rfl rfl hregistered hnext (fun _ _ => rfl) hcount
          (fun x _ _ ha => ?_) ?_
        · simp [setOutput, restaged, harmed, ha]
        · refine .inr ⟨rfl, ?_, ?_⟩
          · rw [hkin.id]
            exact hscheduled hstate
          · rw [hkin.timer]
            simp [setOutput, restaged, harmed]
  | @again outcome o' st timers f wakeupsMissed hstate hsend hstart =>
      refine .inr ⟨outcome, hsend.outcome, rfl, ?_⟩
      have hk := hsend.kin
      rcases b.timers.start_cases o.timer o.interval with ⟨f', -, hs⟩ | ⟨timers', -, hs, -⟩
      · rw [hs] at hstart
        cases hstart
        have hkin : Output.Kin o { o' with
            state := .repaintScheduled
            stats := { o'.stats with wakeupsMissed } } :=
          ⟨hk.id, hk.geometry, hk.surface, hk.timer, hk.interval⟩
        refine h.update ho hkin rfl rfl rfl rfl (fun id hne => ?_) hcount (fun x _ _ ha => ha) ?_
        · simp [requested, setOutput, restaged, RepaintQueue.schedule, Ne.symm hne]
        · refine .inl ⟨rfl, ?_⟩
          rw [hkin.id, ← hscheduled hstate]
          simp [requested, setOutput, restaged, RepaintQueue.schedule]
      · rw [hs] at hstart
        cases hstart

end Repaint

theorem shutdown (h : Paced b accepted) : Paced b.shutdown.2 accepted :=
  shutdown_induction (P := fun b => Paced b accepted) (fun _ id hb => hb.destroyed id)
    (fun _ hb => hb.keep rfl rfl rfl rfl rfl fun _ _ ha => ha) h

theorem perform [Renderer ρ] (h : Paced b accepted) {action : Action} {answer : Answer}
    (hp : b.perform action = .ok (answer, b')) (hmild : Step.Mild ⟨b, action, answer, b'⟩) :
    Paced b' (accepted ++ (Step.accepted? ⟨b, action, answer, b'⟩).toList) := by
  have hsession : ∀ s, Paced { b with session := s } accepted := fun _ =>
    h.keep rfl rfl rfl rfl rfl fun _ _ ha => ha
  cases action with
  | createOutput g =>
      obtain ⟨r, hc, rfl⟩ := of_map_ok hp
      simp only [Step.accepted?, Option.toList_none, List.append_nil]
      cases creation_of_createOutput hc with
      | refused => exact h
      | unannounced hsurface => exact hsession _
      | colourless hsurface hcolour => exact hsession _
      | rolledBack hsurface hcolour hadd => exact h.keep rfl rfl rfl rfl rfl fun _ _ ha => ha
      | created hwidth hheight hsurface hcolour hadd hnext => exact h.created hadd hnext
  | repaintOutput id damage =>
      obtain ⟨r, hr, rfl⟩ := of_map_ok hp
      rcases repaint_of_repaintOutput hr with ⟨hnone, rfl, rfl⟩ | ⟨o, ho, hrepaint⟩
      · simpa [Step.accepted?] using h
      · obtain ⟨hmem, rfl⟩ := mem_of_output? ho
        rcases h.repainted hmem hrepaint (fun f => hmild.fault ho) with
          ⟨rfl, rfl⟩ | ⟨outcome, hne, rfl, hpaced⟩
        · simpa [Step.accepted?] using h
        · simpa [Step.accepted?, hne] using hpaced
  | destroyOutput id =>
      cases hp
      simpa [Step.accepted?] using h.destroyed id
  | requestRepaint id =>
      cases hp
      simpa [Step.accepted?, h.requestRepaint id] using h
  | expire timer =>
      obtain ⟨he, rfl⟩ := of_expire_ok hp
      simpa [Step.accepted?] using h.expired he
  | shutdown =>
      cases hp
      simpa [Step.accepted?] using h.shutdown
  | takePending | refuseAdd | refuseStart =>
      cases hp
      simp only [Step.accepted?, Option.toList_none, List.append_nil]
      exact h.keep rfl rfl rfl rfl rfl fun _ _ ha => ha
  | attachWorker | getCommand | releaseResource | setClock | setCompression | closeSession | refuseMemory =>
      cases hp
      simpa [Step.accepted?] using hsession _

end Paced

/-! ## Runs -/

/-- A backend that made no output yet, on a host without timers. -/
structure Unused (b : Backend ρ) : Prop where
  outputs : b.outputs = []
  registered : b.timers.registered = []
  requests : b.queue.requests = #[]

theorem Unused.paced {b : Backend ρ} (h : b.Unused) : Paced b [] := by
  refine ⟨by simp [h.outputs], by simp [h.outputs], by simp [h.outputs], by simp [h.registered],
    fun id _ => ?_, by simp [h.outputs]⟩
  simp [requested, h.requests]

theorem Paced.run [Renderer ρ] {b : Backend ρ} (h : Paced b []) {actions : List Action} {w : History ρ}
    (hrun : History.run { backend := b } actions = .ok w) :
    (∀ step ∈ w.steps, step.Mild) → Paced w.backend w.accepted := by
  refine History.run_induction
    (P := fun w => (∀ step ∈ w.steps, step.Mild) → Paced w.backend w.accepted) (fun _ => h)
    (fun w w' action answer ih hp hsteps hmild => ?_) hrun
  rw [hsteps] at hmild
  have hw := ih fun step hs => hmild step (List.mem_append_left _ hs)
  have hp' := hw.perform hp (hmild _ (List.mem_append_right _ (List.mem_singleton.mpr rfl)))
  rw [History.accepted_concat hsteps]
  exact hp'

/-- As long as no repaint fails fatally, an output is never stuck and never scheduled twice: it waits
for a repaint that it asked for once more than it accepted, or its wakeup timer is running and every
repaint that it asked for is accepted. A repaint answered `notScheduled` changes nothing at all. -/
theorem Unused.never_stuck_nor_scheduled_twice [Renderer ρ] {b : Backend ρ} (h : b.Unused)
    {actions : List Action} {w : History ρ}
    (hrun : History.run { backend := b } actions = .ok w) (hmild : ∀ step ∈ w.steps, step.Mild) :
    (∀ o ∈ w.backend.outputs,
      (o.state = .repaintScheduled ∧
        w.backend.queue.requests.count o.id = w.accepted.count o.id + 1) ∨
      (o.state = .awaitingWakeup ∧
        w.backend.queue.requests.count o.id = w.accepted.count o.id ∧
        w.backend.timers.isArmed o.timer = true)) ∧
    ∀ id damage b', w.backend.repaintOutput id damage = .ok (.ok .notScheduled, b') →
      b' = w.backend := by
  have hpaced := h.paced.run hrun hmild
  refine ⟨hpaced.track, fun id damage b' hr => ?_⟩
  rcases repaint_of_repaintOutput hr with ⟨-, he, -⟩ | ⟨o, ho, hrepaint⟩
  · cases he
  · rcases hpaced.repainted (mem_of_output? ho).1 hrepaint (fun f he => by cases he) with
      ⟨-, hb⟩ | ⟨outcome, hne, he, -⟩
    · exact hb
    · cases he
      exact absurd rfl hne

/-- The first start of the timer is refused, so the second repaint is asked for at once; the third
comes too early, and then the timer expires. -/
theorem never_stuck_nor_scheduled_twice_refused_start :
    ∃ b : Backend PatternRenderer, b.Unused ∧ ∃ w,
      History.run { backend := b } [.createOutput ⟨0, 0, 1, 1⟩,
        .refuseStart (.allocationFailed "timer"), .repaintOutput ⟨0⟩ (.full 1 1),
        .repaintOutput ⟨0⟩ .empty, .repaintOutput ⟨0⟩ .empty, .expire ⟨1⟩] = .ok w ∧
      (∀ step ∈ w.steps, step.Mild) ∧ w.backend.outputs ≠ [] ∧
      (∀ o ∈ w.backend.outputs,
        (o.state = .repaintScheduled ∧
          w.backend.queue.requests.count o.id = w.accepted.count o.id + 1) ∨
        (o.state = .awaitingWakeup ∧
          w.backend.queue.requests.count o.id = w.accepted.count o.id ∧
          w.backend.timers.isArmed o.timer = true)) ∧
      ∀ id damage b', w.backend.repaintOutput id damage = .ok (.ok .notScheduled, b') →
        b' = w.backend := by
  let b : Backend PatternRenderer :=
    { settings := {}
      session := .ofRing (.ofCapacity 4 0) 0 1 [0]
      renderer := { width := 1, height := 1 } }
  have hunused : b.Unused := ⟨rfl, rfl, rfl⟩
  have hmade : ((History.run { backend := b } [.createOutput ⟨0, 0, 1, 1⟩,
        .refuseStart (.allocationFailed "timer"), .repaintOutput ⟨0⟩ (.full 1 1),
        .repaintOutput ⟨0⟩ .empty, .repaintOutput ⟨0⟩ .empty, .expire ⟨1⟩]).toOption.map fun w =>
      (w.backend.outputs.isEmpty, w.steps.all (·.faultless))) = some (false, true) := by
    decide +kernel
  generalize hrun : History.run { backend := b } _ = r at hmade
  cases r with
  | error trap => cases hmade
  | ok w =>
      obtain ⟨houtputs, hsteps⟩ : w.backend.outputs.isEmpty = false ∧ _ := by
        simpa [Except.toOption] using hmade
      have hmild : ∀ step ∈ w.steps, step.Mild := fun step hs =>
        Step.mild_of_faultless (hsteps step hs)
      exact ⟨_, hunused, w, hrun, hmild, by simpa using houtputs,
        hunused.never_stuck_nor_scheduled_twice hrun hmild⟩

end RemoteDisplay.Backend
