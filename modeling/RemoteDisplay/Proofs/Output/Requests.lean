import RemoteDisplay.Proofs.Output.Pacing
import RemoteDisplay.Proofs.Since

/-!
# Which outputs wait for a repaint

Only existing outputs ask for a repaint, each waits once, and no number is used again. But the removal of
an output leaves its request with the compositor, and the repaint that answers it is a fatal fault.
-/

namespace RemoteDisplay.Backend

variable {ρ : Type} {b b' b'' : Backend ρ}

def ids (b : Backend ρ) : List OutputId := b.outputs.map (·.id)

theorem output?_eq_none {id : OutputId} : b.output? id = none ↔ id ∉ b.ids :=
  find?_key_eq_none Output.id

theorem output?_isSome {id : OutputId} : (b.output? id).isSome ↔ id ∈ b.ids :=
  find?_key_isSome Output.id

theorem ids_setOutput (o : Output) : (b.setOutput o).ids = b.ids := map_id_setOutput

/-- No request was dropped, those that were added are of existing outputs, and new outputs have new
numbers. -/
structure Asked (b b' : Backend ρ) : Prop where
  kept : b.queue.pending ⊆ b'.queue.pending
  asked : ∀ id ∈ b'.queue.pending, id ∈ b.queue.pending ∨ id ∈ b'.ids
  nodup : b.queue.pending.Nodup → b'.queue.pending.Nodup
  next : b.nextOutput ≤ b'.nextOutput
  fresh : ∀ id ∈ b'.ids, id ∈ b.ids ∨ (b.nextOutput ≤ id.raw ∧ id.raw < b'.nextOutput)

theorem Asked.still (hqueue : b'.queue.pending = b.queue.pending) (hids : b'.ids ⊆ b.ids)
    (hnext : b'.nextOutput = b.nextOutput) : Asked b b' where
  kept := hqueue ▸ List.Subset.refl _
  asked _ hid := .inl (hqueue ▸ hid)
  nodup h := hqueue ▸ h
  next := hnext ▸ UInt32.le_refl _
  fresh _ hid := .inl (hids hid)

/-- A request joined the queue, unless it was there. -/
theorem Asked.schedule {i : OutputId} (hqueue : b'.queue.pending = (b.queue.schedule i).pending)
    (hi : i ∈ b'.ids) (hnext : b.nextOutput ≤ b'.nextOutput)
    (hfresh : ∀ j ∈ b'.ids, j ∈ b.ids ∨ (b.nextOutput ≤ j.raw ∧ j.raw < b'.nextOutput)) :
    Asked b b' := by
  rw [RepaintQueue.schedule] at hqueue
  by_cases hmem : i ∈ b.queue.pending
  · rw [if_pos hmem] at hqueue
    exact ⟨hqueue ▸ List.Subset.refl _, fun j hj => .inl (hqueue ▸ hj), fun h => hqueue ▸ h, hnext, hfresh⟩
  · rw [if_neg hmem] at hqueue
    refine ⟨hqueue ▸ List.subset_append_left _ _, fun j hj => ?_, fun h => ?_, hnext, hfresh⟩
    · rw [hqueue, List.mem_append, List.mem_singleton] at hj
      rcases hj with hj | rfl
      · exact .inl hj
      · exact .inr hi
    · rw [hqueue]
      exact nodup_concat h hmem

/-- The outputs are those that there were. -/
theorem Asked.same (hids : b'.ids = b.ids) (hnext : b'.nextOutput = b.nextOutput)
    (hqueue : b'.queue.pending = b.queue.pending ∨
      ∃ id ∈ b.ids, b'.queue.pending = (b.queue.schedule id).pending) : Asked b b' := by
  rcases hqueue with hqueue | ⟨id, hid, hqueue⟩
  · exact .still hqueue (hids ▸ List.Subset.refl _) hnext
  · exact .schedule hqueue (hids ▸ hid) (hnext ▸ UInt32.le_refl _) fun i hi => .inl (hids ▸ hi)

/-! ## The operations -/

theorem createOutput_asked {g : Geometry} {answer : Except Fault OutputId}
    (h : b.createOutput g = .ok (answer, b')) : Asked b b' ∧ b.ids ⊆ b'.ids := by
  cases creation_of_createOutput h with
  | refused => exact ⟨.same rfl rfl (.inl rfl), List.Subset.refl _⟩
  | unannounced => exact ⟨.same rfl rfl (.inl rfl), List.Subset.refl _⟩
  | colourless => exact ⟨.same rfl rfl (.inl rfl), List.Subset.refl _⟩
  | rolledBack => exact ⟨.same rfl rfl (.inl rfl), List.Subset.refl _⟩
  | @created backing surface s background hwidth hheight hsurface hcolour hadd hnext =>
      have hids : (b.opened g surface (backgrounded s surface background g)).ids =
          b.ids ++ [⟨b.nextOutput⟩] := by
        simp [ids, opened, newOutput]
      have hlt := Session.lt_add_one hnext
      refine ⟨.schedule (i := ⟨b.nextOutput⟩) rfl ?_ (UInt32.le_of_lt hlt) fun i hi => ?_, ?_⟩
      · rw [hids]
        exact List.mem_append_right _ List.mem_cons_self
      · rw [hids, List.mem_append, List.mem_singleton] at hi
        rcases hi with hi | rfl
        · exact .inl hi
        · exact .inr ⟨UInt32.le_refl _, hlt⟩
      · rw [hids]
        exact List.subset_append_left _ _

theorem destroyOutput_queue (b : Backend ρ) (id : OutputId) :
    (b.destroyOutput id).2.queue = b.queue ∧ (b.destroyOutput id).2.nextOutput = b.nextOutput ∧
      ∀ i, i ∈ (b.destroyOutput id).2.ids ↔ i ∈ b.ids ∧ i ≠ id := by
  rcases b.destroyOutput_cases id with ⟨hnone, hb⟩ | ⟨o, -, hb⟩
  · rw [hb]
    rw [output?_eq_none] at hnone
    refine ⟨rfl, rfl, fun i => ⟨fun hi => ⟨hi, ?_⟩, And.left⟩⟩
    rintro rfl
    exact hnone hi
  · rw [hb]
    refine ⟨rfl, rfl, fun i => ?_⟩
    change i ∈ (b.outputs.filter (·.id ≠ id)).map (·.id) ↔ _
    rw [map_filter_key Output.id]
    simp [ids]

theorem shutdown_queue (b : Backend ρ) :
    b.shutdown.2.queue = b.queue ∧ b.shutdown.2.nextOutput = b.nextOutput ∧ b.shutdown.2.ids ⊆ b.ids := by
  refine shutdown_induction
    (P := fun c => c.queue = b.queue ∧ c.nextOutput = b.nextOutput ∧ c.ids ⊆ b.ids)
    (fun c id hc => ?_) (fun _ hc => hc) ⟨rfl, rfl, List.Subset.refl _⟩
  obtain ⟨hqueue, hnext, hids⟩ := c.destroyOutput_queue id
  exact ⟨hqueue.trans hc.1, hnext.trans hc.2.1, fun i hi => hc.2.2 ((hids i).mp hi).1⟩

theorem requestRepaint_asked (b : Backend ρ) (id : OutputId) :
    Asked b (b.requestRepaint id).2 ∧ (b.requestRepaint id).2.ids = b.ids := by
  rcases b.requestRepaint_cases id with ⟨-, hb⟩ | ⟨o, -, -, hb⟩ | ⟨o, ho, -, hb⟩
  · rw [hb]
    exact ⟨.same rfl rfl (.inl rfl), rfl⟩
  · rw [hb]
    exact ⟨.same (ids_setOutput o) rfl (.inl rfl), ids_setOutput o⟩
  · rw [hb]
    have hmem : o.id ∈ b.ids := List.mem_map_of_mem (mem_of_output? ho).1
    exact ⟨.same (ids_setOutput _) rfl (.inr ⟨o.id, hmem, rfl⟩), ids_setOutput _⟩

theorem expire_asked {timer : TimerId} (he : b.expire timer = .ok b') :
    Asked b b' ∧ b'.ids = b.ids := by
  cases expiry he with
  | unowned => exact ⟨.same rfl rfl (.inl rfl), rfl⟩
  | gone => exact ⟨.same rfl rfl (.inl rfl), rfl⟩
  | spurious => exact ⟨.same (ids_setOutput _) rfl (.inl rfl), ids_setOutput _⟩
  | @woken id o wakeups howner hsome hstate =>
      have hmem : id ∈ b.ids := output?_isSome.mp (Option.isSome_of_eq_some hsome)
      exact ⟨.same (ids_setOutput _) rfl (.inr ⟨id, hmem, rfl⟩), ids_setOutput _⟩

theorem startCycle_queue (b : Backend ρ) (o : Output) :
    (b.startCycle o).2.2 = b.queue ∨ (b.startCycle o).2.2 = b.queue.schedule o.id := by
  unfold startCycle Output.requestRepaint
  cases o.state with
  | idle => exact .inr rfl
  | _ => exact .inl rfl

theorem repaintOutput_asked [Renderer ρ] {id : OutputId} {damage : Damage}
    {answer : Except Fault RepaintOutcome} (h : b.repaintOutput id damage = .ok (answer, b')) :
    Asked b b' ∧ b'.ids = b.ids := by
  rcases repaint_of_repaintOutput h with ⟨-, -, rfl⟩ | ⟨o, ho, hrepaint⟩
  · exact ⟨.same rfl rfl (.inl rfl), rfl⟩
  · have hmem : o.id ∈ b.ids := List.mem_map_of_mem (mem_of_output? ho).1
    cases hrepaint with
    | early hstate =>
        refine ⟨.same (ids_setOutput _) rfl ?_, ids_setOutput _⟩
        rcases b.startCycle_queue o with hqueue | hqueue
        · exact .inl (congrArg RepaintQueue.pending hqueue)
        · exact .inr ⟨o.id, hmem, congrArg RepaintQueue.pending hqueue⟩
    | broken => exact ⟨.same (ids_setOutput _) rfl (.inl rfl), ids_setOutput _⟩
    | awaiting => exact ⟨.same (ids_setOutput _) rfl (.inl rfl), ids_setOutput _⟩
    | stopped => exact ⟨.same (ids_setOutput _) rfl (.inl rfl), ids_setOutput _⟩
    | again => exact ⟨.same (ids_setOutput _) rfl (.inr ⟨o.id, hmem, rfl⟩), ids_setOutput _⟩

/-- The action may remove the output. -/
def Action.Removes (id : OutputId) : Action → Prop
  | .destroyOutput i => i = id
  | .shutdown => True
  | _ => False

theorem perform_asked [Renderer ρ] {action : Action} {answer : Answer}
    (h : b.perform action = .ok (answer, b')) (htake : action ≠ .takePending) :
    Asked b b' ∧ ∀ id ∈ b.ids, id ∉ b'.ids → action.Removes id := by
  have hstays : ∀ {c : Backend ρ}, b.ids ⊆ c.ids → ∀ id ∈ b.ids, id ∉ c.ids → action.Removes id :=
    fun hids id hid hgone => absurd (hids hid) hgone
  cases action with
  | takePending => exact absurd rfl htake
  | createOutput g =>
      obtain ⟨r, hc, rfl⟩ := of_map_ok h
      obtain ⟨hasked, hids⟩ := createOutput_asked hc
      exact ⟨hasked, hstays hids⟩
  | repaintOutput id damage =>
      obtain ⟨r, hr, rfl⟩ := of_map_ok h
      obtain ⟨hasked, hids⟩ := repaintOutput_asked hr
      exact ⟨hasked, hstays (hids ▸ List.Subset.refl _)⟩
  | destroyOutput id =>
      cases h
      obtain ⟨hqueue, hnext, hids⟩ := b.destroyOutput_queue id
      refine ⟨.still (congrArg RepaintQueue.pending hqueue) (fun i hi => ((hids i).mp hi).1) hnext,
        fun i hi hgone => ?_⟩
      by_contra hne
      exact hgone ((hids i).mpr ⟨hi, fun he => hne he.symm⟩)
  | shutdown =>
      cases h
      obtain ⟨hqueue, hnext, hids⟩ := b.shutdown_queue
      exact ⟨.still (congrArg RepaintQueue.pending hqueue) hids hnext, fun _ _ _ => trivial⟩
  | requestRepaint id =>
      cases h
      obtain ⟨hasked, hids⟩ := b.requestRepaint_asked id
      exact ⟨hasked, hstays (hids ▸ List.Subset.refl _)⟩
  | expire timer =>
      obtain ⟨he, rfl⟩ := of_expire_ok h
      obtain ⟨hasked, hids⟩ := expire_asked he
      exact ⟨hasked, hstays (hids ▸ List.Subset.refl _)⟩
  | _ =>
      cases h
      exact ⟨.same rfl rfl (.inl rfl), hstays (List.Subset.refl _)⟩

/-! ## Abandoned requests -/

/-- The step removed the output while its request was with the compositor. -/
structure Step.Abandons (id : OutputId) (step : Step ρ) : Prop where
  removes : step.action.Removes id
  pending : id ∈ step.before.queue.pending
  before : (step.before.output? id).isSome
  after : step.after.output? id = none

/-- The output was removed while its request was with the compositor, and the compositor did not take
the requests since. -/
def Abandoned (steps : List (Step ρ)) (id : OutputId) : Prop :=
  Since (Step.Abandons id) (·.action = .takePending) steps

/-- The waiting outputs differ, their numbers were given out, and those that are gone are the abandoned
ones. -/
structure Waiting (w : History ρ) : Prop where
  nodup : w.backend.queue.pending.Nodup
  pendingLow : ∀ id ∈ w.backend.queue.pending, id.raw < w.backend.nextOutput
  low : ∀ id ∈ w.backend.ids, id.raw < w.backend.nextOutput
  gone : ∀ id, (id ∈ w.backend.queue.pending ∧ id ∉ w.backend.ids) ↔ Abandoned w.steps id

section Runs

variable [Renderer ρ] {w w' : History ρ}

theorem take_of_perform {answer : Answer} (h : b.perform .takePending = .ok (answer, b')) :
    answer = .pending b.queue.pending ∧ b' = { b with queue := b.queue.takePending.2 } := by
  cases h
  exact ⟨rfl, rfl⟩

theorem Waiting.take (h : Waiting w) {answer : Answer}
    (hp : w.backend.perform .takePending = .ok (answer, w'.backend))
    (hsteps : w'.steps = w.steps ++ [⟨w.backend, .takePending, answer, w'.backend⟩]) : Waiting w' := by
  have hbackend := (take_of_perform hp).2
  have hpending : w'.backend.queue.pending = [] := by rw [hbackend]; rfl
  refine ⟨by simp [hpending], by simp [hpending], ?_, fun id => ?_⟩
  · rw [hbackend]
    exact h.low
  · rw [hpending, Abandoned, hsteps, since_concat]
    constructor
    · rintro ⟨hid, -⟩
      cases hid
    · rintro (habandons | ⟨-, hnot⟩)
      · exact habandons.removes.elim
      · exact absurd rfl hnot

theorem Waiting.step (h : Waiting w) {action : Action} {answer : Answer}
    (hp : w.backend.perform action = .ok (answer, w'.backend))
    (hsteps : w'.steps = w.steps ++ [⟨w.backend, action, answer, w'.backend⟩])
    (htake : action ≠ .takePending) : Waiting w' := by
  obtain ⟨hasked, hremoves⟩ := perform_asked hp htake
  have hlow : ∀ id ∈ w'.backend.ids, id.raw < w'.backend.nextOutput := by
    intro id hid
    rcases hasked.fresh id hid with hid | ⟨-, hlt⟩
    · exact UInt32.lt_of_lt_of_le (h.low id hid) hasked.next
    · exact hlt
  refine ⟨hasked.nodup h.nodup, fun id hid => ?_, hlow, fun id => ?_⟩
  · rcases hasked.asked id hid with hid | hid
    · exact UInt32.lt_of_lt_of_le (h.pendingLow id hid) hasked.next
    · exact hlow id hid
  · rw [Abandoned, hsteps, since_concat]
    constructor
    · rintro ⟨hid, hgone⟩
      have hbefore := (hasked.asked id hid).resolve_right hgone
      by_cases hthere : id ∈ w.backend.ids
      · exact .inl ⟨hremoves id hthere hgone, hbefore, output?_isSome.mpr hthere,
          output?_eq_none.mpr hgone⟩
      · exact .inr ⟨(h.gone id).mp ⟨hbefore, hthere⟩, htake⟩
    · rintro (habandons | ⟨habandoned, -⟩)
      · exact ⟨hasked.kept habandons.pending, output?_eq_none.mp habandons.after⟩
      · obtain ⟨hid, hgone⟩ := (h.gone id).mpr habandoned
        refine ⟨hasked.kept hid, fun hback => ?_⟩
        -- A new output has a number that no request was made for.
        rcases hasked.fresh id hback with hback | ⟨hnew, -⟩
        · exact hgone hback
        · exact UInt32.not_lt.mpr hnew (h.pendingLow id hid)

theorem Waiting.run (h : Waiting w) {actions : List Action} (hrun : w.run actions = .ok w') :
    Waiting w' := by
  refine History.run_induction h (fun w w' action answer hw hp hsteps => ?_) hrun
  by_cases htake : action = .takePending
  · subst htake
    exact hw.take hp hsteps
  · exact hw.step hp hsteps htake

/-- Outputs that exist still do after any number of repaints, so each repaint finds its output. -/
theorem repaints_found {work : List (OutputId × Damage)} (hwork : ∀ p ∈ work, p.1 ∈ w.backend.ids)
    (hrun : w.run (work.map fun p => .repaintOutput p.1 p.2) = .ok w') :
    ∃ more, w'.steps = w.steps ++ more ∧ more.map (·.action) = work.map (fun p => .repaintOutput p.1 p.2) ∧
      ∀ step ∈ more, ∀ id damage, step.action = .repaintOutput id damage →
        (step.before.output? id).isSome := by
  induction work generalizing w with
  | nil =>
      cases hrun
      exact ⟨[], by simp, rfl, by simp⟩
  | cons p work ih =>
      simp only [List.map_cons, History.run, bind, Except.bind] at hrun
      split at hrun
      · cases hrun
      · rename_i w₁ hp
        obtain ⟨answer, hperform, hsteps⟩ := History.step_of_perform hp
        obtain ⟨r, hr, -⟩ := of_map_ok hperform
        have hids := (repaintOutput_asked hr).2
        obtain ⟨more, hmore, hactions, hfound⟩ := ih
          (fun q hq => hids ▸ hwork q (List.mem_cons_of_mem p hq)) hrun
        refine ⟨⟨w.backend, .repaintOutput p.1 p.2, answer, w₁.backend⟩ :: more, ?_, ?_, ?_⟩
        · rw [hmore, hsteps, List.append_assoc, List.singleton_append]
        · rw [List.map_cons, List.map_cons, hactions]
        · intro step hstep id damage haction
          rcases List.mem_cons.mp hstep with rfl | hstep
          · cases haction
            exact output?_isSome.mpr (hwork p List.mem_cons_self)
          · exact hfound step hstep id damage haction

/-- The compositor is told of each waiting output once. An output among them still exists unless it was
removed while its request was waiting; repaints of the others, one right after the other, all find
their output, but a repaint of that one is a fatal fault. -/
theorem Unused.pending_exist_unless_abandoned {b : Backend ρ} (h : b.Unused)
    (hnone : b.queue.pending = []) {actions : List Action}
    (hrun : History.run { backend := b } actions = .ok w)
    {ids : List OutputId} (hids : w.backend.queue.takePending.1 = ids) :
    ids.Nodup ∧
    (∀ id ∈ ids, (w.backend.output? id).isSome ↔ ¬ Abandoned w.steps id) ∧
    (∀ id, Abandoned w.steps id → id ∈ ids ∧
      ∀ damage, w.backend.repaintOutput id damage = .ok (.error (.repaintOfUnknown id), w.backend)) ∧
    ∀ work : List (OutputId × Damage), (∀ p ∈ work, p.1 ∈ ids ∧ ¬ Abandoned w.steps p.1) →
      ∀ w', w.run (.takePending :: work.map fun p => .repaintOutput p.1 p.2) = .ok w' →
        ∃ taking more, w'.steps = w.steps ++ taking :: more ∧ taking.answer = .pending ids ∧
          more.map (·.action) = work.map (fun p => .repaintOutput p.1 p.2) ∧
          ∀ step ∈ more, ∀ id damage, step.action = .repaintOutput id damage →
            (step.before.output? id).isSome := by
  have hw : Waiting w := by
    refine Waiting.run ⟨?_, ?_, ?_, fun id => ?_⟩ hrun
    · simp [hnone]
    · simp [hnone]
    · simp [Backend.ids, h.outputs]
    · simp [hnone, Abandoned, not_since_nil]
  obtain rfl : w.backend.queue.pending = ids := hids
  have hexists : ∀ id ∈ w.backend.queue.pending, id ∈ w.backend.ids ↔ ¬ Abandoned w.steps id := by
    intro id hid
    rw [← hw.gone id]
    tauto
  refine ⟨hw.nodup, fun id hid => ?_, fun id hid => ?_, fun work hwork w' hrun' => ?_⟩
  · rw [output?_isSome]
    exact hexists id hid
  · obtain ⟨hpending, hgone⟩ := (hw.gone id).mpr hid
    refine ⟨hpending, fun damage => ?_⟩
    rw [repaintOutput, output?_eq_none.mpr hgone]
    rfl
  · simp only [History.run, bind, Except.bind] at hrun'
    split at hrun'
    · cases hrun'
    · rename_i w₁ hp
      obtain ⟨answer, hperform, hsteps⟩ := History.step_of_perform hp
      obtain ⟨hanswer, hbackend⟩ := take_of_perform hperform
      have hids : w₁.backend.ids = w.backend.ids := by rw [hbackend]; rfl
      obtain ⟨more, hmore, hactions, hfound⟩ := repaints_found
        (fun p hp => hids ▸ (hexists p.1 (hwork p hp).1).mpr (hwork p hp).2) hrun'
      refine ⟨⟨w.backend, .takePending, answer, w₁.backend⟩, more, ?_, hanswer, hactions, hfound⟩
      rw [hmore, hsteps, List.append_assoc, List.singleton_append]

end Runs

/-- An output is destroyed before the compositor has taken its first request, and the repaint that
answers the request is fatal. -/
theorem pending_after_destroy :
    ∃ b : Backend PatternRenderer, b.Unused ∧ b.queue.pending = [] ∧ ∃ w,
      History.run { backend := b } [.createOutput ⟨0, 0, 1, 1⟩, .destroyOutput ⟨0⟩] = .ok w ∧
      w.backend.queue.takePending.1 = [⟨0⟩] ∧ w.backend.output? ⟨0⟩ = none ∧
      w.backend.repaintOutput ⟨0⟩ (.full 1 1) = .ok (.error (.repaintOfUnknown ⟨0⟩), w.backend) ∧
      (Fault.repaintOfUnknown ⟨0⟩).isFatal = true := by
  let b : Backend PatternRenderer :=
    { settings := {}
      session := .ofRing (.ofCapacity 4 0) 0 1 [0]
      renderer := { width := 1, height := 1 } }
  refine ⟨b, ⟨rfl, rfl, rfl⟩, rfl, ?_⟩
  have hmade : (History.run { backend := b } [.createOutput ⟨0, 0, 1, 1⟩, .destroyOutput ⟨0⟩]).toOption.map
      (fun w => (w.backend.queue.takePending.1, w.backend.ids)) = some ([⟨0⟩], []) := by
    decide +kernel
  generalize hrun : History.run { backend := b } _ = r at hmade
  cases r with
  | error trap => cases hmade
  | ok w =>
      obtain ⟨hpending, hids⟩ : w.backend.queue.takePending.1 = [⟨0⟩] ∧ w.backend.ids = [] := by
        simpa only [Except.toOption, Option.map_some, Option.some.injEq, Prod.mk.injEq] using hmade
      have hnone : w.backend.output? ⟨0⟩ = none := by
        rw [output?_eq_none, hids]
        exact List.not_mem_nil
      refine ⟨w, rfl, hpending, hnone, ?_, rfl⟩
      rw [repaintOutput, hnone]
      rfl

/-- Of two new outputs the first is destroyed. Both numbers are waiting, and only the second one can be
repainted. -/
theorem pending_exist_unless_abandoned_second :
    ∃ b : Backend PatternRenderer, b.Unused ∧ b.queue.pending = [] ∧ ∃ w,
      History.run { backend := b } [.createOutput ⟨0, 0, 1, 1⟩, .createOutput ⟨0, 0, 1, 1⟩,
        .destroyOutput ⟨0⟩] = .ok w ∧
      w.backend.queue.takePending.1 = [⟨0⟩, ⟨1⟩] ∧ Abandoned w.steps ⟨0⟩ ∧ ¬ Abandoned w.steps ⟨1⟩ ∧
      (∀ damage, w.backend.repaintOutput ⟨0⟩ damage = .ok (.error (.repaintOfUnknown ⟨0⟩), w.backend)) ∧
      (w.backend.output? ⟨1⟩).isSome ∧
      ∃ w', w.run [.takePending, .repaintOutput ⟨1⟩ (.full 1 1)] = .ok w' ∧
        ∃ taking more, w'.steps = w.steps ++ taking :: more ∧ taking.answer = .pending [⟨0⟩, ⟨1⟩] ∧
          ∀ step ∈ more, ∀ id damage, step.action = .repaintOutput id damage →
            (step.before.output? id).isSome := by
  let b : Backend PatternRenderer :=
    { settings := {}
      session := .ofRing (.ofCapacity 8 0) 0 2 [0]
      renderer := { width := 1, height := 1 } }
  let actions : List Action :=
    [.createOutput ⟨0, 0, 1, 1⟩, .createOutput ⟨0, 0, 1, 1⟩, .destroyOutput ⟨0⟩]
  have hunused : b.Unused := ⟨rfl, rfl, rfl⟩
  have hmade : (History.run { backend := b } actions).toOption.map (fun w =>
        (w.backend.queue.takePending.1, w.backend.ids,
          (w.run [.takePending, .repaintOutput ⟨1⟩ (.full 1 1)]).isOk)) =
      some ([⟨0⟩, ⟨1⟩], [⟨1⟩], true) := by
    decide +kernel
  cases hrun : History.run { backend := b } actions with
  | error trap =>
      rw [hrun] at hmade
      cases hmade
  | ok w =>
      rw [hrun] at hmade
      obtain ⟨hpending, hids, hok⟩ : w.backend.queue.takePending.1 = [⟨0⟩, ⟨1⟩] ∧
          w.backend.ids = [⟨1⟩] ∧ (w.run [.takePending, .repaintOutput ⟨1⟩ (.full 1 1)]).isOk = true := by
        simpa only [Except.toOption, Option.map_some, Option.some.injEq, Prod.mk.injEq] using hmade
      obtain ⟨-, hexists, hfatal, hrepaints⟩ :=
        hunused.pending_exist_unless_abandoned rfl hrun hpending
      have hgone : Abandoned w.steps ⟨0⟩ := by
        by_contra hnot
        have hsome := (hexists ⟨0⟩ (by simp)).mpr hnot
        simp [output?_isSome, hids] at hsome
      have hthere : (w.backend.output? ⟨1⟩).isSome := by simp [output?_isSome, hids]
      have hkept := (hexists ⟨1⟩ (by simp)).mp hthere
      refine ⟨b, hunused, rfl, w, hrun, hpending, hgone, hkept, (hfatal ⟨0⟩ hgone).2, hthere, ?_⟩
      cases hrun' : w.run [.takePending, .repaintOutput ⟨1⟩ (.full 1 1)] with
      | error trap =>
          rw [hrun'] at hok
          cases hok
      | ok w' =>
          obtain ⟨taking, more, hsteps, hanswer, -, hfound⟩ :=
            hrepaints [(⟨1⟩, .full 1 1)] (by simpa using hkept) w' hrun'
          exact ⟨w', rfl, taking, more, hsteps, hanswer, hfound⟩

end RemoteDisplay.Backend
