import RemoteDisplay.Proofs.EventLoop.History

/-!
# Registrations that the host refuses

The host may refuse any registration. An update of a watch gives up the source that the watch has
before the host answers, so a refusal cuts the watch off: its mask stays on record, and nothing is
registered for it until an update to another mask is accepted. An update to the mask on record
changes nothing, whether the watch is cut off or not. Apart from that a watch is always registered
with the mask of its last accepted update.
-/

namespace RemoteDisplay.EventLoop

open EventHost LawfulEventHost

variable {H : Type} [EventHost H] {e e' : EventLoop H} {w : Watch} {id : WatchId} {mask : Mask}
  {log : List Happening}

/-- The host refuses the source that the watch would have for the mask. -/
def Unwilling (e : EventLoop H) (w : Watch) (mask : Mask) : Prop :=
  (register (remove e.host w.token) (.descriptor w.fd mask)).1 = none

/-- What an update of the watch `w` to `mask` answers and leaves behind. -/
structure UpdatesTo (e : EventLoop H) (log : List Happening) (w : Watch) (mask : Mask)
    (answer : Except Fault Unit) (e' : EventLoop H) : Prop where
  registered : ¬CutOff log w.id → source? e.host w.token = some w.source
  cutOff : CutOff log w.id → source? e.host w.token = none
  refused : (∃ fault, answer = .error fault) ↔ w.mask ≠ mask ∧ e.Unwilling w mask
  /-- The record of the watch stays, and its source is gone. -/
  failed : ∀ fault, answer = .error fault → fault = .watchRefused w.fd ∧ e'.watches = e.watches ∧
    source? e'.host w.token = none
  accepted : answer = .ok () → ∃ w', e'.watch? w.id = some w' ∧ w'.fd = w.fd ∧ w'.mask = mask ∧
    (¬(CutOff log w.id ∧ w.mask = mask) → source? e'.host w'.token = some (.descriptor w.fd mask))
  /-- To a watch that is cut off, the mask on record is no change. -/
  ignored : CutOff log w.id → w.mask = mask → answer = .ok () ∧ e' = e
  others : ∀ y ∈ e.watches, y.id ≠ w.id →
    y ∈ e'.watches ∧ source? e'.host y.token = source? e.host y.token
  timers : e'.timers = e.timers ∧
    ∀ t ∈ e.timers, ∀ k, t.armed = some k → source? e'.host k = source? e.host k

variable [LawfulEventHost H]

theorem Told.source?_eq (h : Told e log) (hw : w ∈ e.watches) :
    (¬CutOff log w.id → source? e.host w.token = some w.source) ∧
      (CutOff log w.id → source? e.host w.token = none) := by
  have hlost := (h.linked.lost_iff hw).symm.trans (h.lost w.id)
  exact ⟨fun hcut => (h.linked.source?_watch hw).resolve_right (mt hlost.mp hcut), hlost.mpr⟩

/-- The watches and timers apart from one watch, and their sources. -/
theorem Rewatched.others {new : Option Watch} (h : Rewatched e id new e') :
    (∀ y ∈ e.watches, y.id ≠ id →
      y ∈ e'.watches ∧ source? e'.host y.token = source? e.host y.token) ∧
    e'.timers = e.timers ∧ ∀ t ∈ e.timers, ∀ k, t.armed = some k → source? e'.host k = source? e.host k := by
  refine ⟨fun y hy hid => ⟨h.mem.mpr (.inr ⟨hy, hid⟩), ?_⟩, h.timers, fun t ht k hk => ?_⟩
  · refine h.keeps.source? _ (List.mem_append_right _ (List.mem_map_of_mem ?_))
    exact List.mem_filter.mpr ⟨hy, by simpa using hid⟩
  · exact h.keeps.source? _ (List.mem_append_left _ (List.mem_filterMap.mpr ⟨t, ht, hk⟩))

theorem Told.updatesTo (h : Told e log) (hw : e.watch? id = some w) (mask : Mask) :
    UpdatesTo e log w mask (e.updateWatch id mask).1 (e.updateWatch id mask).2 := by
  obtain ⟨hmem, rfl⟩ := mem_of_find?_key Watch.id hw
  obtain ⟨hon, hoff⟩ := h.source?_eq hmem
  have hupdating := h.linked.updateWatch hw mask
  rcases hu : e.updateWatch w.id mask with ⟨answer, e'⟩
  rw [hu] at hupdating
  cases hupdating with
  | kept hmask =>
      exact {
        registered := hon
        cutOff := hoff
        refused := by simp [hmask]
        failed := nofun
        accepted := fun _ => ⟨w, hw, rfl, hmask, fun hcut => hmask ▸ hon fun hc => hcut ⟨hc, hmask⟩⟩
        ignored := fun _ _ => ⟨rfl, rfl⟩
        others := fun y hy _ => ⟨hy, rfl⟩
        timers := ⟨rfl, fun _ _ _ _ => rfl⟩ }
  | refused hmask hunwilling hrewatched hgone =>
      obtain ⟨hothers, htimers⟩ := hrewatched.others
      exact {
        registered := hon
        cutOff := hoff
        refused := by simp [hmask, Unwilling, hunwilling]
        failed := by
          rintro fault ⟨⟩
          exact ⟨rfl, rfl, hgone⟩
        accepted := nofun
        ignored := fun _ hsame => absurd hsame hmask
        others := hothers
        timers := htimers }
  | replaced hmask hwilling hrewatched hsource =>
      obtain ⟨hothers, htimers⟩ := hrewatched.others
      exact {
        registered := hon
        cutOff := hoff
        refused := by simp [Unwilling, hwilling]
        failed := nofun
        accepted := fun _ => ⟨w.resourced _ mask, find?_key_of_mem Watch.id hrewatched.linked.watches
          (hrewatched.mem.mpr (.inl rfl)), rfl, rfl, fun _ => hsource⟩
        ignored := fun _ hsame => absurd hsame hmask
        others := hothers
        timers := htimers }

/-- Whatever was called before, and whatever the host refused: a refused update leaves no source, and an
accepted one leaves the mask asked for, unless the watch was cut off with just this mask on record. -/
theorem History.updatesTo_of_run {h : H} (hbare : Bare h) {calls : List Call} {v : History H}
    (hrun : (init h).run calls = .ok v) (hw : v.loop.watch? id = some w) (mask : Mask) :
    UpdatesTo v.loop v.log w mask (v.loop.updateWatch id mask).1 (v.loop.updateWatch id mask).2 :=
  (run_told calls (told_init hbare) hrun).updatesTo hw mask

/-- The host takes a watch and refuses its first update, so the next one finds it cut off. -/
theorem History.updatesTo_of_run_cut_off :
    let host : SourceHost := { refusals := [false, true] }
    let calls : List Call := [.addWatch 7 ⟨true, false⟩, .updateWatch ⟨1⟩ ⟨false, true⟩]
    let w : Watch := { id := ⟨1⟩, fd := 7, mask := ⟨true, false⟩, token := ⟨0⟩ }
    ∃ v, (init host).run calls = .ok v ∧ v.log = [.addedWatch ⟨1⟩, .updateRefused ⟨1⟩] ∧
      v.loop.watch? ⟨1⟩ = some w ∧
      UpdatesTo v.loop v.log w ⟨false, true⟩ (v.loop.updateWatch ⟨1⟩ ⟨false, true⟩).1
        (v.loop.updateWatch ⟨1⟩ ⟨false, true⟩).2 := by
  intro host calls w
  have hseen : ((init host).run calls).map (fun v => (v.log, v.loop.watch? ⟨1⟩)) =
      .ok ([.addedWatch ⟨1⟩, .updateRefused ⟨1⟩], some w) := by decide
  rcases hrun : (init host).run calls with t | v
  · rw [hrun] at hseen
    cases hseen
  · rw [hrun] at hseen
    obtain ⟨hlog, hw⟩ := Prod.mk.inj (Except.ok.inj hseen)
    exact ⟨v, rfl, hlog, hw, updatesTo_of_run (fun _ => rfl) hrun hw _⟩

/-- A watch for input is to wait for output, and the host refuses: nothing is registered any more. Asked
to wait for input again, the loop says that all is well. -/
theorem refused_update_cuts_off :
    let host : SourceHost := { refusals := [false, true] }
    ∃ before, ({ host } : EventLoop SourceHost).addWatch 7 ⟨true, false⟩ = .ok (.ok ⟨1⟩, before) ∧
      let refused := before.updateWatch ⟨1⟩ ⟨false, true⟩
      let again := refused.2.updateWatch ⟨1⟩ ⟨true, false⟩
      before.host.sources = [(⟨0⟩, .descriptor 7 ⟨true, false⟩)] ∧
        refused.1 = .error (.watchRefused 7) ∧ refused.2.watches = before.watches ∧
        refused.2.host.sources = [] ∧ again.1 = .ok () ∧ again.2.host.sources = [] :=
  ⟨_, rfl, by decide⟩

end RemoteDisplay.EventLoop
