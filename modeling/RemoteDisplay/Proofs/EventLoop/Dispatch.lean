import RemoteDisplay.Proofs.EventLoop.History

/-!
# Expiries and the calls of callbacks

A dispatch comes to a run: every source that is due expires, and the actions of the timer that it fires
follow before the next one. So what holds of runs holds of dispatches, whatever callbacks do. As long as
the host takes every source, a timer waits just from its latest start to the end of it, every start fires
once at most, and the host has one source for each timer that waits and for each watch.
-/

namespace RemoteDisplay.EventLoop

open EventHost LawfulEventHost

variable {H : Type} [EventHost H] {e : EventLoop H}

/-! ## Callbacks -/

/-- The calls that the expiry of sources comes to. -/
def firingCalls (e : EventLoop H) : List Token → List Call
  | [] => []
  | k :: ks =>
    let actions := ((e.strike k).1.map (·.onFire)).getD []
    (.strike k :: actions.map .act) ++ firingCalls (e.expire k).2 ks

theorem step_act (e : EventLoop H) (a : TimerAction) :
    ∃ x, e.step (.act a) = .ok (x, (e.act a).2) ∧ x.firing? = none := by
  cases a with
  | cancel t => exact ⟨_, rfl, rfl⟩
  | remove t => exact ⟨_, rfl, rfl⟩
  | start t ms =>
      simp only [step, act]
      rcases e.startTimer t ms with ⟨_ | _, e'⟩
      · refine ⟨_, rfl, ?_⟩
        split <;> rfl
      · refine ⟨_, rfl, ?_⟩
        cases e'.pending? t <;> rfl

namespace History

variable {w w' w'' : History H} {fired fired' : List TimerId}

/-- The calls lead from one history to another, and on the way the timers `fired` fire. -/
structure Leads (w : History H) (calls : List Call) (fired : List TimerId) (w' : History H) : Prop where
  run : w.run calls = .ok w'
  firings : (firings w'.log).map (·.1) = (firings w.log).map (·.1) ++ fired

theorem leads_nil (w : History H) : w.Leads [] [] w := ⟨rfl, (List.append_nil _).symm⟩

theorem Leads.append {calls calls' : List Call} (h : w.Leads calls fired w')
    (h' : w'.Leads calls' fired' w'') : w.Leads (calls ++ calls') (fired ++ fired') w'' :=
  ⟨by rw [run_append, h.run]; exact h'.run, by rw [h'.firings, h.firings, List.append_assoc]⟩

theorem leads_step {c : Call} {x : Happening} (hs : w.loop.step c = .ok (x, e)) :
    w.Leads [c] (x.firing?.toList.map (·.1)) { loop := e, log := w.log ++ [x] } := by
  have hperform : w.perform c = .ok { loop := e, log := w.log ++ [x] } := by
    rw [perform, hs]
    rfl
  refine ⟨?_, ?_⟩
  · rw [run_cons, hperform]
    rfl
  · rw [RemoteDisplay.firings, filterMap_concat, List.map_append]
    rfl

theorem actEach_snd_cons (e : EventLoop H) (a : TimerAction) (as : List TimerAction) :
    (e.actEach (a :: as)).2 = ((e.act a).2.actEach as).2 := by
  rw [actEach]
  rcases e.act a with ⟨answer, e'⟩
  cases answer <;> rfl

theorem leads_actEach (w : History H) (as : List TimerAction) :
    ∃ w', w.Leads (as.map .act) [] w' ∧ w'.loop = (w.loop.actEach as).2 := by
  induction as generalizing w with
  | nil => exact ⟨w, w.leads_nil, rfl⟩
  | cons a as ih =>
      obtain ⟨x, hs, hsilent⟩ := w.loop.step_act a
      have hcall := leads_step hs
      rw [hsilent] at hcall
      obtain ⟨w', hrest, hloop⟩ := ih { loop := (w.loop.act a).2, log := w.log ++ [x] }
      exact ⟨w', hcall.append hrest, by rw [hloop, actEach_snd_cons]⟩

/-- An expiry is one call, and the actions of the timer follow it. -/
theorem leads_expire (w : History H) (k : Token) :
    ∃ w', w.Leads (.strike k :: (((w.loop.strike k).1.map (·.onFire)).getD []).map .act)
      ((w.loop.expire k).1.toList.map (·.timer)) w' ∧ w'.loop = (w.loop.expire k).2 := by
  rw [expire_eq]
  rcases hstrike : w.loop.strike k with ⟨_ | t, e⟩
  · have hs : w.loop.step (.strike k) = .ok (.other, e) := by simp only [step, hstrike]; rfl
    exact ⟨_, leads_step hs, rfl⟩
  · have hs : w.loop.step (.strike k) = .ok (.fired t.id k, e) := by simp only [step, hstrike]; rfl
    obtain ⟨w', hactions, hloop⟩ :=
      leads_actEach { loop := e, log := w.log ++ [.fired t.id k] } t.onFire
    exact ⟨w', (leads_step hs).append hactions, hloop⟩

theorem leads_expireEach (w : History H) (ks : List Token) :
    ∃ w', w.Leads (w.loop.firingCalls ks) ((w.loop.expireEach ks).1.map (·.timer)) w' ∧
      w'.loop = (w.loop.expireEach ks).2 := by
  induction ks generalizing w with
  | nil => exact ⟨w, w.leads_nil, rfl⟩
  | cons k ks ih =>
      obtain ⟨v, hfirst, hv⟩ := w.leads_expire k
      obtain ⟨w', hrest, hloop⟩ := ih v
      rw [hv] at hrest hloop
      refine ⟨w', ?_, ?_⟩
      · rw [expireEach]
        rcases hone : w.loop.expire k with ⟨_ | f, e⟩ <;> simp only [hone] at hfirst hrest <;>
          simpa [firingCalls, hone] using hfirst.append hrest
      · rw [hloop, expireEach]
        rcases w.loop.expire k with ⟨_ | f, e⟩ <;> rfl

end History

/-! ## What holds of every run -/

/-- The host has one expiry for each timer that waits, one descriptor for each watch, and no other source. -/
structure Sourced (e : EventLoop H) : Prop where
  distinct : (e.armedTokens ++ e.watches.map (·.token)).Nodup
  timer : ∀ k ∈ e.armedTokens, ∃ time, source? e.host k = some (.expiry time)
  watch : ∀ u ∈ e.watches, source? e.host u.token = some u.source
  only : ∀ k s, source? e.host k = some s → k ∈ e.armedTokens ++ e.watches.map (·.token)

namespace History

variable {w : History H}

/-- What the log of a run says, and what the loop does. -/
structure AsTold (w : History H) : Prop where
  armed : ∀ t, w.loop.isArmed t = true ↔ (w.loop.timer? t).isSome = true ∧ ∃ k, Pending w.log t k
  /-- What fires is the latest start, and nothing has ended it. -/
  fired : ∀ earlier t k later, w.log = earlier ++ .fired t k :: later → Pending earlier t k
  /-- No two starts have one token. -/
  started : (starts w.log).Nodup
  firedOnce : ((firings w.log).map (·.2)).Nodup
  sources : w.loop.Sourced
  numbered : (numbers w.log).Pairwise (· < ·)
  timer : ∀ t, (w.loop.timer? t).isSome = true ↔ Since (· = .addedTimer t) (· = .removed t) w.log
  watch : ∀ u, (w.loop.watch? u).isSome = true ↔ Since (· = .addedWatch u) (· = .removedWatch u) w.log
  /-- A timer is added under the next number, as long as there is one. -/
  newTimer : ∀ onFire, w.loop.nextId.toNat + 1 < 18446744073709551616 →
    ∃ e, w.loop.addTimer onFire = .ok (⟨w.loop.nextId.toNat⟩, e) ∧
      e.timers = w.loop.timers ++ [{ id := ⟨w.loop.nextId.toNat⟩, onFire }]
  /-- So is a watch, if the host takes its source. -/
  newWatch : ∀ fd mask k, (register w.loop.host (.descriptor fd mask)).1 = some k →
    w.loop.nextId.toNat + 1 < 18446744073709551616 →
    ∃ e, w.loop.addWatch fd mask = .ok (.ok ⟨w.loop.nextId.toNat⟩, e) ∧
      e.watch? ⟨w.loop.nextId.toNat⟩ = some ⟨⟨w.loop.nextId.toNat⟩, fd, mask, k⟩ ∧
      source? e.host k = some (.descriptor fd mask)
  /-- A timer that exists is started, unless the host refuses. -/
  liveTimer : ∀ t ms x, w.loop.timer? t = some x →
    (register (w.loop.dropSource x).host (.expiry (w.loop.now + ms.toNat))).1.isSome = true →
    ∃ e k, w.loop.startTimer t ms = (.ok (), e) ∧ e.pending? t = some k ∧
      source? e.host k = some (.expiry (w.loop.now + ms.toNat))
  deadTimer : ∀ t, w.loop.timer? t = none →
    (∀ ms, w.loop.startTimer t ms =
      (.error (.protocolViolation s!"start of removed timer {t.debug}"), w.loop)) ∧
      w.loop.cancelTimer t = w.loop ∧ w.loop.removeTimer t = w.loop
  /-- A watch that exists is updated, unless the host refuses. -/
  liveWatch : ∀ u mask x, w.loop.watch? u = some x →
    (register (remove w.loop.host x.token) (.descriptor x.fd mask)).1.isSome = true →
    ∃ e y, w.loop.updateWatch u mask = (.ok (), e) ∧ e.watch? u = some y ∧ y.fd = x.fd ∧
      y.mask = mask ∧ source? e.host y.token = some (.descriptor x.fd mask)
  deadWatch : ∀ u, w.loop.watch? u = none →
    (∀ mask, w.loop.updateWatch u mask =
      (.error (.protocolViolation s!"update of removed watch {u.debug}"), w.loop)) ∧
      w.loop.removeWatch u = w.loop
  /-- A token that a timer waits for fires that timer, and every other one does nothing. -/
  expiry : ∀ k, (∃ t, Pending w.log t k ∧ (w.loop.expire k).1.map (·.timer) = some t) ∨
    ((∀ t, ¬ Pending w.log t k) ∧ w.loop.expire k = (none, w.loop))
  /-- Due are the starts that nothing has ended and whose time has come. -/
  due : ∀ k, k ∈ due w.loop.host w.loop.now ↔ ∃ t time, Pending w.log t k ∧ time ≤ w.loop.now ∧
    source? w.loop.host k = some (.expiry time)
  /-- A dispatch goes as the run that fires what is due, each expiry followed by the actions of its timer. -/
  dispatched : ∃ v, w.Leads (w.loop.firingCalls (EventHost.due w.loop.host w.loop.now))
    (w.loop.dispatchTimers.1.map (·.timer)) v ∧ v.loop = w.loop.dispatchTimers.2

variable [LawfulEventHost H]

/-- Every watch has its source until an update is refused. -/
theorem sourced_of_told (h : Told w.loop w.log) (hwilling : ∀ x ∈ w.log, x.isRefusal = false) :
    w.loop.Sourced := by
  have htokens : (w.loop.watches.map (·.entry)).map (·.1) = w.loop.watches.map (·.token) := List.map_map
  have hnodup := h.linked.holds.nodup
  have honly := h.linked.holds.only
  rw [htokens] at hnodup honly
  refine ⟨hnodup, h.linked.holds.expiry, fun u hu => ?_, honly⟩
  refine (h.linked.source?_watch hu).resolve_right fun hnone => ?_
  obtain ⟨earlier, x, later, hlog, rfl, -⟩ := (h.lost u.id).mp ((h.linked.lost_iff hu).mpr hnone)
  have hrefusal := hwilling (.updateRefused u.id) (by rw [hlog]; simp)
  cases hrefusal

theorem pending_of_expiry (h : Told w.loop w.log) {k : Token} {time : Nat}
    (hs : source? w.loop.host k = some (.expiry time)) : ∃ t, Pending w.log t k := by
  rcases List.mem_append.mp (h.linked.holds.only k _ hs) with hk | hk
  · obtain ⟨t, ht, harmed⟩ := List.mem_filterMap.mp hk
    exact ⟨t.id, (h.pending t.id k).mp (h.linked.pending?_eq_some.mpr ⟨t, ht, rfl, harmed⟩)⟩
  · obtain ⟨p, hp, rfl⟩ := List.mem_map.mp hk
    obtain ⟨u, -, rfl⟩ := List.mem_map.mp hp
    cases h.linked.holds.source _ hp _ hs

theorem asTold_of_told (h : Told w.loop w.log) (hwilling : ∀ x ∈ w.log, x.isRefusal = false) :
    w.AsTold where
  armed t := by
    rw [isArmed_eq, Option.isSome_iff_exists]
    constructor
    · rintro ⟨k, hk⟩
      obtain ⟨timer, ht, -⟩ := Option.bind_eq_some_iff.mp hk
      exact ⟨Option.isSome_of_eq_some ht, k, (h.pending t k).mp hk⟩
    · rintro ⟨-, k, hk⟩
      exact ⟨k, (h.pending t k).mpr hk⟩
  fired := h.due
  started := h.started.1
  firedOnce := h.single
  sources := sourced_of_told h hwilling
  numbered := h.numbered.ascending
  timer t := (find?_key_isSome Timer.id).trans (h.timers t)
  watch u := (find?_key_isSome Watch.id).trans (h.watches u)
  newTimer onFire hroom := by
    rcases h.linked.addTimer onFire with ⟨hfull, -⟩ | ⟨e, hadd, -, -, htimers, -⟩
    · omega
    · exact ⟨e, hadd, htimers⟩
  newWatch fd mask k hk hroom := by
    have hadding := h.linked.addWatch fd mask
    rcases hadd : w.loop.addWatch fd mask with t | ⟨answer, e⟩
    · rw [hadd] at hadding
      cases hadding with
      | full _ hfull => omega
    · rw [hadd] at hadding
      cases hadding with
      | refused hr _ _ =>
          rw [hr] at hk
          cases hk
      | added hk' hrewatched hsource _ =>
          obtain rfl := Option.some.inj (hk.symm.trans hk')
          exact ⟨e, rfl, find?_key_of_mem Watch.id hrewatched.linked.watches
            (hrewatched.mem.mpr (.inl rfl)), hsource⟩
  liveTimer t ms x ht hk := by
    have hstarting := h.linked.startTimer t ms
    rcases hstart : w.loop.startTimer t ms with ⟨answer, e⟩
    rw [hstart] at hstarting
    cases hstarting with
    | unknown hnone => cases ht.symm.trans hnone
    | refused ht' hr _ _ =>
        obtain rfl := Option.some.inj (ht.symm.trans ht')
        rw [hr] at hk
        cases hk
    | started _ _ hretimed _ hsource =>
        exact ⟨e, _, rfl, (hretimed.pending t).trans (if_pos rfl), hsource⟩
  deadTimer t ht := by
    refine ⟨fun ms => ?_, ?_, ?_⟩
    · rw [startTimer, ht]
      rfl
    · rw [cancelTimer, ht]
    · rw [removeTimer, ht]
  liveWatch u mask x hu hk := by
    have hupdating := h.linked.updateWatch hu mask
    obtain ⟨hmem, rfl⟩ := mem_of_find?_key Watch.id hu
    rcases hupdate : w.loop.updateWatch x.id mask with ⟨answer, e⟩
    rw [hupdate] at hupdating
    cases hupdating with
    | kept hmask =>
        exact ⟨_, x, rfl, hu, rfl, hmask, hmask ▸ (sourced_of_told h hwilling).watch x hmem⟩
    | refused _ hr _ _ =>
        rw [hr] at hk
        cases hk
    | replaced _ _ hrewatched hsource =>
        exact ⟨_, x.resourced _ mask, rfl, find?_key_of_mem Watch.id hrewatched.linked.watches
          (hrewatched.mem.mpr (.inl rfl)), rfl, rfl, hsource⟩
  deadWatch u hu := by
    refine ⟨fun mask => ?_, ?_⟩
    · rw [updateWatch, hu]
      rfl
    · rw [removeWatch, hu]
  expiry k := by
    rw [expire_eq]
    rcases h.linked.strike k with ⟨t, hpending, hs⟩ | ⟨hnone, hs⟩
    · rw [hs]
      exact .inl ⟨t.id, (h.pending t.id k).mp hpending, rfl⟩
    · rw [hs]
      exact .inr ⟨fun t ht => hnone t ((h.pending t k).mpr ht), rfl⟩
  due k := by
    rw [mem_due]
    constructor
    · rintro ⟨time, htime, hs⟩
      obtain ⟨t, ht⟩ := pending_of_expiry h hs
      exact ⟨t, time, ht, htime, hs⟩
    · rintro ⟨-, time, -, htime, hs⟩
      exact ⟨time, htime, hs⟩
  dispatched := w.leads_expireEach _

/-- On a host without sources, which keeps its promises and takes every source. -/
theorem run_as_told {h : H} (hbare : Bare h) {calls : List Call} (hrun : (init h).run calls = .ok w)
    (hwilling : ∀ x ∈ w.log, x.isRefusal = false) : w.AsTold :=
  asTold_of_told (run_told calls (told_init hbare) hrun) hwilling

/-- A timer is started twice, and its second start fires. A watch waits for something else. -/
theorem run_as_told_restarted :
    let calls : List Call := [.addTimer [], .act (.start ⟨1⟩ 5), .act (.start ⟨1⟩ 9),
      .addWatch 7 ⟨true, false⟩, .strike ⟨0⟩, .pass 9, .strike ⟨1⟩, .updateWatch ⟨2⟩ ⟨false, true⟩]
    ∃ w, (init ({} : SourceHost)).run calls = .ok w ∧
      w.log = [.addedTimer ⟨1⟩, .started ⟨1⟩ ⟨0⟩, .started ⟨1⟩ ⟨1⟩, .addedWatch ⟨2⟩, .other, .other,
        .fired ⟨1⟩ ⟨1⟩, .updatedWatch ⟨2⟩] ∧ w.AsTold := by
  intro calls
  have hlog : ((init ({} : SourceHost)).run calls).map (·.log) = .ok [.addedTimer ⟨1⟩,
      .started ⟨1⟩ ⟨0⟩, .started ⟨1⟩ ⟨1⟩, .addedWatch ⟨2⟩, .other, .other, .fired ⟨1⟩ ⟨1⟩,
      .updatedWatch ⟨2⟩] := by decide
  rcases hrun : (init ({} : SourceHost)).run calls with t | w
  · rw [hrun] at hlog
    cases hlog
  · rw [hrun] at hlog
    have hw : w.log = _ := Except.ok.inj hlog
    exact ⟨w, rfl, hw, run_as_told (fun _ => rfl) hrun (by rw [hw]; decide)⟩

end History

end RemoteDisplay.EventLoop
