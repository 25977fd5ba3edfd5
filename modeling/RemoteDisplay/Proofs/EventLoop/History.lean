import RemoteDisplay.Proofs.EventLoop.Sources
import RemoteDisplay.Proofs.Since

/-!
# What timers and watches went through

A run is any list of calls on a loop and of expiries. A timer is disarmed before its callback runs, so
whatever the callback calls is what the run goes on with. The log of a run tells what was started and
what ended; the loop agrees with it on what runs, on what exists, on what may still fire and on what is
without its source.
-/

namespace RemoteDisplay

open EventHost LawfulEventHost

inductive Happening where
  | addedTimer (timer : TimerId)
  /-- The timer was started, and the host has its source under the token. -/
  | started (timer : TimerId) (token : Token)
  /-- The host refused the start of the timer. -/
  | startRefused (timer : TimerId)
  | cancelled (timer : TimerId)
  | removed (timer : TimerId)
  /-- The source under the token expired, and the timer's callback ran. -/
  | fired (timer : TimerId) (token : Token)
  | addedWatch (watch : WatchId)
  /-- The host refused a new watch. -/
  | addRefused
  /-- The watch waits for something else, under a new source. -/
  | updatedWatch (watch : WatchId)
  /-- The watch was to wait for something else, and the host refused. -/
  | updateRefused (watch : WatchId)
  | removedWatch (watch : WatchId)
  /-- A number that nothing has, an update to the mask on record, a token without a source, or time that
  passed. -/
  | other
  deriving DecidableEq, Repr

namespace Happening

/-- The timer was started, or its start came to an end. -/
def Concerns (timer : TimerId) : Happening → Prop
  | started t _ => t = timer
  | startRefused t => t = timer
  | cancelled t => t = timer
  | removed t => t = timer
  | fired t _ => t = timer
  | _ => False

/-- The watch has a new source, or it is gone. -/
def Settles (watch : WatchId) : Happening → Prop
  | updatedWatch u => u = watch
  | removedWatch u => u = watch
  | _ => False

/-- The host refused a registration. -/
def isRefusal : Happening → Bool
  | startRefused _ => true
  | addRefused => true
  | updateRefused _ => true
  | _ => false

/-- The number that was given out. -/
def number? : Happening → Option Nat
  | addedTimer t => some t.raw
  | addedWatch w => some w.raw
  | _ => none

/-- The token that was given out. -/
def start? : Happening → Option Token
  | started _ token => some token
  | _ => none

def firing? : Happening → Option (TimerId × Token)
  | fired timer token => some (timer, token)
  | _ => none

end Happening

/-- The latest start of the timer has the token, and no expiry, cancel or removal of the timer followed, nor
a start that the host refused. -/
def Pending (log : List Happening) (timer : TimerId) (token : Token) : Prop :=
  Since (· = .started timer token) (·.Concerns timer) log

/-- An update of the watch was refused, and none has given it a source since. -/
def CutOff (log : List Happening) (watch : WatchId) : Prop :=
  Since (· = .updateRefused watch) (·.Settles watch) log

def numbers (log : List Happening) : List Nat := log.filterMap (·.number?)

def starts (log : List Happening) : List Token := log.filterMap (·.start?)

def firings (log : List Happening) : List (TimerId × Token) := log.filterMap (·.firing?)

theorem filterMap_concat {α β : Type} (f : α → Option β) (l : List α) (a : α) :
    (l ++ [a]).filterMap f = l.filterMap f ++ (f a).toList := by
  rw [List.filterMap_append]
  cases h : f a <;> simp [h]

namespace EventLoop

variable {H : Type} [EventHost H] {e e' : EventLoop H} {x : Happening} {log : List Happening}

/-! ## Calls -/

inductive Call where
  | addTimer (onFire : List TimerAction)
  | act (a : TimerAction)
  | addWatch (fd : Nat) (mask : Mask)
  | updateWatch (watch : WatchId) (mask : Mask)
  | removeWatch (watch : WatchId)
  /-- The source under the token expires. What the callback of its timer calls are the next calls. -/
  | strike (token : Token)
  | pass (ms : Nat)
  deriving DecidableEq, Repr

/-- Carries out a call, and says what happened. -/
def step (e : EventLoop H) : Call → Except Trap (Happening × EventLoop H)
  | .addTimer onFire => do
    let (timer, e) ← e.addTimer onFire
    return (.addedTimer timer, e)
  | .act (.start timer ms) =>
    match e.startTimer timer ms with
    | (.ok (), e) => return (((e.pending? timer).map (.started timer)).getD .other, e)
    | (.error _, e') => return (if (e.timer? timer).isSome then .startRefused timer else .other, e')
  | .act (.cancel timer) => return (.cancelled timer, e.cancelTimer timer)
  | .act (.remove timer) => return (.removed timer, e.removeTimer timer)
  | .addWatch fd mask => do
    match ← e.addWatch fd mask with
    | (.ok watch, e) => return (.addedWatch watch, e)
    | (.error _, e) => return (.addRefused, e)
  | .updateWatch watch mask =>
    match e.updateWatch watch mask with
    | (.ok (), e') =>
      return (if (e.watch? watch).any (·.mask ≠ mask) then .updatedWatch watch else .other, e')
    | (.error _, e') => return (if (e.watch? watch).isSome then .updateRefused watch else .other, e')
  | .removeWatch watch => return (.removedWatch watch, e.removeWatch watch)
  | .strike token =>
    match e.strike token with
    | (some t, e) => return (.fired t.id token, e)
    | (none, e) => return (.other, e)
  | .pass ms => return (.other, { e with now := e.now + ms })

/-- A loop, and what happened to it. -/
structure History (H : Type) where
  loop : EventLoop H
  log : List Happening := []

namespace History

def perform (w : History H) (c : Call) : Except Trap (History H) := do
  let (x, loop) ← w.loop.step c
  return { loop, log := w.log ++ [x] }

def run (w : History H) (calls : List Call) : Except Trap (History H) := calls.foldlM perform w

/-- A loop without timers and watches. -/
def init (h : H) : History H := { loop := { host := h } }

theorem run_cons (w : History H) (c : Call) (calls : List Call) :
    w.run (c :: calls) = w.perform c >>= fun v => v.run calls := List.foldlM_cons

theorem run_append (w : History H) (first second : List Call) :
    w.run (first ++ second) = w.run first >>= fun v => v.run second := List.foldlM_append

end History

/-! ## The loop and the log -/

/-- What a counter gave out, in order, before it stood at `n`. -/
structure Counted (n : Nat) (given : List Nat) : Prop where
  ascending : given.Pairwise (· < ·)
  below : ∀ m ∈ given, m < n

theorem Counted.concat {n n' : Nat} {f : Happening → Option Nat} (h : Counted n (log.filterMap f))
    (hle : n ≤ n') (hnew : ∀ m, f x = some m → m = n ∧ m < n') :
    Counted n' ((log ++ [x]).filterMap f) := by
  have hbelow : ∀ m ∈ log.filterMap f, m < n' := fun m hm => Nat.lt_of_lt_of_le (h.below m hm) hle
  rw [filterMap_concat]
  cases hx : f x with
  | none => simpa using (⟨h.ascending, hbelow⟩ : Counted n' _)
  | some m =>
      obtain ⟨rfl, hlt⟩ := hnew m hx
      refine ⟨List.pairwise_append.mpr ⟨h.ascending, by simp, fun k hk j hj => ?_⟩, fun k hk => ?_⟩
      · obtain rfl : j = m := by simpa using hj
        exact h.below k hk
      · rcases List.mem_append.mp hk with hk | hk
        · exact hbelow k hk
        · obtain rfl : k = m := by simpa using hk
          exact hlt

theorem lost_congr (hwatches : e'.watches = e.watches)
    (hkept : ∀ k ∈ e.watches.map (·.token), source? e'.host k = source? e.host k) (u : WatchId) :
    e'.Lost u ↔ e.Lost u := by
  unfold Lost
  rw [hwatches]
  refine exists_congr fun w => and_congr_right fun hw => ?_
  rw [hkept w.token (List.mem_map_of_mem hw)]

variable [LawfulEventHost H]

/-- What one happening says of the loops before and after it. -/
structure Follows (e : EventLoop H) (x : Happening) (e' : EventLoop H) : Prop where
  linked : e'.Linked
  pending : ∀ t k, e'.pending? t = some k ↔ x = .started t k ∨ (e.pending? t = some k ∧ ¬ x.Concerns t)
  timers : ∀ t, t ∈ e'.timers.map (·.id) ↔ x = .addedTimer t ∨ (t ∈ e.timers.map (·.id) ∧ x ≠ .removed t)
  watches : ∀ u, u ∈ e'.watches.map (·.id) ↔
    x = .addedWatch u ∨ (u ∈ e.watches.map (·.id) ∧ x ≠ .removedWatch u)
  lost : ∀ u, e'.Lost u ↔ x = .updateRefused u ∨ (e.Lost u ∧ ¬ x.Settles u)
  nextId : e.nextId.toNat ≤ e'.nextId.toNat
  number : ∀ n, x.number? = some n → n = e.nextId.toNat ∧ n < e'.nextId.toNat
  issued : ∀ k, Issued e.host k → Issued e'.host k
  start : ∀ k, x.start? = some k → ¬ Issued e.host k ∧ Issued e'.host k
  firing : ∀ t k, x = .fired t k → e.pending? t = some k

/-- The loop is as the log tells. -/
structure Told (e : EventLoop H) (log : List Happening) : Prop where
  linked : e.Linked
  pending : ∀ t k, e.pending? t = some k ↔ Pending log t k
  timers : ∀ t, t ∈ e.timers.map (·.id) ↔ Since (· = .addedTimer t) (· = .removed t) log
  watches : ∀ u, u ∈ e.watches.map (·.id) ↔ Since (· = .addedWatch u) (· = .removedWatch u) log
  lost : ∀ u, e.Lost u ↔ CutOff log u
  numbered : Counted e.nextId.toNat (numbers log)
  started : (starts log).Nodup ∧ ∀ k ∈ starts log, Issued e.host k
  single : ((firings log).map (·.2)).Nodup
  spent : ∀ p ∈ firings log, Issued e.host p.2 ∧ ∀ t, e.pending? t ≠ some p.2
  due : ∀ earlier t k later, log = earlier ++ .fired t k :: later → Pending earlier t k

/-- A start has a token that no start had before. -/
theorem Told.starts_follow (h : Told e log) (hx : Follows e x e') :
    (starts (log ++ [x])).Nodup ∧ ∀ k ∈ starts (log ++ [x]), Issued e'.host k := by
  obtain ⟨hnodup, hissued⟩ := h.started
  have hold : ∀ k ∈ starts log, Issued e'.host k := fun k hk => hx.issued k (hissued k hk)
  rw [starts, filterMap_concat, ← starts]
  cases hs : x.start? with
  | none => simpa using ⟨hnodup, hold⟩
  | some k =>
      obtain ⟨hfresh, hnew⟩ := hx.start k hs
      refine ⟨nodup_concat hnodup fun hmem => hfresh (hissued k hmem), fun j hj => ?_⟩
      rcases List.mem_append.mp hj with hj | hj
      · exact hold j hj
      · obtain rfl : j = k := by simpa using hj
        exact hnew

/-- A token that fired is not waited for, and never will be. -/
theorem Told.firings_follow (h : Told e log) (hx : Follows e x e') :
    ((firings (log ++ [x])).map (·.2)).Nodup ∧
      ∀ p ∈ firings (log ++ [x]), Issued e'.host p.2 ∧ ∀ t, e'.pending? t ≠ some p.2 := by
  have hold : ∀ p ∈ firings log, Issued e'.host p.2 ∧ ∀ t, e'.pending? t ≠ some p.2 := by
    intro p hp
    obtain ⟨hissued, hgone⟩ := h.spent p hp
    refine ⟨hx.issued _ hissued, fun t ht => ?_⟩
    rcases (hx.pending t p.2).mp ht with rfl | ⟨hbefore, -⟩
    · exact (hx.start p.2 rfl).1 hissued
    · exact hgone t hbefore
  rw [firings, filterMap_concat, ← firings, List.map_append]
  cases hp : x.firing? with
  | none => simpa using ⟨h.single, fun t k => hold (t, k)⟩
  | some p =>
      obtain ⟨t, k⟩ := p
      obtain rfl : x = .fired t k := by
        cases x <;> simp_all [Happening.firing?]
      have hpending := hx.firing t k rfl
      refine ⟨nodup_concat h.single fun hmem => ?_, fun p hp => ?_⟩
      · obtain ⟨q, hq, hqk⟩ := List.mem_map.mp hmem
        exact (h.spent q hq).2 t (by rw [hpending, hqk])
      · rcases List.mem_append.mp hp with hp | hp
        · exact hold p hp
        · obtain rfl : p = (t, k) := by simpa using hp
          refine ⟨hx.issued k (h.linked.pending_issued hpending), fun u hu => ?_⟩
          rcases (hx.pending u k).mp hu with he | ⟨hbefore, hnot⟩
          · cases he
          · exact hnot (h.linked.pending_inj hpending hbefore)

theorem Told.follow (h : Told e log) (hx : Follows e x e') : Told e' (log ++ [x]) := by
  obtain ⟨hfirings, hspent⟩ := h.firings_follow hx
  refine ⟨hx.linked, fun t k => ?_, fun t => ?_, fun u => ?_, fun u => ?_,
    h.numbered.concat hx.nextId hx.number, h.starts_follow hx, hfirings, hspent,
    fun earlier t k later hlog => ?_⟩
  · rw [hx.pending, h.pending, Pending, Pending, since_concat]
  · rw [hx.timers, h.timers, since_concat]
  · rw [hx.watches, h.watches, since_concat]
  · rw [hx.lost, h.lost, CutOff, CutOff, since_concat]
  · rcases List.eq_nil_or_concat later with rfl | ⟨later, y, rfl⟩
    · obtain ⟨rfl, hfired⟩ := List.append_inj' hlog rfl
      exact (h.pending t k).mp (hx.firing t k (List.singleton_inj.mp hfired))
    · rw [List.concat_eq_append, ← List.cons_append, ← List.append_assoc] at hlog
      exact h.due earlier t k later (List.append_inj' hlog rfl).1

/-! ## One call -/

/-- Nothing is said of timers or watches, and they are as they were. -/
theorem follows_other (e e' : EventLoop H) (hlinked : e'.Linked) (htimers : e'.timers = e.timers)
    (hwatches : e'.watches = e.watches) (hnext : e'.nextId = e.nextId)
    (hkeeps : Keeps e.host (e.watches.map (·.token)) e'.host) (hx : x = .other ∨ x = .addRefused) : Follows e x e' := by
  have hpending : ∀ t, e'.pending? t = e.pending? t := fun t => by
    rw [pending?, timer?, htimers]
    rfl
  have hlost := lost_congr hwatches hkeeps.source?
  rcases hx with rfl | rfl <;>
    exact ⟨hlinked, by simp [hpending, Happening.Concerns], by simp [htimers], by simp [hwatches],
      by simp [hlost, Happening.Settles], Nat.le_of_eq (congrArg _ hnext.symm),
      by simp [Happening.number?], hkeeps.issued, by simp [Happening.start?], by simp⟩

theorem follows_self (h : e.Linked) : Follows e .other e :=
  follows_other e e h rfl rfl rfl (keeps_self _ _) (.inl rfl)

/-- A timer was started, or its start ended. -/
theorem Retimed.follows {t : TimerId} {armed : Option Token} (h : Retimed e t armed e')
    (hpending : ∀ k, armed = some k ↔ x = .started t k) (hconcerns : ∀ u, x.Concerns u ↔ u = t)
    (htimers : ∀ u, u ∈ e'.timers.map (·.id) ↔ u ∈ e.timers.map (·.id) ∧ x ≠ .removed u)
    (hstart : ∀ k, x.start? = some k → ¬ Issued e.host k ∧ Issued e'.host k)
    (hfiring : ∀ u k, x = .fired u k → e.pending? u = some k) : Follows e x e' := by
  -- What concerns a timer is about no watch, and adds nothing.
  have hnot : ∀ y : Happening, (∀ u, ¬ y.Concerns u) → x ≠ y := by
    rintro y hy rfl
    exact hy t ((hconcerns t).mpr rfl)
  have hsettles : ∀ u, ¬ x.Settles u := by
    intro u hu
    cases x with
    | updatedWatch v => exact hnot (.updatedWatch v) (fun _ h => h) rfl
    | removedWatch v => exact hnot (.removedWatch v) (fun _ h => h) rfl
    | _ => exact hu
  refine ⟨h.linked, fun u k => ?_, fun u => ?_, fun w => ?_, fun w => ?_,
    Nat.le_of_eq (congrArg _ h.nextId.symm), fun n hn => ?_, h.keeps.issued, hstart, hfiring⟩
  · rw [h.pending u, hconcerns u]
    by_cases hu : u = t
    · subst hu
      simp [hpending]
    · have hother : x ≠ .started u k := by
        rintro rfl
        exact hu ((hconcerns u).mp rfl)
      simp [hu, hother]
  · simp [htimers, hnot (.addedTimer u) fun _ h => h]
  · simp [h.watches, hnot (.addedWatch w) fun _ h => h, hnot (.removedWatch w) fun _ h => h]
  · simp [lost_congr h.watches h.keeps.source?, hsettles, hnot (.updateRefused w) fun _ h => h]
  · cases x with
    | addedTimer u => exact absurd rfl (hnot (.addedTimer u) fun _ h => h)
    | addedWatch u => exact absurd rfl (hnot (.addedWatch u) fun _ h => h)
    | _ => cases hn

/-- A watch came, went or changed, and no timer did. -/
theorem Rewatched.follows {id : WatchId} {new : Option Watch} (h : Rewatched e id new e')
    (hconcerns : ∀ t, ¬ x.Concerns t) (hadded : ∀ t, x ≠ .addedTimer t)
    (hwatches : ∀ u, x = .addedWatch u ∨ (u ∈ e.watches.map (·.id) ∧ x ≠ .removedWatch u) ↔
      (u = id ∧ new.isSome) ∨ (u ∈ e.watches.map (·.id) ∧ u ≠ id))
    (hlost : ∀ u, x = .updateRefused u ∨ (e.Lost u ∧ ¬ x.Settles u) ↔
      (u = id ∧ ∃ w, new = some w ∧ source? e'.host w.token = none) ∨ (u ≠ id ∧ e.Lost u))
    (hnextId : e.nextId.toNat ≤ e'.nextId.toNat)
    (hnumber : ∀ n, x.number? = some n → n = e.nextId.toNat ∧ n < e'.nextId.toNat) : Follows e x e' := by
  have hpending : ∀ t, e'.pending? t = e.pending? t := fun t => by
    rw [pending?, timer?, h.timers]
    rfl
  have hnot : ∀ y : Happening, (∃ u, y.Concerns u) → x ≠ y := by
    rintro y ⟨u, hu⟩ rfl
    exact hconcerns u hu
  refine ⟨h.linked, fun t k => ?_, fun t => ?_, fun u => h.mem_ids.trans (hwatches u).symm,
    fun u => h.lost.trans (hlost u).symm, hnextId, hnumber, h.keeps.issued, fun k hk => ?_,
    fun t k ht => absurd ht (hnot _ ⟨t, rfl⟩)⟩
  · simp [hpending, hnot (.started t k) ⟨t, rfl⟩, hconcerns]
  · simp [h.timers, hadded, hnot (.removed t) ⟨t, rfl⟩]
  · cases x with
    | started t k => exact absurd rfl (hnot (.started t k) ⟨t, rfl⟩)
    | _ => cases hk

theorem Linked.step_start (h : e.Linked) (t : TimerId) (ms : UInt32)
    (hs : e.step (.act (.start t ms)) = .ok (x, e')) : Follows e x e' := by
  have hstarting := h.startTimer t ms
  simp only [step] at hs
  rcases hst : e.startTimer t ms with ⟨answer, e₁⟩
  rw [hst] at hstarting hs
  cases hstarting with
  | unknown ht =>
      cases hs
      simpa [ht] using follows_self h
  | refused ht _ hretimed hids =>
      cases hs
      rw [ht, Option.isSome_some, if_pos rfl]
      refine hretimed.follows (by simp) (fun u => eq_comm) (by simp [hids]) nofun nofun
  | started ht hfresh hretimed hids _ =>
      cases hs
      have hpending := (hretimed.pending t).trans (if_pos rfl)
      rw [hpending, Option.map_some, Option.getD_some]
      refine hretimed.follows (by simp) (fun u => eq_comm) (by simp [hids]) ?_ nofun
      rintro k ⟨⟩
      exact ⟨hfresh, hretimed.linked.pending_issued hpending⟩

theorem Linked.step_updateWatch (h : e.Linked) (u : WatchId) (mask : Mask)
    (hs : e.step (.updateWatch u mask) = .ok (x, e')) : Follows e x e' := by
  simp only [step] at hs
  cases hw : e.watch? u with
  | none =>
      rw [EventLoop.updateWatch, hw] at hs
      cases hs
      exact follows_self h
  | some w =>
      have hupdating := h.updateWatch hw mask
      obtain ⟨hmem, rfl⟩ := mem_of_find?_key Watch.id hw
      have hid := List.mem_map_of_mem (f := (·.id)) hmem
      rw [hw] at hs
      rcases hu : e.updateWatch w.id mask with ⟨answer, e₁⟩
      rw [hu] at hupdating hs
      cases hupdating with
      | kept hmask =>
          cases hs
          simpa [hmask] using follows_self h
      | refused hmask _ hrewatched hgone =>
          cases hs
          refine hrewatched.follows (fun _ => id) (by simp) (fun v => ?_) (fun v => ?_) (Nat.le_refl _)
            (by simp [Happening.number?])
          · by_cases hv : v = w.id <;> simp [hv, hid]
          · by_cases hv : v = w.id <;> simp [hv, hgone, Happening.Settles, eq_comm]
      | replaced hmask _ hrewatched hnew =>
          cases hs
          simp only [Option.any_some, hmask, ne_eq, not_false_eq_true, decide_true, if_true]
          refine hrewatched.follows (fun _ => id) (by simp) (fun v => ?_) (fun v => ?_) (Nat.le_refl _)
            (by simp [Happening.number?])
          · by_cases hv : v = w.id <;> simp [hv, hid]
          · by_cases hv : v = w.id <;> simp [hv, Watch.resourced, hnew, Happening.Settles, eq_comm]

theorem Linked.step_addWatch (h : e.Linked) (fd : Nat) (mask : Mask)
    (hs : e.step (.addWatch fd mask) = .ok (x, e')) : Follows e x e' := by
  have hadding := h.addWatch fd mask
  have hnew : (⟨e.nextId.toNat⟩ : WatchId) ∉ e.watches.map (·.id) :=
    fun hmem => Nat.lt_irrefl _ (h.watchLow _ hmem)
  have hlost : ¬ e.Lost ⟨e.nextId.toNat⟩ := by
    rintro ⟨w, hw, hid, -⟩
    exact hnew (hid ▸ List.mem_map_of_mem hw)
  simp only [step] at hs
  rcases ha : e.addWatch fd mask with t | ⟨answer, e₁⟩
  · rw [ha] at hs
    cases hs
  · rw [ha] at hadding hs
    cases hadding with
    | refused _ hlinked hkeeps =>
        cases hs
        refine follows_other e _ hlinked rfl rfl rfl ⟨hkeeps.issued, fun k hk => ?_⟩ (.inr rfl)
        exact hkeeps.source? k (List.mem_append_right _ hk)
    | added _ hrewatched hsource hnext =>
        cases hs
        refine hrewatched.follows (fun _ => id) nofun (fun v => ?_) (fun v => ?_) (by omega) ?_
        · by_cases hv : v = ⟨e.nextId.toNat⟩ <;> simp [hv, eq_comm]
        · by_cases hv : v = ⟨e.nextId.toNat⟩ <;> simp [hv, hsource, hlost, Happening.Settles]
        · rintro n ⟨⟩
          exact ⟨rfl, hnext ▸ Nat.lt_succ_self _⟩

theorem Linked.step_strike (h : e.Linked) (k : Token)
    (hs : e.step (.strike k) = .ok (x, e')) : Follows e x e' := by
  rcases h.strike k with ⟨t, hpending, hstrike⟩ | ⟨-, hstrike⟩
  · obtain ⟨hretimed, hids⟩ := h.cancelTimer t.id
    simp only [step, hstrike] at hs
    cases hs
    refine hretimed.follows (by simp) (fun u => eq_comm) (by simp [hids]) nofun ?_
    rintro u j ⟨⟩
    exact hpending
  · simp only [step, hstrike] at hs
    cases hs
    exact follows_self h

theorem Linked.step_follows (h : e.Linked) {c : Call} (hs : e.step c = .ok (x, e')) : Follows e x e' := by
  cases c with
  | addTimer onFire =>
      rcases h.addTimer onFire with ⟨-, ha⟩ | ⟨e₁, ha, hlinked, hpending, htimers, hwatches, hhost, hnext⟩
      · rw [step, ha] at hs
        cases hs
      · rw [step, ha] at hs
        cases hs
        refine ⟨hlinked, fun t k => ?_, fun t => ?_, fun u => ?_, fun u => ?_, by omega, ?_,
          fun k hk => hhost ▸ hk, nofun, nofun⟩
        · simp [hpending, Happening.Concerns]
        · simp [htimers, or_comm, eq_comm]
        · simp [hwatches]
        · simp [lost_congr hwatches (by simp [hhost]), Happening.Settles]
        · rintro n ⟨⟩
          exact ⟨rfl, hnext ▸ Nat.lt_succ_self _⟩
  | act a =>
      cases a with
      | start t ms => exact h.step_start t ms hs
      | cancel t =>
          obtain ⟨hretimed, hids⟩ := h.cancelTimer t
          cases hs
          exact hretimed.follows (by simp) (fun u => eq_comm) (by simp [hids]) nofun nofun
      | remove t =>
          obtain ⟨hretimed, hids⟩ := h.removeTimer t
          cases hs
          refine hretimed.follows (by simp) (fun u => eq_comm) (fun u => ?_) nofun nofun
          rw [hids]
          simp [eq_comm (a := u)]
  | addWatch fd mask => exact h.step_addWatch fd mask hs
  | updateWatch u mask => exact h.step_updateWatch u mask hs
  | removeWatch u =>
      obtain ⟨hrewatched, hnext⟩ := h.removeWatch u
      cases hs
      refine hrewatched.follows (fun _ => id) nofun (fun v => ?_) (fun v => ?_)
        (Nat.le_of_eq (congrArg _ hnext.symm)) nofun
      · simp [eq_comm (a := v)]
      · simp [Happening.Settles, eq_comm (a := v), and_comm]
  | strike k => exact h.step_strike k hs
  | pass ms =>
      cases hs
      exact follows_other e _ ⟨h.timers, h.watches, h.timerLow, h.watchLow, h.holds⟩ rfl rfl rfl
        (keeps_self _ _) (.inl rfl)

/-! ## Runs -/

namespace History

variable {w w' : History H}

theorem perform_told {c : Call} (h : Told w.loop w.log) (hp : w.perform c = .ok w') :
    Told w'.loop w'.log := by
  unfold perform at hp
  rcases hs : w.loop.step c with t | ⟨x, loop⟩
  · rw [hs] at hp
    cases hp
  · rw [hs] at hp
    cases hp
    exact h.follow (h.linked.step_follows hs)

theorem run_told (calls : List Call) (h : Told w.loop w.log) (hrun : w.run calls = .ok w') :
    Told w'.loop w'.log := by
  induction calls generalizing w with
  | nil =>
      cases hrun
      exact h
  | cons c calls ih =>
      rw [run_cons] at hrun
      rcases hp : w.perform c with t | v
      · rw [hp] at hrun
        cases hrun
      · rw [hp] at hrun
        exact ih (perform_told h hp) hrun

theorem told_init {h : H} (hh : Bare h) : Told (init h).loop (init h).log := by
  refine ⟨linked_bare hh, fun t k => ?_, fun t => ?_, fun u => ?_, fun u => ?_, ⟨.nil, by simp [init, numbers]⟩,
    ⟨.nil, by simp [init, starts]⟩, .nil, by simp [init, firings], by simp [init]⟩
  · simp [init, Pending, not_since_nil, pending?, timer?]
  · simp [init, not_since_nil]
  · simp [init, not_since_nil]
  · simp [init, CutOff, not_since_nil, Lost]

end History

end EventLoop

end RemoteDisplay
