import RemoteDisplay.EventLoop.Basic
import RemoteDisplay.Proofs.Checked
import RemoteDisplay.Proofs.Table

/-!
# Timers and watches and their sources

A host that keeps its promises has, for a loop, an expiry for every timer that waits, at most one source
for every watch, and no other. Every operation keeps it so: an expiry goes with the start that it stands
for, and comes with the next one. A watch is without its source only after the host refused an update.
-/

namespace RemoteDisplay

open EventHost

/-! ## The host -/

/-- What a host promises of its sources. Every accepted source has a token that was not given out before,
and is kept under it until it is removed. Just the expiries whose time has come are due. -/
class LawfulEventHost (H : Type) [EventHost H] where
  /-- The token was given out. -/
  Issued : H → Token → Prop
  issued_of_source? {h : H} {k : Token} {s : Source} : source? h k = some s → Issued h k
  issued_register {h : H} {s : Source} {k : Token} : Issued h k → Issued (register h s).2 k
  issued_remove {h : H} {j k : Token} : Issued h k → Issued (remove h j) k
  fresh {h h' : H} {s : Source} {k : Token} : register h s = (some k, h') → ¬Issued h k
  source?_register {h h' : H} {s : Source} {answer : Option Token} :
    register h s = (answer, h') → ∀ k, source? h' k = if answer = some k then some s else source? h k
  source?_remove (h : H) (j k : Token) : source? (remove h j) k = if k = j then none else source? h k
  mem_due {h : H} {now : Nat} {k : Token} :
    k ∈ due h now ↔ ∃ time, time ≤ now ∧ source? h k = some (.expiry time)
  due_nodup (h : H) (now : Nat) : (due h now).Nodup

open LawfulEventHost

namespace SourceHost

variable {h : SourceHost} {k : Token} {s : Source}

theorem tokens_nodup (h : SourceHost) : (h.sources.map (·.1)).Nodup := by
  refine List.Pairwise.map _ ?_ (List.pairwise_map.mp h.ascending)
  rintro p q hlt heq
  rw [heq] at hlt
  exact Nat.lt_irrefl _ hlt

theorem mem_of_source? (hs : source? h k = some s) : (k, s) ∈ h.sources := by
  obtain ⟨before, after, hsplit, -⟩ := List.lookup_eq_some_iff.mp hs
  rw [hsplit]
  exact List.mem_append_right _ List.mem_cons_self

theorem source?_of_mem (hs : (k, s) ∈ h.sources) : source? h k = some s := by
  cases hk : source? h k with
  | none => simpa using List.lookup_eq_none_iff.mp hk _ hs
  | some s' =>
      have heq := List.inj_on_of_nodup_map h.tokens_nodup hs (mem_of_source? hk) rfl
      exact congrArg (some ·.2) heq.symm

theorem source?_add (h : SourceHost) (s : Source) (k : Token) :
    source? (h.add s) k = if (⟨h.next⟩ : Token) = k then some s else source? h k := by
  by_cases hk : (⟨h.next⟩ : Token) = k
  · subst hk
    rw [if_pos rfl]
    exact source?_of_mem (List.mem_append_right _ List.mem_cons_self)
  · have hne : (k == ⟨h.next⟩) = false := by simpa using Ne.symm hk
    rw [if_neg hk]
    simp [source?, add, List.lookup_append, List.lookup_cons, hne]

theorem source?_keep (h : SourceHost) (j k : Token) :
    source? (h.keep (·.1 ≠ j)) k = if k = j then none else source? h k := by
  split
  · rename_i hk
    subst hk
    refine List.lookup_eq_none_iff.mpr fun p hp => ?_
    simpa using Ne.symm (by simpa using (List.mem_filter.mp hp).2)
  · rename_i hk
    exact lookup_filter hk

theorem mem_due {now : Nat} :
    k ∈ due h now ↔ ∃ time, time ≤ now ∧ source? h k = some (.expiry time) := by
  simp only [due, List.mem_filterMap]
  constructor
  · rintro ⟨⟨j, s⟩, hmem, hs⟩
    cases s with
    | descriptor fd mask => cases hs
    | expiry time =>
        simp only [Option.ite_none_right_eq_some, Option.some.injEq] at hs
        obtain ⟨htime, rfl⟩ := hs
        exact ⟨time, htime, source?_of_mem hmem⟩
  · rintro ⟨time, htime, hs⟩
    exact ⟨(k, .expiry time), mem_of_source? hs, by simp [htime]⟩

theorem due_nodup (h : SourceHost) (now : Nat) : (due h now).Nodup := by
  refine List.pairwise_filterMap.mpr ((List.pairwise_map.mp h.ascending).imp ?_)
  rintro ⟨j, s⟩ ⟨k, s'⟩ hlt a ha b hb rfl
  cases s <;> cases s' <;> simp_all

instance : LawfulEventHost SourceHost where
  Issued h k := k.raw < h.next
  issued_of_source? hs := SourceHost.below _ _ (mem_of_source? hs)
  issued_register {h s k} hk := by
    simp only [register]
    split
    · exact hk
    · exact Nat.lt_succ_of_lt hk
  issued_remove hk := hk
  fresh {h h' s k} hr := by
    simp only [register] at hr
    split at hr
    · cases hr
    · cases hr
      exact Nat.lt_irrefl _
  source?_register {h h' s answer} hr k := by
    simp only [register] at hr
    split at hr
    · cases hr
      rw [if_neg nofun]
      rfl
    · cases hr
      rw [source?_add]
      simp only [Option.some.injEq]
      rfl
  source?_remove := source?_keep
  mem_due := mem_due
  due_nodup := due_nodup

end SourceHost

namespace EventHost

variable {H : Type} [EventHost H] [LawfulEventHost H] {h h' h'' : H} {ks ks' : List Token}
  {ds ds' : List (Token × Source)} {j k : Token} {s : Source} {answer : Option Token}

/-- No token is forgotten, and the sources under the tokens `ks` are as they were. -/
structure Keeps (h : H) (ks : List Token) (h' : H) : Prop where
  issued : ∀ k, Issued h k → Issued h' k
  source? : ∀ k ∈ ks, EventHost.source? h' k = EventHost.source? h k

theorem keeps_self (h : H) (ks : List Token) : Keeps h ks h := ⟨fun _ hk => hk, fun _ _ => rfl⟩

theorem Keeps.trans (hh : Keeps h ks h') (hh' : Keeps h' ks h'') : Keeps h ks h'' :=
  ⟨fun k hk => hh'.issued k (hh.issued k hk), fun k hk => (hh'.source? k hk).trans (hh.source? k hk)⟩

theorem keeps_remove (h : H) (hj : j ∉ ks) : Keeps h ks (remove h j) := by
  refine ⟨fun _ => issued_remove, fun k hk => ?_⟩
  rw [source?_remove, if_neg]
  rintro rfl
  exact hj hk

theorem keeps_register (hr : register h s = (answer, h')) (hks : ∀ k ∈ ks, Issued h k) :
    Keeps h ks h' := by
  refine ⟨fun k hk => ?_, fun k hk => ?_⟩
  · have hissued := issued_register (s := s) hk
    rwa [hr] at hissued
  · rw [source?_register hr, if_neg]
    rintro rfl
    exact fresh hr (hks k hk)

/-- The host keeps an expiry under each of the tokens `ks`, each of the sources `ds` if any under its token,
and nothing else. -/
structure Holds (h : H) (ks : List Token) (ds : List (Token × Source)) : Prop where
  nodup : (ks ++ ds.map (·.1)).Nodup
  issued : ∀ k ∈ ks ++ ds.map (·.1), Issued h k
  expiry : ∀ k ∈ ks, ∃ time, source? h k = some (.expiry time)
  source : ∀ p ∈ ds, ∀ s, source? h p.1 = some s → s = p.2
  only : ∀ k s, source? h k = some s → k ∈ ks ++ ds.map (·.1)

theorem Holds.perm (hh : Holds h ks ds) (hks : ks.Perm ks') (hds : ds.Perm ds') : Holds h ks' ds' := by
  have hperm : (ks ++ ds.map (·.1)).Perm (ks' ++ ds'.map (·.1)) := hks.append (hds.map _)
  exact ⟨hperm.nodup_iff.mp hh.nodup, fun k hk => hh.issued k (hperm.mem_iff.mpr hk),
    fun k hk => hh.expiry k (hks.mem_iff.mpr hk), fun p hp => hh.source p (hds.mem_iff.mpr hp),
    fun k s hs => hperm.mem_iff.mp (hh.only k s hs)⟩

theorem Holds.remove (hh : Holds h ks ds)
    (hsplit : (ks ++ ds.map (·.1)).Perm (k :: (ks' ++ ds'.map (·.1)))) (hks : ks' ⊆ ks) (hds : ds' ⊆ ds) :
    Holds (remove h k) ks' ds' := by
  obtain ⟨hk, hnodup⟩ := List.nodup_cons.mp (hsplit.nodup_iff.mp hh.nodup)
  have hkept := (keeps_remove h hk).source?
  refine ⟨hnodup, fun j hj => issued_remove (hh.issued j ?_), fun j hj => ?_, fun p hp s hs => ?_,
    fun j s hs => ?_⟩
  · exact hsplit.mem_iff.mpr (List.mem_cons_of_mem _ hj)
  · rw [hkept j (List.mem_append_left _ hj)]
    exact hh.expiry j (hks hj)
  · rw [hkept p.1 (List.mem_append_right _ (List.mem_map_of_mem hp))] at hs
    exact hh.source p (hds hp) s hs
  · rw [source?_remove, Option.ite_none_left_eq_some] at hs
    exact (List.mem_cons.mp (hsplit.mem_iff.mp (hh.only j s hs.2))).resolve_left hs.1

/-- One of the sources `ds` may be missing. -/
theorem Holds.unregister (hh : Holds h ks ds) (hk : k ∈ ds.map (·.1)) : Holds (EventHost.remove h k) ks ds := by
  have hne : k ∉ ks := fun hks => (List.nodup_append.mp hh.nodup).2.2 k hks k hk rfl
  have hsource : ∀ j s, source? (EventHost.remove h k) j = some s → source? h j = some s := by
    intro j s hs
    rw [source?_remove, Option.ite_none_left_eq_some] at hs
    exact hs.2
  refine ⟨hh.nodup, fun j hj => issued_remove (hh.issued j hj), fun j hj => ?_,
    fun p hp s hs => hh.source p hp s (hsource _ _ hs), fun j s hs => hh.only j s (hsource j s hs)⟩
  rw [(keeps_remove h hne).source? j hj]
  exact hh.expiry j hj

theorem Holds.refused (hh : Holds h ks ds) (hr : register h s = (none, h')) : Holds h' ks ds := by
  have hsource : ∀ j, source? h' j = source? h j := fun j => by
    rw [source?_register hr, if_neg nofun]
  have hissued := (keeps_register hr hh.issued).issued
  refine ⟨hh.nodup, fun j hj => hissued j (hh.issued j hj), fun j hj => ?_, fun p hp s hs => ?_,
    fun j s hs => ?_⟩
  · rw [hsource]
    exact hh.expiry j hj
  · rw [hsource] at hs
    exact hh.source p hp s hs
  · rw [hsource] at hs
    exact hh.only j s hs

theorem Holds.register (hh : Holds h ks ds) (hr : EventHost.register h s = (some k, h'))
    (hperm : (ks' ++ ds'.map (·.1)).Perm (k :: (ks ++ ds.map (·.1))))
    (hks : ∀ j ∈ ks', j ∈ ks ∨ (j = k ∧ ∃ time, s = .expiry time))
    (hds : ∀ p ∈ ds', p ∈ ds ∨ p = (k, s)) : Holds h' ks' ds' := by
  have hnew : source? h' k = some s := by rw [source?_register hr, if_pos rfl]
  have hkeeps := keeps_register hr hh.issued
  have hold : ∀ j ∈ ks ++ ds.map (·.1), source? h' j = source? h j := hkeeps.source?
  refine ⟨?_, fun j hj => ?_, fun j hj => ?_, fun p hp s' hs => ?_, fun j s' hs => ?_⟩
  · refine hperm.nodup_iff.mpr (List.nodup_cons.mpr ⟨fun hk => fresh hr (hh.issued k hk), hh.nodup⟩)
  · rcases List.mem_cons.mp (hperm.mem_iff.mp hj) with rfl | hj
    · exact issued_of_source? hnew
    · exact hkeeps.issued j (hh.issued j hj)
  · rcases hks j hj with hj | ⟨rfl, time, rfl⟩
    · rw [hold j (List.mem_append_left _ hj)]
      exact hh.expiry j hj
    · exact ⟨time, hnew⟩
  · rcases hds p hp with hp | rfl
    · rw [hold p.1 (List.mem_append_right _ (List.mem_map_of_mem hp))] at hs
      exact hh.source p hp s' hs
    · exact Option.some.inj (hs.symm.trans hnew)
  · rw [source?_register hr] at hs
    refine hperm.mem_iff.mpr ?_
    split at hs
    · rename_i hjk
      rw [Option.some.inj hjk]
      exact List.mem_cons_self
    · exact List.mem_cons_of_mem _ (hh.only j s' hs)

end EventHost

/-! ## The operations of a loop -/

/-- The source that a watch stands for. -/
def Watch.source (w : Watch) : Source := .descriptor w.fd w.mask

/-- The source that a watch stands for, under its token. -/
def Watch.entry (w : Watch) : Token × Source := (w.token, w.source)

/-- The watch with another source. -/
def Watch.resourced (w : Watch) (token : Token) (mask : Mask) : Watch := { w with token, mask }

namespace EventLoop

variable {H : Type} {e e' : EventLoop H} {id : TimerId} {t : Timer}

/-- The token of a timer that waits to expire. -/
def pending? (e : EventLoop H) (id : TimerId) : Option Token := (e.timer? id).bind (·.armed)

def armedTokens (e : EventLoop H) : List Token := e.timers.filterMap (·.armed)

theorem isArmed_eq (e : EventLoop H) (id : TimerId) : e.isArmed id = (e.pending? id).isSome := by
  cases h : e.timer? id <;> simp [isArmed, pending?, h]

/-! ### Numbers -/

theorem allocateId_cases (e : EventLoop H) :
    (e.nextId.toNat + 1 = 18446744073709551616 ∧ e.allocateId = .error .addOverflow) ∨
    ∃ n : UInt64, n.toNat = e.nextId.toNat + 1 ∧
      e.allocateId = .ok (e.nextId.toNat, { e with nextId := n }) := by
  have hlt := e.nextId.toNat_lt
  rcases Checked.next64_cases e.nextId with ⟨-, n, hn, hvalue⟩ | ⟨hle, hn⟩
  · exact .inr ⟨n, hvalue, by rw [allocateId, hn]; rfl⟩
  · exact .inl ⟨by omega, by rw [allocateId, hn]; rfl⟩

/-! ### Records -/

theorem setTimer_ids (e : EventLoop H) (t : Timer) :
    (e.setTimer t).timers.map (·.id) = e.timers.map (·.id) :=
  map_key_update Timer.id (f := fun _ => t) fun _ _ => rfl

theorem pending?_setTimer {u : Timer} (ht : e.timer? u.id = some t) (x : TimerId) :
    (e.setTimer u).pending? x = if x = u.id then u.armed else e.pending? x := by
  simp only [pending?, timer?, setTimer] at ht ⊢
  rw [find?_update Timer.id (f := fun _ => u) fun _ _ => rfl, ht]
  split <;> rfl

theorem pending?_eq_none_of_timer? (h : e.timer? id = none) : e.pending? id = none := by
  rw [pending?, h]
  rfl

theorem dropSource_eq [EventHost H] (e : EventLoop H) (t : Timer) :
    e.dropSource t = { e with host := (e.dropSource t).host } := by
  unfold dropSource
  split <;> rfl

/-- The source under a token is gone and its timer is not armed any more. The timer's actions are still
to run. -/
def strike [EventHost H] (e : EventLoop H) (token : Token) : Option Timer × EventLoop H :=
  match source? e.host token, e.timers.find? (·.armed = some token) with
  | some _, some t => (some t, setTimer { e with host := remove e.host token } { t with armed := none })
  | _, _ => (none, e)

theorem expire_eq [EventHost H] (e : EventLoop H) (token : Token) : e.expire token =
    match e.strike token with
    | (some t, e) => (some ⟨t.id, (e.actEach t.onFire).1⟩, (e.actEach t.onFire).2)
    | (none, e) => (none, e) := by
  simp only [expire, strike]
  cases source? e.host token with
  | none => rfl
  | some s => cases e.timers.find? (·.armed = some token) <;> rfl

theorem strike_of_find?_eq_none [EventHost H] {token : Token}
    (h : e.timers.find? (·.armed = some token) = none) : e.strike token = (none, e) := by
  simp only [strike, h]
  cases source? e.host token <;> rfl

section Lawful

variable [EventHost H] [LawfulEventHost H]

/-- Timers and watches have numbers of their own, and the host has their sources. -/
structure Linked (e : EventLoop H) : Prop where
  timers : (e.timers.map (·.id)).Nodup
  watches : (e.watches.map (·.id)).Nodup
  timerLow : ∀ id ∈ e.timers.map (·.id), id.raw < e.nextId.toNat
  watchLow : ∀ id ∈ e.watches.map (·.id), id.raw < e.nextId.toNat
  holds : Holds e.host e.armedTokens (e.watches.map (·.entry))

/-- Nothing is registered with the host. -/
def Bare (h : H) : Prop := ∀ k, source? h k = none

theorem linked_bare {h : H} (hh : Bare h) : Linked { host := h } := by
  refine ⟨.nil, .nil, by simp, by simp, ?_⟩
  exact ⟨.nil, by simp [armedTokens], by simp [armedTokens], by simp, fun k s hs => by simp [hh k] at hs⟩

/-! ### Timers -/

/-- The watches are as they were. -/
theorem Linked.withTimers (h : e.Linked) (hids : (e'.timers.map (·.id)).Sublist (e.timers.map (·.id)))
    (hwatches : e'.watches = e.watches) (hnext : e'.nextId = e.nextId)
    (hholds : Holds e'.host e'.armedTokens (e.watches.map (·.entry))) : e'.Linked where
  timers := h.timers.sublist hids
  watches := hwatches ▸ h.watches
  timerLow id hid := hnext ▸ h.timerLow id (hids.subset hid)
  watchLow id hid := hnext ▸ h.watchLow id (hwatches ▸ hid)
  holds := hwatches ▸ hholds

/-- Without the source of one timer, the host has those of the others. -/
theorem Linked.dropSource (h : e.Linked) (ht : e.timer? id = some t) :
    Holds (e.dropSource t).host ((e.timers.filter (·.id ≠ id)).filterMap (·.armed))
        (e.watches.map (·.entry)) ∧
      Keeps e.host (e.watches.map (·.token)) (e.dropSource t).host := by
  have hperm := (perm_of_find? Timer.id h.timers ht).filterMap (·.armed)
  have hholds := h.holds.perm hperm (.refl _)
  have htokens : (e.watches.map (·.entry)).map (·.1) = e.watches.map (·.token) := List.map_map
  unfold EventLoop.dropSource
  cases harmed : t.armed with
  | none =>
      rw [List.filterMap_cons_none harmed] at hholds
      exact ⟨hholds, keeps_self _ _⟩
  | some k =>
      rw [List.filterMap_cons_some harmed] at hholds
      refine ⟨hholds.remove (.refl _) (List.subset_cons_self _ _) (List.Subset.refl _),
        keeps_remove _ fun hk => ?_⟩
      have hnodup := hholds.nodup
      rw [List.cons_append, List.nodup_cons, htokens] at hnodup
      exact hnodup.1 (List.mem_append_right _ hk)

/-- Only one timer changed: what it waits for is `armed`. -/
structure Retimed (e : EventLoop H) (id : TimerId) (armed : Option Token) (e' : EventLoop H) : Prop where
  linked : e'.Linked
  pending : ∀ x, e'.pending? x = if x = id then armed else e.pending? x
  watches : e'.watches = e.watches
  nextId : e'.nextId = e.nextId
  keeps : Keeps e.host (e.watches.map (·.token)) e'.host

theorem Linked.setTimer (h : e.Linked) (ht : e.timer? id = some t) (armed : Option Token) {host : H}
    (hkeeps : Keeps e.host (e.watches.map (·.token)) host)
    (hholds : Holds host (armed.toList ++ (e.timers.filter (·.id ≠ id)).filterMap (·.armed))
      (e.watches.map (·.entry))) :
    Retimed e id armed (setTimer { e with host } { t with armed }) ∧
      (setTimer { e with host } { t with armed }).timers.map (·.id) = e.timers.map (·.id) := by
  obtain ⟨-, rfl⟩ := mem_of_find?_key Timer.id ht
  have hids := setTimer_ids { e with host } { t with armed }
  have htokens : (({ t with armed } : Timer) :: e.timers.filter (·.id ≠ t.id)).filterMap (·.armed) =
      armed.toList ++ (e.timers.filter (·.id ≠ t.id)).filterMap (·.armed) := by
    cases armed <;> rfl
  have hperm := (update_perm Timer.id (f := fun _ => { t with armed }) h.timers ht).filterMap (·.armed)
  rw [htokens] at hperm
  have hlinked : (EventLoop.setTimer { e with host } { t with armed }).Linked :=
    h.withTimers (by rw [hids]) rfl rfl (hholds.perm hperm.symm (.refl _))
  have hpending := pending?_setTimer (e := { e with host }) (t := t) (u := { t with armed }) ht
  exact ⟨⟨hlinked, hpending, rfl, rfl, hkeeps⟩, hids⟩

theorem Linked.retimed_self (h : e.Linked) (ht : e.timer? id = none) : Retimed e id none e := by
  refine ⟨h, fun x => ?_, rfl, rfl, keeps_self _ _⟩
  split
  · rename_i hx
    rw [hx, pending?_eq_none_of_timer? ht]
  · rfl

theorem Linked.cancelTimer (h : e.Linked) (id : TimerId) : Retimed e id none (e.cancelTimer id) ∧
    (e.cancelTimer id).timers.map (·.id) = e.timers.map (·.id) := by
  cases ht : e.timer? id with
  | none =>
      have hsame : e.cancelTimer id = e := by simp [EventLoop.cancelTimer, ht]
      rw [hsame]
      exact ⟨h.retimed_self ht, rfl⟩
  | some t =>
      have hcancel : e.cancelTimer id =
          EventLoop.setTimer { e with host := (e.dropSource t).host } { t with armed := none } := by
        simp only [EventLoop.cancelTimer, ht]
        rw [← dropSource_eq]
      obtain ⟨hholds, hkeeps⟩ := h.dropSource ht
      rw [hcancel]
      exact h.setTimer ht none hkeeps hholds

/-- What a start does: it names an unknown timer, the host refuses it and nothing is waited for any more,
or the timer waits for a new source. -/
inductive Starting (e : EventLoop H) (id : TimerId) (ms : UInt32) : Except Fault Unit × EventLoop H → Prop
  | unknown : e.timer? id = none → Starting e id ms (.error (.startOfRemoved id), e)
  | refused {t : Timer} {e' : EventLoop H} : e.timer? id = some t →
      (register (e.dropSource t).host (.expiry (e.now + ms.toNat))).1 = none → Retimed e id none e' →
      e'.timers.map (·.id) = e.timers.map (·.id) → Starting e id ms (.error .timerRefused, e')
  | started {t : Timer} {k : Token} {e' : EventLoop H} : e.timer? id = some t → ¬Issued e.host k →
      Retimed e id (some k) e' → e'.timers.map (·.id) = e.timers.map (·.id) →
      source? e'.host k = some (.expiry (e.now + ms.toNat)) → Starting e id ms (.ok (), e')

theorem Linked.startTimer (h : e.Linked) (id : TimerId) (ms : UInt32) :
    Starting e id ms (e.startTimer id ms) := by
  cases ht : e.timer? id with
  | none =>
      rw [EventLoop.startTimer, ht]
      exact .unknown ht
  | some t =>
      obtain ⟨hholds, hkeeps⟩ := h.dropSource ht
      have hnow : (e.dropSource t).now = e.now := by rw [dropSource_eq]
      have hissued : ∀ k ∈ e.watches.map (·.token), Issued (e.dropSource t).host k := by
        intro k hk
        refine hholds.issued k (List.mem_append_right _ ?_)
        rwa [List.map_map]
      simp only [EventLoop.startTimer, ht, hnow]
      rcases hr : register (e.dropSource t).host (.expiry (e.now + ms.toNat)) with ⟨_ | k, host⟩
      · obtain ⟨hretimed, hids⟩ := h.setTimer ht none (hkeeps.trans (keeps_register hr hissued))
          (hholds.refused hr)
        rw [dropSource_eq]
        exact .refused ht (by rw [hr]) hretimed hids
      · have hnew : Holds host ((some k).toList ++ (e.timers.filter (·.id ≠ id)).filterMap (·.armed))
            (e.watches.map (·.entry)) :=
          hholds.register hr (.refl _)
            (fun j hj => (List.mem_cons.mp hj).symm.imp_right fun he => ⟨he, _, rfl⟩) fun p hp => .inl hp
        obtain ⟨hretimed, hids⟩ := h.setTimer ht (some k) (hkeeps.trans (keeps_register hr hissued)) hnew
        rw [dropSource_eq]
        refine .started ht (fun hk => fresh hr (?_ : Issued _ k)) hretimed hids ?_
        · exact hkeeps.issued k hk
        · exact (source?_register hr k).trans (if_pos rfl)

theorem Linked.removeTimer (h : e.Linked) (id : TimerId) : Retimed e id none (e.removeTimer id) ∧
    (e.removeTimer id).timers.map (·.id) = (e.timers.map (·.id)).filter (· ≠ id) := by
  cases ht : e.timer? id with
  | none =>
      have hsame : e.removeTimer id = e := by simp [EventLoop.removeTimer, ht]
      have hall := filter_key_of_not_mem Timer.id ((find?_key_eq_none Timer.id).mp ht)
      rw [hsame, ← map_filter_key Timer.id, hall]
      exact ⟨h.retimed_self ht, rfl⟩
  | some t =>
      obtain ⟨hholds, hkeeps⟩ := h.dropSource ht
      have hremove : e.removeTimer id =
          { e with host := (e.dropSource t).host, timers := e.timers.filter (·.id ≠ id) } := by
        simp only [EventLoop.removeTimer, ht]
        rw [dropSource_eq]
      rw [hremove, ← map_filter_key Timer.id]
      refine ⟨⟨h.withTimers ?_ rfl rfl hholds, fun x => ?_, rfl, rfl, hkeeps⟩, rfl⟩
      · exact List.filter_sublist.map _
      · simp only [pending?, timer?]
        rw [find?_filter_key Timer.id]
        split <;> rfl

/-- A new timer waits for nothing, and it is numbered next. -/
theorem Linked.addTimer (h : e.Linked) (onFire : List TimerAction) :
    (e.nextId.toNat + 1 = 18446744073709551616 ∧ e.addTimer onFire = .error .addOverflow) ∨
    ∃ e', e.addTimer onFire = .ok (⟨e.nextId.toNat⟩, e') ∧ e'.Linked ∧
      (∀ x, e'.pending? x = e.pending? x) ∧ e'.timers = e.timers ++ [{ id := ⟨e.nextId.toNat⟩, onFire }] ∧
      e'.watches = e.watches ∧ e'.host = e.host ∧ e'.nextId.toNat = e.nextId.toNat + 1 := by
  rcases e.allocateId_cases with ⟨hfull, halloc⟩ | ⟨n, hn, halloc⟩
  · exact .inl ⟨hfull, by rw [EventLoop.addTimer, halloc]; rfl⟩
  · have hadd : e.addTimer onFire = .ok (⟨e.nextId.toNat⟩, { e with
        timers := e.timers ++ [{ id := ⟨e.nextId.toNat⟩, onFire }], nextId := n }) := by
      rw [EventLoop.addTimer, halloc]
      rfl
    refine .inr ⟨_, hadd, ⟨?_, h.watches, fun id hid => ?_, fun id hid => ?_, ?_⟩, fun x => ?_, rfl, rfl,
      rfl, hn⟩
    · rw [List.map_append]
      exact nodup_concat h.timers fun hmem => Nat.lt_irrefl _ (h.timerLow _ hmem)
    · rw [hn]
      rw [List.map_append, List.mem_append] at hid
      rcases hid with hid | hid
      · exact Nat.lt_succ_of_lt (h.timerLow id hid)
      · rw [List.mem_singleton.mp hid]
        exact Nat.lt_succ_self _
    · rw [hn]
      exact Nat.lt_succ_of_lt (h.watchLow id hid)
    · have harmed : (e.timers ++ [({ id := ⟨e.nextId.toNat⟩, onFire } : Timer)]).filterMap (·.armed) =
          e.armedTokens := by simp [armedTokens]
      rw [armedTokens, harmed]
      exact h.holds
    · -- A timer that was not started yet waits for nothing, just as an unknown one.
      simp only [pending?, timer?, List.find?_append]
      cases e.timers.find? (·.id = x) with
      | some t => rfl
      | none =>
          by_cases hx : (⟨e.nextId.toNat⟩ : TimerId) = x <;> simp [hx]

/-! ### Watches -/

/-- A watch lives, and nothing is registered for it. -/
def Lost (e : EventLoop H) (id : WatchId) : Prop :=
  ∃ w ∈ e.watches, w.id = id ∧ source? e.host w.token = none

/-- The record of one watch went, and `new` came in its place. -/
structure Rewatched (e : EventLoop H) (id : WatchId) (new : Option Watch) (e' : EventLoop H) : Prop where
  linked : e'.Linked
  timers : e'.timers = e.timers
  watches : e'.watches.Perm (new.toList ++ e.watches.filter (·.id ≠ id))
  named : ∀ w ∈ new, w.id = id
  keeps : Keeps e.host (e.armedTokens ++ (e.watches.filter (·.id ≠ id)).map (·.token)) e'.host

theorem Linked.rewatch (h : e.Linked) {id : WatchId} {host : H} {l : List Watch} {new : Option Watch}
    {n : UInt64} (hnext : e.nextId.toNat ≤ n.toNat) (hnew : ∀ w ∈ new, w.id = id ∧ w.id.raw < n.toNat)
    (hperm : l.Perm (new.toList ++ e.watches.filter (·.id ≠ id)))
    (hkeeps : Keeps e.host (e.armedTokens ++ (e.watches.filter (·.id ≠ id)).map (·.token)) host)
    (hholds : Holds host e.armedTokens ((new.toList ++ e.watches.filter (·.id ≠ id)).map (·.entry))) :
    Rewatched e id new { e with host, watches := l, nextId := n } := by
  have hids : (l.map (·.id)).Nodup := by
    rw [(hperm.map _).nodup_iff, List.map_append, List.nodup_append, map_filter_key Watch.id]
    refine ⟨?_, h.watches.filter _, fun i hi j hj => ?_⟩
    · cases new <;> simp
    · obtain ⟨w, hw, rfl⟩ := List.mem_map.mp hi
      rintro rfl
      exact absurd (hnew w (Option.mem_toList.mp hw)).1 (by simpa using (List.mem_filter.mp hj).2)
  refine ⟨⟨h.timers, hids, fun i hi => Nat.lt_of_lt_of_le (h.timerLow i hi) hnext, fun i hi => ?_,
    hholds.perm (.refl _) (hperm.map _).symm⟩, rfl, hperm, fun w hw => (hnew w hw).1, hkeeps⟩
  obtain ⟨w, hw, rfl⟩ := List.mem_map.mp hi
  rcases List.mem_append.mp (hperm.mem_iff.mp hw) with hw | hw
  · exact (hnew w (Option.mem_toList.mp hw)).2
  · exact Nat.lt_of_lt_of_le (h.watchLow _ (List.mem_map_of_mem (List.mem_filter.mp hw).1)) hnext

theorem Rewatched.mem {id : WatchId} {new : Option Watch} (h : Rewatched e id new e') {w : Watch} :
    w ∈ e'.watches ↔ new = some w ∨ (w ∈ e.watches ∧ w.id ≠ id) := by
  rw [h.watches.mem_iff]
  simp [Option.mem_toList]

theorem Rewatched.lost {id u : WatchId} {new : Option Watch} (h : Rewatched e id new e') :
    e'.Lost u ↔ (u = id ∧ ∃ w, new = some w ∧ source? e'.host w.token = none) ∨ (u ≠ id ∧ e.Lost u) := by
  have hkept : ∀ w ∈ e.watches, w.id ≠ id → source? e'.host w.token = source? e.host w.token :=
    fun w hw hid => h.keeps.source? _ (List.mem_append_right _ (List.mem_map_of_mem
      (List.mem_filter.mpr ⟨hw, by simpa using hid⟩)))
  constructor
  · rintro ⟨w, hw, rfl, hnone⟩
    rcases h.mem.mp hw with hnew | ⟨hw, hid⟩
    · exact .inl ⟨h.named w hnew, w, hnew, hnone⟩
    · exact .inr ⟨hid, w, hw, rfl, hkept w hw hid ▸ hnone⟩
  · rintro (⟨rfl, w, hnew, hnone⟩ | ⟨hid, w, hw, rfl, hnone⟩)
    · exact ⟨w, h.mem.mpr (.inl hnew), h.named w hnew, hnone⟩
    · exact ⟨w, h.mem.mpr (.inr ⟨hw, hid⟩), rfl, (hkept w hw hid).trans hnone⟩

theorem Rewatched.mem_ids {id u : WatchId} {new : Option Watch} (h : Rewatched e id new e') :
    u ∈ e'.watches.map (·.id) ↔ (u = id ∧ new.isSome) ∨ (u ∈ e.watches.map (·.id) ∧ u ≠ id) := by
  simp only [List.mem_map]
  constructor
  · rintro ⟨w, hw, rfl⟩
    rcases h.mem.mp hw with hnew | ⟨hw, hid⟩
    · exact .inl ⟨h.named w hnew, Option.isSome_of_mem hnew⟩
    · exact .inr ⟨⟨w, hw, rfl⟩, hid⟩
  · rintro (⟨rfl, hnew⟩ | ⟨⟨w, hw, rfl⟩, hid⟩)
    · obtain ⟨w, hnew⟩ := Option.isSome_iff_exists.mp hnew
      exact ⟨w, h.mem.mpr (.inl hnew), h.named w hnew⟩
    · exact ⟨w, h.mem.mpr (.inr ⟨hw, hid⟩), rfl⟩

/-- What is found under the token of a watch: its source, or nothing. -/
theorem Linked.source?_watch (h : e.Linked) {w : Watch} (hw : w ∈ e.watches) :
    source? e.host w.token = some w.source ∨ source? e.host w.token = none := by
  cases hs : source? e.host w.token with
  | none => exact .inr rfl
  | some s => exact .inl (congrArg some (h.holds.source w.entry (List.mem_map_of_mem hw) s hs))

theorem Linked.lost_iff (h : e.Linked) {w : Watch} (hw : w ∈ e.watches) :
    e.Lost w.id ↔ source? e.host w.token = none := by
  constructor
  · rintro ⟨x, hx, hid, hnone⟩
    rwa [List.inj_on_of_nodup_map h.watches hx hw hid] at hnone
  · exact fun hnone => ⟨w, hw, rfl, hnone⟩

/-- What adding a watch does: the host refuses it, the numbers are used up, or the watch is numbered next
and registered. -/
inductive Adding (e : EventLoop H) (fd : Nat) (mask : Mask) :
    Except Trap (Except Fault WatchId × EventLoop H) → Prop
  | refused {host : H} : register e.host (.descriptor fd mask) = (none, host) → { e with host }.Linked →
      Keeps e.host (e.armedTokens ++ e.watches.map (·.token)) host →
      Adding e fd mask (.ok (.error (.watchRefused fd), { e with host }))
  | full {k : Token} : (register e.host (.descriptor fd mask)).1 = some k →
      e.nextId.toNat + 1 = 18446744073709551616 → Adding e fd mask (.error .addOverflow)
  | added {k : Token} {e' : EventLoop H} : (register e.host (.descriptor fd mask)).1 = some k →
      Rewatched e ⟨e.nextId.toNat⟩ (some { id := ⟨e.nextId.toNat⟩, fd, mask, token := k }) e' →
      source? e'.host k = some (.descriptor fd mask) → e'.nextId.toNat = e.nextId.toNat + 1 →
      Adding e fd mask (.ok (.ok ⟨e.nextId.toNat⟩, e'))

theorem Linked.addWatch (h : e.Linked) (fd : Nat) (mask : Mask) : Adding e fd mask (e.addWatch fd mask) := by
  have hissued : ∀ k ∈ e.armedTokens ++ e.watches.map (·.token), Issued e.host k := by
    have hall := h.holds.issued
    rwa [List.map_map] at hall
  unfold EventLoop.addWatch
  rcases hr : register e.host (.descriptor fd mask) with ⟨_ | k, host⟩
  · exact .refused hr ⟨h.timers, h.watches, h.timerLow, h.watchLow, h.holds.refused hr⟩
      (keeps_register hr hissued)
  · rcases allocateId_cases { e with host } with ⟨hfull, halloc⟩ | ⟨n, hn, halloc⟩
    · simp only [halloc]
      exact .full (by rw [hr]) hfull
    · have hall : e.watches.filter (·.id ≠ ⟨e.nextId.toNat⟩) = e.watches :=
        filter_key_of_not_mem Watch.id fun hmem => Nat.lt_irrefl _ (h.watchLow _ hmem)
      simp only [halloc]
      refine .added (by rw [hr]) (h.rewatch (n := n) (by rw [hn]; exact Nat.le_succ _) ?_ ?_ ?_ ?_) ?_ hn
      · rintro w ⟨⟩
        exact ⟨rfl, hn ▸ Nat.lt_succ_self _⟩
      · rw [hall]
        exact List.perm_append_comm
      · rw [hall]
        exact keeps_register hr hissued
      · rw [hall]
        exact h.holds.register hr List.perm_middle (fun _ hj => .inl hj)
          fun p hp => (List.mem_cons.mp hp).symm
      · exact (source?_register hr k).trans (if_pos rfl)

/-- Without the source of one watch, the host has those of the others. -/
theorem Linked.dropWatch (h : e.Linked) {id : WatchId} {w : Watch} (hw : e.watch? id = some w) :
    Holds (remove e.host w.token) e.armedTokens ((e.watches.filter (·.id ≠ id)).map (·.entry)) ∧
      Keeps e.host (e.armedTokens ++ (e.watches.filter (·.id ≠ id)).map (·.token))
        (remove e.host w.token) := by
  have hperm := perm_of_find? Watch.id h.watches hw
  have hholds := h.holds.perm (.refl _) (hperm.map _)
  have hsplit : (e.armedTokens ++ ((w :: e.watches.filter (·.id ≠ id)).map (·.entry)).map (·.1)).Perm
      (w.token :: (e.armedTokens ++ ((e.watches.filter (·.id ≠ id)).map (·.entry)).map (·.1))) :=
    List.perm_middle
  refine ⟨hholds.remove hsplit (List.Subset.refl _) (List.subset_cons_self _ _), keeps_remove _ ?_⟩
  have hnodup := hsplit.nodup_iff.mp hholds.nodup
  rw [List.map_map, List.nodup_cons] at hnodup
  exact hnodup.1

theorem Linked.removeWatch (h : e.Linked) (id : WatchId) : Rewatched e id none (e.removeWatch id) ∧
    (e.removeWatch id).nextId = e.nextId := by
  cases hw : e.watch? id with
  | none =>
      have hall := filter_key_of_not_mem Watch.id ((find?_key_eq_none Watch.id).mp hw)
      rw [EventLoop.removeWatch, hw]
      exact ⟨h.rewatch (Nat.le_refl _) nofun (by rw [hall]; exact .refl _) (keeps_self _ _)
        (by rw [hall]; exact h.holds), rfl⟩
  | some w =>
      obtain ⟨hholds, hkeeps⟩ := h.dropWatch hw
      rw [EventLoop.removeWatch, hw]
      exact ⟨h.rewatch (Nat.le_refl _) nofun (.refl _) hkeeps hholds, rfl⟩

/-- What an update of a live watch does: the mask is the one on record, the host refuses and the watch is
without a source, or the watch has a new source. -/
inductive Updating (e : EventLoop H) (w : Watch) (mask : Mask) : Except Fault Unit × EventLoop H → Prop
  | kept : w.mask = mask → Updating e w mask (.ok (), e)
  | refused {host : H} : w.mask ≠ mask →
      (register (remove e.host w.token) (.descriptor w.fd mask)).1 = none →
      Rewatched e w.id (some w) { e with host } → source? host w.token = none →
      Updating e w mask (.error (.watchRefused w.fd), { e with host })
  | replaced {k : Token} {host : H} {l : List Watch} : w.mask ≠ mask →
      (register (remove e.host w.token) (.descriptor w.fd mask)).1 = some k →
      Rewatched e w.id (some (w.resourced k mask)) { e with host, watches := l } →
      source? host k = some (.descriptor w.fd mask) →
      Updating e w mask (.ok (), { e with host, watches := l })

theorem Linked.updateWatch (h : e.Linked) {id : WatchId} {w : Watch} (hw : e.watch? id = some w)
    (mask : Mask) : Updating e w mask (e.updateWatch id mask) := by
  obtain ⟨hmem, hid⟩ := mem_of_find?_key Watch.id hw
  have hlow := h.watchLow _ (List.mem_map_of_mem hmem)
  have hperm := perm_of_find? Watch.id h.watches hw
  obtain ⟨hholds, hkeeps⟩ := h.dropWatch hw
  have hissued : ∀ k ∈ e.armedTokens ++ (e.watches.filter (·.id ≠ id)).map (·.token),
      Issued (remove e.host w.token) k := by
    have hall := hholds.issued
    rwa [List.map_map] at hall
  subst hid
  by_cases hmask : w.mask = mask
  · simp only [EventLoop.updateWatch, hw, if_pos hmask]
    exact .kept hmask
  · simp only [EventLoop.updateWatch, hw, if_neg hmask]
    rcases hr : register (remove e.host w.token) (.descriptor w.fd mask) with ⟨_ | k, host⟩
    · have hcut := (h.holds.perm (.refl _) (hperm.map _)).unregister (k := w.token) List.mem_cons_self
      refine .refused hmask (by rw [hr]) (h.rewatch (Nat.le_refl _) ?_ hperm
        (hkeeps.trans (keeps_register hr hissued)) (hcut.refused hr)) ?_
      · rintro x ⟨⟩
        exact ⟨rfl, hlow⟩
      · rw [source?_register hr, if_neg nofun, source?_remove, if_pos rfl]
    · refine .replaced hmask (by rw [hr]) (h.rewatch (Nat.le_refl _) ?_
        (update_perm Watch.id (f := (·.resourced k mask)) h.watches hw)
        (hkeeps.trans (keeps_register hr hissued)) ?_) ?_
      · rintro x ⟨⟩
        exact ⟨rfl, hlow⟩
      · exact hholds.register hr List.perm_middle (fun _ hj => .inl hj)
          fun p hp => (List.mem_cons.mp hp).symm
      · exact (source?_register hr k).trans (if_pos rfl)

/-! ### Expiries -/

theorem Linked.pending?_eq_some (h : e.Linked) {k : Token} :
    e.pending? id = some k ↔ ∃ t ∈ e.timers, t.id = id ∧ t.armed = some k := by
  rw [pending?, Option.bind_eq_some_iff]
  constructor
  · rintro ⟨t, ht, harmed⟩
    obtain ⟨hmem, hid⟩ := mem_of_find?_key Timer.id ht
    exact ⟨t, hmem, hid, harmed⟩
  · rintro ⟨t, hmem, rfl, harmed⟩
    exact ⟨t, find?_key_of_mem Timer.id h.timers hmem, harmed⟩

theorem Linked.pending_mem (h : e.Linked) {k : Token} (hk : e.pending? id = some k) :
    k ∈ e.armedTokens := by
  obtain ⟨t, ht, -, harmed⟩ := h.pending?_eq_some.mp hk
  exact List.mem_filterMap.mpr ⟨t, ht, harmed⟩

theorem Linked.pending_issued (h : e.Linked) {k : Token} (hk : e.pending? id = some k) : Issued e.host k :=
  h.holds.issued k (List.mem_append_left _ (h.pending_mem hk))

/-- No two timers wait for one source. -/
theorem Linked.pending_inj (h : e.Linked) {i j : TimerId} {k : Token} (hi : e.pending? i = some k)
    (hj : e.pending? j = some k) : i = j := by
  by_contra hne
  obtain ⟨t, ht, harmed⟩ := Option.bind_eq_some_iff.mp hi
  obtain ⟨u, hu, rfl, harmed'⟩ := h.pending?_eq_some.mp hj
  have hperm := (perm_of_find? Timer.id h.timers ht).filterMap (·.armed)
  rw [List.filterMap_cons_some harmed] at hperm
  have hsplit := hperm.nodup_iff.mp (List.nodup_append.mp h.holds.nodup).1
  refine (List.nodup_cons.mp hsplit).1 (List.mem_filterMap.mpr ⟨u, ?_, harmed'⟩)
  exact List.mem_filter.mpr ⟨hu, by simpa using Ne.symm hne⟩

/-- An expiry finds the timer that waits for it, and leaves the loop as a cancel of that timer would. A
token that no timer waits for changes nothing. -/
theorem Linked.strike (h : e.Linked) (k : Token) :
    (∃ t, e.pending? t.id = some k ∧ e.strike k = (some t, e.cancelTimer t.id)) ∨
    ((∀ id, e.pending? id ≠ some k) ∧ e.strike k = (none, e)) := by
  cases hfind : e.timers.find? (·.armed = some k) with
  | none =>
      refine .inr ⟨fun id hid => ?_, strike_of_find?_eq_none hfind⟩
      obtain ⟨t, ht, -, harmed⟩ := h.pending?_eq_some.mp hid
      have hnot := List.find?_eq_none.mp hfind t ht
      simp [harmed] at hnot
  | some t =>
      have hmem := List.mem_of_find?_eq_some hfind
      have harmed : t.armed = some k := by simpa using List.find?_some hfind
      have ht : e.timer? t.id = some t := find?_key_of_mem Timer.id h.timers hmem
      have hpending : e.pending? t.id = some k := by rw [pending?, ht]; exact harmed
      obtain ⟨time, hsource⟩ := h.holds.expiry k (h.pending_mem hpending)
      refine .inl ⟨t, hpending, ?_⟩
      simp only [EventLoop.strike, hsource, hfind, EventLoop.cancelTimer, ht, EventLoop.dropSource, harmed]

end Lawful

end EventLoop

end RemoteDisplay
