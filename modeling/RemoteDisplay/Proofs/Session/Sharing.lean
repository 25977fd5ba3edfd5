import RemoteDisplay.Proofs.Frame.Writing
import RemoteDisplay.Proofs.Session.Closing
import RemoteDisplay.Proofs.Session.Pixels

/-!
# Sharing of pixels

A `Desk` has frames, views, commands and renderers, each in a slot of its own, beside a session that has
commands on its ring and with its server. All of them hold pixels. A frame is shared just when somebody
else holds its pixels, and what is written through one handle is seen through no other, so a view shows
the same rows as long as it is held.
-/

namespace RemoteDisplay

open PixelStore (Counts)

/-! ## Desks -/

/-- A value that holds pixels. -/
inductive Item where
  | frame (f : Frame)
  | view (v : View)
  | command (c : Command)
  | renderer (p : PatternRenderer)

namespace Item

/-- The blocks that the value holds, one for each of its handles. -/
def handles : Item → List BlockId
  | frame f => [f.block]
  | view v => [v.block]
  | command c => blocks [c]
  | renderer p => p.handles

/-- A renderer has one frame for an output. -/
def Keyed : Item → Prop
  | renderer p => (p.frames.map (·.1)).Nodup
  | _ => True

/-- The view that the value keeps. -/
def view? : Item → Option View
  | view v => some v
  | command c => c.view?
  | _ => none

theorem mem_handles {x : Item} {v : View} (h : x.view? = some v) : v.block ∈ x.handles := by
  cases x with
  | view w =>
      cases h
      exact List.mem_cons_self
  | command c => exact mem_blocks List.mem_cons_self h
  | frame f => cases h
  | renderer p => cases h

end Item

/-- A session, and values in slots. A slot that was given up stays empty. -/
structure Desk where
  session : Session
  slots : List (Option Item) := []

namespace Desk

/-- What can be done with the value in a slot, or to the session. -/
inductive Act where
  | newFrame (width height : UInt32)
  | frameOfBytes (width height stride : UInt32) (bytes : ByteArray)
  | newRenderer (width height : UInt32)
  /-- A second handle on a frame or view. -/
  | clone (i : Nat)
  /-- A view of a frame. -/
  | cut (i : Nat) (r : Region)
  | put (i : Nat) (x y colour : UInt32)
  /-- The bytes of a frame are changed in any way. -/
  | write (i : Nat) (change : ByteArray → ByteArray)
  /-- The frame that a renderer answers comes into a slot of its own. -/
  | repaint (i : Nat) (output : OutputId) (damage : Damage)
  /-- A view is built into a command, which takes its slot. -/
  | blit (i b : Nat) (surface : SurfaceId) (x y : Int32) (width height stride : UInt32)
      (damage : Damage)
  | release (i : Nat) (reason : ReleaseReason)
  /-- A command goes to the ring. -/
  | submit (i : Nat)
  | drop (i : Nat)
  /-- The server takes commands off the ring. -/
  | nextCommand
  | giveBack (id : ReleaseId) (group : UInt32)
  /-- From here on the allocator refuses these numbers of bytes. -/
  | refuseMemory (refuses : Nat → Bool)

/-- The slot whose frames are written. -/
def Act.writes? : Act → Option Nat
  | put i .. | write i _ | repaint i .. => some i
  | _ => none

/-- The slot that another value comes into, or none. -/
def Act.target? : Act → Option Nat
  | put i .. | write i _ | repaint i .. | blit i .. | release i _ | submit i | drop i => some i
  | _ => none

def store (d : Desk) : PixelStore := d.session.store

def withStore (d : Desk) (store : PixelStore) : Desk := { d with session.store := store }

def withSession (d : Desk) (session : Session) : Desk := { d with session }

/-- The value in a slot. -/
def item? (d : Desk) (i : Nat) : Option Item := d.slots[i]?.join

def setSlot (d : Desk) (i : Nat) (x : Option Item) : Desk := { d with slots := d.slots.set i x }

/-- The value comes into a slot of its own. -/
def add (d : Desk) (x : Item) : Desk := { d with slots := d.slots ++ [some x] }

/-- Carries out an act. Without the value that it needs nothing happens. -/
def perform (d : Desk) : Act → Except Trap Desk
  | .newFrame width height =>
    match Frame.new d.store width height with
    | .error _ => .ok d
    | .ok (f, store) => .ok ((d.withStore store).add (.frame f))
  | .frameOfBytes width height stride bytes =>
    match Frame.ofBytes d.store width height stride bytes with
    | .error _ => .ok d
    | .ok (f, store) => .ok ((d.withStore store).add (.frame f))
  | .newRenderer width height => .ok (d.add (.renderer { width, height }))
  | .clone i =>
    match d.item? i with
    | some (.frame f) => .ok ((d.withStore (d.store.share f)).add (.frame f))
    | some (.view v) => .ok ((d.withStore (d.store.share v)).add (.view v))
    | _ => .ok d
  | .cut i r =>
    match d.item? i with
    | some (.frame f) =>
      match f.view r with
      | .error _ => .ok d
      | .ok v => .ok ((d.withStore (d.store.share v)).add (.view v))
    | _ => .ok d
  | .put i x y colour =>
    match d.item? i with
    | some (.frame f) => do
      let (f, store) ← f.put d.store x y colour
      return (d.withStore store).setSlot i (some (.frame f))
    | _ => .ok d
  | .write i change =>
    match d.item? i with
    | some (.frame f) =>
      let (block, store) := d.store.exclusive f.block
      .ok ((d.withStore (store.write block change)).setSlot i (some (.frame { f with block })))
    | _ => .ok d
  | .repaint i output damage =>
    match d.item? i with
    | some (.renderer p) => do
      let (answer, p, store) ← p.repaint d.store output damage
      let d := (d.withStore store).setSlot i (some (.renderer p))
      match answer with
      | .error _ => return d
      | .ok f => return d.add (.frame f)
    | _ => .ok d
  | .blit i b surface x y width height stride damage =>
    match d.item? i with
    | some (.view v) =>
      match d.session.buildBlit b surface x y width height v stride damage with
      | .error t => .error t
      | .ok (.error _, s) => .ok ((d.withSession s).setSlot i none)
      | .ok (.ok c, s) => .ok ((d.withSession s).setSlot i (some (.command c)))
    | _ => .ok d
  | .release i reason =>
    match d.item? i with
    | some (.command c) => .ok ((d.withSession (d.session.release c reason)).setSlot i none)
    | _ => .ok d
  | .submit i =>
    match d.item? i with
    | some (.command c) => .ok ((d.withSession (d.session.submit c).2).setSlot i none)
    | _ => .ok d
  | .drop i =>
    match d.item? i with
    | some x => .ok ((d.withStore (x.handles.foldl PixelStore.release d.store)).setSlot i none)
    | none => .ok d
  | .nextCommand => .ok (d.withSession d.session.nextCommand.2)
  | .giveBack id group => .ok (d.withSession (d.session.giveBack id group).2)
  | .refuseMemory refuses => .ok (d.withStore { d.store with refuses })

def run (d : Desk) (acts : List Act) : Except Trap Desk := acts.foldlM perform d

/-! ## Handles -/

def handlesIn (slots : List (Option Item)) : List BlockId :=
  slots.flatMap fun x => x.elim [] Item.handles

/-- All handles that there are. -/
def handles (d : Desk) : List BlockId := handlesIn d.slots ++ d.session.handles

variable {d d' : Desk} {i j : Nat} {x : Item}

theorem item?_eq_some : d.item? i = some x ↔ d.slots[i]? = some (some x) := by
  rw [item?, Option.join_eq_some_iff]

theorem setSlot_self (h : d.item? i = some x) : d.setSlot i (some x) = d := by
  obtain ⟨hlt, hx⟩ := List.getElem?_eq_some_iff.mp (item?_eq_some.mp h)
  rw [setSlot, ← hx, List.set_getElem_self]

theorem item?_setSlot_self (h : d.item? i = some x) (y : Item) :
    (d.setSlot i (some y)).item? i = some y := by
  have hlt : i < d.slots.length := (List.getElem?_eq_some_iff.mp (item?_eq_some.mp h)).1
  exact item?_eq_some.mpr (List.getElem?_set_self hlt)

theorem handlesIn_perm {slots : List (Option Item)} {y : Option Item} (h : slots[i]? = some y) :
    (handlesIn slots).Perm (y.elim [] Item.handles ++ handlesIn (slots.set i none)) :=
  flatMap_perm_set _ h rfl

theorem handles_perm (h : d.item? i = some x) :
    d.handles.Perm (x.handles ++ (d.setSlot i none).handles) := by
  rw [handles, handles, ← List.append_assoc]
  exact (handlesIn_perm (item?_eq_some.mp h)).append_right _

theorem handles_setSlot (h : d.item? i = some x) (y : Item) :
    (d.setSlot i (some y)).handles.Perm (y.handles ++ (d.setSlot i none).handles) := by
  have hperm := handles_perm (item?_setSlot_self h y)
  rwa [setSlot, setSlot, List.set_set] at hperm

theorem handles_add (d : Desk) (x : Item) : (d.add x).handles.Perm (x.handles ++ d.handles) := by
  simp only [handles, add, handlesIn, List.flatMap_append, List.flatMap_cons, List.flatMap_nil,
    Option.elim_some, List.append_nil]
  rw [List.append_assoc, ← List.append_assoc x.handles]
  refine List.Perm.trans ?_ (List.perm_append_comm.append_right _)
  rw [List.append_assoc]

/-! ## Acts -/

/-- The store counts all handles, and renderers have one frame for an output. -/
structure Counted (d : Desk) : Prop where
  counts : d.store.Counts d.handles
  sound : d.session.Sound
  keyed : ∀ x, some x ∈ d.slots → x.Keyed

/-- Behind the handles `seen` that are left is what was there before. -/
structure Moved (d : Desk) (seen : List BlockId) (d' : Desk) : Prop where
  counted : d'.Counted
  bytes : ∀ id ∈ seen, id ∈ d'.handles → d'.store.bytes id = d.store.bytes id

/-- The handles that an act does not write through. -/
def unwritten (d : Desk) (a : Act) : List BlockId :=
  match a.writes? with
  | some i => (d.setSlot i none).handles
  | none => d.handles

variable {seen : List BlockId} {store : PixelStore} {s : Session} {y : Item} {a : Act}

theorem mem_slots (hi : d.item? i = some x) : some x ∈ d.slots :=
  List.mem_of_getElem? (item?_eq_some.mp hi)

theorem mem_handles (hi : d.item? i = some x) {id : BlockId} (hid : id ∈ x.handles) : id ∈ d.handles :=
  (handles_perm hi).mem_iff.mpr (List.mem_append_left _ hid)

theorem keyed_set (h : ∀ x, some x ∈ d.slots → x.Keyed) (hy : y.Keyed) :
    ∀ x, some x ∈ (d.setSlot i (some y)).slots → x.Keyed := by
  intro x hx
  rcases List.mem_or_eq_of_mem_set hx with hx | hx
  · exact h x hx
  · cases hx
    exact hy

/-- A value comes into a slot of its own. -/
theorem counted_add (hs : d.session.Sound) (hk : ∀ x, some x ∈ d.slots → x.Keyed) (hx : x.Keyed)
    (hc : d.store.Counts (x.handles ++ d.handles)) : (d.add x).Counted := by
  refine ⟨hc.perm (handles_add d x).symm, hs, fun y hy => ?_⟩
  rcases List.mem_append.mp hy with hy | hy
  · exact hk y hy
  · cases List.mem_singleton.mp hy
    exact hx

theorem Counted.self (h : d.Counted) : Moved d seen d := ⟨h, fun _ _ _ => rfl⟩

theorem Counted.withStore (h : d.Counted) (store : PixelStore) : (d.withStore store).session.Sound :=
  ⟨h.sound.ring, h.sound.held, h.sound.counted⟩

theorem Counted.add (h : d.Counted) (hx : x.Keyed) (hc : store.Counts (x.handles ++ d.handles))
    (hbytes : ∀ id ∈ d.handles, store.bytes id = d.store.bytes id) :
    Moved d d.handles ((d.withStore store).add x) :=
  ⟨counted_add (h.withStore store) h.keyed hx hc, fun id hid _ => hbytes id hid⟩

/-- The new value holds pixels that somebody holds already. -/
theorem Counted.share (h : d.Counted) (hx : x.Keyed) {id : BlockId} (hhandles : x.handles = [id])
    (hid : id ∈ d.handles) : Moved d d.handles ((d.withStore (d.store.retain id)).add x) := by
  obtain ⟨hcounts, hbytes⟩ := h.counts.retain hid
  refine h.add hx ?_ fun id _ => hbytes id
  rw [hhandles]
  exact hcounts

/-- The value in a slot gives way to another one. -/
theorem Counted.set (h : d.Counted) (hi : d.item? i = some x) (hy : y.Keyed) (hs : s.Sound)
    (hsame : s.handles = d.session.handles)
    (hc : s.store.Counts (y.handles ++ (d.setSlot i none).handles))
    (hbytes : ∀ id ∈ seen, s.store.bytes id = d.store.bytes id) :
    Moved d seen ((d.withSession s).setSlot i (some y)) := by
  have hrest : ((d.withSession s).setSlot i none).handles = (d.setSlot i none).handles := by
    simp only [handles, setSlot, withSession, hsame]
  rw [← hrest] at hc
  exact ⟨⟨hc.perm (handles_setSlot (d := d.withSession s) hi y).symm, hs, keyed_set h.keyed hy⟩,
    fun id hid _ => hbytes id hid⟩

/-- A slot is emptied, and what was in it goes to the session or is given up. -/
theorem Counted.clear (h : d.Counted) (hs : s.Sound)
    (hk : d.store.Keeps (handlesIn (d.slots.set i none) ++ s.handles) s.store) :
    Moved d seen ((d.withSession s).setSlot i none) := by
  refine ⟨⟨hk.counts, hs, fun x hx => ?_⟩, fun id _ hid => hk.bytes id hid⟩
  rcases List.mem_or_eq_of_mem_set hx with hx | hx
  · exact h.keyed x hx
  · cases hx

/-- The session moves on by itself. -/
theorem Counted.session (h : d.Counted) (hs : s.Sound)
    (hk : d.store.Keeps (s.handles ++ handlesIn d.slots) s.store) : Moved d seen (d.withSession s) :=
  ⟨⟨hk.counts.perm List.perm_append_comm, hs, h.keyed⟩,
    fun id _ hid => hk.bytes id (List.perm_append_comm.mem_iff.mp hid)⟩

theorem Counted.command_counts (h : d.Counted) {c : Command} (hi : d.item? i = some (.command c)) :
    d.store.Counts (blocks (c :: (d.session.queue ++ d.session.server.held)) ++
      handlesIn (d.slots.set i none)) := by
  refine h.counts.perm ((handles_perm hi).trans ?_)
  have hcons : blocks (c :: (d.session.queue ++ d.session.server.held)) =
      blocks [c] ++ d.session.handles := blocks_append [c] _
  rw [hcons, List.append_assoc]
  exact List.perm_append_comm.append_left _

theorem Counted.put (h : d.Counted) {f : Frame} (hi : d.item? i = some (.frame f)) {x y colour : UInt32}
    (hp : d.perform (.put i x y colour) = .ok d') : Moved d (d.setSlot i none).handles d' := by
  simp only [perform, hi, bind, Except.bind] at hp
  split at hp
  · cases hp
  · rename_i r hput
    obtain ⟨f', store⟩ := r
    cases hp
    have hwritten := Written.put (h.counts.perm (handles_perm hi)) hput
    exact h.set hi trivial (h.withStore store) rfl hwritten.counts hwritten.others

/-- A repaint fails and changes nothing, or draws into the frame of its output and answers a handle. -/
theorem Counted.repaint_cases (h : d.Counted) {p : PatternRenderer}
    (hi : d.item? i = some (.renderer p)) {output : OutputId} {damage : Damage}
    (hp : d.perform (.repaint i output damage) = .ok d') :
    d' = d.setSlot i (some (.renderer p)) ∨ ∃ f p' store,
      PatternRenderer.Redrawn p d.store (d.setSlot i none).handles output f p' store ∧
      d' = ((d.withStore store).setSlot i (some (.renderer p'))).add (.frame f) := by
  simp only [perform, hi, bind, Except.bind] at hp
  split at hp
  · cases hp
  · rename_i r hr
    obtain ⟨answer, p', store⟩ := r
    have hcounts := h.counts.perm (handles_perm hi)
    rcases PatternRenderer.repaint_redrawn (h.keyed _ (mem_slots hi)) hcounts hr with
      ⟨e, rfl, rfl, rfl⟩ | ⟨f, rfl, hdrawn⟩
    · cases hp
      exact .inl rfl
    · cases hp
      exact .inr ⟨f, p', store, hdrawn, rfl⟩

theorem Counted.repaint (h : d.Counted) {p : PatternRenderer} (hi : d.item? i = some (.renderer p))
    {output : OutputId} {damage : Damage} (hp : d.perform (.repaint i output damage) = .ok d') :
    Moved d (d.setSlot i none).handles d' := by
  have hkeyed : (Item.renderer p).Keyed := h.keyed _ (mem_slots hi)
  rcases h.repaint_cases hi hp with rfl | ⟨f, p', store, hdrawn, rfl⟩
  · exact h.set hi hkeyed h.sound rfl (h.counts.perm (handles_perm hi)) fun _ _ => rfl
  · have hperm := handles_setSlot (d := d.withStore store) hi (.renderer p')
    refine ⟨counted_add (h.withStore store) (keyed_set h.keyed hdrawn.keys) trivial ?_, fun id hid _ => ?_⟩
    · exact hdrawn.counts.perm (hperm.symm.cons f.block)
    · exact hdrawn.unpainted id (List.mem_append_right _ hid)

/-- A blit that ends has an answer of the session. -/
theorem perform_blit {v : View} {b : Nat} {surface : SurfaceId} {x y : Int32}
    {width height stride : UInt32} {damage : Damage} (hi : d.item? i = some (.view v))
    (hp : d.perform (.blit i b surface x y width height stride damage) = .ok d') :
    ∃ r, d.session.buildBlit b surface x y width height v stride damage = .ok r ∧
      d' = (d.withSession r.2).setSlot i (r.1.toOption.map .command) := by
  simp only [perform, hi] at hp
  split at hp <;> cases hp <;> exact ⟨_, ‹_›, rfl⟩

theorem Counted.blit (h : d.Counted) {v : View} (hi : d.item? i = some (.view v)) (b : Nat)
    (surface : SurfaceId) (x y : Int32) (width height stride : UInt32) (damage : Damage)
    (hp : d.perform (.blit i b surface x y width height stride damage) = .ok d') :
    Moved d seen d' := by
  have hcounts := h.counts.perm (handles_perm hi)
  obtain ⟨r, hb, hp⟩ := perform_blit hi hp
  have hsound := ((Session.Use.buildBlit hb).steady h.sound).sound
  rcases Session.buildBlit_keeps hb with ⟨e, rfl⟩ | ⟨c, s, rfl, hview, hstore, hhandles⟩
  · subst hp
    obtain ⟨hreleased, hbytes⟩ := Counts.release hcounts
    exact h.clear hsound ⟨hreleased, hbytes⟩
  · subst hp
    have hblock : blocks [c] = [v.block] := by simp [blocks, Holder.block?, hview]
    refine h.set hi trivial hsound hhandles ?_ fun id _ => by rw [hstore]; rfl
    rw [hstore, Item.handles, hblock]
    exact hcounts

theorem Counted.performed (h : d.Counted) (hp : d.perform a = .ok d') :
    Moved d (d.unwritten a) d' := by
  cases a with
  | newFrame width height =>
      simp only [perform] at hp
      split at hp
      · cases hp
        exact h.self
      · rename_i f store hf
        cases hp
        have hfresh := Frame.new_fresh h.counts hf
        exact h.add trivial hfresh.counts hfresh.others
  | frameOfBytes width height stride bytes =>
      simp only [perform] at hp
      split at hp
      · cases hp
        exact h.self
      · rename_i f store hf
        cases hp
        have hover := Frame.ofBytes_over h.counts hf
        exact h.add trivial hover.counts hover.others
  | newRenderer width height =>
      cases hp
      have hkeyed : (Item.renderer { width, height }).Keyed := List.Pairwise.nil
      exact h.add hkeyed h.counts fun _ _ => rfl
  | clone i =>
      simp only [perform] at hp
      split at hp
      · rename_i f hi
        cases hp
        exact h.share (x := .frame f) trivial rfl (mem_handles hi List.mem_cons_self)
      · rename_i v hi
        cases hp
        exact h.share (x := .view v) trivial rfl (mem_handles hi List.mem_cons_self)
      · cases hp
        exact h.self
  | cut i r =>
      simp only [perform] at hp
      split at hp
      · rename_i f hi
        split at hp
        · cases hp
          exact h.self
        · rename_i v hv
          cases hp
          obtain ⟨hblock, -⟩ := Frame.view_eq hv
          have hid : v.block ∈ d.handles := hblock ▸ mem_handles hi List.mem_cons_self
          exact h.share (x := .view v) trivial rfl hid
      · cases hp
        exact h.self
  | put i x y colour =>
      have hput := hp
      simp only [perform] at hput
      split at hput
      · rename_i f hi
        exact h.put hi hp
      · cases hput
        exact h.self
  | write i change =>
      simp only [perform] at hp
      split at hp
      · rename_i f hi
        cases hp
        have hwritten := Written.write (h.counts.perm (handles_perm hi)) change
        exact h.set hi trivial (h.withStore _) rfl hwritten.counts hwritten.others
      · cases hp
        exact h.self
  | repaint i output damage =>
      have hrepaint := hp
      simp only [perform] at hrepaint
      split at hrepaint
      · rename_i p hi
        exact h.repaint hi hp
      · cases hrepaint
        exact h.self
  | blit i b surface x y width height stride damage =>
      have hblit := hp
      simp only [perform] at hblit
      split at hblit
      · rename_i v hi
        exact h.blit hi b surface x y width height stride damage hp
      · cases hblit
        exact h.self
  | release i reason =>
      simp only [perform] at hp
      split at hp
      · rename_i c hi
        cases hp
        refine h.clear (Session.Use.steady (.release d.session c reason) h.sound).sound ?_
        exact (Session.release_keeps (h.command_counts hi) reason).perm List.perm_append_comm
      · cases hp
        exact h.self
  | submit i =>
      simp only [perform] at hp
      split at hp
      · rename_i c hi
        cases hp
        refine h.clear (Session.Use.steady (.submit d.session c) h.sound).sound ?_
        exact (Session.submit_keeps h.sound.ring (h.command_counts hi)).perm List.perm_append_comm
      · cases hp
        exact h.self
  | drop i =>
      simp only [perform] at hp
      split at hp
      · rename_i x hi
        cases hp
        have hcounts := h.counts.perm (handles_perm hi)
        exact h.clear (s := { d.session with store := x.handles.foldl PixelStore.release d.store })
          ⟨h.sound.ring, h.sound.held, h.sound.counted⟩ hcounts.releaseEach
      · cases hp
        exact h.self
  | nextCommand =>
      cases hp
      exact h.session (Session.Use.steady (.nextCommand d.session) h.sound).sound
        (Session.nextCommand_keeps h.sound.ring (h.counts.perm List.perm_append_comm))
  | giveBack id group =>
      cases hp
      exact h.session (Session.Use.steady (.giveBack d.session id group) h.sound).sound
        (Session.giveBack_keeps h.sound (h.counts.perm List.perm_append_comm) id group)
  | refuseMemory refuses =>
      cases hp
      exact ⟨⟨h.counts, h.withStore _, h.keyed⟩, fun _ _ _ => rfl⟩

/-! ## Who has what -/

/-- Somebody has the view, or a command on the ring or with the server keeps it. -/
def Has (d : Desk) (v : View) : Prop :=
  (∃ i x, d.item? i = some x ∧ x.view? = some v) ∨
    ∃ c ∈ d.session.queue ++ d.session.server.held, c.view? = some v

/-- The block is held by a value in another slot, or by a command on the ring or with the server. -/
def HasElsewhere (d : Desk) (i : Nat) (id : BlockId) : Prop :=
  (∃ j x, j ≠ i ∧ d.item? j = some x ∧ id ∈ x.handles) ∨
    ∃ c ∈ d.session.queue ++ d.session.server.held, ∃ v, c.view? = some v ∧ v.block = id

/-- The view is held now and after each of the acts. -/
def HasThroughout (d : Desk) (v : View) (acts : List Act) : Prop :=
  ∀ n d', d.run (acts.take n) = .ok d' → d'.Has v

theorem mem_handlesIn {slots : List (Option Item)} {id : BlockId} :
    id ∈ handlesIn slots ↔ ∃ (j : Nat) (x : Item), slots[j]? = some (some x) ∧ id ∈ x.handles := by
  rw [handlesIn, List.mem_flatMap]
  constructor
  · rintro ⟨x, hx, hid⟩
    obtain ⟨j, hj⟩ := List.mem_iff_getElem?.mp hx
    cases x with
    | none => cases hid
    | some x => exact ⟨j, x, hj, hid⟩
  · rintro ⟨j, x, hj, hid⟩
    exact ⟨some x, List.mem_of_getElem? hj, hid⟩

theorem mem_session_handles {id : BlockId} : id ∈ s.handles ↔
    ∃ c ∈ s.queue ++ s.server.held, ∃ v, c.view? = some v ∧ v.block = id := by
  simp only [Session.handles, blocks, List.mem_filterMap, Holder.block?, Option.map_eq_some_iff]

theorem item?_setSlot_none {y : Item} :
    (d.setSlot i none).item? j = some y ↔ j ≠ i ∧ d.item? j = some y := by
  rw [item?_eq_some, item?_eq_some, setSlot, List.getElem?_set]
  by_cases he : i = j
  · rw [if_pos he]
    split <;> simp [he]
  · rw [if_neg he]
    exact ⟨fun hy => ⟨Ne.symm he, hy⟩, fun hy => hy.2⟩

theorem mem_setSlot_none {id : BlockId} :
    id ∈ (d.setSlot i none).handles ↔ d.HasElsewhere i id := by
  rw [handles, List.mem_append, mem_handlesIn, HasElsewhere]
  refine or_congr ⟨?_, ?_⟩ mem_session_handles
  · rintro ⟨j, y, hj, hid⟩
    obtain ⟨hne, hy⟩ := item?_setSlot_none.mp (item?_eq_some.mpr hj)
    exact ⟨j, y, hne, hy, hid⟩
  · rintro ⟨j, y, hne, hy, hid⟩
    exact ⟨j, y, item?_eq_some.mp (item?_setSlot_none.mpr ⟨hne, hy⟩), hid⟩

theorem Has.mem_handles {v : View} (hv : d.Has v) : v.block ∈ d.handles := by
  rcases hv with ⟨i, x, hi, hx⟩ | ⟨c, hc, hview⟩
  · exact Desk.mem_handles hi (x.mem_handles hx)
  · exact List.mem_append_right _ (mem_blocks hc hview)

/-! ## What an act leaves alone -/

theorem item?_setSlot (hne : i ≠ j) (y : Option Item) : (d.setSlot i y).item? j = d.item? j := by
  rw [item?, setSlot, List.getElem?_set_ne hne, item?]

theorem item?_add (hj : d.item? j = some x) (y : Item) : (d.add y).item? j = some x := by
  have hslot := item?_eq_some.mp hj
  have hlt : j < d.slots.length := (List.getElem?_eq_some_iff.mp hslot).1
  rw [item?_eq_some, add, List.getElem?_append_left hlt, hslot]

/-- A value stays in its slot as long as no act takes or changes it. -/
theorem perform_item? (hp : d.perform a = .ok d') (hj : d.item? j = some x) (hne : a.target? ≠ some j) :
    d'.item? j = some x := by
  have hset : ∀ {i : Nat} {d₁ : Desk} (y : Option Item), some i ≠ some j → d₁.slots = d.slots →
      (d₁.setSlot i y).item? j = some x := fun {i d₁} y hij hslots => by
    rw [item?_setSlot (fun h => hij (congrArg some h)), item?, hslots]
    exact hj
  have hadd : ∀ {d₁ : Desk} (y : Item), d₁.slots = d.slots → (d₁.add y).item? j = some x :=
    fun {d₁} y hslots => item?_add (by rw [item?, hslots]; exact hj) y
  cases a with
  | newFrame width height | frameOfBytes width height stride bytes =>
      simp only [perform] at hp
      split at hp <;> cases hp
      · exact hj
      · exact hadd _ rfl
  | newRenderer width height =>
      cases hp
      exact hadd _ rfl
  | clone i =>
      simp only [perform] at hp
      split at hp <;> cases hp
      · exact hadd _ rfl
      · exact hadd _ rfl
      · exact hj
  | cut i r =>
      simp only [perform] at hp
      split at hp
      · split at hp <;> cases hp
        · exact hj
        · exact hadd _ rfl
      · cases hp
        exact hj
  | put i x y colour =>
      simp only [perform, bind, Except.bind] at hp
      split at hp
      · split at hp <;> cases hp
        exact hset _ hne rfl
      · cases hp
        exact hj
  | repaint i output damage =>
      simp only [perform, bind, Except.bind] at hp
      split at hp
      · split at hp
        · cases hp
        · split at hp <;> cases hp
          · exact hset _ hne rfl
          · exact item?_add (hset _ hne rfl) _
      · cases hp
        exact hj
  | blit i b surface x y width height stride damage =>
      have hblit := hp
      simp only [perform] at hblit
      split at hblit
      · rename_i v hi
        obtain ⟨r, -, rfl⟩ := perform_blit hi hp
        exact hset _ hne rfl
      · cases hblit
        exact hj
  | write i change | release i reason | submit i | drop i =>
      simp only [perform] at hp
      split at hp <;> cases hp
      · exact hset _ hne rfl
      · exact hj
  | nextCommand | giveBack id group | refuseMemory refuses =>
      cases hp
      exact hj

/-! ## Laws -/

/-- A frame is shared just when somebody else holds its pixels. -/
theorem Counted.isShared_iff (h : d.Counted) {f : Frame} (hi : d.item? i = some (.frame f)) :
    d.store.isShared f.block = true ↔ d.HasElsewhere i f.block := by
  rw [← mem_setSlot_none]
  exact Counts.isShared_iff (h.counts.perm (handles_perm hi))

/-- The same holds of a frame that a renderer keeps. -/
theorem Counted.isShared_kept_iff (h : d.Counted) {p : PatternRenderer}
    (hi : d.item? i = some (.renderer p)) {output : OutputId} {f : Frame}
    (hf : p.frame? output = some f) :
    d.store.isShared f.block = true ↔ f.block ∈ p.otherHandles output ∨ d.HasElsewhere i f.block := by
  rw [← mem_setSlot_none, ← List.mem_append]
  have hkeys : (p.frames.map (·.1)).Nodup := h.keyed _ (mem_slots hi)
  have hperm := (PatternRenderer.handles_perm hkeys hf).append_right (d.setSlot i none).handles
  exact Counts.isShared_iff (h.counts.perm ((handles_perm hi).trans hperm))

/-- What is put outside a frame goes nowhere, and no pixels are copied. -/
theorem perform_put_outside {f : Frame} (hi : d.item? i = some (.frame f)) {x y : UInt32}
    (hout : ¬(x < f.width ∧ y < f.height)) (colour : UInt32) :
    d.perform (.put i x y colour) = .ok d := by
  have hput : f.put d.store x y colour = .ok (f, d.store) := by
    rw [Frame.put, if_neg]
    simpa [Frame.hasPixel] using hout
  have hslot : d.setSlot i (some (.frame f)) = d := setSlot_self hi
  simp only [perform, hi, hput, bind, Except.bind]
  exact congrArg Except.ok hslot

theorem Act.target?_of_writes? (hw : a.writes? = some i) : a.target? = some i := by
  cases a <;> first | exact hw | cases hw

/-- A value in another slot stays, and so does what it shows. -/
theorem Counted.others (h : d.Counted) (hp : d.perform a = .ok d') (hj : d.item? j = some x)
    (hne : a.target? ≠ some j) :
    d'.item? j = some x ∧ ∀ id ∈ x.handles, d'.store.bytes id = d.store.bytes id := by
  have hj' := perform_item? hp hj hne
  refine ⟨hj', fun id hid => (h.performed hp).bytes id ?_ (mem_handles hj' hid)⟩
  unfold unwritten
  cases hw : a.writes? with
  | none => exact mem_handles hj hid
  | some i =>
      have hij : j ≠ i := fun he => hne (he ▸ Act.target?_of_writes? hw)
      exact mem_setSlot_none.mpr (.inl ⟨j, x, hij, hj, hid⟩)

/-- A view or a command is not written. -/
theorem perform_of_view {v : View} (hw : a.writes? = some i) (hi : d.item? i = some x)
    (hx : x.view? = some v) (hp : d.perform a = .ok d') : d' = d := by
  cases a with
  | put | write =>
      cases hw
      cases x with
      | frame f => cases hx
      | _ => simpa only [perform, hi, Except.ok.injEq, eq_comm] using hp
  | repaint =>
      cases hw
      cases x with
      | renderer p => cases hx
      | _ => simpa only [perform, hi, Except.ok.injEq, eq_comm] using hp
  | _ => cases hw

/-- A write moves no command. -/
theorem perform_session (hw : a.writes? = some i) (hp : d.perform a = .ok d') :
    d'.session = { d.session with store := d'.store } := by
  cases a with
  | put =>
      simp only [perform, bind, Except.bind] at hp
      split at hp
      · split at hp <;> cases hp
        rfl
      · cases hp
        rfl
  | write =>
      simp only [perform] at hp
      split at hp <;> cases hp <;> rfl
  | repaint =>
      simp only [perform, bind, Except.bind] at hp
      split at hp
      · split at hp
        · cases hp
        · split at hp <;> cases hp <;> rfl
      · cases hp
        rfl
  | _ => cases hw

/-- A write takes no view away. -/
theorem Has.of_write {v : View} (hv : d.Has v) (hw : a.writes? = some i) (hp : d.perform a = .ok d') :
    d'.Has v := by
  rcases hv with ⟨j, x, hj, hx⟩ | hqueued
  · by_cases he : j = i
    · subst he
      rw [perform_of_view hw hj hx hp]
      exact .inl ⟨j, x, hj, hx⟩
    · refine .inl ⟨j, x, perform_item? hp hj fun ht => he ?_, hx⟩
      rw [Act.target?_of_writes? hw] at ht
      exact (Option.some.inj ht).symm
  · right
    rw [perform_session hw hp]
    exact hqueued

/-- Whatever is written, the views of others show what they showed. -/
theorem Counted.view_bytes (h : d.Counted) (hp : d.perform a = .ok d') {v : View} (hv : d.Has v)
    (hv' : d'.Has v) : d'.store.bytes v.block = d.store.bytes v.block := by
  have hmoved := (h.performed hp).bytes v.block
  unfold unwritten at hmoved
  cases hw : a.writes? with
  | none =>
      rw [hw] at hmoved
      exact hmoved hv.mem_handles hv'.mem_handles
  | some i =>
      rw [hw] at hmoved
      rcases hv with ⟨j, x, hj, hx⟩ | hqueued
      · by_cases he : j = i
        · subst he
          rw [perform_of_view hw hj hx hp]
        · exact hmoved (mem_setSlot_none.mpr (.inl ⟨j, x, he, hj, x.mem_handles hx⟩)) hv'.mem_handles
      · refine hmoved (mem_setSlot_none.mpr (.inr ?_)) hv'.mem_handles
        obtain ⟨c, hc, hview⟩ := hqueued
        exact ⟨c, hc, v, hview, rfl⟩

/-- A repaint draws into the frame of one output, and the renderer's other frames stay. -/
theorem Counted.repaint_others (h : d.Counted) {p : PatternRenderer}
    (hi : d.item? i = some (.renderer p)) {output o : OutputId} {damage : Damage}
    (hp : d.perform (.repaint i output damage) = .ok d') {f : Frame} (hne : o ≠ output)
    (hf : p.frame? o = some f) :
    ∃ p', d'.item? i = some (.renderer p') ∧ p'.frame? o = some f ∧
      d'.store.bytes f.block = d.store.bytes f.block := by
  rcases h.repaint_cases hi hp with rfl | ⟨g, p', store, hdrawn, rfl⟩
  · rw [setSlot_self hi]
    exact ⟨p, hi, hf, rfl⟩
  · have hslot := item?_setSlot_self (d := d.withStore store) hi (.renderer p')
    refine ⟨p', item?_add hslot _, (hdrawn.frames o hne).trans hf, hdrawn.unpainted _ ?_⟩
    exact List.mem_append_left _ (PatternRenderer.mem_otherHandles hne hf)

/-! ## Runs -/

variable {acts : List Act}

theorem run_cons : d.run (a :: acts) = .ok d' ↔ ∃ d₁, d.perform a = .ok d₁ ∧ d₁.run acts = .ok d' := by
  rw [run, List.foldlM_cons]
  cases hp : d.perform a with
  | error t => simp [bind, Except.bind]
  | ok d₁ => simp [bind, Except.bind, run]

theorem Counted.run (h : d.Counted) (hrun : d.run acts = .ok d') : d'.Counted := by
  induction acts generalizing d with
  | nil =>
      cases hrun
      exact h
  | cons a acts ih =>
      obtain ⟨d₁, hp, hrest⟩ := run_cons.mp hrun
      exact ih (h.performed hp).counted hrest

/-- As long as a view is held its bytes stay. -/
theorem Counted.bytes_of_hasThroughout (h : d.Counted) {v : View} (hrun : d.run acts = .ok d')
    (hv : d.HasThroughout v acts) : d'.store.bytes v.block = d.store.bytes v.block := by
  induction acts generalizing d with
  | nil =>
      cases hrun
      rfl
  | cons a acts ih =>
      obtain ⟨d₁, hp, hrest⟩ := run_cons.mp hrun
      have hafter : d₁.HasThroughout v acts := fun n e he => hv (n + 1) e (run_cons.mpr ⟨d₁, hp, he⟩)
      have hstep := h.view_bytes hp (hv 0 d rfl) (hafter 0 d₁ rfl)
      exact (ih (h.performed hp).counted hrest hafter).trans hstep

/-- Nobody sees pixels change but who writes them. -/
structure Isolated (d : Desk) : Prop where
  /-- A frame is shared just when somebody else holds its pixels. -/
  shared : ∀ i f, d.item? i = some (.frame f) →
    (d.store.isShared f.block = true ↔ d.HasElsewhere i f.block)
  /-- The same holds of a frame that a renderer keeps. -/
  sharedKept : ∀ i p output f, d.item? i = some (.renderer p) → p.frame? output = some f →
    (d.store.isShared f.block = true ↔ f.block ∈ p.otherHandles output ∨ d.HasElsewhere i f.block)
  /-- What is in the other slots stays, with its pixels. -/
  others : ∀ a d' j x, d.perform a = .ok d' → d.item? j = some x → a.target? ≠ some j →
    d'.item? j = some x ∧ ∀ id ∈ x.handles, d'.store.bytes id = d.store.bytes id
  /-- A repaint of an output leaves the frames that the renderer keeps for others. -/
  repainted : ∀ i p output damage d' o f, d.item? i = some (.renderer p) →
    d.perform (.repaint i output damage) = .ok d' → o ≠ output → p.frame? o = some f →
    ∃ p', d'.item? i = some (.renderer p') ∧ p'.frame? o = some f ∧
      d'.store.bytes f.block = d.store.bytes f.block
  /-- No write is seen through a view, wherever it is. -/
  written : ∀ a i d' v, a.writes? = some i → d.perform a = .ok d' → d.Has v →
    d'.Has v ∧ d'.store.bytes v.block = d.store.bytes v.block
  /-- A view shows the same rows as long as it is held. -/
  rows : ∀ acts d' v, d.run acts = .ok d' → d.HasThroughout v acts →
    ∀ y, v.row d'.store y = v.row d.store y
  /-- What is put outside a frame goes nowhere, and no pixels are copied. -/
  outside : ∀ i f x y colour, d.item? i = some (.frame f) → ¬(x < f.width ∧ y < f.height) →
    d.perform (.put i x y colour) = .ok d

theorem Counted.isolated (h : d.Counted) : d.Isolated where
  shared _ _ hi := h.isShared_iff hi
  sharedKept _ _ _ _ hi hf := h.isShared_kept_iff hi hf
  others _ _ _ _ hp hj hne := h.others hp hj hne
  repainted _ _ _ _ _ _ _ hi hp hne hf := h.repaint_others hi hp hne hf
  written _ _ _ _ hw hp hv := ⟨hv.of_write hw hp, h.view_bytes hp hv (hv.of_write hw hp)⟩
  rows _ _ v hrun hv y := by
    rw [View.row, View.row, View.length, View.length, h.bytes_of_hasThroughout hrun hv]
  outside _ _ _ _ colour hi hout := perform_put_outside hi hout colour

end Desk

/-- At first there are no handles. -/
theorem Session.Fresh.counted_desk {s : Session} (h : s.Fresh) (hstore : s.store.blocks = #[]) :
    Desk.Counted { session := s } := by
  have hcounts : s.store.Counts (Desk.handles { session := s }) := by
    have hnone : Desk.handles { session := s } = [] := by
      simp [Desk.handles, Desk.handlesIn, Session.handles, h.queue, h.held, blocks]
    rw [hnone]
    exact PixelStore.counts_of_blocks hstore
  exact ⟨hcounts, h.conserved.sound, fun _ hx => by cases hx⟩

/-- Whatever is done with frames, views, commands and renderers, pixels are shared just when more than
one handle is on them, and what one handle writes no other one sees. -/
theorem Session.Fresh.isolated_of_run {s : Session} (h : s.Fresh) (hstore : s.store.blocks = #[])
    {acts : List Desk.Act} {d : Desk} (hrun : Desk.run { session := s } acts = .ok d) : d.Isolated :=
  ((h.counted_desk hstore).run hrun).isolated

/-- A pixel is put into a frame of which there is a view: the frame moves to a copy, and the view is
built into a command that still has the old bytes. -/
theorem isolated_of_run_view_kept :
    ∃ s : Session, s.Fresh ∧ s.store.blocks = #[] ∧ ∃ d, Desk.run { session := s }
        [.frameOfBytes 1 1 4 ⟨#[1, 2, 3, 4]⟩, .cut 0 ⟨0, 0, 1, 1⟩, .put 0 0 0 7,
          .blit 1 0 ⟨0⟩ 0 0 1 1 4 {}, .submit 1] = .ok d ∧
      d.handles = [⟨1⟩, ⟨0⟩] ∧ (d.store.bytes ⟨0⟩).data = #[1, 2, 3, 4] ∧
      (d.store.bytes ⟨1⟩).data = #[7, 0, 0, 0] ∧ d.Isolated := by
  have hfresh : (Session.ofRing (.ofCapacity 2 0) 0 2 [0]).Fresh :=
    Session.fresh_ofRing (Ring.wellFormed_ofCapacity 2 0) (Ring.toList_ofCapacity 2 0) 0 2 (by simp)
  have hmade : (Desk.run { session := .ofRing (.ofCapacity 2 0) 0 2 [0] }
        [.frameOfBytes 1 1 4 ⟨#[1, 2, 3, 4]⟩, .cut 0 ⟨0, 0, 1, 1⟩, .put 0 0 0 7,
          .blit 1 0 ⟨0⟩ 0 0 1 1 4 {}, .submit 1]).toOption.map
        (fun d => (d.handles, (d.store.bytes ⟨0⟩).data, (d.store.bytes ⟨1⟩).data)) =
      some ([⟨1⟩, ⟨0⟩], #[1, 2, 3, 4], #[7, 0, 0, 0]) := by
    decide +kernel
  cases hrun : Desk.run { session := .ofRing (.ofCapacity 2 0) 0 2 [0] }
      [.frameOfBytes 1 1 4 ⟨#[1, 2, 3, 4]⟩, .cut 0 ⟨0, 0, 1, 1⟩, .put 0 0 0 7,
        .blit 1 0 ⟨0⟩ 0 0 1 1 4 {}, .submit 1] with
  | error t =>
      rw [hrun] at hmade
      cases hmade
  | ok d =>
      rw [hrun] at hmade
      obtain ⟨hhandles, hold, hnew⟩ : d.handles = [⟨1⟩, ⟨0⟩] ∧
          (d.store.bytes ⟨0⟩).data = #[1, 2, 3, 4] ∧ (d.store.bytes ⟨1⟩).data = #[7, 0, 0, 0] := by
        simpa [Except.toOption] using hmade
      exact ⟨_, hfresh, rfl, d, hrun, hhandles, hold, hnew, hfresh.isolated_of_run rfl hrun⟩

end RemoteDisplay
