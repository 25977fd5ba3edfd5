import RemoteDisplay.Proofs.Ring.Queue

/-!
# A ring answers like a bounded list

A ring and a list with room for as many elements as the ring has slots are asked the same things. They
give the same answers, and the ring stands for the list all the time, wherever its cursors began and
however often they went around.
-/

namespace RemoteDisplay.Ring

variable {α : Type}

/-- What can be asked of a ring. -/
inductive Operation (α : Type) where
  /-- Append in one attempt. -/
  | tryEnqueue (a : α)
  /-- Append, trying again for as long as the ring's owner allows. -/
  | enqueue (a : α)
  | dequeue
  | drainWhere (p : α → Bool)
  | drain

inductive Answer (α : Type) where
  | appended
  /-- There was no room, so the element is the caller's again. -/
  | refused (a : α)
  | taken (a : Option α)
  | drained (as : List α)

/-! ## The ring's side -/

/-- The outcome of an attempt to append. -/
def offered (r : Ring α) (a : α) : Option (Ring α) → Answer α × Ring α
  | some r => (.appended, r)
  | none => (.refused a, r)

def perform (retries : Nat) (r : Ring α) : Operation α → Answer α × Ring α
  | .tryEnqueue a => r.offered a (r.push? a)
  | .enqueue a => r.offered a (r.enqueue a retries)
  | .dequeue => (.taken r.pop.1, r.pop.2)
  | .drainWhere p => (.drained (r.drainWhere p).1, (r.drainWhere p).2)
  | .drain => (.drained r.drain.1, r.drain.2)

def run (retries : Nat) (r : Ring α) : List (Operation α) → List (Answer α) × Ring α
  | [] => ([], r)
  | op :: ops =>
    let (answer, r) := r.perform retries op
    let (answers, r) := r.run retries ops
    (answer :: answers, r)

/-! ## The list's side -/

/-- The operation on a list with room for `capacity` elements. -/
def Operation.onList (capacity : Nat) (as : List α) : Operation α → Answer α × List α
  | .tryEnqueue a | .enqueue a =>
    if as.length < capacity then (.appended, as ++ [a]) else (.refused a, as)
  | .dequeue => (.taken as.head?, as.tail)
  | .drainWhere p => (.drained (as.filter p), as.filter fun a => !p a)
  | .drain => (.drained as, [])

def runOnList (capacity : Nat) (as : List α) : List (Operation α) → List (Answer α) × List α
  | [] => ([], as)
  | op :: ops =>
    let (answer, as) := op.onList capacity as
    let (answers, as) := runOnList capacity as ops
    (answer :: answers, as)

/-! ## One operation -/

variable {r : Ring α}

theorem WellFormed.offered (h : r.WellFormed) (a : α) :
    (r.offered a (r.push? a)).1 = ((Operation.enqueue a).onList r.capacity r.toList).1 ∧
    (r.offered a (r.push? a)).2.WellFormed ∧
    (r.offered a (r.push? a)).2.toList = ((Operation.enqueue a).onList r.capacity r.toList).2 ∧
    (r.offered a (r.push? a)).2.capacity = r.capacity := by
  have hlen := h.length_toList
  rcases Nat.lt_or_eq_of_le h.length_le with hroom | hfull
  · obtain ⟨r', hpush, hwf, hlist, hcap⟩ := h.push a hroom
    simp only [hpush, Ring.offered, Operation.onList, hlen, if_pos hroom]
    exact ⟨trivial, hwf, hlist, hcap⟩
  · have hfull' : ¬r.length < r.capacity := by omega
    simp only [push?_of_full a hfull, Ring.offered, Operation.onList, hlen, if_neg hfull']
    exact ⟨trivial, h, trivial, trivial⟩

theorem WellFormed.pop (h : r.WellFormed) :
    r.pop.1 = r.toList.head? ∧ r.pop.2.WellFormed ∧ r.pop.2.toList = r.toList.tail ∧
      r.pop.2.capacity = r.capacity := by
  cases hlist : r.toList with
  | nil =>
      rw [h.pop_of_nil hlist]
      exact ⟨rfl, h, hlist, rfl⟩
  | cons a as =>
      obtain ⟨r', hpop, hwf, hrest, hcap⟩ := h.pop_of_cons hlist
      rw [hpop]
      exact ⟨rfl, hwf, hrest, hcap⟩

/-- A ring answers an operation like the list that it stands for, and stands for the next one. -/
theorem WellFormed.perform (h : r.WellFormed) (retries : Nat) (op : Operation α) :
    (r.perform retries op).1 = (op.onList r.capacity r.toList).1 ∧
    (r.perform retries op).2.WellFormed ∧
    (r.perform retries op).2.toList = (op.onList r.capacity r.toList).2 ∧
    (r.perform retries op).2.capacity = r.capacity := by
  cases op with
  | tryEnqueue a => exact h.offered a
  | enqueue a =>
      simp only [Ring.perform, enqueue_eq_push?]
      exact h.offered a
  | dequeue =>
      obtain ⟨htaken, hwf, hrest, hcap⟩ := h.pop
      exact ⟨congrArg Answer.taken htaken, hwf, hrest, hcap⟩
  | drainWhere p =>
      obtain ⟨hdrained, hwf, hkept, hcap⟩ := h.drainWhere p
      exact ⟨congrArg Answer.drained hdrained, hwf, hkept, hcap⟩
  | drain =>
      obtain ⟨hdrained, hwf, hnil, hcap⟩ := h.drain
      exact ⟨congrArg Answer.drained hdrained, hwf, hnil, hcap⟩

/-! ## Runs -/

theorem WellFormed.run (h : r.WellFormed) (retries : Nat) (ops : List (Operation α)) :
    (r.run retries ops).1 = (runOnList r.capacity r.toList ops).1 ∧
    (r.run retries ops).2.WellFormed ∧
    (r.run retries ops).2.toList = (runOnList r.capacity r.toList ops).2 ∧
    (r.run retries ops).2.capacity = r.capacity := by
  induction ops generalizing r with
  | nil => exact ⟨rfl, h, rfl, rfl⟩
  | cons op ops ih =>
      obtain ⟨hanswer, hwf, hlist, hcap⟩ := h.perform retries op
      -- The rest of the run starts at the list that the first operation left.
      obtain ⟨hanswers, hwf', hlist', hcap'⟩ := ih hwf
      rw [hcap, hlist] at hanswers hlist'
      exact ⟨congrArg₂ List.cons hanswer hanswers, hwf', hlist', hcap'.trans hcap⟩

/-- A new ring of any capacity, at least one, is a bounded first-in first-out queue: whatever it is
asked, and however often its owner retries, it answers like the list of its elements, and its length is
that list's and at most its capacity. -/
theorem refines_bounded_list (capacity origin retries : Nat) (ops : List (Operation α)) :
    ((ofCapacity capacity origin).run retries ops).1 = (runOnList (max capacity 1) [] ops).1 ∧
    ((ofCapacity capacity origin).run retries ops).2.toList = (runOnList (max capacity 1) [] ops).2 ∧
    ((ofCapacity capacity origin).run retries ops).2.length =
      (runOnList (max capacity 1) [] ops).2.length ∧
    ((ofCapacity capacity origin).run retries ops).2.length ≤ max capacity 1 ∧
    ((ofCapacity capacity origin).run retries ops).2.capacity = max capacity 1 := by
  have hcap : (ofCapacity (α := α) capacity origin).capacity = max capacity 1 := by
    simp [Ring.capacity, ofCapacity]
  obtain ⟨hanswers, hwf, hlist, hcap'⟩ := (wellFormed_ofCapacity capacity origin).run retries ops
  rw [toList_ofCapacity, hcap] at hanswers hlist
  rw [hcap] at hcap'
  refine ⟨hanswers, hlist, ?_, ?_, hcap'⟩
  · rw [← hlist, hwf.length_toList]
  · rw [← hcap']
    exact hwf.length_le

end RemoteDisplay.Ring
