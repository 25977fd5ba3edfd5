import RemoteDisplay.EventLoop.Mask

/-!
# Event sources

An event loop runs on a host, which keeps the sources that are registered with it, each under a token
of its own. `SourceHost` is a host that refuses a second source for one descriptor, and registrations
as it is told to.
-/

namespace RemoteDisplay

/-- Names a registration. -/
structure Token where
  raw : Nat
  deriving DecidableEq, Repr, Inhabited

/-- What can be registered: an expiry at a time, or a descriptor with the readiness waited for. -/
inductive Source where
  | expiry (time : Nat)
  | descriptor (fd : Nat) (mask : Mask)
  deriving DecidableEq, Repr

/-- A host of event sources. -/
class EventHost (H : Type) where
  /-- Registers a source under a new token, unless the host refuses. -/
  register : H → Source → Option Token × H
  /-- Removes a registration; a token without one is ignored. -/
  remove : H → Token → H
  /-- The source registered under a token. -/
  source? : H → Token → Option Source
  /-- The tokens of the expiries that are due at a time, in the order in which they fire. -/
  due : H → Nat → List Token

/-- The registered sources, in the order of their registration. -/
structure SourceHost where
  next : Nat := 0
  sources : List (Token × Source) := []
  /-- Which of the next registrations are refused. -/
  refusals : List Bool := []
  /-- Tokens are given out in order. -/
  ascending : (sources.map (·.1.raw)).Pairwise (· < ·) := by exact List.Pairwise.nil
  below : ∀ p ∈ sources, p.1.raw < next := by exact List.forall_mem_nil _

namespace SourceHost

/-- A host with some of the sources. -/
def keep (h : SourceHost) (p : Token × Source → Bool) : SourceHost :=
  { h with
    sources := h.sources.filter p
    ascending := h.ascending.sublist (List.filter_sublist.map _)
    below := fun x hx => h.below x (List.mem_filter.mp hx).1 }

/-- The host with one more source. -/
def add (h : SourceHost) (s : Source) : SourceHost :=
  { h with
    next := h.next + 1
    sources := h.sources ++ [(⟨h.next⟩, s)]
    ascending := by
      rw [List.map_append, List.pairwise_append]
      refine ⟨h.ascending, List.pairwise_singleton _ _, fun m hm n hn => ?_⟩
      obtain ⟨p, hp, rfl⟩ := List.mem_map.mp hm
      exact List.mem_singleton.mp hn ▸ h.below p hp
    below := fun x hx => by
      rcases List.mem_append.mp hx with hx | hx
      · exact Nat.lt_succ_of_lt (h.below x hx)
      · exact List.mem_singleton.mp hx ▸ Nat.lt_succ_self _ }

/-- The source for the descriptor is registered already. -/
def clashes (h : SourceHost) : Source → Bool
  | .expiry _ => false
  | .descriptor fd _ => h.sources.any fun
    | (_, .descriptor fd' _) => fd = fd'
    | _ => false

/-- Drops the source for a descriptor that was closed. -/
def forget (h : SourceHost) (fd : Nat) : SourceHost :=
  h.keep fun
    | (_, .descriptor fd' _) => fd ≠ fd'
    | _ => true

/-- The next registration is refused, or only if it has to be. -/
def refusing (h : SourceHost) (refuse : Bool) : SourceHost := { h with refusals := [refuse] }

instance : EventHost SourceHost where
  register h s :=
    let later := { h with refusals := h.refusals.tail }
    if h.refusals.headD false || h.clashes s then (none, later) else (some ⟨h.next⟩, later.add s)
  remove h k := h.keep (·.1 ≠ k)
  source? h k := h.sources.lookup k
  due h now :=
    h.sources.filterMap fun
      | (k, .expiry time) => if time ≤ now then some k else none
      | _ => none

end SourceHost

end RemoteDisplay
