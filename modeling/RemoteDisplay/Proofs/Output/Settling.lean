import RemoteDisplay.Frame.Scripted
import RemoteDisplay.Proofs.Output.Effects

/-!
# Where a repaint leaves its output

An output that waits for a repaint is repainting only while the repaint lasts: in the end its wakeup
timer runs, or the output is idle and the next request starts the cycle again. The way out that does
neither is a fatal fault while the image is made.
-/

namespace RemoteDisplay.Output

variable {ρ : Type} [Renderer ρ] {o o' : Output} {st st' : Stage ρ} {damage : Damage}
  {answer : Except Fault RepaintOutcome}

/-- The wakeup is on its way, or the next request starts the cycle again. -/
inductive Settled (o : Output) (timers : TimerHost) (o' : Output) (timers' : TimerHost) : Prop where
  | awaiting (hstate : o'.state = .awaitingWakeup)
      (hstart : timers.start o.timer o.interval = (.ok (), timers'))
  | idle {e : Fault} (hstate : o'.state = .idle)
      (hstart : timers.start o.timer o.interval = (.error e, timers'))
      (hrequest : o'.requestRepaint = (true, { o' with state := .repaintScheduled }))

/-- The image of a repaint ended in a fatal fault. -/
def BreaksOff (o : Output) (st : Stage ρ) (damage : Damage) (e : Fault) (st' : Stage ρ) : Prop :=
  ∃ extents, (damage.clipped o.geometry.bounds).extents = some extents ∧ e.isFatal = true ∧
    blit { o with state := .repainting } st (damage.clipped o.geometry.bounds) extents =
      .ok (.error e, st')

omit [Renderer ρ] in
theorem awaitWakeup_settled {outcome : RepaintOutcome}
    (h : o.awaitWakeup st outcome = .ok (answer, o', st')) : Settled o st.timers o' st'.timers := by
  rcases awaitWakeup_cases h with ⟨timers, hok, -, rfl, rfl⟩ | ⟨f, timers, hrefused, -, -, rfl, rfl⟩ |
    ⟨f, timers, wakeupsMissed, hrefused, -, -, -, rfl, rfl⟩
  · exact .awaiting rfl hok
  · exact .idle rfl hrefused rfl
  · exact .idle rfl hrefused rfl

theorem Settled.of_timer {o₁ : Output} {timers timers' : TimerHost} (h : Settled o₁ timers o' timers')
    (htimer : o₁.timer = o.timer) (hinterval : o₁.interval = o.interval) :
    Settled o timers o' timers' := by
  cases h with
  | awaiting hstate hstart =>
      rw [htimer, hinterval] at hstart
      exact .awaiting hstate hstart
  | idle hstate hstart hrequest =>
      rw [htimer, hinterval] at hstart
      exact .idle hstate hstart hrequest

theorem Settled.not_repainting {timers timers' : TimerHost} (h : Settled o timers o' timers') :
    o'.state ≠ .repainting := by
  cases h with
  | awaiting hstate => simp [hstate]
  | idle hstate => simp [hstate]

omit [Renderer ρ] in
theorem awaitWakeup_outcome {outcome : RepaintOutcome}
    (h : o.awaitWakeup st outcome = .ok (answer, o', st')) (hne : outcome ≠ .notScheduled) :
    answer ≠ .ok .notScheduled := by
  rcases awaitWakeup_cases h with ⟨-, -, rfl, -⟩ | ⟨f, -, -, -, rfl, -⟩ | ⟨-, -, -, -, -, -, rfl, -⟩
  · simpa using hne
  · simp
  · simpa using hne

theorem repaint_of_breaksOff {e : Fault} (hstate : o.state = .repaintScheduled)
    (h : BreaksOff o st damage e st') :
    o.repaint st damage = .ok (.error e, { o with state := .repainting }, st') := by
  obtain ⟨extents, hextents, hfatal, hblit⟩ := h
  rw [repaint, if_neg (not_not_intro hstate)]
  simp only [send, hextents, hblit, hfatal, if_true, bind, Except.bind]
  rfl

/-- A repaint for which nothing waits changes nothing. Every other one settles its output, unless the
image breaks off: then the output is left repainting, and only then. -/
theorem repaint_settles_unless_broken (o : Output) (st : Stage ρ) (damage : Damage) :
    (o.state ≠ .repaintScheduled → o.repaint st damage = .ok (.ok .notScheduled, o, st)) ∧
    ∀ answer o' st', o.state = .repaintScheduled → o.repaint st damage = .ok (answer, o', st') →
      answer ≠ .ok .notScheduled ∧
      (Settled o st.timers o' st'.timers ∨
        o'.state = .repainting ∧ st'.timers = st.timers ∧
          ∃ e, answer = .error e ∧ BreaksOff o st damage e st') ∧
      (o'.state = .repainting ↔ ∃ e st'', BreaksOff o st damage e st'') := by
  refine ⟨repaint_of_not_scheduled st damage, ?_⟩
  intro answer o' st' hstate h
  have hleft : ∀ {e st''}, BreaksOff o st damage e st'' → o'.state = .repainting := by
    intro e st'' hbroken
    rw [repaint_of_breaksOff hstate hbroken] at h
    cases h
    rfl
  rcases repaint_cases hstate h with ⟨e, rfl, hs⟩ | ⟨outcome, o₁, st₁, hs, hwait⟩
  · cases hs with
    | broken hsome hblit hfatal =>
        have hbroken : BreaksOff o st damage e st' := ⟨_, hsome, hfatal, hblit⟩
        refine ⟨by simp, .inr ⟨rfl, blit_timers hblit, e, rfl, hbroken⟩, ?_⟩
        exact ⟨fun _ => ⟨e, st', hbroken⟩, fun _ => rfl⟩
  · have hsettled := awaitWakeup_settled hwait
    have houtcome := awaitWakeup_outcome hwait hs.outcome
    rw [hs.timers] at hsettled
    have hkept : Settled o st.timers o' st'.timers :=
      hsettled.of_timer hs.kin.timer hs.kin.interval
    refine ⟨houtcome, .inl hkept, ?_⟩
    constructor
    · intro hrepainting
      exact absurd hrepainting hkept.not_repainting
    · rintro ⟨e, st'', hbroken⟩
      exact hleft hbroken

/-- The frame is refused, but not for good: the repaint is dropped and its wakeup is on the way. -/
theorem repaint_settles_unless_broken_dropped :
    ∃ (o o' : Output) (st st' : Stage ScriptedRenderer) (damage : Damage) (e : Fault),
      o.state = .repaintScheduled ∧ o.repaint st damage = .ok (.ok (.dropped e), o', st') ∧
      Settled o st.timers o' st'.timers ∧ o'.repaint st' damage = .ok (.ok .notScheduled, o', st') := by
  let o : Output := ⟨⟨0⟩, ⟨0, 0, 16, 8⟩, ⟨0⟩, ⟨1⟩, 1, .repaintScheduled, 0, {}⟩
  let st : Stage ScriptedRenderer :=
    ⟨⟨[.refused (.allocationFailed "canned")], ⟨16, 8, [], 0⟩⟩, .ofRing (.ofCapacity 4 0) 0 2 [350], {}⟩
  have hextents : ((Damage.full 16 8).clipped o.geometry.bounds).extents = some ⟨0, 0, 16, 8⟩ := by
    decide +kernel
  have hrepaint : ∃ o' st', o.repaint st (.full 16 8) =
      .ok (.ok (.dropped (.allocationFailed "canned")), o', st') ∧ o'.state = .awaitingWakeup := by
    rw [repaint, if_neg (not_not_intro rfl)]
    simp only [send, hextents]
    exact ⟨_, _, rfl, rfl⟩
  obtain ⟨o', st', hrepaint, hawaiting⟩ := hrepaint
  obtain ⟨-, hsettles⟩ := repaint_settles_unless_broken o st (.full 16 8)
  obtain ⟨-, hsettled | ⟨hstuck, -⟩, -⟩ := hsettles _ o' st' rfl hrepaint
  · obtain ⟨hwaits, -⟩ := repaint_settles_unless_broken o' st' (.full 16 8)
    exact ⟨o, o', st, st', _, _, rfl, hrepaint, hsettled, hwaits (by simp [hawaiting])⟩
  · rw [hawaiting] at hstuck
    cases hstuck

/-- The renderer refuses the frame with a fatal fault. Neither a wakeup nor a request brings the output
back, though its timer could have been started. -/
theorem repaint_stuck_after_fatal_frame :
    ∃ (o o' : Output) (st st' : Stage ScriptedRenderer) (damage : Damage) (e : Fault),
      o.state = .repaintScheduled ∧ o.repaint st damage = .ok (.error e, o', st') ∧
      o'.state = .repainting ∧ ¬Settled o st.timers o' st'.timers ∧
      (st.timers.start o.timer o.interval).1 = .ok () ∧ o'.requestRepaint = (false, o') ∧
      o'.wakeup = .ok (false, o') := by
  let o : Output := ⟨⟨0⟩, ⟨0, 0, 16, 8⟩, ⟨0⟩, ⟨1⟩, 1, .repaintScheduled, 0, {}⟩
  let st : Stage ScriptedRenderer :=
    ⟨⟨[.refused (.protocolViolation "canned")], ⟨16, 8, [], 0⟩⟩, .ofRing (.ofCapacity 4 0) 0 2 [350], {}⟩
  have hextents : ((Damage.full 16 8).clipped o.geometry.bounds).extents = some ⟨0, 0, 16, 8⟩ := by
    decide +kernel
  have hbroken : BreaksOff o st (.full 16 8) (.protocolViolation "canned")
      { st with renderer := ⟨[], ⟨16, 8, [], 0⟩⟩ } := ⟨_, hextents, rfl, rfl⟩
  refine ⟨o, _, st, _, _, _, rfl, repaint_of_breaksOff rfl hbroken, rfl, ?_, rfl, rfl, rfl⟩
  intro hsettled
  exact hsettled.not_repainting rfl

end RemoteDisplay.Output
