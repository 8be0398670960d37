import Grokbotliq.Framework.Relay
import Grokbotliq.Liquidator.PlanLoop
import Grokbotliq.Streaming.FailoverMux

/-!
# Forwarding a provider's stream

`subscribe` of the failover mux leaves a task behind: it takes the chosen provider's events one
after another, records each one's slot in the tracker, passes the event on to the mux's own
subscriber, and marks the provider disconnected when the stream ends or the subscriber is gone.
The tracker is shared, so any calls on it may fall between two moves of the task.

The task is a relay with the tracker as its shared state.  Whatever the interleaving, the
subscriber sees the provider's events in order, without gaps or repetitions
(`forward_in_order`), all of them if it keeps reading (`forward_delivers`), and the tracker is
never behind what the subscriber has seen (`forward_reports`).

The first two are results about any relay (`Framework/Relay.lean`), used here at the tracker.  The
third is about the tracker: `Reported` is a relation between the events taken and what the tracker
shows of the provider, and every call that does not report the provider keeps it.
-/

namespace Grokbotliq

open FreshnessTracker Liquidator

/-- The slot of an event, as the forwarding task reads it. -/
def Liquidator.StreamEvent.slotOf : StreamEvent → ℕ
  | .slot n _ _ => n
  | .account upd => upd.slot
  | .price _ _ n _ => n

/-- The task `subscribe` spawns for a provider whose own channel has `room`. -/
def forward (room : ℕ) (name : String) :
    RelayPlan StreamEvent FreshnessTracker ℕ (ℕ × Call) where
  inRoom := room
  outRoom := 256
  note now ev tracker := tracker.record now name ev.slotOf
  finish tracker := tracker.markDisconnected name
  meddle timed tracker := tracker.step timed

/-- A move of the provider, the task, the subscriber or another holder of the tracker. -/
abbrev ForwardMove := RelayMove StreamEvent ℕ (ℕ × Call)

/-- The task right after `subscribe`, with some events waiting in the provider's channel. -/
abbrev forwarding (events : List StreamEvent) (closed : Bool) (tracker : FreshnessTracker) :
    Relay StreamEvent FreshnessTracker :=
  .start events closed tracker

/-- `MockGeyser::subscribe`: a channel holding all the events, with nobody left to send. -/
def mockGeyser (events : List StreamEvent) (tracker : FreshnessTracker) :
    Relay StreamEvent FreshnessTracker :=
  forwarding events true tracker

/-! ## The events -/

/-- **No loss, no repetition, no reordering.**  However the provider, the task, the subscriber
and other users of the tracker interleave: what the subscriber has read is a prefix of what has
been recorded, and that of what the provider has sent; and while the subscriber listens, it is
behind the provider by no more than the two channels and the one event in the task hold. -/
theorem forward_in_order (room : ℕ) (name : String) (events : List StreamEvent) (closed : Bool)
    (tracker : FreshnessTracker) (run : List ForwardMove) (hroom : events.length ≤ room)
    {s : Relay StreamEvent FreshnessTracker}
    (hs : s = Runs.exec (Relay.step (forward room name)) (forwarding events closed tracker) run) :
    s.received <+: s.noted ∧ s.noted <+: s.sent ∧
      (s.listening = true → s.sent.length ≤ s.received.length + 256 + 1 + room) := by
  have horder : Relay.InOrder (forward room name) s := by
    rw [hs]
    exact Relay.inOrder_exec (Relay.inOrder_start _ closed tracker hroom) run
  refine ⟨horder.kept, ⟨_, by rw [← horder.taken, List.append_assoc]⟩, fun hears => ?_⟩
  have hin : s.inbox.length ≤ room := horder.inRoom
  have hout : s.outbox.length ≤ 256 := horder.outRoom
  have hone : s.phase.held.length + s.phase.fresh.length ≤ 1 := by
    cases s.phase <;> simp [RelayPhase.held, RelayPhase.fresh]
  rw [← horder.taken, ← horder.passed hears]
  simp only [List.length_append]
  omega

/-- **Everything arrives.**  From any reachable state in which the subscriber listens: once the
provider sends nothing more, more rounds than there is work left, each with a turn of the task
and of the subscriber and any calls on the tracker in between, bring the subscriber all the
provider has sent; and if the provider has gone the task has ended. -/
theorem forward_delivers (room : ℕ) (name : String) (events : List StreamEvent) (closed : Bool)
    (tracker : FreshnessTracker) (run : List ForwardMove) (hroom : events.length ≤ room)
    {s : Relay StreamEvent FreshnessTracker}
    (hs : s = Runs.exec (Relay.step (forward room name)) (forwarding events closed tracker) run)
    (hears : s.listening = true) (rounds : List (List ForwardMove))
    (hrounds : ∀ ms ∈ rounds, Relay.Round ms) (hlength : s.work < rounds.length) :
    Relay.Delivered s (Runs.exec (Relay.step (forward room name)) s rounds.flatten) := by
  have horder : Relay.InOrder (forward room name) s := by
    rw [hs]
    exact Relay.inOrder_exec (Relay.inOrder_start _ closed tracker hroom) run
  exact Relay.delivered_of_rounds horder (by decide : 0 < 256) hears rounds hrounds hlength

/-! ## The tracker -/

namespace FreshnessTracker

/-- The entry `find` returns for a name, after an update of the first provider of a name. -/
lemma find_updateNamed {f : ProviderFreshness → ProviderFreshness} (hf : ∀ p, (f p).name = p.name)
    (name other : String) (ps : List ProviderFreshness) :
    ((updateNamed other f ps).find? fun p => p.name = name) =
      (ps.find? fun p => p.name = name).map fun p => if other = name then f p else p := by
  induction ps with
  | nil => rfl
  | cons p ps ih =>
      rw [updateNamed]
      by_cases hother : p.name = other
      · rw [if_pos hother, List.find?_cons, List.find?_cons, hf]
        by_cases hname : p.name = name
        · simp [hname, ← hother]
        · have hne : other ≠ name := fun heq => hname (hother.trans heq)
          simp [hname, hne]
      · rw [if_neg hother, List.find?_cons, List.find?_cons]
        by_cases hname : p.name = name
        · have hne : other ≠ name := fun heq => hother (hname.trans heq.symm)
          simp [hname, hne]
        · simpa [hname] using ih

lemma find_refreshSilence (t : FreshnessTracker) (now : ℕ) (name : String) :
    ((t.refreshSilence now).providers.find? fun p => p.name = name) =
      (t.providers.find? fun p => p.name = name).map (silence t.policy now) := by
  have hnames : ((fun p : ProviderFreshness => decide (p.name = name)) ∘
      silence t.policy now) = fun p => decide (p.name = name) := by
    funext p
    simp [silence_name]
  rw [refreshSilence, List.find?_map, hnames]

/-- The call is a report of that provider. -/
def Call.Reports (name : String) : Call → Prop
  | .record other _ => other = name
  | _ => False

/-- What the tracker shows of the provider whose events `evs` have been recorded: no event is
ahead of the tip, the last slot is the last event's, and after the end it is not healthy. -/
structure Reported (name : String) (evs : List StreamEvent) (ended : Bool)
    (t : FreshnessTracker) : Prop where
  tip : ∀ ev ∈ evs, ev.slotOf ≤ t.tipSlot
  entry : ∃ p, (t.providers.find? fun p => p.name = name) = some p ∧
    (∀ ev, evs.getLast? = some ev → p.lastSlot = ev.slotOf) ∧ (ended = true → p.healthy = false)

lemma Reported.refreshSilence {name : String} {evs : List StreamEvent} {ended : Bool}
    {t : FreshnessTracker} (h : Reported name evs ended t) (now : ℕ) :
    Reported name evs ended (t.refreshSilence now) := by
  obtain ⟨htip, p, hfind, hlast, hended⟩ := h
  refine ⟨htip, silence t.policy now p, ?_, fun ev hev => ?_, fun hend => ?_⟩
  · rw [find_refreshSilence, hfind]
    rfl
  · have hslot : (silence t.policy now p).lastSlot = p.lastSlot := by
      unfold silence
      split_ifs <;> rfl
    rw [hslot, hlast ev hev]
  · rw [silence_of_unhealthy (hended hend), hended hend]

lemma Reported.markDisconnected {name : String} {evs : List StreamEvent} {ended : Bool}
    {t : FreshnessTracker} (h : Reported name evs ended t) (other : String) :
    Reported name evs (ended || other == name) (t.markDisconnected other) := by
  obtain ⟨htip, p, hfind, hlast, hended⟩ := h
  refine ⟨htip, _, (find_updateNamed (fun p => by rfl) name other t.providers).trans
    (congrArg _ hfind), fun ev hev => ?_, fun hend => ?_⟩
  · rw [← hlast ev hev]
    split_ifs <;> rfl
  · by_cases hother : other = name
    · simp [hother]
    · simpa [hother] using hended (by simpa [hother] using hend)

lemma Reported.record {name : String} {evs : List StreamEvent} {ended : Bool}
    {t : FreshnessTracker} (h : Reported name evs ended t) (now : ℕ) (ev : StreamEvent) :
    Reported name (evs ++ [ev]) false (t.record now name ev.slotOf) := by
  obtain ⟨htip, p, hfind, -, -⟩ := h
  have hle : t.tipSlot ≤ (t.record now name ev.slotOf).tipSlot ∧
      ev.slotOf ≤ (t.record now name ev.slotOf).tipSlot := by
    unfold FreshnessTracker.record
    dsimp only
    split_ifs with hlt
    · exact ⟨hlt.le, le_rfl⟩
    · exact ⟨le_rfl, not_lt.1 hlt⟩
  refine ⟨fun ev' hev' => ?_, _, (find_updateNamed (fun p => by rfl) name name _).trans
    (congrArg _ hfind), fun ev' hev' => ?_, by simp⟩
  · rcases List.mem_append.1 hev' with hold | hnew
    · exact (htip ev' hold).trans hle.1
    · obtain rfl := List.mem_singleton.1 hnew
      exact hle.2
  · obtain rfl : ev = ev' := by simpa using hev'
    simp

lemma Reported.step {name : String} {evs : List StreamEvent} {ended : Bool}
    {t : FreshnessTracker} (h : Reported name evs ended t) {timed : ℕ × Call}
    (hother : ¬ timed.2.Reports name) : Reported name evs ended (t.step timed) := by
  obtain ⟨now, call⟩ := timed
  -- A call about another provider can only raise the tip.
  cases call with
  | record other slot =>
      obtain ⟨htip, p, hfind, hlast, hended⟩ := h
      have hne : other ≠ name := hother
      refine ⟨fun ev hev => (htip ev hev).trans ?_, p, ?_, hlast, hended⟩
      · change t.tipSlot ≤ if t.tipSlot < slot then slot else t.tipSlot
        split_ifs with hlt
        · exact hlt.le
        · exact le_rfl
      · refine (find_updateNamed (fun p => by rfl) name other t.providers).trans ?_
        rw [hfind]
        simp [hne]
  | markDisconnected other =>
      obtain ⟨htip, p, hfind, hlast, hended⟩ := h.markDisconnected other
      exact ⟨htip, p, hfind, hlast, fun hend => hended (by simp [hend])⟩
  | refreshSilence => exact h.refreshSilence now
  | selectPrimary =>
      have hstate : (t.selectPrimary now).1 = t.refreshSilence now := by
        simp only [selectPrimary]
        split <;> rfl
      rw [FreshnessTracker.step, hstate]
      exact h.refreshSilence now
  | isStale other => exact h.refreshSilence now

end FreshnessTracker

/-- **The tracker keeps up.**  In any run in which nobody else reports the provider: every event
the subscriber has read had been recorded, so its slot is not past the tracker's tip; the
provider's last slot is that of the last event recorded; and once the task has ended the
provider is not healthy, and stays so. -/
theorem forward_reports (room : ℕ) (name : String) (events : List StreamEvent) (closed : Bool)
    (tracker : FreshnessTracker) (run : List ForwardMove) (hroom : events.length ≤ room)
    (hregistered : name ∈ tracker.providers.map ProviderFreshness.name)
    (hothers : ∀ timed, .meddle timed ∈ run → ¬ timed.2.Reports name)
    {s : Relay StreamEvent FreshnessTracker}
    (hs : s = Runs.exec (Relay.step (forward room name)) (forwarding events closed tracker) run) :
    (∀ ev ∈ s.received, ev.slotOf ≤ s.side.tipSlot) ∧
      ∃ p, (s.side.providers.find? fun p => p.name = name) = some p ∧
        (∀ ev, s.noted.getLast? = some ev → p.lastSlot = ev.slotOf) ∧
        (s.phase = .ended → p.healthy = false) := by
  have hstart : Reported name [] false tracker := by
    refine ⟨by simp, ?_⟩
    obtain ⟨q, hq, hname⟩ := List.mem_map.1 hregistered
    obtain ⟨p, hp⟩ : ∃ p, (tracker.providers.find? fun p => p.name = name) = some p := by
      rw [← Option.isSome_iff_exists, List.find?_isSome]
      exact ⟨q, hq, by simpa using hname⟩
    exact ⟨p, hp, by simp, by simp⟩
  -- Kept along the run: the task reports what it notes, and no one else reports under its name.
  have hreported : Reported name s.noted s.phase.isEnded s.side := by
    rw [hs]
    refine Relay.side_exec (C := fun timed => ¬ timed.2.Reports name) ?_ ?_ ?_ run hothers hstart
    · intro now ev evs t h
      exact h.record now ev
    · intro evs t h
      obtain ⟨htip, p, hfind, hlast, hended⟩ := h.markDisconnected name
      exact ⟨htip, p, hfind, hlast, fun _ => hended (by simp)⟩
    · intro timed evs ended t hother h
      exact h.step hother
  have hkept := (forward_in_order room name events closed tracker run hroom hs).1
  obtain ⟨htip, p, hfind, hlast, hended⟩ := hreported
  exact ⟨fun ev hev => htip ev (hkept.subset hev), p, hfind, hlast,
    fun hend => hended (by rw [hend]; rfl)⟩

/-- Two slots of a provider whose stream then ends. -/
def twoSlots : List StreamEvent := [.slot 7 none false, .slot 8 (some 7) false]

/-- One turn each of the task and the subscriber, with a look at the primary in between. -/
def turns : List ForwardMove := [.task 1000, .meddle (1000, .selectPrimary), .read]

theorem twoSlots_in_order :
    (Runs.exec (Relay.step (forward 2 "primary")) (mockGeyser twoSlots
      (.new ["primary", "backup"] ⟨32, 2000⟩)) (turns ++ turns ++ turns)).received <+:
        (Runs.exec (Relay.step (forward 2 "primary")) (mockGeyser twoSlots
          (.new ["primary", "backup"] ⟨32, 2000⟩)) (turns ++ turns ++ turns)).noted :=
  (forward_in_order 2 "primary" twoSlots true _ (turns ++ turns ++ turns) (by decide) rfl).1

/-- Twelve rounds are enough for the two events and the end of the stream. -/
theorem twoSlots_delivered :
    Relay.Delivered (mockGeyser twoSlots (.new ["primary", "backup"] ⟨32, 2000⟩))
      (Runs.exec (Relay.step (forward 2 "primary"))
        (mockGeyser twoSlots (.new ["primary", "backup"] ⟨32, 2000⟩))
        (List.replicate 12 turns).flatten) := by
  refine forward_delivers 2 "primary" twoSlots true _ [] (by decide) rfl rfl
    (List.replicate 12 turns) (fun ms hms => ?_) (by decide)
  obtain rfl := List.eq_of_mem_replicate hms
  refine ⟨⟨1000, by simp [turns]⟩, by simp [turns], ?_⟩
  simp [turns, Relay.Quiet]

theorem twoSlots_reported :
    ∃ p, ((Runs.exec (Relay.step (forward 2 "primary"))
        (mockGeyser twoSlots (.new ["primary", "backup"] ⟨32, 2000⟩))
        (List.replicate 12 turns).flatten).side.providers.find? fun p => p.name = "primary") =
          some p ∧ p.healthy = false := by
  have hquiet : ∀ timed, .meddle timed ∈ (List.replicate 12 turns).flatten →
      ¬ timed.2.Reports "primary" := by
    simp [turns, Call.Reports]
  obtain ⟨-, p, hfind, -, hended⟩ := forward_reports 2 "primary" twoSlots true
    (.new ["primary", "backup"] ⟨32, 2000⟩) (List.replicate 12 turns).flatten (by decide)
    (by decide) hquiet rfl
  exact ⟨p, hfind, hended rfl⟩

end Grokbotliq
