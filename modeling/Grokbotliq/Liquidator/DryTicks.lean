import Grokbotliq.Liquidator.PlanLoop

/-!
# The turns of a dry loop

A dry loop arms its exhausted stream again, unless the next tick would be the last: the condition
for it counts one tick more than the loop has done.  What the loop handles does not depend on
anything it reads, so its turns are those of a tape that is replayed (`Replay`), and
`dry_loop_replays_iff` says for which streams and limits the loop ends and has handled as many
events as it should.

A tape is played from its start, and the turn that finds it exhausted arms it again or ends the
loop.  The whole run is put together from passes over the tape: `reaches_take` goes through part
of one, `reaches_rearm` to the next, and `reaches_count` adds them up to the limit or to one event
short of it.
-/

namespace Grokbotliq.Liquidator

/-! ## A replayed tape -/

/-- What is left of the tape, how many of its events were handled, and whether the loop ended. -/
structure Replay (α : Type) where
  rest : List α
  done : ℕ
  stopped : Bool

/-- `handled` is `count` events long and goes through the tape again and again. -/
structure ReplaysFully {α : Type} (tape : List α) (count : ℕ) (handled : List α) : Prop where
  length : handled.length = count
  cyclic : ∀ i < count, handled[i]? = tape[i % tape.length]?

namespace Replay

variable {α : Type} (tape : List α) (limit : ℕ)

def start : Replay α := ⟨tape, 0, false⟩

/-- The event the next turn handles. -/
def current (s : Replay α) : Option α :=
  if s.stopped then none else if ¬ s.done < limit then none else s.rest.head?

def next (s : Replay α) : Replay α :=
  if s.stopped then s
  else if ¬ s.done < limit then { s with stopped := true }
  else
    match s.rest with
    | [] => if s.done + 1 < limit then { s with rest := tape } else { s with stopped := true }
    | _ :: rest => ⟨rest, s.done + 1, s.stopped⟩

/-- The events of the next `n` turns. -/
def emitted : ℕ → Replay α → List α
  | 0, _ => []
  | n + 1, s => (s.current limit).toList ++ emitted n (s.next tape limit)

/-- Some turns lead from `s` to `t`, and these are their events. -/
def Reaches (s : Replay α) (events : List α) (t : Replay α) : Prop :=
  ∃ n, (next tape limit)^[n] s = t ∧ emitted tape limit n s = events

/-- The first `count` events of the tape played in a loop. -/
def cycled (count : ℕ) : List α := (List.range count).filterMap fun i => tape[i % tape.length]?

variable {tape limit}

lemma emitted_add (m n : ℕ) (s : Replay α) :
    emitted tape limit (m + n) s =
      emitted tape limit m s ++ emitted tape limit n ((next tape limit)^[m] s) := by
  induction m generalizing s with
  | zero => rw [Nat.zero_add]; rfl
  | succ m ih =>
      rw [Nat.succ_add, emitted, ih, emitted, List.append_assoc, Function.iterate_succ_apply]

lemma Reaches.refl (s : Replay α) : Reaches tape limit s [] s := ⟨0, rfl, rfl⟩

lemma Reaches.trans {s t u : Replay α} {xs ys : List α} (h : Reaches tape limit s xs t)
    (h' : Reaches tape limit t ys u) : Reaches tape limit s (xs ++ ys) u := by
  obtain ⟨m, hm, rfl⟩ := h
  obtain ⟨n, hn, rfl⟩ := h'
  refine ⟨m + n, ?_, by rw [emitted_add, hm]⟩
  rw [Nat.add_comm m n, Function.iterate_add_apply, hm, hn]

lemma reaches_next (s : Replay α) :
    Reaches tape limit s (s.current limit).toList (s.next tape limit) :=
  ⟨1, rfl, List.append_nil _⟩

/-- Every turn that handles an event counts it. -/
lemma length_current (s : Replay α) :
    s.done + (s.current limit).toList.length = (s.next tape limit).done := by
  obtain ⟨rest, done, stopped⟩ := s
  by_cases hstopped : stopped = true
  · simp [current, next, hstopped]
  · by_cases hdone : done < limit
    · cases rest with
      | nil =>
          simp only [current, next, hstopped, hdone]
          split_ifs <;> rfl
      | cons x rest => simp [current, next, hstopped, hdone]
    · simp [current, next, hstopped, hdone]

lemma length_emitted (n : ℕ) (s : Replay α) :
    s.done + (emitted tape limit n s).length = ((next tape limit)^[n] s).done := by
  induction n generalizing s with
  | zero => rfl
  | succ n ih =>
      rw [Function.iterate_succ_apply, ← ih, ← length_current, emitted, List.length_append,
        Nat.add_assoc]

lemma iterate_of_stopped {s : Replay α} (h : s.stopped = true) (n : ℕ) :
    (next tape limit)^[n] s = s := by
  have hfixed : next tape limit s = s := if_pos h
  exact Function.iterate_fixed hfixed n

/-- However many turns are taken, a loop that ends has handled the same number of events. -/
lemma done_eq_of_stopped {s t : Replay α} {events : List α} (h : Reaches tape limit s events t)
    (ht : t.stopped = true) {n : ℕ} (hn : ((next tape limit)^[n] s).stopped = true) :
    ((next tape limit)^[n] s).done = t.done := by
  obtain ⟨m, rfl, -⟩ := h
  rcases Nat.le_total m n with hle | hle
  · obtain ⟨k, rfl⟩ := Nat.exists_eq_add_of_le hle
    rw [Nat.add_comm, Function.iterate_add_apply, iterate_of_stopped ht]
  · obtain ⟨k, rfl⟩ := Nat.exists_eq_add_of_le hle
    rw [Nat.add_comm, Function.iterate_add_apply, iterate_of_stopped hn]

/-! ### The turns one by one -/

/-- The loop after `t` events, `p` of them since the tape was armed. -/
def atPosition (tape : List α) (p t : ℕ) : Replay α := ⟨tape.drop p, t, false⟩

lemma reaches_take {p t : ℕ} (hp : p < tape.length) (ht : t < limit) :
    Reaches tape limit (atPosition tape p t) tape[p]?.toList (atPosition tape (p + 1) (t + 1)) := by
  have hrest : tape.drop p = tape[p] :: tape.drop (p + 1) := List.drop_eq_getElem_cons hp
  have hcurrent : (atPosition tape p t).current limit = tape[p]? := by
    simp [atPosition, current, ht]
  have hnext : (atPosition tape p t).next tape limit = atPosition tape (p + 1) (t + 1) := by
    simp only [atPosition, next, hrest, ht, not_true, Bool.false_eq_true, if_false]
  rw [← hcurrent, ← hnext]
  exact reaches_next _

lemma reaches_rearm {t : ℕ} (ht : t + 1 < limit) :
    Reaches tape limit (atPosition tape tape.length t) [] (atPosition tape 0 t) := by
  have hturn : Reaches tape limit (atPosition tape tape.length t) _ _ := reaches_next _
  simpa [atPosition, current, next, ht, Nat.lt_of_succ_lt ht] using hturn

/-- The tape is exhausted one tick before the limit. -/
lemma reaches_exhausted {t : ℕ} (ht : t < limit) (hlast : ¬ t + 1 < limit) :
    Reaches tape limit (atPosition tape tape.length t) [] ⟨[], t, true⟩ := by
  have hturn : Reaches tape limit (atPosition tape tape.length t) _ _ := reaches_next _
  simpa [atPosition, current, next, ht, hlast] using hturn

lemma reaches_limit (p : ℕ) :
    Reaches tape limit (atPosition tape p limit) [] ⟨tape.drop p, limit, true⟩ := by
  have hturn : Reaches tape limit (atPosition tape p limit) _ _ := reaches_next _
  simpa [atPosition, current, next] using hturn

/-! ### The whole run -/

lemma cycled_succ (count : ℕ) :
    cycled tape (count + 1) = cycled tape count ++ tape[count % tape.length]?.toList := by
  rw [cycled, List.range_succ, List.filterMap_append]
  cases hevent : tape[count % tape.length]? <;> simp [cycled, hevent]

lemma replaysFully_cycled (htape : tape ≠ []) (count : ℕ) :
    ReplaysFully tape count (cycled tape count) := by
  have hlt : ∀ i, i % tape.length < tape.length := fun i =>
    Nat.mod_lt _ (List.length_pos_of_ne_nil htape)
  induction count with
  | zero => exact ⟨rfl, fun i hi => absurd hi (Nat.not_lt_zero i)⟩
  | succ count ih =>
      have hevent := List.getElem?_eq_getElem (hlt count)
      refine ⟨?_, fun i hi => ?_⟩
      · rw [cycled_succ, hevent, List.length_append, ih.length]
        rfl
      · rw [cycled_succ]
        rcases Nat.lt_or_eq_of_le (Nat.le_of_lt_succ hi) with hbefore | rfl
        · rw [List.getElem?_append_left (ih.length.symm ▸ hbefore)]
          exact ih.cyclic i hbefore
        · rw [List.getElem?_append_right (Nat.le_of_eq ih.length), ih.length, Nat.sub_self, hevent]
          rfl

/-- The stream is exhausted when one more tick would reach the limit. -/
def EndsEarly (length limit : ℕ) : Prop := 1 < limit ∧ length ∣ limit - 1

instance (length limit : ℕ) : Decidable (EndsEarly length limit) :=
  inferInstanceAs (Decidable (_ ∧ _))

/-- The run event by event: up to the limit, or one event short of it. -/
lemma reaches_count (htape : tape ≠ []) (t : ℕ) (ht : t ≤ limit)
    (hearly : t = limit → ¬ EndsEarly tape.length limit) :
    ∃ p, p ≤ tape.length ∧ (0 < p ↔ 0 < t) ∧ p % tape.length = t % tape.length ∧
      Reaches tape limit (start tape) (cycled tape t) (atPosition tape p t) := by
  have hpos : 0 < tape.length := List.length_pos_of_ne_nil htape
  -- By induction on the ticks; the position on the tape is the count, up to whole tapes.
  induction t with
  | zero => exact ⟨0, Nat.zero_le _, Iff.rfl, rfl, Reaches.refl _⟩
  | succ t ih =>
      have hlt : t < limit := ht
      obtain ⟨p, hp, hp0, hmod, hreach⟩ := ih hlt.le fun h => absurd h hlt.ne
      rw [cycled_succ]
      rcases Nat.lt_or_eq_of_le hp with hinside | rfl
      · -- an event is left on the tape
        rw [Nat.mod_eq_of_lt hinside] at hmod
        have hsucc : (p + 1) % tape.length = (t + 1) % tape.length := by
          rw [hmod, Nat.mod_add_mod]
        exact ⟨p + 1, hinside, by simp, hsucc, hmod ▸ hreach.trans (reaches_take hinside hlt)⟩
      · -- the tape is exhausted, and not one tick before the limit
        rw [Nat.mod_self] at hmod
        have hrearm : t + 1 < limit := by
          refine Nat.lt_of_le_of_ne ht fun hlast => hearly hlast ⟨?_, ?_⟩
          · have htpos := hp0.1 hpos
            omega
          · rw [← hlast, Nat.add_sub_cancel]
            exact Nat.dvd_of_mod_eq_zero hmod.symm
        have htake : Reaches tape limit _ _ _ :=
          (reaches_rearm hrearm).trans (reaches_take hpos hlt)
        refine ⟨1, hpos, by simp, ?_, ?_⟩
        · rw [Nat.add_mod, ← hmod, Nat.zero_add, Nat.mod_mod]
        · rw [← hmod]
          exact hreach.trans htake

/-- A tape is replayed to the limit. -/
lemma reaches_full (htape : tape ≠ []) (hearly : ¬ EndsEarly tape.length limit) :
    ∃ t : Replay α, t.stopped = true ∧ t.done = limit ∧
      Reaches tape limit (start tape) (cycled tape limit) t := by
  obtain ⟨p, -, -, -, hreach⟩ := reaches_count htape limit le_rfl fun _ => hearly
  have hstop := hreach.trans (reaches_limit p)
  rw [List.append_nil] at hstop
  exact ⟨_, rfl, rfl, hstop⟩

/-- Or the loop ends one event short of it. -/
lemma reaches_early (htape : tape ≠ []) (hearly : EndsEarly tape.length limit) :
    ∃ t : Replay α, t.stopped = true ∧ t.done + 1 = limit ∧
      Reaches tape limit (start tape) (cycled tape (limit - 1)) t := by
  obtain ⟨hlimit, hdvd⟩ := hearly
  obtain ⟨p, hp, hp0, hmod, hreach⟩ := reaches_count htape (limit - 1)
    (Nat.sub_le limit 1) fun h => absurd h (by omega)
  obtain ⟨k, hk⟩ : tape.length ∣ p := by
    rw [Nat.mod_eq_zero_of_dvd hdvd] at hmod
    exact Nat.dvd_of_mod_eq_zero hmod
  have hppos : 0 < p := hp0.2 (by omega)
  obtain rfl : p = tape.length := Nat.le_antisymm hp (Nat.le_of_dvd hppos ⟨k, hk⟩)
  have hstop := hreach.trans (reaches_exhausted (by omega) (by omega))
  rw [List.append_nil] at hstop
  exact ⟨_, rfl, by show limit - 1 + 1 = limit; omega, hstop⟩

/-- Without a tape a loop with ticks to do arms its stream for ever. -/
lemma iterate_start_nil (hlimit : 1 < limit) (n : ℕ) :
    (next ([] : List α) limit)^[n] (start []) = start [] := by
  apply Function.iterate_fixed
  simp [start, next, hlimit, Nat.lt_of_succ_lt hlimit]

/-- **When a replayed tape ends in full.** -/
theorem replays_iff (tape : List α) (limit : ℕ) :
    (∃ n, ((next tape limit)^[n] (start tape)).stopped = true ∧
        (tape ≠ [] → ReplaysFully tape limit (emitted tape limit n (start tape)))) ↔
      limit ≤ 1 ∨ tape ≠ [] ∧ ¬ tape.length ∣ limit - 1 := by
  constructor
  · rintro ⟨n, hstopped, hfull⟩
    by_contra hbad
    obtain ⟨hlimit, htape⟩ := not_or.1 hbad
    -- An empty tape is armed for ever; another ends one tick early and so has not replayed fully.
    rcases eq_or_ne tape [] with rfl | hne
    · rw [iterate_start_nil (Nat.lt_of_not_le hlimit)] at hstopped
      exact absurd hstopped Bool.false_ne_true
    · have hearly : EndsEarly tape.length limit :=
        ⟨Nat.lt_of_not_le hlimit, by_contra fun hdvd => htape ⟨hne, hdvd⟩⟩
      obtain ⟨t, ht, hdone, hreach⟩ := reaches_early hne hearly
      have hcount : _ = ((next tape limit)^[n] (start tape)).done := length_emitted n (start tape)
      rw [done_eq_of_stopped hreach ht hstopped, (hfull hne).length] at hcount
      have hzero : (start tape).done = 0 := rfl
      omega
  · intro hgood
    rcases eq_or_ne tape [] with rfl | hne
    · have hlimit : limit ≤ 1 := hgood.resolve_right fun h => h.1 rfl
      refine ⟨1, ?_, fun h => absurd rfl h⟩
      by_cases hzero : 0 < limit
      · simp [start, next, hzero, Nat.not_lt.2 hlimit]
      · simp [start, next, hzero]
    · have hearly : ¬ EndsEarly tape.length limit := fun h =>
        hgood.elim (fun hlimit => absurd h.1 (Nat.not_lt.2 hlimit)) fun htape => htape.2 h.2
      obtain ⟨t, ht, -, n, rfl, hevents⟩ := reaches_full hne hearly
      exact ⟨n, ht, fun _ => hevents ▸ replaysFully_cycled hne limit⟩

end Replay

/-! ## The loop is such a tape -/

namespace PlanLoop

/-- The turns of a loop, without what it reads and writes. -/
def ticker (s : PlanLoop) : Replay StreamEvent := ⟨s.rx, s.ticksDone.toNat, s.stopped⟩

/-- The events the loop handles in a run, in order. -/
def handled (cfg : LoopConfig) (dry : Bool) : PlanLoop → List TickInput → List StreamEvent
  | _, [] => []
  | s, input :: inputs => (s.nextEvent cfg).toList ++ handled cfg dry (s.step cfg dry input) inputs

variable {cfg : LoopConfig}

/-- Handling an event leaves the turns alone. -/
lemma handleEvent_dry_frame (input : TickInput) (s : PlanLoop) (ev : StreamEvent) :
    (handleEvent cfg true input s ev).rx = s.rx ∧
      (handleEvent cfg true input s ev).ticksDone = s.ticksDone ∧
      (handleEvent cfg true input s ev).stopped = s.stopped := by
  cases ev with
  | account upd => exact ⟨rfl, rfl, rfl⟩
  | slot n parent root => exact ⟨rfl, rfl, rfl⟩
  | price asset priceFx slot writeVersion =>
      show (handleHits cfg true input 0 _ _).rx = _ ∧
        (handleHits cfg true input 0 _ _).ticksDone = _ ∧
        (handleHits cfg true input 0 _ _).stopped = _
      rw [handleHits_dry]
      exact ⟨rfl, rfl, rfl⟩

/-- Ticks below a limit are counted without wrapping. -/
lemma toNat_succ_of_lt {n limit : UInt64} (h : n < limit) : (n + 1).toNat = n.toNat + 1 := by
  have hlt : n.toNat < limit.toNat := UInt64.lt_iff_toNat_lt.1 h
  have hlimit : limit.toNat < 2 ^ 64 := limit.toNat_lt
  rw [UInt64.toNat_add, UInt64.toNat_one, Nat.mod_eq_of_lt (by omega)]

/-- **A turn of the dry loop is a turn of the tape**, whatever the loop reads in it. -/
theorem ticker_step (s : PlanLoop) (input : TickInput) :
    ticker (s.step cfg true input) = (ticker s).next cfg.events cfg.maxTicks.toNat := by
  by_cases hstopped : s.stopped = true
  · simp [step, ticker, Replay.next, hstopped]
  · by_cases hticks : s.ticksDone < cfg.maxTicks
    · have hdone : s.ticksDone.toNat < cfg.maxTicks.toNat := UInt64.lt_iff_toNat_lt.1 hticks
      have hsucc := toNat_succ_of_lt hticks
      -- The comparisons of the loop are over 64 bits, those of the ticker over the numbers.
      cases hrx : s.rx with
      | nil =>
          by_cases hlast : s.ticksDone + 1 < cfg.maxTicks
          · have hlast' : s.ticksDone.toNat + 1 < cfg.maxTicks.toNat :=
              hsucc ▸ UInt64.lt_iff_toNat_lt.1 hlast
            simp [step, ticker, Replay.next, hstopped, hticks, hdone, hrx, hlast, hlast']
          · have hlast' : ¬ s.ticksDone.toNat + 1 < cfg.maxTicks.toNat :=
              hsucc ▸ fun h => hlast (UInt64.lt_iff_toNat_lt.2 h)
            simp [step, ticker, Replay.next, hstopped, hticks, hdone, hrx, hlast, hlast']
      | cons ev rest =>
          obtain ⟨hrest, hsame, hgoes⟩ :=
            @handleEvent_dry_frame cfg input { s with rx := rest } ev
          have hnext : (ticker s).next cfg.events cfg.maxTicks.toNat =
              ⟨rest, s.ticksDone.toNat + 1, s.stopped⟩ := by
            simp [ticker, Replay.next, hstopped, hdone, hrx]
          rw [hnext, step, if_neg hstopped, if_neg (not_not.2 hticks)]
          simp only [hrx, ticker, hrest, hsame, hgoes, hsucc]
    · have hdone : ¬ s.ticksDone.toNat < cfg.maxTicks.toNat :=
        fun h => hticks (UInt64.lt_iff_toNat_lt.2 h)
      simp [step, ticker, Replay.next, hstopped, hticks, hdone]

lemma nextEvent_eq_current (s : PlanLoop) :
    s.nextEvent cfg = (ticker s).current cfg.maxTicks.toNat := by
  have hlt : s.ticksDone < cfg.maxTicks ↔ s.ticksDone.toNat < cfg.maxTicks.toNat :=
    UInt64.lt_iff_toNat_lt
  by_cases hticks : s.ticksDone < cfg.maxTicks
  · simp [nextEvent, Replay.current, ticker, hticks, hlt.1 hticks]
  · simp [nextEvent, Replay.current, ticker, hticks, mt hlt.2 hticks]

/-- The whole run. -/
lemma ticker_exec (s : PlanLoop) (inputs : List TickInput) :
    ticker (Runs.exec (step cfg true) s inputs) =
      (Replay.next cfg.events cfg.maxTicks.toNat)^[inputs.length] (ticker s) := by
  induction inputs generalizing s with
  | nil => rfl
  | cons input inputs ih =>
      rw [Runs.exec_cons, ih, ticker_step, List.length_cons, Function.iterate_succ_apply]

lemma handled_eq_emitted (s : PlanLoop) (inputs : List TickInput) :
    handled cfg true s inputs =
      Replay.emitted cfg.events cfg.maxTicks.toNat inputs.length (ticker s) := by
  induction inputs generalizing s with
  | nil => rfl
  | cons input inputs ih =>
      rw [handled, ih, ticker_step, nextEvent_eq_current, List.length_cons, Replay.emitted]

/-- The loop ends, whatever it reads turn by turn, and a stream with events was replayed to the
limit. -/
def RunsItsTicks (cfg : LoopConfig) (s : PlanLoop) (inputs : ℕ → TickInput) : Prop :=
  ∃ n, (Runs.exec (step cfg true) s ((List.range n).map inputs)).stopped = true ∧
    (cfg.events ≠ [] → ReplaysFully cfg.events cfg.maxTicks.toNat
      (handled cfg true s ((List.range n).map inputs)))

/-- What the tape does, the loop does. -/
lemma runsItsTicks_start_iff (cfg : LoopConfig) (index : CandidateIndex)
    (store : StateStore (List UInt8)) (risk : CircuitBreaker) (metrics : Metrics)
    (inputs : ℕ → TickInput) :
    RunsItsTicks cfg (start cfg index store risk metrics) inputs ↔
      ∃ n, ((Replay.next cfg.events cfg.maxTicks.toNat)^[n]
          (Replay.start cfg.events)).stopped = true ∧
        (cfg.events ≠ [] → ReplaysFully cfg.events cfg.maxTicks.toNat
          (Replay.emitted cfg.events cfg.maxTicks.toNat n (Replay.start cfg.events))) := by
  apply exists_congr
  intro n
  have hlen : ((List.range n).map inputs).length = n := by
    rw [List.length_map, List.length_range]
  have hstart : ticker (start cfg index store risk metrics) = Replay.start cfg.events := rfl
  have hticker :=
    @ticker_exec cfg (start cfg index store risk metrics) ((List.range n).map inputs)
  rw [hlen, hstart] at hticker
  have hstopped := congrArg Replay.stopped hticker
  rw [handled_eq_emitted, hlen, hstart, ← hstopped]
  rfl

/-- **When a dry loop runs its ticks**: it ends for every stream and limit but an empty stream
with two ticks to do, and it handles as many events as it should unless the stream is exhausted
one tick before the limit. -/
theorem dry_loop_replays_iff (cfg : LoopConfig) (index : CandidateIndex)
    (store : StateStore (List UInt8)) (risk : CircuitBreaker) (metrics : Metrics)
    (inputs : ℕ → TickInput) :
    RunsItsTicks cfg (start cfg index store risk metrics) inputs ↔
      cfg.maxTicks.toNat ≤ 1 ∨
        cfg.events ≠ [] ∧ ¬ cfg.events.length ∣ cfg.maxTicks.toNat - 1 := by
  rw [runsItsTicks_start_iff, Replay.replays_iff]

/-- The sample stream of two events, with three ticks to do. -/
def threeTicks : LoopConfig := { sampleConfig with maxTicks := 3 }

/-- No stream at all, with two ticks to do. -/
def noStream : LoopConfig := { sampleConfig with events := [] }

/-- The loop ends after two of its three ticks, and without a stream it does not end. -/
theorem ticks_are_missed :
    (∀ inputs, ¬ RunsItsTicks threeTicks
        (start threeTicks sampleIndex StateStore.new (.new .default) Metrics.zero) inputs) ∧
      ∀ inputs, ¬ RunsItsTicks noStream
        (start noStream sampleIndex StateStore.new (.new .default) Metrics.zero) inputs := by
  constructor
  · intro inputs
    rw [runsItsTicks_start_iff, Replay.replays_iff]
    decide
  · intro inputs
    rw [runsItsTicks_start_iff, Replay.replays_iff]
    decide

end PlanLoop

end Grokbotliq.Liquidator
