import Grokbotliq.Core.StoreMerge
import Grokbotliq.Liquidator.DryTicks

/-!
# The store of the loop

The loop writes its store by account events only.  So at any time the store is what it started
with and the accounts streamed so far, merged (`store_exec`); and once the stream has been
through, a loop that replays it gets only what its store has already heard, and goes on without
writing (`store_settled`).

The first part goes turn by turn, since a turn writes one entry or none (`step_store`).  For the
second part `Passes` says how far the first pass has come, and once it is over `Settled` is kept
by every turn.
-/

namespace Grokbotliq.Liquidator.PlanLoop

variable {cfg : LoopConfig} {dry : Bool}

/-! ## What an event leaves alone -/

/-- What planning hits does not touch. -/
structure SameTurn (s t : PlanLoop) : Prop where
  rx : t.rx = s.rx
  ticksDone : t.ticksDone = s.ticksDone
  store : t.store = s.store
  stopped : t.stopped = s.stopped

lemma SameTurn.refl (s : PlanLoop) : SameTurn s s := ⟨rfl, rfl, rfl, rfl⟩

lemma SameTurn.trans {s t u : PlanLoop} (h : SameTurn s t) (h' : SameTurn t u) : SameTurn s u :=
  ⟨h'.rx.trans h.rx, h'.ticksDone.trans h.ticksDone, h'.store.trans h.store,
    h'.stopped.trans h.stopped⟩

lemma sameTurn_handleHit (s : PlanLoop) (hit : TriggerHit) (input : HitInput) :
    SameTurn s (s.handleHit cfg dry hit input) := by
  unfold handleHit
  split
  · exact .refl s
  · split
    · exact .refl s
    · split_ifs
      · exact .refl s
      · exact ⟨rfl, rfl, rfl, rfl⟩

lemma sameTurn_handleHits (input : TickInput) (n : ℕ) (s : PlanLoop) (hits : List TriggerHit) :
    SameTurn s (handleHits cfg dry input n s hits) := by
  induction hits generalizing n s with
  | nil => exact .refl s
  | cons hit hits ih =>
      have hfirst : SameTurn s (s.handleHit cfg dry hit (input.hit n)) := sameTurn_handleHit ..
      exact hfirst.trans (ih (n + 1) (s.handleHit cfg dry hit (input.hit n)))

/-- The entry an event brings, if it brings one. -/
def entryOf (input : TickInput) : StreamEvent → Option (StoredAccount (List UInt8))
  | .account upd => some (accountEntry upd input.recvTsUs)
  | .slot _ _ _ => none
  | .price _ _ _ _ => none

/-- An event moves the loop by its entry only. -/
lemma sameTurn_handleEvent (input : TickInput) (s : PlanLoop) (ev : StreamEvent) :
    SameTurn { s with store := s.store.applyAll (entryOf input ev).toList }
      (handleEvent cfg dry input s ev) := by
  cases ev with
  | account upd => exact ⟨rfl, rfl, rfl, rfl⟩
  | slot n parent root => exact ⟨rfl, rfl, rfl, rfl⟩
  | price asset priceFx slot writeVersion =>
      have hhits : SameTurn
          { s with oraclePath := (s.oraclePath.applyOracleUpdate
            ⟨asset, priceFx, slot, writeVersion, .mock, input.recvTsUs, cfg.order⟩).1 }
          (handleEvent cfg dry input s (.price asset priceFx slot writeVersion)) :=
        sameTurn_handleHits ..
      exact ⟨hhits.rx, hhits.ticksDone, hhits.store, hhits.stopped⟩

/-! ## One turn -/

/-- All a turn can do: it takes an event off the stream or, without one, arms the stream again,
ends the loop or leaves an ended one. -/
lemma step_cases (s : PlanLoop) (input : TickInput) :
    (∃ ev rest, s.nextEvent cfg = some ev ∧ s.rx = ev :: rest ∧ s.stopped = false ∧
        s.ticksDone < cfg.maxTicks ∧
        s.step cfg dry input = { handleEvent cfg dry input { s with rx := rest } ev with
          ticksDone := s.ticksDone + 1 }) ∨
      s.nextEvent cfg = none ∧
        (dry = true ∧ s.rx = [] ∧ s.step cfg dry input = { s with rx := cfg.events } ∨
          (s.rx = [] ∨ ¬ s.ticksDone < cfg.maxTicks) ∧
            s.step cfg dry input = { s with stopped := true } ∨
          s.stopped = true ∧ s.step cfg dry input = s) := by
  unfold nextEvent step
  by_cases hstopped : s.stopped = true
  · rw [if_pos hstopped, if_pos hstopped]
    exact Or.inr ⟨rfl, Or.inr (Or.inr ⟨hstopped, rfl⟩)⟩
  rw [if_neg hstopped, if_neg hstopped]
  by_cases hticks : s.ticksDone < cfg.maxTicks
  · rw [if_neg (not_not.2 hticks), if_neg (not_not.2 hticks)]
    cases hrx : s.rx with
    | nil =>
        refine Or.inr ⟨rfl, ?_⟩
        by_cases harm : (dry && s.ticksDone + 1 < cfg.maxTicks) = true
        · refine Or.inl ⟨(Bool.and_eq_true_iff.1 harm).1, rfl, ?_⟩
          dsimp only
          rw [if_pos harm]
        · refine Or.inr (Or.inl ⟨Or.inl rfl, ?_⟩)
          dsimp only
          rw [if_neg harm, ← hrx]
    | cons ev rest =>
        have hturn := (@sameTurn_handleEvent cfg dry input { s with rx := rest } ev).ticksDone
        refine Or.inl ⟨ev, rest, rfl, rfl, Bool.not_eq_true _ ▸ hstopped, hticks, ?_⟩
        dsimp only at hturn ⊢
        rw [hturn]
  · rw [if_pos hticks, if_pos hticks]
    exact Or.inr ⟨rfl, Or.inr (Or.inl ⟨Or.inr hticks, rfl⟩)⟩

/-- What the next turn writes. -/
def turnEntries (cfg : LoopConfig) (s : PlanLoop) (input : TickInput) :
    List (StoredAccount (List UInt8)) := ((s.nextEvent cfg).bind (entryOf input)).toList

/-- The entries written in a run, in order. -/
def streamed (cfg : LoopConfig) (dry : Bool) :
    PlanLoop → List TickInput → List (StoredAccount (List UInt8))
  | _, [] => []
  | s, input :: inputs => s.turnEntries cfg input ++ streamed cfg dry (s.step cfg dry input) inputs

lemma step_store (s : PlanLoop) (input : TickInput) :
    (s.step cfg dry input).store = s.store.applyAll (s.turnEntries cfg input) := by
  unfold turnEntries
  rcases @step_cases cfg dry s input with ⟨ev, rest, hnext, -, -, -, hstep⟩ | ⟨hnext, hstep⟩
  · rw [hnext, hstep]
    exact (sameTurn_handleEvent ..).store
  · rw [hnext]
    rcases hstep with ⟨-, -, hstep⟩ | ⟨-, hstep⟩ | ⟨-, hstep⟩
    · rw [hstep]
      rfl
    · rw [hstep]
      rfl
    · rw [hstep]
      rfl

/-- **The store is a merge** of what it was and what was streamed. -/
theorem store_exec (s : PlanLoop) (inputs : List TickInput) :
    (Runs.exec (step cfg dry) s inputs).store = s.store.applyAll (streamed cfg dry s inputs) := by
  induction inputs generalizing s with
  | nil => rfl
  | cons input inputs ih =>
      rw [Runs.exec_cons, ih, step_store, streamed]
      exact (Runs.exec_append ..).symm

/-! ## Replays

A dry loop arms its stream again and hears the same events a second time. -/

/-- The store has heard of all the events: of their accounts it holds what they bring, or
newer. -/
def HasHeard (store : StateStore (List UInt8)) (events : List StreamEvent) : Prop :=
  ∀ ev ∈ events, ∀ input, ∀ e ∈ entryOf input ev, store.HoldsSince e.pubkey e.version

lemma hasHeard_append {store : StateStore (List UInt8)} {xs ys : List StreamEvent}
    (hx : HasHeard store xs) (hy : HasHeard store ys) : HasHeard store (xs ++ ys) := by
  intro ev hev
  rcases List.mem_append.1 hev with hev | hev
  · exact hx ev hev
  · exact hy ev hev

/-- What was heard stays heard. -/
lemma HasHeard.applyAll {store : StateStore (List UInt8)} {events : List StreamEvent}
    (h : HasHeard store events) (us : List (StoredAccount (List UInt8))) :
    HasHeard (store.applyAll us) events := by
  intro ev hev input e he
  exact Runs.exec_invariant (StateStore.HoldsSince e.pubkey e.version)
    (fun _ e' hs => StateStore.holdsSince_upsert hs e') us (h ev hev input e he)

/-- An entry offered is there, or newer. -/
lemma holdsSince_upsert_self (store : StateStore (List UInt8))
    (e : StoredAccount (List UInt8)) :
    (store.upsert e).1.HoldsSince e.pubkey e.version := by
  by_cases hacc : store.Accepts e
  · exact ⟨e, by rw [StateStore.get_upsert, if_pos ⟨rfl, hacc⟩], le_rfl⟩
  · rw [StateStore.upsert_of_not_accepts hacc]
    unfold StateStore.Accepts at hacc
    push Not at hacc
    exact hacc

/-- An event just handled has been heard, whenever it comes again. -/
lemma hasHeard_singleton (store : StateStore (List UInt8)) (input : TickInput)
    (ev : StreamEvent) : HasHeard (store.applyAll (entryOf input ev).toList) [ev] := by
  intro ev' hev input' e he
  obtain rfl := List.mem_singleton.1 hev
  cases ev' with
  | account upd =>
      obtain rfl := Option.some.inj he
      exact holdsSince_upsert_self store (accountEntry upd input.recvTsUs)
  | slot n parent root => cases he
  | price asset priceFx slot writeVersion => cases he

/-- What has been heard changes nothing. -/
lemma applyAll_of_hasHeard {store : StateStore (List UInt8)} {events : List StreamEvent}
    (h : HasHeard store events) {ev : StreamEvent} (hev : ev ∈ events) (input : TickInput) :
    store.applyAll (entryOf input ev).toList = store := by
  cases hentry : entryOf input ev with
  | none => rfl
  | some e =>
      obtain ⟨old, hold, hle⟩ := h ev hev input e hentry
      have hrej : ¬ store.Accepts e := fun hacc => absurd (hacc old hold) (not_lt.2 hle)
      show (store.upsert e).1 = store
      rw [StateStore.upsert_of_not_accepts hrej]

/-- How far the loop has got in its first pass, and what its store has heard by then. -/
def Passes (cfg : LoopConfig) (s : PlanLoop) : Prop :=
  (∃ done, cfg.events = done ++ s.rx ∧ s.ticksDone.toNat = done.length ∧
      HasHeard s.store done) ∨
    (∃ done, cfg.events = done ++ s.rx) ∧ HasHeard s.store cfg.events

lemma passes_step {s : PlanLoop} (hs : Passes cfg s) (input : TickInput) :
    Passes cfg (s.step cfg dry input) := by
  rcases @step_cases cfg dry s input with ⟨ev, rest, -, hcons, -, hticks, hstep⟩ | ⟨-, hstep⟩
  · -- one more event
    have hturn := @sameTurn_handleEvent cfg dry input { s with rx := rest } ev
    have hnow := hasHeard_singleton s.store input ev
    unfold Passes
    rw [hstep]
    dsimp only
    rw [hturn.rx, hturn.store]
    rcases hs with ⟨done, hevents, hcount, hheard⟩ | ⟨⟨done, hevents⟩, hheard⟩
    · refine Or.inl ⟨done ++ [ev], ?_, ?_, hasHeard_append (hheard.applyAll _) hnow⟩
      · rw [hevents, hcons, List.append_assoc, List.singleton_append]
      · rw [toNat_succ_of_lt hticks, hcount, List.length_append, List.length_singleton]
    · refine Or.inr ⟨⟨done ++ [ev], ?_⟩, hheard.applyAll _⟩
      rw [hevents, hcons, List.append_assoc, List.singleton_append]
  · rcases hstep with ⟨-, hnil, hstep⟩ | ⟨-, hstep⟩ | ⟨-, hstep⟩
    · -- the stream is armed again
      rw [hstep]
      refine Or.inr ⟨⟨[], List.nil_append _⟩, ?_⟩
      rcases hs with ⟨done, hevents, -, hheard⟩ | ⟨-, hheard⟩
      · rw [hevents, hnil, List.append_nil]
        exact hheard
      · exact hheard
    · rw [hstep]
      exact hs
    · rw [hstep]
      exact hs

lemma passes_exec {s : PlanLoop} (hs : Passes cfg s) (inputs : List TickInput) :
    Passes cfg (Runs.exec (step cfg dry) s inputs) :=
  Runs.exec_invariant (Passes cfg) (fun _ input h => passes_step h input) inputs hs

/-- A loop that has heard its whole stream, and goes on with some rest of it. -/
def Settled (cfg : LoopConfig) (store : StateStore (List UInt8)) (s : PlanLoop) : Prop :=
  s.store = store ∧ HasHeard store cfg.events ∧ ∃ done, cfg.events = done ++ s.rx

lemma settled_step {store : StateStore (List UInt8)} {s : PlanLoop} (hs : Settled cfg store s)
    (input : TickInput) : Settled cfg store (s.step cfg dry input) := by
  obtain ⟨rfl, hheard, done, hevents⟩ := hs
  rcases @step_cases cfg dry s input with ⟨ev, rest, -, hcons, -, -, hstep⟩ | ⟨-, hstep⟩
  · have hturn := @sameTurn_handleEvent cfg dry input { s with rx := rest } ev
    have hmem : ev ∈ cfg.events := by
      rw [hevents, hcons]
      exact List.mem_append_right _ List.mem_cons_self
    rw [hstep]
    refine ⟨hturn.store.trans (applyAll_of_hasHeard hheard hmem input), hheard, done ++ [ev], ?_⟩
    dsimp only
    rw [hevents, hcons, hturn.rx, List.append_assoc, List.singleton_append]
  · rcases hstep with ⟨-, -, hstep⟩ | ⟨-, hstep⟩ | ⟨-, hstep⟩
    · rw [hstep]
      exact ⟨rfl, hheard, [], List.nil_append _⟩
    · rw [hstep]
      exact ⟨rfl, hheard, done, hevents⟩
    · rw [hstep]
      exact ⟨rfl, hheard, done, hevents⟩

/-- **A replay brings no news.**  Once as many events have been handled as the stream has, the
store stays as it is. -/
theorem store_settled (index : CandidateIndex) (store : StateStore (List UInt8))
    (risk : CircuitBreaker) (metrics : Metrics) {inputs : List TickInput}
    (hpast : cfg.events.length ≤
      (Runs.exec (step cfg dry) (start cfg index store risk metrics) inputs).ticksDone.toNat)
    (more : List TickInput) :
    (Runs.exec (step cfg dry) (start cfg index store risk metrics) (inputs ++ more)).store =
      (Runs.exec (step cfg dry) (start cfg index store risk metrics) inputs).store := by
  have hstart : Passes cfg (start cfg index store risk metrics) :=
    Or.inl ⟨[], rfl, rfl, fun ev hev => absurd hev List.not_mem_nil⟩
  rw [Runs.exec_append]
  set s := Runs.exec (step cfg dry) (start cfg index store risk metrics) inputs with hs
  have hsettled : Settled cfg s.store s := by
    rcases hs ▸ @passes_exec cfg dry _ hstart inputs with
      ⟨done, hevents, hcount, hheard⟩ | ⟨hrest, hheard⟩
    · have hnil : s.rx = [] := by
        rw [hevents, List.length_append, hcount] at hpast
        exact List.length_eq_zero_iff.1 (by omega)
      refine ⟨rfl, ?_, done, hevents⟩
      rw [hevents, hnil, List.append_nil]
      exact hheard
    · exact ⟨rfl, hheard, hrest⟩
  exact (Runs.exec_invariant (Settled cfg s.store) (fun _ input h => settled_step h input) more
    hsettled).1

end Grokbotliq.Liquidator.PlanLoop
