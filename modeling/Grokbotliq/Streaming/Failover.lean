import Grokbotliq.Framework.Runs

/-!
# Provider freshness and failover

`FreshnessTracker` keeps, for each stream provider, the slot and the time of its last event and
a `healthy` flag, and hands out the first healthy provider in registration order.  Next to it
stands `EventLog`, what has been reported so far and nothing derived from it, on which
freshness is defined directly.

The flag is computed when the provider itself reports, against the tip of that moment, and only
silence is looked at again later.  So a provider stays healthy when the others leave it behind,
and one that has never reported is healthy from the start.  `Mirrors` says exactly what the
flags amount to in terms of the log; `selects_fresh_iff` is what follows for the selection.

The relation `Tracks` between tracker and log is kept by every call (`tracks_step`), with a clock
that does not go back as the only assumption.  Names may be registered twice; an update reaches
the first of a name, and `Mirrors` keeps apart the providers that no update reaches.
-/

namespace Grokbotliq

structure ProviderFreshness where
  name : String
  lastSlot : ℕ
  lastEventMs : ℕ
  healthy : Bool
  deriving DecidableEq

structure FreshnessPolicy where
  /-- Max slot lag behind the freshest known tip before a provider is stale. -/
  maxSlotLag : ℕ
  /-- Max wall-clock silence (ms) before a provider is stale. -/
  maxSilenceMs : ℕ
  deriving DecidableEq

structure FreshnessTracker where
  policy : FreshnessPolicy
  providers : List ProviderFreshness
  tipSlot : ℕ
  deriving DecidableEq

namespace FreshnessTracker

def new (names : List String) (policy : FreshnessPolicy) : FreshnessTracker where
  policy := policy
  providers := names.map fun name => ⟨name, 0, 0, true⟩
  tipSlot := 0

/-- The first provider of that name, updated. -/
def updateNamed (name : String) (f : ProviderFreshness → ProviderFreshness) :
    List ProviderFreshness → List ProviderFreshness
  | [] => []
  | p :: ps => if p.name = name then f p :: ps else p :: updateNamed name f ps

def record (t : FreshnessTracker) (now : ℕ) (name : String) (slot : ℕ) : FreshnessTracker :=
  let tip := if t.tipSlot < slot then slot else t.tipSlot
  { t with
    tipSlot := tip
    providers := updateNamed name (fun p =>
      { p with
        lastSlot := slot
        lastEventMs := now
        healthy := decide (tip - slot ≤ t.policy.maxSlotLag) }) t.providers }

def markDisconnected (t : FreshnessTracker) (name : String) : FreshnessTracker :=
  { t with providers := updateNamed name (fun p => { p with healthy := false }) t.providers }

/-- Silence-based health of one provider; one without an event yet is passed over. -/
def silence (policy : FreshnessPolicy) (now : ℕ) (p : ProviderFreshness) : ProviderFreshness :=
  if p.lastEventMs = 0 then p
  else if policy.maxSilenceMs < now - p.lastEventMs then { p with healthy := false }
  else p

def refreshSilence (t : FreshnessTracker) (now : ℕ) : FreshnessTracker :=
  { t with providers := t.providers.map (silence t.policy now) }

/-- `max_by_key` on the last slot: the last of the maximal ones. -/
def freshestBySlot (ps : List ProviderFreshness) : Option ProviderFreshness :=
  ps.foldl (fun best p =>
    match best with
    | none => some p
    | some b => if b.lastSlot ≤ p.lastSlot then some p else some b) none

/-- First healthy provider in registration order; otherwise the freshest by slot. -/
def selectPrimary (t : FreshnessTracker) (now : ℕ) : FreshnessTracker × Option String :=
  let t := t.refreshSilence now
  match t.providers.find? fun p => p.healthy with
  | some p => (t, some p.name)
  | none => (t, (freshestBySlot t.providers).map fun p => p.name)

def isStale (t : FreshnessTracker) (now : ℕ) (name : String) : FreshnessTracker × Bool :=
  let t := t.refreshSilence now
  (t, ((t.providers.find? fun p => p.name = name).map fun p => !p.healthy).getD true)

/-- A call on the tracker. -/
inductive Call
  | record (name : String) (slot : ℕ)
  | markDisconnected (name : String)
  | refreshSilence
  | selectPrimary
  | isStale (name : String)
  deriving DecidableEq

/-- A call at a reading of the clock in milliseconds. -/
def step (t : FreshnessTracker) (timed : ℕ × Call) : FreshnessTracker :=
  match timed.2 with
  | .record name slot => t.record timed.1 name slot
  | .markDisconnected name => t.markDisconnected name
  | .refreshSilence => t.refreshSilence timed.1
  | .selectPrimary => (t.selectPrimary timed.1).1
  | .isStale name => (t.isStale timed.1 name).1

end FreshnessTracker

/-! ## What has been reported -/

/-- A provider's last report, and the highest slot anyone had reported by then. -/
structure Sighting where
  slot : ℕ
  ms : ℕ
  tip : ℕ
  deriving DecidableEq

/-- What has been reported so far. -/
structure EventLog where
  tip : ℕ
  last : String → Option Sighting
  /-- Marked disconnected, with no report since. -/
  disconnected : String → Bool

namespace EventLog

open FreshnessTracker (Call)

def empty : EventLog := ⟨0, fun _ => none, fun _ => false⟩

/-- The log after a timed call. -/
def note (log : EventLog) (timed : ℕ × Call) : EventLog :=
  match timed.2 with
  | .record name slot =>
    { tip := max log.tip slot
      last := Function.update log.last name (some ⟨slot, timed.1, max log.tip slot⟩)
      disconnected := Function.update log.disconnected name false }
  | .markDisconnected name =>
    { log with disconnected := Function.update log.disconnected name true }
  | .refreshSilence => log
  | .selectPrimary => log
  | .isStale _ => log

/-- **Freshness**: the last report is within the lag of the highest slot reported so far and
not too old, and there has been no disconnection since. -/
def Fresh (policy : FreshnessPolicy) (log : EventLog) (now : ℕ) (name : String) : Prop :=
  ∃ s, log.last name = some s ∧ log.tip - s.slot ≤ policy.maxSlotLag ∧
    now - s.ms ≤ policy.maxSilenceMs ∧ log.disconnected name = false

/-- What the tracker trusts: not disconnected, and if there is a last report, it was within
the lag when it came in and is not too old (or came in at clock reading zero). -/
def Trusted (policy : FreshnessPolicy) (log : EventLog) (now : ℕ) (name : String) : Prop :=
  log.disconnected name = false ∧ ∀ s, log.last name = some s →
    s.tip - s.slot ≤ policy.maxSlotLag ∧ (s.ms = 0 ∨ now - s.ms ≤ policy.maxSilenceMs)

/-- Trusted without being fresh: never heard of, or left behind by the tip since its last
report, or last heard of at clock reading zero. -/
def LeftOver (policy : FreshnessPolicy) (log : EventLog) (now : ℕ) (name : String) : Prop :=
  log.disconnected name = false ∧
    (log.last name = none ∨
      ∃ s, log.last name = some s ∧ s.tip - s.slot ≤ policy.maxSlotLag ∧
        (policy.maxSlotLag < log.tip - s.slot ∧
            (s.ms = 0 ∨ now - s.ms ≤ policy.maxSilenceMs) ∨
          s.ms = 0 ∧ policy.maxSilenceMs < now - s.ms))

lemma trusted_of_fresh {policy : FreshnessPolicy} {log : EventLog} {now : ℕ} {name : String}
    (hrecent : ∀ s, log.last name = some s → s.tip ≤ log.tip)
    (h : log.Fresh policy now name) : log.Trusted policy now name := by
  obtain ⟨s, hlast, hlag, hquiet, hconn⟩ := h
  refine ⟨hconn, fun s' hs' => ?_⟩
  obtain rfl : s = s' := Option.some.inj (hlast.symm.trans hs')
  have htip := hrecent s hlast
  exact ⟨by omega, Or.inr hquiet⟩

lemma leftOver_iff {policy : FreshnessPolicy} {log : EventLog} {now : ℕ} {name : String} :
    log.LeftOver policy now name ↔
      log.Trusted policy now name ∧ ¬ log.Fresh policy now name := by
  unfold LeftOver Trusted Fresh
  cases hlast : log.last name with
  | none => simp
  | some s =>
      simp only [reduceCtorEq, false_or, Option.some.injEq, exists_eq_left', forall_eq']
      constructor
      · rintro ⟨hconn, hlag, hcase⟩
        refine ⟨⟨hconn, hlag, ?_⟩, ?_⟩
        · rcases hcase with ⟨-, hquiet⟩ | ⟨hzero, -⟩
          · exact hquiet
          · exact Or.inl hzero
        · rintro ⟨hlag', hquiet', -⟩
          omega
      · rintro ⟨⟨hconn, hlag, hquiet⟩, hnot⟩
        refine ⟨hconn, hlag, ?_⟩
        -- Trusted and not fresh: it lags behind the tip of now, or was last heard of at zero and is
        -- silent.
        by_cases hbehind : policy.maxSlotLag < log.tip - s.slot
        · exact Or.inl ⟨hbehind, hquiet⟩
        · have hsilent : policy.maxSilenceMs < now - s.ms := by
            by_contra hle
            exact hnot ⟨not_lt.1 hbehind, not_lt.1 hle, hconn⟩
          exact Or.inr ⟨by omega, hsilent⟩

/-- No sighting is ahead of the tip. -/
def Recent (log : EventLog) : Prop := ∀ name s, log.last name = some s → s.tip ≤ log.tip

lemma recent_note {log : EventLog} (h : log.Recent) (timed : ℕ × Call) :
    (log.note timed).Recent := by
  obtain ⟨now, call⟩ := timed
  cases call with
  | record name slot =>
      intro name' s hs
      by_cases hname : name' = name
      · subst hname
        simp only [note, Function.update_self, Option.some.injEq] at hs
        subst hs
        exact le_rfl
      · simp only [note, Function.update_of_ne hname] at hs
        exact (h name' s hs).trans (le_max_left _ _)
  | markDisconnected name => exact h
  | refreshSilence => exact h
  | selectPrimary => exact h
  | isStale name => exact h

end EventLog

/-! ## The flags mirror the log -/

namespace FreshnessTracker

open EventLog (Trusted Fresh LeftOver)

/-- The flag a provider will have once silence has been looked at, at time `now`. -/
def Up (policy : FreshnessPolicy) (now : ℕ) (p : ProviderFreshness) : Prop :=
  p.healthy = true ∧ (p.lastEventMs = 0 ∨ now - p.lastEventMs ≤ policy.maxSilenceMs)

lemma silence_healthy (policy : FreshnessPolicy) (now : ℕ) (p : ProviderFreshness) :
    (silence policy now p).healthy = true ↔ Up policy now p := by
  unfold silence Up
  split_ifs with hzero hsilent
  · simp [hzero]
  · simp only [false_iff, not_and, not_or]
    exact fun _ => ⟨hzero, by omega⟩
  · have hquiet : now - p.lastEventMs ≤ policy.maxSilenceMs := not_lt.1 hsilent
    simp [hquiet]

@[simp] lemma silence_name (policy : FreshnessPolicy) (now : ℕ) (p : ProviderFreshness) :
    (silence policy now p).name = p.name := by
  unfold silence
  split_ifs <;> rfl

/-- Looking at silence once more, later, decides the same. -/
lemma up_silence {policy : FreshnessPolicy} {t now : ℕ} (h : t ≤ now) (p : ProviderFreshness) :
    Up policy now (silence policy t p) ↔ Up policy now p := by
  unfold silence Up
  split_ifs with hzero hsilent
  · rfl
  · simp only [false_and, false_iff, not_and, not_or]
    exact fun _ => ⟨hzero, by omega⟩
  · rfl

/-- From time `clock` on, the provider will be up exactly if it is trusted; a second provider
of a name already `seen` is never updated and always up. -/
def Mirrors (policy : FreshnessPolicy) (log : EventLog) (clock : ℕ) :
    List String → List ProviderFreshness → Prop
  | _, [] => True
  | seen, p :: ps =>
      (∀ now, clock ≤ now →
        (Up policy now p ↔ p.name ∈ seen ∨ Trusted policy log now p.name)) ∧
      Mirrors policy log clock (p.name :: seen) ps

lemma mirrors_mono {policy : FreshnessPolicy} {log : EventLog} {clock clock' : ℕ}
    (h : clock ≤ clock') :
    ∀ (ps : List ProviderFreshness) {seen : List String},
      Mirrors policy log clock seen ps → Mirrors policy log clock' seen ps
  | [], _, _ => trivial
  | _ :: ps, _, hm => ⟨fun now hnow => hm.1 now (h.trans hnow), mirrors_mono h ps hm.2⟩

/-- A log that tells the same of every unseen provider is mirrored alike. -/
lemma mirrors_congr {policy : FreshnessPolicy} {log log' : EventLog} {clock : ℕ} :
    ∀ (ps : List ProviderFreshness) {seen : List String},
      (∀ name, name ∉ seen →
        ∀ now, Trusted policy log now name ↔ Trusted policy log' now name) →
      Mirrors policy log clock seen ps → Mirrors policy log' clock seen ps
  | [], _, _, _ => trivial
  | p :: ps, seen, hlog, hm => by
      refine ⟨fun now hnow => ?_, mirrors_congr ps (fun name hname => ?_) hm.2⟩
      · rw [hm.1 now hnow]
        by_cases hp : p.name ∈ seen
        · simp [hp]
        · rw [hlog p.name hp now]
      · exact hlog name fun hseen => hname (List.mem_cons_of_mem _ hseen)

lemma mirrors_silence {policy : FreshnessPolicy} {log : EventLog} {clock t : ℕ} (ht : clock ≤ t) :
    ∀ (ps : List ProviderFreshness) {seen : List String}, Mirrors policy log clock seen ps →
      Mirrors policy log t seen (ps.map (silence policy t))
  | [], _, _ => trivial
  | p :: ps, seen, hm => by
      refine ⟨fun now hnow => ?_, ?_⟩
      · rw [up_silence hnow, silence_name]
        exact hm.1 now (ht.trans hnow)
      · rw [silence_name]
        exact mirrors_silence ht ps hm.2

/-- An update of the first provider of a name, against a log that changes for that name only. -/
lemma mirrors_updateNamed {policy : FreshnessPolicy} {log log' : EventLog} {clock : ℕ}
    {name : String} {f : ProviderFreshness → ProviderFreshness}
    (hname : ∀ p, (f p).name = p.name)
    (hf : ∀ p now, clock ≤ now → (Up policy now (f p) ↔ Trusted policy log' now name))
    (hlog : ∀ other, other ≠ name → ∀ now,
      Trusted policy log now other ↔ Trusted policy log' now other) :
    ∀ (ps : List ProviderFreshness) {seen : List String}, name ∉ seen →
      Mirrors policy log clock seen ps →
      Mirrors policy log' clock seen (updateNamed name f ps)
  | [], _, _, _ => trivial
  | p :: ps, seen, hseen, hm => by
      -- The update stops at the first provider of the name; the later ones stay as they were.
      by_cases hp : p.name = name
      · rw [updateNamed, if_pos hp]
        refine ⟨fun now hnow => ?_, ?_⟩
        · rw [hf p now hnow, hname, hp]
          simp [hseen]
        · rw [hname, hp]
          refine mirrors_congr ps (fun other hother now => hlog other ?_ now) (hp ▸ hm.2)
          exact fun heq => hother (heq ▸ List.mem_cons_self)
      · rw [updateNamed, if_neg hp]
        refine ⟨fun now hnow => ?_, ?_⟩
        · rw [hm.1 now hnow, hlog p.name hp now]
        · refine mirrors_updateNamed hname hf hlog ps ?_ hm.2
          rw [List.mem_cons, not_or]
          exact ⟨fun heq => hp heq.symm, hseen⟩

/-- The tracker and the log of the same calls, up to time `clock`. -/
structure Tracks (names : List String) (policy : FreshnessPolicy) (clock : ℕ)
    (t : FreshnessTracker) (log : EventLog) : Prop where
  policy_eq : t.policy = policy
  names_eq : t.providers.map ProviderFreshness.name = names
  tip_eq : t.tipSlot = log.tip
  recent : log.Recent
  mirrors : Mirrors policy log clock [] t.providers

/-- What an update leaves alone in one provider it leaves alone in the list. -/
lemma map_updateNamed {β : Type*} (g : ProviderFreshness → β) (name : String)
    {f : ProviderFreshness → ProviderFreshness} (hg : ∀ p, g (f p) = g p)
    (ps : List ProviderFreshness) : (updateNamed name f ps).map g = ps.map g := by
  induction ps with
  | nil => rfl
  | cons p ps ih =>
      by_cases hp : p.name = name
      · rw [updateNamed, if_pos hp, List.map_cons, List.map_cons, hg]
      · rw [updateNamed, if_neg hp, List.map_cons, List.map_cons, ih]

lemma mirrors_new (policy : FreshnessPolicy) (names : List String) :
    ∀ seen, Mirrors policy EventLog.empty 0 seen (new names policy).providers := by
  induction names with
  | nil => exact fun _ => trivial
  | cons name names ih =>
      refine fun seen => ⟨fun now _ => ?_, ih _⟩
      simp [Up, Trusted, EventLog.empty]

lemma tracks_new (names : List String) (policy : FreshnessPolicy) :
    Tracks names policy 0 (new names policy) EventLog.empty where
  policy_eq := rfl
  names_eq := by rw [new, List.map_map]; exact List.map_id names
  tip_eq := rfl
  recent := fun _ _ h => absurd h (by simp [EventLog.empty])
  mirrors := mirrors_new policy names []

lemma tracks_refresh {names : List String} {policy : FreshnessPolicy} {clock now : ℕ}
    {t : FreshnessTracker} {log : EventLog} (h : Tracks names policy clock t log)
    (hnow : clock ≤ now) : Tracks names policy now (t.refreshSilence now) log where
  policy_eq := h.policy_eq
  names_eq := by
    rw [← h.names_eq]
    simp [refreshSilence]
  tip_eq := h.tip_eq
  recent := h.recent
  mirrors := by
    have hm := mirrors_silence hnow t.providers h.mirrors
    rw [← h.policy_eq] at hm ⊢
    exact hm

/-- **One call keeps the tracker and the log together.** -/
theorem tracks_step {names : List String} {policy : FreshnessPolicy} {clock : ℕ}
    {t : FreshnessTracker} {log : EventLog} (h : Tracks names policy clock t log)
    (timed : ℕ × Call) (hnow : clock ≤ timed.1) :
    Tracks names policy timed.1 (t.step timed) (log.note timed) := by
  obtain ⟨now, call⟩ := timed
  have hm : Mirrors policy log now [] t.providers := mirrors_mono hnow _ h.mirrors
  -- Both calls that write change one provider and note it; the others refresh by the clock.
  cases call with
  | record name slot =>
      have htip : (if t.tipSlot < slot then slot else t.tipSlot) = max log.tip slot := by
        rw [h.tip_eq]
        split_ifs with hlt
        · exact (max_eq_right hlt.le).symm
        · exact (max_eq_left (not_lt.1 hlt)).symm
      refine ⟨h.policy_eq, ?_, htip, EventLog.recent_note h.recent _, ?_⟩
      · rw [← h.names_eq]
        exact map_updateNamed ProviderFreshness.name name (fun p => by rfl) t.providers
      · refine mirrors_updateNamed (fun p => by rfl) ?_ ?_ t.providers List.not_mem_nil hm
        · intro p later _
          simp [Up, Trusted, EventLog.note, htip, h.policy_eq]
        · intro other hother later
          simp [Trusted, EventLog.note, Function.update_of_ne hother]
  | markDisconnected name =>
      refine ⟨h.policy_eq, ?_, h.tip_eq, EventLog.recent_note h.recent _, ?_⟩
      · rw [← h.names_eq]
        exact map_updateNamed ProviderFreshness.name name (fun p => by rfl) t.providers
      · refine mirrors_updateNamed (fun p => by rfl) ?_ ?_ t.providers List.not_mem_nil hm
        · intro p later _
          simp [Up, Trusted, EventLog.note]
        · intro other hother later
          simp [Trusted, EventLog.note, Function.update_of_ne hother]
  | refreshSilence => exact tracks_refresh h hnow
  | selectPrimary =>
      have hstate : (t.selectPrimary now).1 = t.refreshSilence now := by
        simp only [selectPrimary]
        split <;> rfl
      rw [step, hstate]
      exact tracks_refresh h hnow
  | isStale name => exact tracks_refresh h hnow

/-- Over a run whose clock does not go back. -/
lemma tracks_exec {names : List String} {policy : FreshnessPolicy} :
    ∀ (run : List (ℕ × Call)) (now : ℕ) {clock : ℕ} {t : FreshnessTracker} {log : EventLog},
      Tracks names policy clock t log → (clock :: run.map Prod.fst ++ [now]).Pairwise (· ≤ ·) →
      Tracks names policy now ((Runs.exec step t run).refreshSilence now)
        (Runs.exec EventLog.note log run)
  | [], now, clock, t, log, h, hclock => by
      refine tracks_refresh h ?_
      simpa using hclock
  | timed :: run, now, clock, t, log, h, hclock => by
      have hrest := (List.pairwise_cons.1 hclock).2
      have hnow : clock ≤ timed.1 := (List.pairwise_cons.1 hclock).1 timed.1 (by simp)
      exact tracks_exec run now (tracks_step h timed hnow) hrest

/-! ## The selection

The tracker takes the first provider that is up, which need not be a fresh one. -/

/-- The flags as the selection finds them. -/
def Shows (policy : FreshnessPolicy) (log : EventLog) (now : ℕ)
    (ps : List ProviderFreshness) : Prop :=
  ∀ pre p post, ps = pre ++ p :: post →
    (p.healthy = true ↔ p.name ∈ pre.map ProviderFreshness.name ∨ Trusted policy log now p.name)

lemma mirrors_split {policy : FreshnessPolicy} {log : EventLog} {clock now : ℕ}
    (hnow : clock ≤ now) {p : ProviderFreshness} {post : List ProviderFreshness} :
    ∀ (pre : List ProviderFreshness) {seen : List String},
      Mirrors policy log clock seen (pre ++ p :: post) →
      (Up policy now p ↔
        p.name ∈ pre.map ProviderFreshness.name ∨ p.name ∈ seen ∨ Trusted policy log now p.name)
  | [], seen, hm => by simpa using hm.1 now hnow
  | q :: pre, seen, hm => by
      rw [mirrors_split hnow pre hm.2, List.mem_cons, List.map_cons, List.mem_cons]
      tauto

lemma shows_of_tracks {names : List String} {policy : FreshnessPolicy} {now : ℕ}
    {t : FreshnessTracker} {log : EventLog}
    (h : Tracks names policy now (t.refreshSilence now) log) :
    Shows policy log now (t.refreshSilence now).providers := by
  intro pre p post heq
  have hpolicy : t.policy = policy := h.policy_eq
  have hmem : p ∈ t.providers.map (silence t.policy now) := by
    change p ∈ (t.refreshSilence now).providers
    rw [heq]
    simp
  obtain ⟨q, -, rfl⟩ := List.mem_map.1 hmem
  have hm := h.mirrors
  rw [heq] at hm
  have hsplit := mirrors_split le_rfl pre hm
  rw [hpolicy] at hsplit ⊢
  rw [silence_healthy, ← up_silence le_rfl, hsplit]
  simp

lemma healthy_of_fresh {policy : FreshnessPolicy} {log : EventLog} {now : ℕ}
    {ps : List ProviderFreshness} (hshows : Shows policy log now ps) (hrecent : log.Recent)
    {p : ProviderFreshness} (hp : p ∈ ps) (hfresh : log.Fresh policy now p.name) :
    p.healthy = true := by
  obtain ⟨pre, post, heq⟩ := List.append_of_mem hp
  exact (hshows pre p post heq).2 (Or.inr (EventLog.trusted_of_fresh (hrecent p.name) hfresh))

/-- A provider that is not fresh stands, healthy, before every fresh one. -/
def Shadowed (policy : FreshnessPolicy) (log : EventLog) (now : ℕ) (names : List String) : Prop :=
  ∃ pre name post, names = pre ++ name :: post ∧
    (name ∈ pre ∨ LeftOver policy log now name) ∧
    (∀ other ∈ pre, ¬ Fresh policy log now other) ∧ ∃ other ∈ post, Fresh policy log now other

/-- The first healthy provider is fresh, if any is, unless a fresh one is shadowed. -/
lemma find_fresh_iff {policy : FreshnessPolicy} {log : EventLog} {now : ℕ}
    {ps : List ProviderFreshness} (hshows : Shows policy log now ps) (hrecent : log.Recent) :
    ((∃ name ∈ ps.map ProviderFreshness.name, Fresh policy log now name) →
        ∃ p, ps.find? (fun p => p.healthy) = some p ∧ Fresh policy log now p.name) ↔
      ¬ Shadowed policy log now (ps.map ProviderFreshness.name) := by
  constructor
  · rintro hselect ⟨pre, name, post, hnames, hstale, hpre, hpost⟩
    obtain ⟨ps₁, ps₂, rfl, rfl, hps₂⟩ := List.map_eq_append_iff.1 hnames
    obtain ⟨p, ps₃, rfl, rfl, rfl⟩ := List.map_eq_cons_iff.1 hps₂
    obtain ⟨other, hother, hfresh⟩ := hpost
    obtain ⟨q, hfind, hq⟩ := hselect ⟨other, by rw [hnames]; simp [hother], hfresh⟩
    -- The stale provider is marked healthy and stands before the fresh one, so it is the one found.
    have hhealthy : p.healthy = true := by
      refine (hshows ps₁ p ps₃ rfl).2 ?_
      rcases hstale with hseen | hleft
      · exact Or.inl hseen
      · exact Or.inr (EventLog.leftOver_iff.1 hleft).1
    rw [List.find?_append] at hfind
    cases hfirst : ps₁.find? fun p => p.healthy with
    | some q' =>
        obtain rfl : q' = q := by simpa [hfirst] using hfind
        exact hpre q'.name (List.mem_map_of_mem (List.mem_of_find?_eq_some hfirst)) hq
    | none =>
        obtain rfl : p = q := by simpa [hfirst, hhealthy] using hfind
        rcases hstale with hseen | hleft
        · exact hpre p.name hseen hq
        · exact (EventLog.leftOver_iff.1 hleft).2 hq
  · rintro hnot ⟨name, hname, hfresh⟩
    obtain ⟨r, hr, rfl⟩ := List.mem_map.1 hname
    cases hfind : ps.find? fun p => p.healthy with
    | none =>
        have hunhealthy := List.find?_eq_none.1 hfind r hr
        exact absurd (healthy_of_fresh hshows hrecent hr hfresh) hunhealthy
    | some q =>
        obtain ⟨hq, pre, post, rfl, hpre⟩ := List.find?_eq_some_iff_append.1 hfind
        refine ⟨q, rfl, by_contra fun hstale => hnot ?_⟩
        -- Were the one found stale, it would shadow the fresh one behind it.
        have hpre' : ∀ other ∈ pre.map ProviderFreshness.name,
            ¬ Fresh policy log now other := by
          intro other hother hfresh'
          obtain ⟨p, hp, rfl⟩ := List.mem_map.1 hother
          have hhealthy := healthy_of_fresh hshows hrecent
            (List.mem_append_left _ hp) hfresh'
          simpa [hhealthy] using hpre p hp
        refine ⟨pre.map ProviderFreshness.name, q.name, post.map ProviderFreshness.name,
          by simp, ?_, hpre', r.name, ?_, hfresh⟩
        · rcases (hshows pre q post rfl).1 hq with hseen | htrusted
          · exact Or.inl hseen
          · exact Or.inr (EventLog.leftOver_iff.2 ⟨htrusted, hstale⟩)
        · rcases List.mem_append.1 hr with hmem | hmem
          · exact absurd hfresh (hpre' _ (List.mem_map_of_mem hmem))
          · rcases List.mem_cons.1 hmem with rfl | hmem
            · exact absurd hfresh hstale
            · exact List.mem_map_of_mem hmem

/-- **When the selection is fresh.**  After any calls with a clock that does not go back,
`select_primary` returns a fresh provider whenever there is one, exactly if no provider that is
left over stands before every fresh one. -/
theorem selects_fresh_iff (policy : FreshnessPolicy) (names : List String)
    (run : List (ℕ × Call)) (now : ℕ)
    (hclock : (run.map Prod.fst ++ [now]).Pairwise (· ≤ ·)) :
    ((∃ name ∈ names, Fresh policy (Runs.exec EventLog.note EventLog.empty run) now name) →
        ∃ name, ((Runs.exec step (new names policy) run).selectPrimary now).2 = some name ∧
          Fresh policy (Runs.exec EventLog.note EventLog.empty run) now name) ↔
      ¬ Shadowed policy (Runs.exec EventLog.note EventLog.empty run) now names := by
  have htracks := tracks_exec run now (tracks_new names policy) (by
    rw [List.cons_append, List.pairwise_cons]
    exact ⟨fun _ _ => Nat.zero_le _, hclock⟩)
  set t := Runs.exec step (new names policy) run
  set log := Runs.exec EventLog.note EventLog.empty run
  have hshows := shows_of_tracks htracks
  have hiff := find_fresh_iff hshows htracks.recent
  rw [htracks.names_eq] at hiff
  rw [← hiff]
  refine imp_congr_right fun hsome => ?_
  -- some provider is healthy, so the selection does not fall back on slots
  obtain ⟨name, hname, hfresh⟩ := hsome
  rw [← htracks.names_eq] at hname
  obtain ⟨r, hr, rfl⟩ := List.mem_map.1 hname
  have hhealthy := healthy_of_fresh hshows htracks.recent hr hfresh
  cases hfind : (t.refreshSilence now).providers.find? fun p => p.healthy with
  | none => exact absurd hhealthy (List.find?_eq_none.1 hfind r hr)
  | some q =>
      have hselect : (t.selectPrimary now).2 = some q.name := by simp only [selectPrimary, hfind]
      simp [hselect]

/-- Two providers reporting within a millisecond of each other. -/
def backupAhead : List (ℕ × Call) := [(1000, .record "primary" 80), (1001, .record "backup" 100)]

/-- The primary reported first and was within the lag of the tip of then; it is selected
although the backup is twenty slots ahead with a lag of eight allowed. -/
theorem primary_left_behind_is_selected :
    ((Runs.exec step (new ["primary", "backup"] ⟨8, 60000⟩) backupAhead).selectPrimary 1002).2 =
        some "primary" ∧
      Fresh ⟨8, 60000⟩ (Runs.exec EventLog.note EventLog.empty backupAhead) 1002 "backup" ∧
      ¬ Fresh ⟨8, 60000⟩ (Runs.exec EventLog.note EventLog.empty backupAhead) 1002 "primary" := by
  refine ⟨by decide, ⟨⟨100, 1001, 100⟩, by decide⟩, ?_⟩
  rintro ⟨s, hlast, hlag, -⟩
  obtain rfl : (⟨80, 1000, 80⟩ : Sighting) = s := Option.some.inj hlast
  exact absurd hlag (by decide)

/-- The backup reporting first: the primary's own report then finds it behind. -/
theorem backup_selected_when_ahead_first :
    ∃ name, ((Runs.exec step (new ["primary", "backup"] ⟨8, 60000⟩)
        [(1000, .record "backup" 100), (1001, .record "primary" 80)]).selectPrimary 1002).2 =
          some name ∧
      Fresh ⟨8, 60000⟩ (Runs.exec EventLog.note EventLog.empty
        [(1000, .record "backup" 100), (1001, .record "primary" 80)]) 1002 name := by
  refine (selects_fresh_iff ⟨8, 60000⟩ ["primary", "backup"] _ 1002 (by decide)).2 ?_
    ⟨"backup", by decide, ⟨100, 1000, 100⟩, by decide⟩
  rintro ⟨pre, name, post, hnames, hstale, -, other, hother, -⟩
  rcases pre with _ | ⟨first, pre⟩
  · obtain ⟨rfl, -⟩ := List.cons.inj hnames
    rcases hstale with hseen | hleft
    · exact absurd hseen List.not_mem_nil
    · have htrusted := (EventLog.leftOver_iff.1 hleft).1
      exact absurd (htrusted.2 ⟨80, 1001, 100⟩ (by decide)).1 (by decide)
  · have hlength := congrArg List.length hnames
    have hpos := List.length_pos_of_mem hother
    simp only [List.cons_append, List.length_cons, List.length_append, List.length_nil] at hlength
    omega

end FreshnessTracker

end Grokbotliq
