import Grokbotliq.Framework.MaxByKey
import Grokbotliq.Streaming.Failover

/-!
# The failover mux

`subscribe` asks the tracker for a primary, subscribes to the provider of that name and, when
that fails, marks it disconnected.  With no report coming in and the clock standing still,
calling it again and again walks down the healthy providers in registration order, and once none
is left it asks the one with the highest last slot, every time: marking that one disconnected
changes nothing (`attempts_ok_iff`).

So a live provider is reached if it is healthy, or if it is the one with the highest last slot.
A live provider that is neither is never tried.

Repeating the call is a list of attempts, and the providers tried are read off the tracker at the
start: the healthy ones in order, then the last resort for all attempts that are left.  As many
attempts as there are providers are enough for all of them (`mem_tried_iff`).
-/

namespace Grokbotliq

inductive StreamError
  | disconnected (message : String)
  | subscribe (message : String)
  | channelClosed
  | stale (message : String)
  | fixture (message : String)
  deriving DecidableEq

/-- A registered provider, with what its own `subscribe` comes to. -/
structure NamedSub where
  name : String
  inner : Except StreamError Unit

structure FailoverMux where
  providers : List NamedSub
  tracker : FreshnessTracker

namespace FailoverMux

open FreshnessTracker

def new (providers : List NamedSub) (policy : FreshnessPolicy) : FailoverMux where
  providers := providers
  tracker := .new (providers.map NamedSub.name) policy

/-- `subscribe` at a reading of the clock.  The task that forwards a stream's events reports to
the tracker later, on its own. -/
def subscribe (m : FailoverMux) (now : ℕ) : FailoverMux × Except StreamError Unit :=
  let selected := m.tracker.selectPrimary now
  match selected.2 with
  | none => ({ m with tracker := selected.1 }, .error (.subscribe "no providers registered"))
  | some primary =>
    match (m.providers.find? fun p => p.name = primary).or m.providers.head? with
    | none => ({ m with tracker := selected.1 }, .error (.subscribe "empty provider list"))
    | some chosen =>
      let tracker := (selected.1.isStale now chosen.name).1
      match chosen.inner with
      | .error e => ({ m with tracker := tracker.markDisconnected chosen.name }, .error e)
      | .ok () => ({ m with tracker := tracker }, .ok ())

/-- The outcomes of `n` calls at one reading of the clock. -/
def attempts (now : ℕ) : ℕ → FailoverMux → List (Except StreamError Unit)
  | 0, _ => []
  | n + 1, m => (m.subscribe now).2 :: attempts now n (m.subscribe now).1

/-- The provider of that name can be subscribed to. -/
def Live (m : FailoverMux) (name : String) : Prop :=
  ∃ p ∈ m.providers, p.name = name ∧ p.inner = .ok ()

/-- The tracker knows the mux's providers, under distinct names. -/
structure Aligned (m : FailoverMux) : Prop where
  names : m.tracker.providers.map ProviderFreshness.name = m.providers.map NamedSub.name
  nodup : (m.providers.map NamedSub.name).Nodup

end FailoverMux

/-! ## The order in which providers are tried -/

namespace FreshnessTracker

/-- The healthy providers, in registration order. -/
def healthyNames (t : FreshnessTracker) : List String :=
  (t.providers.filter fun p => p.healthy).map ProviderFreshness.name

/-- The provider with the highest last slot, the last registered of them. -/
def lastResort (t : FreshnessTracker) : Option String :=
  (freshestBySlot t.providers).map ProviderFreshness.name

lemma silence_of_unhealthy {policy : FreshnessPolicy} {now : ℕ} {p : ProviderFreshness}
    (h : p.healthy = false) : silence policy now p = p := by
  unfold silence
  split_ifs
  · rfl
  · rw [← h]
  · rfl

lemma silence_silence (policy : FreshnessPolicy) (now : ℕ) (p : ProviderFreshness) :
    silence policy now (silence policy now p) = silence policy now p := by
  by_cases h : (silence policy now p).healthy = true
  · have hsame : silence policy now p = p := by
      have hup := (silence_healthy policy now p).1 h
      unfold silence
      split_ifs with hzero hsilent
      · rfl
      · exact absurd hup.2 (by omega)
      · rfl
    rw [hsame, hsame]
  · exact silence_of_unhealthy (by simpa using h)

/-- Silence has been looked at, at this reading of the clock. -/
def Refreshed (now : ℕ) (t : FreshnessTracker) : Prop :=
  ∀ p ∈ t.providers, silence t.policy now p = p

lemma refreshed_refreshSilence (t : FreshnessTracker) (now : ℕ) :
    (t.refreshSilence now).Refreshed now := by
  intro p hp
  obtain ⟨q, _, rfl⟩ := List.mem_map.1 hp
  exact silence_silence t.policy now q

lemma Refreshed.refreshSilence {now : ℕ} {t : FreshnessTracker} (h : t.Refreshed now) :
    t.refreshSilence now = t := by
  have hsame : t.providers.map (silence t.policy now) = t.providers :=
    (List.map_congr_left h).trans (List.map_id' t.providers)
  unfold FreshnessTracker.refreshSilence
  rw [hsame]

lemma Refreshed.markDisconnected {now : ℕ} {t : FreshnessTracker} (h : t.Refreshed now)
    (name : String) : (t.markDisconnected name).Refreshed now := by
  have hmem : ∀ (ps : List ProviderFreshness), (∀ p ∈ ps, silence t.policy now p = p) →
      ∀ p ∈ updateNamed name (fun p => { p with healthy := false }) ps,
        silence t.policy now p = p := by
    intro ps
    induction ps with
    | nil => exact fun hps => hps
    | cons q ps ih =>
        intro hps p hp
        have hrest : ∀ p ∈ ps, silence t.policy now p = p :=
          fun p hp => hps p (List.mem_cons_of_mem q hp)
        by_cases hq : q.name = name
        · rw [updateNamed, if_pos hq] at hp
          rcases List.mem_cons.1 hp with rfl | hp
          · exact silence_of_unhealthy rfl
          · exact hrest p hp
        · rw [updateNamed, if_neg hq] at hp
          rcases List.mem_cons.1 hp with rfl | hp
          · exact hps _ List.mem_cons_self
          · exact ih hrest p hp
  exact hmem t.providers h

lemma selectPrimary_refreshSilence (t : FreshnessTracker) (now : ℕ) :
    (t.refreshSilence now).selectPrimary now = t.selectPrimary now := by
  have hsame := (refreshed_refreshSilence t now).refreshSilence
  simp only [selectPrimary, hsame]

/-- The selection, on a tracker whose silence has been looked at. -/
lemma Refreshed.selectPrimary {now : ℕ} {t : FreshnessTracker} (h : t.Refreshed now) :
    t.selectPrimary now = (t, t.healthyNames.head?.or t.lastResort) := by
  have hhead : t.healthyNames.head? =
      (t.providers.find? fun p => p.healthy).map ProviderFreshness.name := by
    rw [healthyNames, List.head?_map, List.head?_filter]
  rw [hhead]
  unfold FreshnessTracker.selectPrimary
  rw [h.refreshSilence]
  cases hfind : t.providers.find? fun p => p.healthy with
  | none =>
      simp only [hfind]
      rfl
  | some p =>
      simp only [hfind]
      rfl

/-- Disconnecting a provider takes it off the healthy ones. -/
lemma healthyNames_markDisconnected {t : FreshnessTracker}
    (hnodup : (t.providers.map ProviderFreshness.name).Nodup) (name : String) :
    (t.markDisconnected name).healthyNames = t.healthyNames.erase name := by
  have hlist : ∀ ps : List ProviderFreshness, (ps.map ProviderFreshness.name).Nodup →
      ((updateNamed name (fun p => { p with healthy := false }) ps).filter
          fun p => p.healthy).map ProviderFreshness.name =
        ((ps.filter fun p => p.healthy).map ProviderFreshness.name).erase name := by
    intro ps
    induction ps with
    | nil => exact fun _ => rfl
    | cons p ps ih =>
        intro hps
        rw [List.map_cons, List.nodup_cons] at hps
        have habsent : p.name ∉ (ps.filter fun p => p.healthy).map ProviderFreshness.name :=
          fun hmem => hps.1 ((List.filter_sublist.map _).subset hmem)
        by_cases hp : p.name = name
        · rw [updateNamed, if_pos hp]
          subst hp
          cases hhealthy : p.healthy with
          | true => simp [hhealthy]
          | false => simp [hhealthy, List.erase_of_not_mem habsent]
        · rw [updateNamed, if_neg hp]
          cases hhealthy : p.healthy with
          | true =>
              simp only [List.filter_cons, hhealthy, if_true, List.map_cons, ih hps.2]
              rw [List.erase_cons_tail (by simpa using hp)]
          | false => simp [hhealthy, ih hps.2]
  exact hlist t.providers hnodup

lemma freshestBySlot_eq (ps : List ProviderFreshness) :
    freshestBySlot ps = maxByKey ProviderFreshness.lastSlot ps := by
  unfold freshestBySlot maxByKey
  congr 1
  funext best p
  cases best <;> rfl

/-- What the freshest by slot is chosen by. -/
def slotKey (p : ProviderFreshness) : String × ℕ := (p.name, p.lastSlot)

/-- Disconnecting a provider does not change the last resort. -/
lemma lastResort_markDisconnected (t : FreshnessTracker) (name : String) :
    (t.markDisconnected name).lastResort = t.lastResort := by
  have hname : ∀ t : FreshnessTracker,
      t.lastResort = (maxByKey Prod.snd (t.providers.map slotKey)).map Prod.fst := by
    intro t
    have hkeys : maxByKey Prod.snd (t.providers.map slotKey) =
        (maxByKey ProviderFreshness.lastSlot t.providers).map slotKey := maxByKey_map _ slotKey _
    rw [hkeys, Option.map_map, lastResort, freshestBySlot_eq]
    rfl
  rw [hname, hname]
  exact congrArg (fun ks => (maxByKey Prod.snd ks).map Prod.fst)
    (map_updateNamed slotKey name (fun p => by rfl) t.providers)

/-- Enough tries for every provider to be healthy reach the healthy ones and the last resort. -/
lemma mem_tried_iff {t : FreshnessTracker} {p : ProviderFreshness} (hp : p ∈ t.providers) {n : ℕ}
    (hlen : t.providers.length = n) {name : String} :
    name ∈ (t.healthyNames ++ List.replicate n p.name).take n ↔
      name ∈ t.healthyNames ∨ name = p.name := by
  have hle : t.healthyNames.length ≤ n := by
    rw [healthyNames, List.length_map, ← hlen]
    exact List.length_filter_le ..
  rw [List.take_append, List.take_of_length_le hle, List.take_replicate, List.mem_append,
    List.mem_replicate]
  constructor
  · exact Or.imp_right And.right
  · rintro (hmem | rfl)
    · exact Or.inl hmem
    · by_cases hall : t.healthyNames.length = n
      · -- every provider is healthy, the last resort with them
        rw [healthyNames, List.length_map, ← hlen, List.length_filter_eq_length_iff] at hall
        exact Or.inl (List.mem_map_of_mem (List.mem_filter.2 ⟨hp, hall p hp⟩))
      · exact Or.inr ⟨by omega, rfl⟩

end FreshnessTracker

/-! ## One call -/

namespace FailoverMux

open FreshnessTracker

lemma aligned_new {providers : List NamedSub} (policy : FreshnessPolicy)
    (h : (providers.map NamedSub.name).Nodup) : (new providers policy).Aligned where
  names := by simp [new, FreshnessTracker.new]
  nodup := h

/-- Whoever is selected is a provider of the mux, and the call is what its own `subscribe` comes
to; if that fails it is marked disconnected. -/
lemma subscribe_cases {m : FailoverMux} (h : m.Aligned) {now : ℕ}
    (hquiet : m.tracker.Refreshed now) {name : String}
    (hselect : m.tracker.healthyNames.head?.or m.tracker.lastResort = some name)
    (hname : name ∈ m.providers.map NamedSub.name) :
    (m.Live name ∧ (m.subscribe now).2 = .ok ()) ∨
      (¬ m.Live name ∧ (m.subscribe now).2 ≠ .ok () ∧
        (m.subscribe now).1 = { m with tracker := m.tracker.markDisconnected name }) := by
  obtain ⟨p, hp, hpname⟩ := List.mem_map.1 hname
  have hunique : ∀ q ∈ m.providers, q.name = name → q = p := fun q hq hqname =>
    List.inj_on_of_nodup_map h.nodup hq hp (hqname.trans hpname.symm)
  have hfind : (m.providers.find? fun q => q.name = name) = some p := by
    cases hcase : m.providers.find? fun q => q.name = name with
    | none => exact absurd hpname (by simpa using List.find?_eq_none.1 hcase p hp)
    | some q =>
        have hqname : q.name = name := by simpa using List.find?_some hcase
        rw [hunique q (List.mem_of_find?_eq_some hcase) hqname]
  have hlive : m.Live name ↔ p.inner = .ok () := by
    constructor
    · rintro ⟨q, hq, hqname, hok⟩
      rwa [← hunique q hq hqname]
    · exact fun hok => ⟨p, hp, hpname, hok⟩
  have hstale : (m.tracker.isStale now p.name).1 = m.tracker := hquiet.refreshSilence
  have hsubscribe : m.subscribe now = match p.inner with
      | .error e => ({ m with tracker := m.tracker.markDisconnected p.name }, .error e)
      | .ok () => (m, .ok ()) := by
    rw [subscribe, hquiet.selectPrimary, hselect]
    simp only [hfind, Option.some_or, hstale]
  rw [hlive, hsubscribe]
  cases p.inner with
  | error e => exact Or.inr ⟨by simp, by simp, by rw [hpname]⟩
  | ok u => exact Or.inl ⟨rfl, rfl⟩

/-! ## Repeated calls -/

lemma Aligned.markDisconnected {m : FailoverMux} (h : m.Aligned) (name : String) :
    Aligned { m with tracker := m.tracker.markDisconnected name } where
  names := (map_updateNamed ProviderFreshness.name name (fun p => by rfl) _).trans h.names
  nodup := h.nodup

/-- The calls try the healthy providers one after another and then the last resort again and
again. -/
lemma attempts_ok_iff {now : ℕ} {last : String} :
    ∀ (n k : ℕ) {m : FailoverMux}, n ≤ k → m.Aligned → m.tracker.Refreshed now →
      m.tracker.lastResort = some last → last ∈ m.providers.map NamedSub.name →
      (.ok () ∈ attempts now n m ↔
        ∃ name ∈ (m.tracker.healthyNames ++ List.replicate k last).take n, m.Live name)
  | 0, _, _, _, _, _, _, _ => by simp [attempts]
  | n + 1, 0, _, hle, _, _, _, _ => absurd hle (by omega)
  | n + 1, k + 1, m, hle, h, hquiet, hlast, hmem => by
      have hsubset : ∀ name ∈ m.tracker.healthyNames, name ∈ m.providers.map NamedSub.name := by
        intro name hname
        rw [← h.names]
        exact (List.filter_sublist.map _).subset hname
      have hnodup : (m.tracker.providers.map ProviderFreshness.name).Nodup := by
        rw [h.names]
        exact h.nodup
      rw [attempts, List.mem_cons]
      -- The head of the healthy providers is tried, or the last resort where none is left.
      cases hqueue : m.tracker.healthyNames with
      | nil =>
          have hselect : m.tracker.healthyNames.head?.or m.tracker.lastResort = some last := by
            rw [hqueue, hlast]
            rfl
          rw [List.nil_append, List.replicate_succ, List.take_succ_cons, List.exists_mem_cons_iff]
          rcases subscribe_cases h hquiet hselect hmem with ⟨hlive, hok⟩ | ⟨hdead, hfail, hnext⟩
          · exact iff_of_true (Or.inl hok.symm) (Or.inl hlive)
          · have hqueue' : (m.tracker.markDisconnected last).healthyNames = [] := by
              rw [healthyNames_markDisconnected hnodup, hqueue]
              rfl
            have hrest := attempts_ok_iff n k (Nat.le_of_succ_le_succ hle) (h.markDisconnected last)
              (hquiet.markDisconnected last)
              ((lastResort_markDisconnected m.tracker last).trans hlast) hmem
            rw [hqueue', List.nil_append] at hrest
            rw [hnext, or_iff_right (Ne.symm hfail), or_iff_right hdead]
            exact hrest
      | cons name queue =>
          have hselect : m.tracker.healthyNames.head?.or m.tracker.lastResort = some name := by
            rw [hqueue]
            rfl
          have hname : name ∈ m.providers.map NamedSub.name :=
            hsubset name (by rw [hqueue]; exact List.mem_cons_self)
          rw [List.cons_append, List.take_succ_cons, List.exists_mem_cons_iff]
          rcases subscribe_cases h hquiet hselect hname with ⟨hlive, hok⟩ | ⟨hdead, hfail, hnext⟩
          · exact iff_of_true (Or.inl hok.symm) (Or.inl hlive)
          -- A failed attempt takes its provider off the queue, and one fewer is left.
          · have hqueue' : (m.tracker.markDisconnected name).healthyNames = queue := by
              rw [healthyNames_markDisconnected hnodup, hqueue, List.erase_cons_head]
            have hrest := attempts_ok_iff n (k + 1) (Nat.le_of_succ_le hle)
              (h.markDisconnected name) (hquiet.markDisconnected name)
              ((lastResort_markDisconnected m.tracker name).trans hlast) hmem
            rw [hqueue'] at hrest
            rw [hnext, or_iff_right (Ne.symm hfail), or_iff_right hdead]
            exact hrest

lemma attempts_refreshSilence (m : FailoverMux) (now n : ℕ) :
    attempts now n { m with tracker := m.tracker.refreshSilence now } = attempts now n m := by
  cases n with
  | zero => rfl
  | succ n =>
      have hsame : subscribe { m with tracker := m.tracker.refreshSilence now } now =
          m.subscribe now := by
        simp only [subscribe, selectPrimary_refreshSilence]
      rw [attempts, attempts, hsame]

/-- No call on the tracker changes which providers it has. -/
lemma names_exec (t : FreshnessTracker) (run : List (ℕ × Call)) :
    (Runs.exec step t run).providers.map ProviderFreshness.name =
      t.providers.map ProviderFreshness.name := by
  have hsilence : ∀ (t : FreshnessTracker) (now : ℕ),
      (t.refreshSilence now).providers.map ProviderFreshness.name =
        t.providers.map ProviderFreshness.name := by
    intro t now
    simp [refreshSilence]
  induction run generalizing t with
  | nil => rfl
  | cons timed run ih =>
      rw [Runs.exec_cons, ih]
      obtain ⟨now, call⟩ := timed
      cases call with
      | record name slot => exact map_updateNamed _ name (fun p => by rfl) t.providers
      | markDisconnected name => exact map_updateNamed _ name (fun p => by rfl) t.providers
      | refreshSilence => exact hsilence t now
      | selectPrimary =>
          have hstate : (t.selectPrimary now).1 = t.refreshSilence now := by
            simp only [selectPrimary]
            split <;> rfl
          exact (congrArg (fun t : FreshnessTracker => t.providers.map _) hstate).trans
            (hsilence t now)
      | isStale name => exact hsilence t now

/-- A mux whose tracker has seen these calls. -/
def afterCalls (providers : List NamedSub) (policy : FreshnessPolicy)
    (run : List (ℕ × Call)) : FailoverMux :=
  { new providers policy with tracker := Runs.exec step (new providers policy).tracker run }

/-- **Which live providers a mux reaches.**  After any calls on its tracker, of as many calls of
`subscribe` as there are providers, at one reading of the clock, one succeeds exactly if some
live provider is healthy once silence has been looked at, or the one with the highest last slot
is live. -/
theorem some_attempt_succeeds_iff (providers : List NamedSub) (policy : FreshnessPolicy)
    (hne : providers ≠ []) (hnodup : (providers.map NamedSub.name).Nodup)
    (run : List (ℕ × Call)) (now : ℕ) :
    .ok () ∈ attempts now providers.length (afterCalls providers policy run) ↔
      ∃ name, (afterCalls providers policy run).Live name ∧
        (name ∈ ((afterCalls providers policy run).tracker.refreshSilence now).healthyNames ∨
          ((afterCalls providers policy run).tracker.refreshSilence now).lastResort =
            some name) := by
  have hnames : ((afterCalls providers policy run).tracker.refreshSilence now).providers.map
      ProviderFreshness.name = providers.map NamedSub.name := by
    have hexec := names_exec (new providers policy).tracker (run ++ [(now, .refreshSilence)])
    rw [Runs.exec_append] at hexec
    exact hexec.trans (aligned_new policy hnodup).names
  generalize hm : afterCalls providers policy run = m at hnames
  have hproviders : m.providers = providers := by rw [← hm]; rfl
  have haligned : Aligned { m with tracker := m.tracker.refreshSilence now } :=
    ⟨hnames.trans (by rw [hproviders]), by rw [hproviders]; exact hnodup⟩
  have hquiet : (m.tracker.refreshSilence now).Refreshed now :=
    refreshed_refreshSilence m.tracker now
  have hsome : (m.tracker.refreshSilence now).providers ≠ [] := by
    intro hnil
    rw [hnil] at hnames
    exact hne (List.map_eq_nil_iff.1 hnames.symm)
  obtain ⟨p, hp, hfreshest⟩ := exists_mem_maxByKey ProviderFreshness.lastSlot hsome
  have hlast : (m.tracker.refreshSilence now).lastResort = some p.name := by
    rw [lastResort, freshestBySlot_eq, hfreshest]
    rfl
  have hmem : p.name ∈ m.providers.map NamedSub.name := by
    rw [hproviders, ← hnames]
    exact List.mem_map_of_mem hp
  have hlen : (m.tracker.refreshSilence now).providers.length = providers.length := by
    simpa using congrArg List.length hnames
  have htried : ∀ name, name ∈ ((m.tracker.refreshSilence now).healthyNames ++
      List.replicate providers.length p.name).take providers.length ↔
        name ∈ (m.tracker.refreshSilence now).healthyNames ∨ p.name = name :=
    fun name => (mem_tried_iff hp hlen).trans (or_congr Iff.rfl eq_comm)
  rw [← attempts_refreshSilence, attempts_ok_iff providers.length providers.length le_rfl haligned
    hquiet hlast hmem, hlast]
  simp only [htried, Option.some.injEq]
  exact exists_congr fun name => and_comm

/-- The first of two providers is down and the second one up. -/
def primaryDown : List NamedSub :=
  [⟨"primary", .error (.disconnected "primary")⟩, ⟨"backup", .ok ()⟩]

/-- Nobody has reported yet: the second call reaches the backup. -/
theorem some_attempt_succeeds_primaryDown :
    .ok () ∈ attempts 1000 2 (afterCalls primaryDown ⟨8, 60000⟩ []) :=
  (some_attempt_succeeds_iff primaryDown ⟨8, 60000⟩ (by decide) (by decide) [] 1000).2
    ⟨"backup", ⟨⟨"backup", .ok ()⟩, by simp [afterCalls, new, primaryDown], rfl, rfl⟩,
      Or.inl (by decide)⟩

/-- Both streams have ended after the primary's had got further: the backup is up and no call
asks it. -/
theorem live_backup_never_tried :
    (afterCalls primaryDown ⟨8, 60000⟩ [(1000, .record "primary" 100),
        (1001, .markDisconnected "backup"), (1002, .markDisconnected "primary")]).Live "backup" ∧
      .ok () ∉ attempts 1003 2 (afterCalls primaryDown ⟨8, 60000⟩
        [(1000, .record "primary" 100), (1001, .markDisconnected "backup"),
          (1002, .markDisconnected "primary")]) := by
  refine ⟨⟨⟨"backup", .ok ()⟩, by simp [afterCalls, new, primaryDown], rfl, rfl⟩, by decide⟩

end FailoverMux

end Grokbotliq
