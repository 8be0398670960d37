import Grokbotliq.Liquidator.LoopStore
import Grokbotliq.Streaming.DiscoveryReport
import Grokbotliq.Streaming.StartupEnv

/-!
# How the liquidator starts

Before its loop the liquidator fills its store: from the network, when an endpoint is configured,
the pool can be built and discovery comes to a report, and from its nine fixtures otherwise.  A
list with one placeholder gives no pool; the first URL is then tried alone.  `main_store` says what
the store holds from there on, at any time of any run: the newest of the accounts it was filled
with and of those streamed, never accounts of both sources.

What an account stands for in the store does not depend on when it was stored, so `Holds` leaves
the times open.  The seeds are those of the source that startup chose: of the network's answer
`bootstrapStore_cases` keeps that it was the answer of this startup, over the pool and at the keys
it asked for.
-/

namespace Grokbotliq

/-- The URL looks like a real endpoint. -/
def rpcUrlConfigured (url : String) : Bool :=
  let t := Text.trim url
  !t.isEmpty && !Text.contains t "YOUR_" &&
    ((Text.stripPrefix t "http://").isSome || (Text.stripPrefix t "https://").isSome)

/-- Three accounts for each of the three programs. -/
def FixtureBootstrap.demoForProtocols : FixtureBootstrap where
  accounts := [Programs.klend, Programs.save, Programs.marginfi].zipIdx.flatMap fun (owner, i) =>
    (List.range 3).map fun j =>
      { pubkey := Pubkey.test (50 + UInt8.ofNat i) (UInt64.ofNat j)
        lamports := 1000000
        owner := owner
        data := [UInt8.ofNat i, UInt8.ofNat j, 0xDE, 0xAD]
        slot := 1 }

namespace Liquidator

open LocalEnv

/-- What startup finds outside: the environment, the configured URL, the network, and the clock
when an account of a batch is stored. -/
structure Startup where
  env : Env
  cfgUrl : String
  world : World
  now : ℕ → ℕ → ℕ

namespace Startup

def liveConfigured (x : Startup) : Bool :=
  (rpcUrlsFromEnv x.env).any rpcUrlConfigured || rpcUrlConfigured x.cfgUrl

def rpcUrl (x : Startup) : String := (rpcUrlsFromEnv x.env).headD x.cfgUrl

def pool (x : Startup) : Except BootstrapError RotatingRpcPool :=
  match poolFromEnv x.env with
  | .ok p => .ok p
  | .error _ => RotatingRpcPool.fromUrls [x.rpcUrl]

/-- The store filled from the fixtures, program by program. -/
def fixtureStore (x : Startup) : StateStore (List UInt8) :=
  [Programs.klend, Programs.save, Programs.marginfi].zipIdx.foldl
    (fun store owner => applyRawToStore store
      (FixtureBootstrap.demoForProtocols.getProgramAccounts owner.1) .rpc (x.now owner.2)) .new

/-- The known accounts stored after discovery. -/
def warmKeys (c : Codecs) : List Pubkey :=
  [Known.klendMainMarket, Known.marginfiMainGroup, Known.saveMainMarket].filterMap
    (Pubkey.fromBase58 c.toBase58)

/-- The state store and its bootstrap. -/
def bootstrapStore (c : Codecs) (x : Startup) : Outcome Empty (StateStore (List UInt8)) :=
  if (x.env.lookup "LIQ_FIXTURES").isSome || !x.liveConfigured then .ok x.fixtureStore
  else
    match x.pool with
    | .error _ => .ok x.fixtureStore
    | .ok pool =>
      let (session, report) := discover c x.world pool
      match report with
      | .err _ => .ok x.fixtureStore
      | .panic => .panic
      | .ok _ =>
        match (RequestProg.run (Session.post x.world) session
          (Bootstrap.getMultipleAccounts c (warmKeys c))).2 with
        | .ok accts => .ok (applyRawToStore .new (accts.filterMap id) .rpc (x.now 0))
        | .err _ => .ok .new
        | .panic => .panic

/-! ## The pool -/

/-- A pool can be built of these endpoints. -/
def Usable (urls : List String) : Prop :=
  urls ≠ [] ∧ ∀ u ∈ urls, u.isEmpty = false ∧ Text.contains u "YOUR_" = false

/-- The endpoints the liquidator talks to: those listed, or, if there are none or a placeholder
among them, the first alone. -/
def Endpoints (x : Startup) (urls : List String) : Prop :=
  Usable urls ∧ (urls = rpcUrlsFromEnv x.env ∨
    ¬ Usable (rpcUrlsFromEnv x.env) ∧ urls = [Text.trim x.rpcUrl])

lemma usable_of_fromUrls {urls : List String} {p : RotatingRpcPool}
    (h : RotatingRpcPool.fromUrls urls = .ok p) : Usable p.urls :=
  ⟨(RotatingRpcPool.fromUrls_eq_ok h).2.1, RotatingRpcPool.configured_fromUrls h⟩

/-- Usable endpoints make a pool. -/
lemma exists_fromUrls {urls : List String}
    (h : Usable ((urls.map Text.trim).filter fun u => !u.isEmpty)) :
    ∃ p, RotatingRpcPool.fromUrls urls = .ok p := by
  obtain ⟨hne, hplain⟩ := h
  have hfind : (((urls.map Text.trim).filter fun u => !u.isEmpty).find? fun u =>
      Text.contains u "YOUR_") = none := by
    refine List.find?_eq_none.2 fun u hu => ?_
    rw [(hplain u hu).2]
    exact Bool.false_ne_true
  have hempty : ((urls.map Text.trim).filter fun u => !u.isEmpty).isEmpty = false :=
    List.isEmpty_eq_false_iff.2 hne
  unfold RotatingRpcPool.fromUrls
  dsimp only
  rw [hempty, hfind]
  exact ⟨_, rfl⟩

/-- Which endpoints the pool has. -/
lemma endpoints_of_pool {x : Startup} {p : RotatingRpcPool} (h : x.pool = .ok p) :
    x.Endpoints p.urls := by
  unfold pool at h
  cases hlisted : poolFromEnv x.env with
  | ok q =>
      rw [hlisted] at h
      obtain rfl := Except.ok.inj h
      exact ⟨usable_of_fromUrls hlisted, Or.inl (urls_poolFromEnv hlisted)⟩
  | error e =>
      rw [hlisted] at h
      have husable := usable_of_fromUrls h
      -- The listed endpoints are not usable, so the pool is of the single one.
      refine ⟨husable, Or.inr ⟨fun hall => ?_, ?_⟩⟩
      · rw [← trimmed_rpcUrlsFromEnv] at hall
        obtain ⟨q, hq⟩ := exists_fromUrls hall
        exact absurd (hlisted.symm.trans hq) (by simp)
      · have hurls := (RotatingRpcPool.fromUrls_eq_ok h).1
        rw [List.map_singleton, List.filter_singleton] at hurls
        cases hblank : (Text.trim x.rpcUrl).isEmpty with
        | false =>
            rw [hblank] at hurls
            exact hurls
        | true =>
            rw [hblank] at hurls
            exact absurd hurls husable.1

/-! ## The accounts stored -/

/-- Discovery came to a report over the pool `p`, which startup only asks for one when it is not
kept to the fixtures and some endpoint looks real. -/
structure Live (c : Codecs) (x : Startup) (p : RotatingRpcPool) : Prop where
  unforced : x.env.lookup "LIQ_FIXTURES" = none
  configured : x.liveConfigured = true
  pool_eq : x.pool = .ok p
  reports : ∃ report, (discover c x.world p).2 = .ok report

/-- The account stored as an entry, at some time. -/
def StoredAs (a : RawAccount) (e : StoredAccount (List UInt8)) : Prop :=
  ∃ now, e = a.stored .rpc now

lemma storedAs_storedAt (accounts : List RawAccount) (now : ℕ → ℕ) :
    List.Forall₂ StoredAs accounts (storedAt accounts .rpc now) := by
  have hfrom : ∀ (accounts : List RawAccount) (i : ℕ), List.Forall₂ StoredAs accounts
      ((accounts.zipIdx i).map fun a => a.1.stored .rpc (now a.2)) := by
    intro accounts
    induction accounts with
    | nil => exact fun i => .nil
    | cons a accounts ih => exact fun i => .cons ⟨now i, rfl⟩ (ih (i + 1))
  exact hfrom accounts 0

/-- The store holds what is merged of entries that store these accounts. -/
def Holds (seeds : List RawAccount) (store : StateStore (List UInt8)) : Prop :=
  ∃ entries, List.Forall₂ StoredAs seeds entries ∧ store = StateStore.new.applyAll entries

lemma holds_new : Holds [] StateStore.new := ⟨[], .nil, rfl⟩

lemma Holds.applyRawToStore {seeds : List RawAccount} {store : StateStore (List UInt8)}
    (h : Holds seeds store) (accounts : List RawAccount) (now : ℕ → ℕ) :
    Holds (seeds ++ accounts) (applyRawToStore store accounts .rpc now) := by
  obtain ⟨entries, hstored, rfl⟩ := h
  exact ⟨entries ++ storedAt accounts .rpc now,
    List.rel_append hstored (storedAs_storedAt accounts now), (Runs.exec_append ..).symm⟩

lemma demo_by_program :
    [] ++ FixtureBootstrap.demoForProtocols.getProgramAccounts Programs.klend ++
        FixtureBootstrap.demoForProtocols.getProgramAccounts Programs.save ++
        FixtureBootstrap.demoForProtocols.getProgramAccounts Programs.marginfi =
      FixtureBootstrap.demoForProtocols.accounts := by
  decide +kernel

lemma holds_fixtureStore (x : Startup) :
    Holds FixtureBootstrap.demoForProtocols.accounts x.fixtureStore := by
  rw [← demo_by_program]
  exact ((holds_new.applyRawToStore _ _).applyRawToStore _ _).applyRawToStore _ _

/-! ## The accounts answered

The request for the known accounts is sent after discovery, over the same pool. -/

lemma parseAccountValue_pubkey {c : Codecs} {pubkey : Pubkey} {slot : UInt64} {val : Json}
    {raw : RawAccount} (h : Bootstrap.parseAccountValue c pubkey slot val = .ok (some raw)) :
    raw.pubkey = pubkey := by
  unfold Bootstrap.parseAccountValue at h
  split_ifs at h with hnull
  · exact absurd h (by simp)
  · obtain ⟨_, _, h⟩ := Outcome.bind_eq_ok.1 h
    obtain ⟨_, _, h⟩ := Outcome.bind_eq_ok.1 h
    obtain ⟨_, _, h⟩ := Outcome.bind_eq_ok.1 h
    obtain ⟨_, _, h⟩ := Outcome.bind_eq_ok.1 h
    obtain ⟨_, _, h⟩ := Outcome.bind_eq_ok.1 h
    obtain rfl : _ = raw := by simpa using h
    rfl

/-- What is answered for a list of keys is for some of them, in their order, at one slot. -/
lemma sublist_of_parseAccounts {c : Codecs} {slot : UInt64} {arr : List Json} {i : ℕ}
    {keys : List Pubkey} {accts : List (Option RawAccount)}
    (h : Bootstrap.parseAccounts c slot arr i keys = .ok accts) :
    ((accts.filterMap id).map RawAccount.pubkey).Sublist keys ∧
      ∀ a ∈ accts.filterMap id, a.slot = slot := by
  induction keys generalizing i accts with
  | nil =>
      obtain rfl := Outcome.ok.inj h
      exact ⟨.slnil, fun a ha => absurd ha List.not_mem_nil⟩
  | cons key keys ih =>
      obtain ⟨account, haccount, h⟩ := Outcome.bind_eq_ok.1 h
      obtain ⟨rest, hrest, h⟩ := Outcome.bind_eq_ok.1 h
      obtain rfl : account :: rest = accts := Outcome.ok.inj h
      obtain ⟨hsub, hslot⟩ := ih hrest
      -- A key without an account is passed over; an account keeps its key and takes the slot.
      cases account with
      | none => exact ⟨hsub.cons key, hslot⟩
      | some a =>
          obtain rfl := parseAccountValue_pubkey haccount
          refine ⟨hsub.cons_cons _, fun b hb => ?_⟩
          rcases List.mem_cons.1 hb with rfl | hb
          · exact Bootstrap.parseAccountValue_slot haccount
          · exact hslot b hb

/-- What the request for the known accounts comes to, sent where discovery over the pool has left
the session. -/
def warmAnswer (c : Codecs) (x : Startup) (p : RotatingRpcPool) :
    Outcome BootstrapError (List (Option RawAccount)) :=
  (RequestProg.run (Session.post x.world) (discover c x.world p).1
    (Bootstrap.getMultipleAccounts c (warmKeys c))).2

/-- Accounts for some of the known keys, in their order, all as of one slot. -/
def AtKnownKeys (c : Codecs) (seeds : List RawAccount) : Prop :=
  (seeds.map RawAccount.pubkey).Sublist (warmKeys c) ∧ ∃ slot, ∀ a ∈ seeds, a.slot = slot

lemma atKnownKeys_of_run {σ : Type} {c : Codecs}
    {handler : σ → Json → σ × Except BootstrapError Json} {s : σ}
    {accts : List (Option RawAccount)}
    (h : (RequestProg.run handler s (Bootstrap.getMultipleAccounts c (warmKeys c))).2 =
      .ok accts) : AtKnownKeys c (accts.filterMap id) := by
  unfold Bootstrap.getMultipleAccounts Call.request at h
  rw [RequestProg.run] at h
  split at h
  · rename_i resp hresp
    obtain ⟨arr, -, hparse⟩ := Outcome.bind_eq_ok.1 h
    obtain ⟨hsub, hslot⟩ := sublist_of_parseAccounts hparse
    exact ⟨hsub, _, hslot⟩
  · cases h

/-- Accounts the network has for the known keys: those it answered over the pool, and none where
the request failed. -/
def Answered (c : Codecs) (x : Startup) (p : RotatingRpcPool) (seeds : List RawAccount) : Prop :=
  (∃ accts, warmAnswer c x p = .ok accts ∧ seeds = accts.filterMap id) ∨
    ∃ e, warmAnswer c x p = .err e ∧ seeds = []

lemma Answered.atKnownKeys {c : Codecs} {x : Startup} {p : RotatingRpcPool}
    {seeds : List RawAccount} (h : Answered c x p seeds) : AtKnownKeys c seeds := by
  rcases h with ⟨accts, hanswer, rfl⟩ | ⟨e, -, rfl⟩
  · exact atKnownKeys_of_run hanswer
  · exact ⟨List.nil_sublist _, 0, by simp⟩

/-- What the store is filled with: the fixtures, unless the liquidator goes live, and then what
the network answered for the known accounts. -/
def Seeds (c : Codecs) (x : Startup) (seeds : List RawAccount) : Prop :=
  (¬ ∃ p, x.Live c p) ∧ seeds = FixtureBootstrap.demoForProtocols.accounts ∨
    ∃ p, x.Live c p ∧ x.Endpoints p.urls ∧ Answered c x p seeds ∧ AtKnownKeys c seeds

/-- What startup did: it kept to the fixtures, or it went live and stored the answer for the known
accounts or, without one, nothing. -/
lemma bootstrapStore_cases {c : Codecs} {x : Startup} {store : StateStore (List UInt8)}
    (h : bootstrapStore c x = .ok store) :
    (¬ ∃ p, x.Live c p) ∧ store = x.fixtureStore ∨
      ∃ p, x.Live c p ∧
        ((∃ accts, warmAnswer c x p = .ok accts ∧
            store = applyRawToStore .new (accts.filterMap id) .rpc (x.now 0)) ∨
          ∃ e, warmAnswer c x p = .err e ∧ store = .new) := by
  unfold bootstrapStore at h
  split_ifs at h with hkept
  · refine Or.inl ⟨?_, (Outcome.ok.inj h).symm⟩
    rintro ⟨p, hlive⟩
    rw [hlive.unforced, hlive.configured] at hkept
    exact absurd hkept (by decide)
  rw [Bool.or_eq_true, not_or, Bool.not_eq_true, Bool.not_eq_true, Option.isSome_eq_false_iff,
    Bool.not_eq_false', Option.isNone_iff_eq_none] at hkept
  cases hpool : x.pool with
  | error e =>
      rw [hpool] at h
      refine Or.inl ⟨?_, (Outcome.ok.inj h).symm⟩
      rintro ⟨p, hlive⟩
      exact absurd (hpool.symm.trans hlive.pool_eq) (by simp)
  | ok p =>
      rw [hpool] at h
      dsimp only at h
      cases hreport : (discover c x.world p).2 with
      | err e =>
          rw [hreport] at h
          refine Or.inl ⟨?_, (Outcome.ok.inj h).symm⟩
          rintro ⟨q, hlive⟩
          obtain rfl := Except.ok.inj (hpool.symm.trans hlive.pool_eq)
          obtain ⟨report, hreports⟩ := hlive.reports
          exact absurd (hreport.symm.trans hreports) (by simp)
      | panic =>
          rw [hreport] at h
          cases h
      | ok report =>
          rw [hreport] at h
          refine Or.inr ⟨p, ⟨hkept.1, hkept.2, hpool, report, hreport⟩, ?_⟩
          dsimp only at h
          split at h
          · rename_i accts hanswer
            exact Or.inl ⟨accts, hanswer, (Outcome.ok.inj h).symm⟩
          · rename_i e hanswer
            exact Or.inr ⟨e, hanswer, (Outcome.ok.inj h).symm⟩
          · cases h

/-- A live startup that is answered stores the answer. -/
lemma bootstrapStore_of_live {c : Codecs} {x : Startup} {p : RotatingRpcPool} (h : x.Live c p)
    {accts : List (Option RawAccount)} (hanswer : warmAnswer c x p = .ok accts) :
    bootstrapStore c x = .ok (applyRawToStore .new (accts.filterMap id) .rpc (x.now 0)) := by
  obtain ⟨report, hreport⟩ := h.reports
  have hkept : ¬((x.env.lookup "LIQ_FIXTURES").isSome || !x.liveConfigured) = true := by
    rw [h.unforced, h.configured]
    decide
  unfold warmAnswer at hanswer
  unfold bootstrapStore
  rw [if_neg hkept, h.pool_eq]
  dsimp only
  rw [hreport]
  dsimp only
  rw [hanswer]

lemma exists_seeds {c : Codecs} {x : Startup} {store : StateStore (List UInt8)}
    (h : bootstrapStore c x = .ok store) : ∃ seeds, x.Seeds c seeds ∧ Holds seeds store := by
  rcases bootstrapStore_cases h with ⟨hoffline, rfl⟩ | ⟨p, hlive, hstored⟩
  · exact ⟨_, Or.inl ⟨hoffline, rfl⟩, holds_fixtureStore x⟩
  have hendpoints := endpoints_of_pool hlive.pool_eq
  rcases hstored with ⟨accts, hanswer, rfl⟩ | ⟨e, hanswer, rfl⟩
  · have hseeds : Answered c x p (accts.filterMap id) := Or.inl ⟨accts, hanswer, rfl⟩
    exact ⟨_, Or.inr ⟨p, hlive, hendpoints, hseeds, hseeds.atKnownKeys⟩,
      holds_new.applyRawToStore _ _⟩
  · have hseeds : Answered c x p [] := Or.inr ⟨e, hanswer, rfl⟩
    exact ⟨[], Or.inr ⟨p, hlive, hendpoints, hseeds, hseeds.atKnownKeys⟩, holds_new⟩

/-! ## The whole run -/

/-- **What the store holds, at any time.**  It was filled from the fixtures or, when the
liquidator goes live, with what the network answered for the known accounts once discovery was
over, through the listed endpoints or the first alone; under every key it holds the newest of these
accounts and of those streamed so far; and once the stream has been through, its replays change
nothing. -/
theorem main_store (c : Codecs) (x : Startup) {store : StateStore (List UInt8)}
    (h : bootstrapStore c x = .ok store) (cfg : LoopConfig) (dry : Bool) (index : CandidateIndex)
    (risk : CircuitBreaker) (metrics : Metrics) :
    ∃ seeds entries, x.Seeds c seeds ∧ List.Forall₂ StoredAs seeds entries ∧
      ∀ inputs,
        (Runs.exec (PlanLoop.step cfg dry) (.start cfg index store risk metrics)
            inputs).store.Tracks
          (PlanLoop.streamed cfg dry (.start cfg index store risk metrics) inputs ++ entries) ∧
        (cfg.events.length ≤ (Runs.exec (PlanLoop.step cfg dry)
            (.start cfg index store risk metrics) inputs).ticksDone.toNat →
          ∀ more, (Runs.exec (PlanLoop.step cfg dry) (.start cfg index store risk metrics)
            (inputs ++ more)).store = (Runs.exec (PlanLoop.step cfg dry)
              (.start cfg index store risk metrics) inputs).store) := by
  obtain ⟨seeds, hseeds, entries, hstored, rfl⟩ := exists_seeds h
  refine ⟨seeds, entries, hseeds, hstored, fun inputs => ⟨?_, fun hpast more => ?_⟩⟩
  · rw [PlanLoop.store_exec]
    exact StateStore.tracks_applyAll (StateStore.tracks_applyAll_new entries) _
  · exact PlanLoop.store_settled index _ risk metrics hpast more

/-! ## Over a small mainnet -/

open Discovery RpcServer

/-- A startup with one endpoint, over a network that holds the account of Save's market. -/
def online : Startup where
  env := ∅
  cfgUrl := "https://rpc.example/key"
  world := smallMainnet
  now := fun _ _ => 5

/-- The account is streamed again, at a later slot. -/
def marketEvent : AccountUpdate :=
  ⟨saveMarketAccount.pubkey, 50, 1, [4, 5, 6], Programs.save, .mock⟩

def marketConfig : LoopConfig := { PlanLoop.sampleConfig with events := [.account marketEvent] }

lemma pool_online : online.pool = RotatingRpcPool.fromUrls ["https://rpc.example/key"] := by
  decide +kernel

lemma warmAnswer_online {p : RotatingRpcPool} (hp : online.pool = .ok p) :
    warmAnswer standardCodecs online p =
      .ok ((FixtureBootstrap.getMultipleAccounts ⟨held⟩ (warmKeys standardCodecs)).map
        (Option.map (RawAccount.atSlot 42))) := by
  rw [pool_online] at hp
  obtain ⟨-, hsound, hconf⟩ := Session.run_post_steady (s := (⟨p, []⟩ : Session))
    (RotatingRpcPool.sound_fromUrls hp) (RotatingRpcPool.configured_fromUrls hp)
    (discoverMainnet standardCodecs)
  exact (Session.run_post_steady hsound hconf _).1.trans
    (answered_getMultipleAccounts_smallMainnet (warmKeys standardCodecs))

/-- Of the known accounts the network holds one. -/
lemma held_known :
    ((FixtureBootstrap.getMultipleAccounts ⟨held⟩ (warmKeys standardCodecs)).map
      (Option.map (RawAccount.atSlot 42))).filterMap id = [saveMarketAccount.atSlot 42] := by
  decide +kernel

/-- The liquidator goes live, and its store holds the newest of the account answered and the one
streamed. -/
theorem main_store_online :
    ∃ p store entries, online.Live standardCodecs p ∧
      bootstrapStore standardCodecs online = .ok store ∧
      List.Forall₂ StoredAs [saveMarketAccount.atSlot 42] entries ∧
      (Runs.exec (PlanLoop.step marketConfig true)
        (.start marketConfig PlanLoop.sampleIndex store (.new .default) Metrics.zero)
        [⟨7, fun _ => ⟨1, 2, .default⟩⟩]).store.Tracks
          (PlanLoop.accountEntry marketEvent 7 :: entries) := by
  obtain ⟨p, hp⟩ : ∃ p, RotatingRpcPool.fromUrls ["https://rpc.example/key"] = .ok p := ⟨_, rfl⟩
  obtain ⟨report, -, hreport, -⟩ := exists_report_smallMainnet hp
  rw [← pool_online] at hp
  have hlive : online.Live standardCodecs p := ⟨rfl, by decide +kernel, hp, report, hreport⟩
  have hanswer := warmAnswer_online hp
  obtain ⟨store, hstart⟩ : ∃ store, bootstrapStore standardCodecs online = .ok store :=
    ⟨_, bootstrapStore_of_live hlive hanswer⟩
  obtain ⟨seeds, entries, hseeds, hstored, hruns⟩ := main_store standardCodecs online hstart
    marketConfig true PlanLoop.sampleIndex (.new .default) Metrics.zero
  rcases hseeds with ⟨hoffline, -⟩ | ⟨q, hq, -, hanswered, -⟩
  · exact absurd ⟨p, hlive⟩ hoffline
  obtain rfl : p = q := Except.ok.inj (hp.symm.trans hq.pool_eq)
  rcases hanswered with ⟨accts, haccts, rfl⟩ | ⟨e, herr, -⟩
  · obtain rfl := Outcome.ok.inj (hanswer.symm.trans haccts)
    rw [held_known] at hstored
    exact ⟨p, store, entries, hlive, hstart, hstored, (hruns [⟨7, fun _ => ⟨1, 2, .default⟩⟩]).1⟩
  · exact absurd (hanswer.symm.trans herr) (by simp)

end Startup

end Liquidator

end Grokbotliq
