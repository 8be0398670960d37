import Grokbotliq.Framework.FirstSeen
import Grokbotliq.Streaming.LocalEnv
import Grokbotliq.Streaming.RpcPool

/-!
# The environment at startup

Every binary loads its environment files in order, each variable only where it is not set yet, and
takes the RPC endpoints from what it then finds.  The entries of a file come out of a hash map in
no known order; `startup_urls` says that the order does not matter, that a variable has the value
the process was started with or that of the first file that assigns it, and which endpoints the pool
then has.

Loading only what is missing makes the first source of a variable win, and `Precedence` says so of
a list of files at once; one more file in front is one step (`Precedence.cons`).  Within a file
the keys are distinct, so its entries can be set in any order (`lookup_foldlM_setMissing`).
-/

namespace Grokbotliq.LocalEnv

abbrev Env := KeyMap String String

/-! ## Loading the files -/

/-- `std::env::set_var`; the names and values it does not accept make it panic. -/
def setVar (env : Env) (k v : String) : Outcome Empty Env :=
  if k = "" ∨ '=' ∈ k.toList ∨ Char.ofNat 0 ∈ k.toList ∨ Char.ofNat 0 ∈ v.toList then .panic
  else .ok (env.insert k v)

/-- An entry of a file, set where the variable is not. -/
def setMissing (env : Env) (entry : String × String) : Outcome Empty Env :=
  if (env.lookup entry.1).isNone then setVar env entry.1 entry.2 else .ok env

def loadFile (order : IterationOrder String String) (env : Env) (contents : String) :
    Outcome Empty (Env × List String) := do
  let map ← parseEnvFile contents
  let entries := order.iterate map
  let env ← entries.foldlM setMissing env
  return (env, (entries.map Prod.fst).insertionSort (· ≤ ·))

/-- One path; a file that cannot be read is passed over. -/
def loadPath (order : IterationOrder String String) (readFile : String → Option String)
    (state : Env × List (String × List String)) (path : String) :
    Outcome Empty (Env × List (String × List String)) :=
  match readFile path with
  | none => .ok state
  | some contents => do
    let (env, keys) ← loadFile order state.1 contents
    return (env, state.2 ++ [(path, keys)])

def localEnvPaths (extra : Option String) : List String :=
  extra.toList ++ ["config/local.env", ".env"]

/-- The environment afterwards, and the files loaded with their keys. -/
def loadLocalEnvFiles (order : IterationOrder String String) (readFile : String → Option String)
    (extra : Option String) (env : Env) : Outcome Empty (Env × List (String × List String)) :=
  (localEnvPaths extra).foldlM (loadPath order readFile) (env, [])

/-! ## The endpoints -/

/-- A variable's texts between commas, trimmed, without the empty ones. -/
def listedUrls (urls : String) : List String :=
  (((urls.toList.splitOn ',').map String.ofList).map Text.trim).filter fun t => !t.isEmpty

/-- `RPC_URLS`, or `RPC_URL` where that gives nothing. -/
def urlTexts (env : Env) : List String :=
  let listed := ((env.lookup "RPC_URLS").map listedUrls).getD []
  if listed = [] then
    ((env.lookup "RPC_URL").toList.map Text.trim).filter fun t => !t.isEmpty
  else listed

def rpcUrlsFromEnv (env : Env) : List String := ((urlTexts env).foldl pushUnseen ([], [])).2

def poolFromEnv (env : Env) : Except BootstrapError RotatingRpcPool :=
  RotatingRpcPool.fromUrls (rpcUrlsFromEnv env)

/-! ## What a file leaves -/

lemma describes_of_foldlM {ls : List String} {xs : List (String × String)} {map map' : Env}
    (h : Describes xs map) (hok : ls.foldlM parseLine map = .ok map') :
    Describes (xs ++ ls.filterMap assignment) map' := by
  induction ls generalizing xs map with
  | nil =>
      obtain rfl := Outcome.ok.inj hok
      simpa using h
  | cons l ls ih =>
      rw [List.foldlM_cons, parseLine_eq] at hok
      cases hline : assignment l with
      | none =>
          rw [hline] at hok
          rw [List.filterMap_cons_none hline]
          exact ih h hok
      | some a =>
          rw [hline] at hok
          obtain ⟨mid, hmid, hrest⟩ := Outcome.bind_eq_ok.1 hok
          obtain ⟨w, hw, hinsert⟩ := Outcome.bind_eq_ok.1 hmid
          obtain rfl := Outcome.ok.inj hinsert
          rw [List.filterMap_cons_some hline, List.append_cons]
          exact ih (h.insert (stripQuotes_eq_ok_iff.1 hw).2) hrest

/-- A file that parses has been understood. -/
lemma describes_of_parseEnvFile {contents : String} {map : Env}
    (h : parseEnvFile contents = .ok map) : Describes (assignments contents) map :=
  describes_of_foldlM describes_nil h

lemma lookup_setMissing {env env' : Env} {entry : String × String}
    (h : setMissing env entry = .ok env') (key : String) :
    env'.lookup key =
      if key = entry.1 then (env.lookup key).or (some entry.2) else env.lookup key := by
  unfold setMissing at h
  split_ifs at h with hnone
  · unfold setVar at h
    split_ifs at h
    obtain rfl := Outcome.ok.inj h
    rw [KeyMap.lookup_insert_eq_ite]
    split_ifs with hkey
    · rw [hkey, Option.isNone_iff_eq_none.1 hnone, Option.none_or]
    · rfl
  · obtain rfl := Outcome.ok.inj h
    split_ifs with hkey
    · rw [hkey]
      cases hlookup : env.lookup entry.1 with
      | none => exact absurd rfl (hlookup ▸ hnone)
      | some v => rfl
    · rfl

/-- Entries of distinct keys, in whatever order they come. -/
lemma lookup_foldlM_setMissing {entries : List (String × String)}
    (hnodup : (entries.map Prod.fst).Nodup) {env env' : Env}
    (h : entries.foldlM setMissing env = .ok env') (key : String) :
    (∀ v, (key, v) ∈ entries → env'.lookup key = (env.lookup key).or (some v)) ∧
      (key ∉ entries.map Prod.fst → env'.lookup key = env.lookup key) := by
  induction entries generalizing env with
  | nil =>
      obtain rfl := Outcome.ok.inj h
      exact ⟨fun v hv => absurd hv List.not_mem_nil, fun _ => rfl⟩
  | cons entry entries ih =>
      obtain ⟨hhead, htail⟩ := List.nodup_cons.1 hnodup
      rw [List.foldlM_cons] at h
      obtain ⟨mid, hmid, hrest⟩ := Outcome.bind_eq_ok.1 h
      have hset := lookup_setMissing hmid key
      obtain ⟨hmem, hnot⟩ := ih htail hrest
      refine ⟨fun v hv => ?_, fun hkey => ?_⟩
      -- The keys are not repeated, so no later entry finds this one set.
      · rcases List.mem_cons.1 hv with rfl | hv
        · rw [hnot hhead, hset, if_pos rfl]
        · have hne : key ≠ entry.1 := by
            rintro rfl
            exact hhead (List.mem_map.2 ⟨_, hv, rfl⟩)
          rw [hmem v hv, hset, if_neg hne]
      · rw [List.map_cons, List.mem_cons, not_or] at hkey
        rw [hnot hkey.2, hset, if_neg hkey.1]

/-- The order of the hash map does not matter. -/
lemma lookup_loadFile {order : IterationOrder String String} {env env' : Env} {contents : String}
    {keys : List String} (h : loadFile order env contents = .ok (env', keys)) :
    ∃ map, Describes (assignments contents) map ∧
      (∀ key, env'.lookup key = (env.lookup key).or (map.lookup key)) ∧
      keys.Pairwise (· ≤ ·) ∧ keys.Nodup ∧ ∀ key, key ∈ keys ↔ (map.lookup key).isSome := by
  obtain ⟨map, hparse, hrest⟩ := Outcome.bind_eq_ok.1 h
  obtain ⟨mid, hload, hpair⟩ := Outcome.bind_eq_ok.1 hrest
  obtain ⟨rfl, rfl⟩ := Prod.mk.inj (Outcome.ok.inj hpair)
  have hkeys : ∀ key, key ∈ (order.iterate map).map Prod.fst ↔ (map.lookup key).isSome := by
    intro key
    rw [List.mem_map, Option.isSome_iff_exists]
    constructor
    · rintro ⟨⟨_, v⟩, hentry, rfl⟩
      exact ⟨v, order.mem_iterate.1 hentry⟩
    · rintro ⟨v, hv⟩
      exact ⟨(key, v), order.mem_iterate.2 hv, rfl⟩
  refine ⟨map, describes_of_parseEnvFile hparse, fun key => ?_, List.pairwise_insertionSort _ _,
    ((List.perm_insertionSort _ _).nodup_iff).2 (order.nodup_keys map), fun key => ?_⟩
  · obtain ⟨hmem, hnot⟩ := lookup_foldlM_setMissing (order.nodup_keys map) hload key
    cases hlookup : map.lookup key with
    | none =>
        rw [Option.or_none, hnot]
        rw [hkeys, hlookup]
        exact Bool.false_ne_true
    | some v => exact hmem v (order.mem_iterate.2 hlookup)
  · rw [List.mem_insertionSort, hkeys]

/-! ## What all of them leave -/

/-- The value of `key` in the first of the files that assigns it. -/
def firstAssigned (files : List String) (key : String) : Option String :=
  files.findSome? fun contents => lastValue (assignments contents) key

/-- A variable keeps the value the process was started with; one without has what the first file
that assigns it says. -/
def Precedence (env : Env) (files : List String) (env' : Env) : Prop :=
  ∀ key, (∀ v, env.lookup key = some v → env'.lookup key = some v) ∧
    (env.lookup key = none → Option.Rel Denotes (firstAssigned files key) (env'.lookup key))

/-- The report on a file: its path, and the keys it assigns, each once and in order. -/
def ReportsFile (file : String × String) (report : String × List String) : Prop :=
  report.1 = file.1 ∧ report.2.Pairwise (· ≤ ·) ∧ report.2.Nodup ∧
    ∀ key, key ∈ report.2 ↔ (lastValue (assignments file.2) key).isSome

/-- The files there are, with their contents. -/
def readable (readFile : String → Option String) (paths : List String) :
    List (String × String) :=
  paths.filterMap fun path => (readFile path).map fun contents => (path, contents)

lemma Describes.isSome_iff {xs : List (String × String)} {map : Env} (h : Describes xs map)
    (key : String) : (map.lookup key).isSome ↔ (lastValue xs key).isSome := by
  have hkey := h key
  revert hkey
  cases lastValue xs key <;> cases map.lookup key <;> intro hkey
  · simp
  · cases hkey
  · cases hkey
  · simp

/-- One more file in front. -/
lemma Precedence.cons {env mid env' map : Env} {contents : String} {files : List String}
    (hdescribes : Describes (assignments contents) map)
    (hmid : ∀ key, mid.lookup key = (env.lookup key).or (map.lookup key))
    (h : Precedence mid files env') : Precedence env (contents :: files) env' := by
  intro key
  obtain ⟨hset, hunset⟩ := h key
  rw [hmid] at hset hunset
  refine ⟨fun v hv => hset v (by rw [hv]; rfl), fun hnone => ?_⟩
  rw [hnone, Option.none_or] at hset hunset
  have hkey := hdescribes key
  rw [firstAssigned, List.findSome?_cons]
  cases hlookup : map.lookup key with
  | none =>
      rw [hlookup] at hkey
      cases hlast : lastValue (assignments contents) key with
      | none => exact hunset hlookup
      | some v =>
          rw [hlast] at hkey
          cases hkey
  | some w =>
      rw [hlookup] at hkey
      rw [hset w hlookup]
      cases hlast : lastValue (assignments contents) key with
      | none =>
          rw [hlast] at hkey
          cases hkey
      | some v =>
          rw [hlast] at hkey
          exact hkey

lemma foldlM_loadPath {order : IterationOrder String String} {readFile : String → Option String}
    {paths : List String} {state state' : Env × List (String × List String)}
    (h : paths.foldlM (loadPath order readFile) state = .ok state') :
    Precedence state.1 ((readable readFile paths).map Prod.snd) state'.1 ∧
      ∃ reports, state'.2 = state.2 ++ reports ∧
        List.Forall₂ ReportsFile (readable readFile paths) reports := by
  -- By induction on the paths; a file that cannot be read leaves the state as it is.
  induction paths generalizing state with
  | nil =>
      obtain rfl := Outcome.ok.inj h
      refine ⟨fun key => ⟨fun v hv => hv, fun hnone => ?_⟩, [], by simp, List.Forall₂.nil⟩
      rw [hnone]
      exact Option.Rel.none
  | cons path paths ih =>
      rw [List.foldlM_cons, loadPath] at h
      rw [readable, List.filterMap_cons]
      cases hread : readFile path with
      | none =>
          rw [hread] at h
          exact ih h
      | some contents =>
          rw [hread] at h
          obtain ⟨mid, hmid, hrest⟩ := Outcome.bind_eq_ok.1 h
          obtain ⟨⟨env, keys⟩, hload, hpair⟩ := Outcome.bind_eq_ok.1 hmid
          obtain rfl := Outcome.ok.inj hpair
          obtain ⟨map, hdescribes, hlookup, hsorted, hnodup, hkeys⟩ := lookup_loadFile hload
          obtain ⟨hprecedence, reports, hreports, hforall⟩ := ih hrest
          refine ⟨Precedence.cons hdescribes hlookup hprecedence, (path, keys) :: reports, ?_,
            List.Forall₂.cons ⟨rfl, hsorted, hnodup, fun key => ?_⟩ hforall⟩
          · rw [hreports, List.append_assoc, List.singleton_append]
          · rw [hkeys, hdescribes.isSome_iff]

/-! ## The pool -/

/-- There is nothing left to trim. -/
lemma trim_trim (s : String) : Text.trim (Text.trim s) = Text.trim s := by
  let front := s.toList.dropWhile Text.isWhitespace
  have hfront : front.rdropWhile Text.isWhitespace <+: front := List.rdropWhile_prefix _ _
  have hstart : (front.rdropWhile Text.isWhitespace).dropWhile Text.isWhitespace =
      front.rdropWhile Text.isWhitespace := by
    refine List.dropWhile_eq_self_iff.2 fun hpos => ?_
    rw [hfront.getElem hpos]
    exact List.dropWhile_get_zero_not _ _ _
  show String.ofList (((String.ofList (front.rdropWhile Text.isWhitespace)).toList.dropWhile
    Text.isWhitespace).rdropWhile Text.isWhitespace) =
      String.ofList (front.rdropWhile Text.isWhitespace)
  rw [String.toList_ofList, hstart, List.rdropWhile_idempotent]

lemma trim_of_mem_urlTexts {env : Env} {u : String} (hu : u ∈ urlTexts env) :
    Text.trim u = u ∧ u.isEmpty = false := by
  have htrimmed : ∀ {texts : List String},
      u ∈ ((texts.map Text.trim).filter fun t => !t.isEmpty) →
        Text.trim u = u ∧ u.isEmpty = false := by
    intro texts hmem
    obtain ⟨hmap, hne⟩ := List.mem_filter.1 hmem
    obtain ⟨t, -, rfl⟩ := List.mem_map.1 hmap
    exact ⟨trim_trim t, by simpa using hne⟩
  unfold urlTexts at hu
  dsimp only at hu
  split_ifs at hu with hlisted
  · exact htrimmed hu
  · cases hurls : env.lookup "RPC_URLS" with
    | none =>
        rw [hurls] at hu
        exact absurd hu List.not_mem_nil
    | some urls =>
        rw [hurls] at hu
        exact htrimmed hu

/-- The endpoints are trimmed and not empty already. -/
lemma trimmed_rpcUrlsFromEnv (env : Env) :
    ((rpcUrlsFromEnv env).map Text.trim).filter (fun u => !u.isEmpty) = rpcUrlsFromEnv env := by
  have hmem : ∀ u ∈ rpcUrlsFromEnv env, u ∈ urlTexts env := fun u hu =>
    ((firstSeen_pushUnseen (urlTexts env)).mem_iff u).1 hu
  have htrim : (rpcUrlsFromEnv env).map Text.trim = rpcUrlsFromEnv env :=
    (List.map_congr_left fun u hu => (trim_of_mem_urlTexts (hmem u hu)).1).trans (List.map_id _)
  rw [htrim, List.filter_eq_self]
  intro u hu
  rw [(trim_of_mem_urlTexts (hmem u hu)).2]
  rfl

/-- The pool takes over the endpoints as they are. -/
lemma urls_poolFromEnv {env : Env} {p : RotatingRpcPool} (h : poolFromEnv env = .ok p) :
    p.urls = rpcUrlsFromEnv env := by
  obtain ⟨hurls, -⟩ := RotatingRpcPool.fromUrls_eq_ok h
  rw [hurls, trimmed_rpcUrlsFromEnv]

/-- **What a binary starts with.**  Whatever order the hash maps of the files come in: a variable
has the value of the process, or that of the first readable file that assigns it, for its last
assignment there; each file is reported with its keys, sorted; and a pool has the endpoints that
the variables then list, each once, in the order of first mention. -/
theorem startup_urls (order : IterationOrder String String) (readFile : String → Option String)
    (extra : Option String) (env env' : Env) (loaded : List (String × List String))
    (hload : loadLocalEnvFiles order readFile extra env = .ok (env', loaded)) :
    Precedence env ((readable readFile (localEnvPaths extra)).map Prod.snd) env' ∧
      List.Forall₂ ReportsFile (readable readFile (localEnvPaths extra)) loaded ∧
      ∀ p, poolFromEnv env' = .ok p → FirstSeen (urlTexts env') p.urls ∧ p.urls ≠ [] := by
  obtain ⟨hprecedence, reports, hreports, hforall⟩ := foldlM_loadPath hload
  have hloaded : loaded = reports := hreports
  subst hloaded
  refine ⟨hprecedence, hforall, fun p hp => ⟨?_, ?_⟩⟩
  · rw [urls_poolFromEnv hp]
    exact firstSeen_pushUnseen _
  · exact (RotatingRpcPool.fromUrls_eq_ok hp).2.1

/-- Two files that share a variable, and a process that comes with another of theirs. -/
def sampleFiles (path : String) : Option String :=
  if path = "config/local.env" then some "RPC_URLS= b , a,b\nDRY_RUN=true"
  else if path = ".env" then some "DRY_RUN=false\nRPC_URL=c" else none

def sampleEnv : Env := (∅ : Env).insert "DRY_RUN" "on"

theorem sampleFiles_startup :
    ∃ env' loaded p,
      loadLocalEnvFiles .asStored sampleFiles none sampleEnv = .ok (env', loaded) ∧
      poolFromEnv env' = .ok p ∧ p.urls = ["b", "a"] ∧ env'.lookup "DRY_RUN" = some "on" ∧
      List.Forall₂ ReportsFile (readable sampleFiles (localEnvPaths none)) loaded ∧
      FirstSeen (urlTexts env') p.urls := by
  obtain ⟨env', loaded, hload, hstarted, p, hp, hurls⟩ : ∃ env' loaded,
      loadLocalEnvFiles .asStored sampleFiles none sampleEnv = .ok (env', loaded) ∧
        sampleEnv.lookup "DRY_RUN" = some "on" ∧
        ∃ p, poolFromEnv env' = .ok p ∧ p.urls = ["b", "a"] :=
    ⟨_, _, rfl, rfl, _, rfl, rfl⟩
  obtain ⟨hprecedence, hreports, hpool⟩ :=
    startup_urls .asStored sampleFiles none sampleEnv env' loaded hload
  exact ⟨env', loaded, p, hload, hp, hurls, (hprecedence "DRY_RUN").1 "on" hstarted, hreports,
    (hpool p hp).1⟩

end Grokbotliq.LocalEnv
