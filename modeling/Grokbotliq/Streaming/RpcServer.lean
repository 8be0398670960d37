import Grokbotliq.Core.Instruction
import Grokbotliq.Framework.Base64
import Grokbotliq.Streaming.RpcCalls

/-!
# Two bootstraps

`RpcBootstrap` has two implementations: `FixtureBootstrap` looks accounts up in a list, and
`JsonRpcBootstrap` asks an RPC server for them and reads its answers.

The server is no part of the program.  It is any function from requests to answers, and
`RpcServer.Holds` is what the program relies on: of a server that holds a list of accounts at
one slot, a request for keys is answered in the context of that slot, key by key, with `null` for
a key without an account; a request for a program's accounts is answered with all of them that
the filters keep, in whatever order.  An account is spelled by the three fields the reader looks
at, whatever else stands beside them, and its texts are read by the program's own codecs.

Over such a server the two agree (`jsonRpc_eq_fixture`), account by account for the requests by
key and up to order for the others.  All that differs is the slot: answers in context carry the
server's, a bare list carries none and is read at slot 0.

The last section has one such server, a list of accounts and the answers it gives in the
documented shapes (`holds_serve`).  It shows that what the program relies on can be had, and the
examples of other modules run over it.
-/

namespace Grokbotliq

open Bootstrap

/-- The account as of another slot. -/
def RawAccount.atSlot (slot : UInt64) (a : RawAccount) : RawAccount := { a with slot := slot }

structure FixtureBootstrap where
  accounts : List RawAccount

namespace FixtureBootstrap

def getMultipleAccounts (b : FixtureBootstrap) (keys : List Pubkey) : List (Option RawAccount) :=
  keys.map fun k => b.accounts.find? fun a => a.pubkey = k

/-- The trait's own `get_account_info`: the last of a request for one. -/
def getAccountInfo (b : FixtureBootstrap) (key : Pubkey) : Option RawAccount :=
  (b.getMultipleAccounts [key]).getLast?.join

def getProgramAccounts (b : FixtureBootstrap) (programId : Pubkey) : List RawAccount :=
  b.accounts.filter fun a => a.owner = programId

end FixtureBootstrap

namespace RpcServer

/-! ## What a server promises -/

/-- The value spells the account: its lamports, its owner and its data. -/
structure Spells (c : Codecs) (a : RawAccount) (value : Json) : Prop where
  lamports : (value.get "lamports").bind Json.asU64 = some a.lamports
  /-- The zero key in base58 is shorter than in hexadecimal. -/
  owner : ∃ text, (value.get "owner").bind Json.asStr = some text ∧
    Pubkey.fromBase58 c.toBase58 text = some a.owner ∧
    (a.owner = .default → (text.toList.flatMap String.utf8EncodeChar).length ≠ 64)
  data : ∃ text rest, value.get "data" = some (.array (.string text :: rest)) ∧
    c.decodeBase64 text = .ok a.data

/-- What stands for a key: the account spelled, or `null`. -/
def SpellsAnswer (c : Codecs) : Option RawAccount → Json → Prop
  | some a, value => Spells c a value
  | none, value => value = .null

/-- One item of a list of accounts. -/
structure SpellsItem (c : Codecs) (a : RawAccount) (item : Json) : Prop where
  pubkey : ∃ text, (item.get "pubkey").bind Json.asStr = some text ∧
    Pubkey.fromBase58 c.toBase58 text = some a.pubkey
  account : ∃ value, item.get "account" = some value ∧ Spells c a value

/-- The answer has the value in the context of a slot. -/
def InContext (slot : UInt64) (value resp : Json) : Prop :=
  (resp.pointer "/result/context/slot").bind Json.asU64 = some slot ∧
    resp.pointer "/result/value" = some value

/-- The answer is a bare list. -/
def Bare (items : List Json) (resp : Json) : Prop :=
  (resp.pointer "/result").bind Json.asArray = some items

/-- A server that holds the accounts at a slot, for requests about the given keys and with the
given filters, which keep the accounts that `keeps` says.  Accounts of a program may be listed in
any order, and where filters are given, in context or bare. -/
structure Holds (c : Codecs) (serve : Json → Except BootstrapError Json) (keys : List Pubkey)
    (filters : List Json) (slot : UInt64) (accounts : List RawAccount)
    (keeps : RawAccount → Bool) : Prop where
  accountInfo : ∀ k ∈ keys, ∃ resp value, serve (jsonrpcGetAccountInfo c k) = .ok resp ∧
    InContext slot value resp ∧ SpellsAnswer c (accounts.find? fun a => a.pubkey = k) value
  multipleAccounts : ∃ resp values, serve (jsonrpcGetMultipleAccounts c keys) = .ok resp ∧
    InContext slot (.array values) resp ∧
    List.Forall₂ (fun k value => SpellsAnswer c (accounts.find? fun a => a.pubkey = k) value)
      keys values
  programAccounts : ∀ k ∈ keys, ∃ resp items listed,
    serve (jsonrpcGetProgramAccounts (k.toBase58 c.toBase58) commitment) = .ok resp ∧
    Bare items resp ∧ List.Forall₂ (SpellsItem c) listed items ∧
    listed.Perm (accounts.filter fun a => a.owner = k)
  filtered : ∀ k ∈ keys, ∃ resp items listed,
    serve (jsonrpcGetProgramAccountsFiltered c k filters) = .ok resp ∧
    (Bare items resp ∨ InContext slot (.array items) resp) ∧
    List.Forall₂ (SpellsItem c) listed items ∧
    listed.Perm ((accounts.filter fun a => a.owner = k).filter keeps)

/-- One request, for the call that takes its transport as a function. -/
def post (serve : Json → Except BootstrapError Json) (request : Json) :
    Outcome BootstrapError Json :=
  match serve request with
  | .ok response => .ok response
  | .error e => .err e

/-! ## Reading what a server spells -/

section Reading

variable {c : Codecs}

lemma parseOwner_of_short {text : String} {owner : Pubkey}
    (hread : Pubkey.fromBase58 c.toBase58 text = some owner)
    (hshort : owner = .default → (text.toList.flatMap String.utf8EncodeChar).length ≠ 64) :
    parseOwner c text = .ok owner := by
  unfold parseOwner
  rw [hread, Option.getD_some]
  by_cases hdefault : owner = Pubkey.default
  · -- Only the zero key is tried as hexadecimal, and its text is too short for that.
    have hhex : hex32 text = .err () := if_pos (hshort hdefault)
    rw [if_pos hdefault, hhex]
    rfl
  · rw [if_neg hdefault]
    rfl

/-- A spelled account is read back, at the slot of the answer. -/
lemma parseAccountValue_of_spells {a : RawAccount} {value : Json} (h : Spells c a value)
    (slot : UInt64) : parseAccountValue c a.pubkey slot value = .ok (some (a.atSlot slot)) := by
  obtain ⟨ownerS, howner, hread, hshort⟩ := h.owner
  obtain ⟨text, rest, hdata, hdecode⟩ := h.data
  have hnull : value.isNull ≠ true := by
    cases value with
    | null => exact absurd hdata (by simp [Json.get])
    | _ => simp [Json.isNull]
  have hparse : parseData c (.array (.string text :: rest)) = .ok a.data := by
    change b64Decode c text = .ok a.data
    rw [b64Decode, hdecode]
  unfold parseAccountValue
  rw [if_neg hnull, h.lamports, howner, hdata]
  simp only [orDecode, Outcome.ok_bind, parseOwner_of_short hread hshort, hparse,
    Outcome.pure_eq, RawAccount.atSlot]

/-- What stands for a key is read as the account the fixture finds. -/
lemma parseAccountValue_of_answer {accounts : List RawAccount} {k : Pubkey} {value : Json}
    (h : SpellsAnswer c (accounts.find? fun a => a.pubkey = k) value) (slot : UInt64) :
    parseAccountValue c k slot value =
      .ok ((accounts.find? fun a => a.pubkey = k).map (RawAccount.atSlot slot)) := by
  cases hfind : accounts.find? fun a => a.pubkey = k with
  | none =>
      rw [hfind] at h
      obtain rfl : value = .null := h
      rfl
  | some a =>
      rw [hfind] at h
      obtain rfl : a.pubkey = k := by simpa using List.find?_some hfind
      exact parseAccountValue_of_spells h slot

/-- The loop over the keys, once it has got past some of the values. -/
lemma parseAccounts_of_forall₂ (slot : UInt64) {g : Pubkey → Option RawAccount}
    {keys : List Pubkey} {values : List Json}
    (h : List.Forall₂ (fun k value => parseAccountValue c k slot value = .ok (g k)) keys values) :
    ∀ before : List Json,
      parseAccounts c slot (before ++ values) before.length keys = .ok (keys.map g) := by
  induction h with
  | nil => exact fun _ => rfl
  | @cons key value keys values hkey _ ih =>
      intro before
      have hat : (before ++ value :: values).getD before.length .null = value := by
        rw [List.getD_eq_getElem?_getD, List.getElem?_append_right (Nat.le_refl _), Nat.sub_self]
        rfl
      have hrest := ih (before ++ [value])
      rw [List.append_assoc, List.length_append, List.length_singleton,
        List.singleton_append] at hrest
      rw [parseAccounts, hat, hkey, Outcome.ok_bind, hrest]
      rfl

/-- The loop over the listed accounts of a program. -/
lemma parseItems_of_forall₂ (slot : UInt64) {listed : List RawAccount} {items : List Json}
    (h : List.Forall₂ (SpellsItem c) listed items) :
    parseItems c slot items = .ok (listed.map (RawAccount.atSlot slot)) := by
  induction h with
  | nil => rfl
  | @cons a item listed items ha _ ih =>
      obtain ⟨text, htext, hkey⟩ := ha.pubkey
      obtain ⟨value, hvalue, hspells⟩ := ha.account
      have hitem : parseItem c slot item = .ok (some (a.atSlot slot)) := by
        unfold parseItem
        rw [htext, orDecode, Outcome.ok_bind, hkey, orDecode, Outcome.ok_bind, hvalue, orDecode,
          Outcome.ok_bind, parseAccountValue_of_spells hspells]
      rw [parseItems, hitem, Outcome.ok_bind, ih]
      rfl

lemma resultSlot_of_inContext {slot : UInt64} {value resp : Json} (h : InContext slot value resp) :
    resultSlot resp = slot := by
  rw [resultSlot, h.1, Option.getD_some]

/-- An answer in context is no bare list. -/
lemma not_bare_of_inContext {slot : UInt64} {value resp : Json} (h : InContext slot value resp) :
    (resp.pointer "/result").bind Json.asArray = none := by
  by_contra hne
  obtain ⟨items, hitems⟩ := Option.ne_none_iff_exists'.1 hne
  have hmiss := pointer_value_of_array hitems
  rw [h.2] at hmiss
  cases hmiss

end Reading

/-! ## The two agree -/

section Agree

variable {c : Codecs} {serve : Json → Except BootstrapError Json} {keys : List Pubkey}
  {filters : List Json} {slot : UInt64} {accounts : List RawAccount} {keeps : RawAccount → Bool}

lemma answered_getMultipleAccounts (h : Holds c serve keys filters slot accounts keeps) :
    Call.answered serve (getMultipleAccounts c keys) =
      .ok ((FixtureBootstrap.getMultipleAccounts ⟨accounts⟩ keys).map
        (Option.map (RawAccount.atSlot slot))) := by
  obtain ⟨resp, values, hserve, hcontext, hvalues⟩ := h.multipleAccounts
  have hloop := parseAccounts_of_forall₂ slot
    (hvalues.imp fun k value hvalue => parseAccountValue_of_answer hvalue slot) []
  unfold getMultipleAccounts
  simp only [Call.answered_request, hserve]
  rw [resultSlot_of_inContext hcontext, hcontext.2,
    FixtureBootstrap.getMultipleAccounts, List.map_map]
  exact hloop

lemma answered_getAccountInfo (h : Holds c serve keys filters slot accounts keeps) {k : Pubkey}
    (hk : k ∈ keys) :
    Call.answered serve (getAccountInfo c k) =
      .ok ((FixtureBootstrap.getAccountInfo ⟨accounts⟩ k).map (RawAccount.atSlot slot)) := by
  obtain ⟨resp, value, hserve, hcontext, hvalue⟩ := h.accountInfo k hk
  unfold getAccountInfo
  simp only [Call.answered_request, hserve]
  rw [resultSlot_of_inContext hcontext, hcontext.2, Option.getD_some,
    parseAccountValue_of_answer hvalue]
  rfl

lemma exists_getProgramAccounts (h : Holds c serve keys filters slot accounts keeps) {k : Pubkey}
    (hk : k ∈ keys) :
    ∃ out, getProgramAccounts c (post serve) commitment k = .ok out ∧
      out.Perm ((FixtureBootstrap.getProgramAccounts ⟨accounts⟩ k).map (RawAccount.atSlot 0)) := by
  obtain ⟨resp, items, listed, hserve, hbare, hitems, hperm⟩ := h.programAccounts k hk
  refine ⟨listed.map (RawAccount.atSlot 0), ?_, hperm.map _⟩
  have hpost : post serve (jsonrpcGetProgramAccounts (k.toBase58 c.toBase58) commitment) =
      .ok resp := by
    rw [post, hserve]
  unfold getProgramAccounts
  rw [hpost, Outcome.ok_bind, resultSlot_of_array hbare, hbare, orDecode, Outcome.ok_bind,
    parseItems_of_forall₂ 0 hitems]

lemma exists_getProgramAccountsFiltered (h : Holds c serve keys filters slot accounts keeps)
    {k : Pubkey} (hk : k ∈ keys) :
    ∃ out at', (at' = 0 ∨ at' = slot) ∧
      Call.answered serve (getProgramAccountsFiltered c k filters) = .ok out ∧
      out.Perm (((FixtureBootstrap.getProgramAccounts ⟨accounts⟩ k).filter keeps).map
        (RawAccount.atSlot at')) := by
  obtain ⟨resp, items, listed, hserve, hshape, hitems, hperm⟩ := h.filtered k hk
  unfold getProgramAccountsFiltered
  simp only [Call.answered_request, hserve]
  rcases hshape with hbare | hcontext
  · refine ⟨listed.map (RawAccount.atSlot 0), 0, Or.inl rfl, ?_, hperm.map _⟩
    rw [hbare, Option.some_or, orDecode, Outcome.ok_bind, resultSlot_of_array hbare,
      parseItems_of_forall₂ 0 hitems]
  · refine ⟨listed.map (RawAccount.atSlot slot), slot, Or.inr rfl, ?_, hperm.map _⟩
    rw [not_bare_of_inContext hcontext, Option.none_or, hcontext.2, Option.bind_some,
      Json.asArray, orDecode, Outcome.ok_bind, resultSlot_of_inContext hcontext,
      parseItems_of_forall₂ slot hitems]

/-- **The two bootstraps agree.**  Over any server that holds the accounts, a request of
`JsonRpcBootstrap` for keys returns what `FixtureBootstrap` returns on the same accounts, in the
same order and at the server's slot; a request for a program's accounts returns the fixture's, and
with filters those of them that the filters keep, in the server's order and at slot 0 or, where a
filtered answer comes in context, at the server's slot. -/
theorem jsonRpc_eq_fixture (h : Holds c serve keys filters slot accounts keeps) :
    Call.answered serve (getMultipleAccounts c keys) =
        .ok ((FixtureBootstrap.getMultipleAccounts ⟨accounts⟩ keys).map
          (Option.map (RawAccount.atSlot slot))) ∧
      ∀ k ∈ keys,
        Call.answered serve (getAccountInfo c k) =
            .ok ((FixtureBootstrap.getAccountInfo ⟨accounts⟩ k).map (RawAccount.atSlot slot)) ∧
          (∃ out, getProgramAccounts c (post serve) commitment k = .ok out ∧
            out.Perm
              ((FixtureBootstrap.getProgramAccounts ⟨accounts⟩ k).map (RawAccount.atSlot 0))) ∧
          ∃ out at', (at' = 0 ∨ at' = slot) ∧
            Call.answered serve (getProgramAccountsFiltered c k filters) = .ok out ∧
            out.Perm (((FixtureBootstrap.getProgramAccounts ⟨accounts⟩ k).filter keeps).map
              (RawAccount.atSlot at')) :=
  ⟨answered_getMultipleAccounts h, fun _ hk => ⟨answered_getAccountInfo h hk,
    exists_getProgramAccounts h hk, exists_getProgramAccountsFiltered h hk⟩⟩

end Agree

/-! ## A server of a list of accounts -/

/-- The two encodings as their crates document them, but for the texts of decoding errors. -/
def standardCodecs : Codecs where
  toBase58 := .bitcoin
  decodeBase64 text :=
    match Base64.decode text with
    | some bytes => .ok bytes
    | none => .error "Invalid padding"

lemma decodeBase64_encode (bytes : List UInt8) :
    standardCodecs.decodeBase64 (Base64.encode bytes) = .ok bytes := by
  show (match Base64.decode (Base64.encode bytes) with
    | some bytes => Except.ok bytes
    | none => .error "Invalid padding") = _
  rw [Base64.decode_encode]

def accountJson (a : RawAccount) : Json :=
  .object
    [("data", .array [.string (Base64.encode a.data), .string "base64"]),
      ("executable", .bool false), ("lamports", .number (.posInt a.lamports)),
      ("owner", .string (a.owner.toBase58 .bitcoin)), ("rentEpoch", .number (.posInt 0)),
      ("space", .number (.posInt (UInt64.ofNat a.data.length)))]

def itemJson (a : RawAccount) : Json :=
  .object [("account", accountJson a), ("pubkey", .string (a.pubkey.toBase58 .bitcoin))]

/-- What one filter keeps: data of a size, or with some bytes at an offset. -/
def filterKeeps (a : RawAccount) (filter : Json) : Bool :=
  match filter.get "dataSize", filter.get "memcmp" with
  | some size, _ => size.asU64 == some (UInt64.ofNat a.data.length)
  | none, some memcmp =>
    match (memcmp.get "offset").bind Json.asU64,
      ((memcmp.get "bytes").bind Json.asStr).bind Base58.bitcoin.decode with
    | some offset, some bytes => (a.data.drop offset.toNat).take bytes.length == bytes
    | _, _ => false
  | none, none => false

lemma filterKeeps_of_memcmp (a : RawAccount) {filter memcmp : Json} {offset : UInt64}
    {bytes : List UInt8} (hsize : filter.get "dataSize" = none)
    (hmemcmp : filter.get "memcmp" = some memcmp)
    (hoffset : (memcmp.get "offset").bind Json.asU64 = some offset)
    (hbytes : ((memcmp.get "bytes").bind Json.asStr).bind Base58.bitcoin.decode = some bytes) :
    filterKeeps a filter = ((a.data.drop offset.toNat).take bytes.length == bytes) := by
  simp only [filterKeeps, hsize, hmemcmp, hoffset, hbytes]

def bareJson (result : Json) : Json :=
  .object [("jsonrpc", .string "2.0"), ("result", result), ("id", .number (.posInt 1))]

def contextJson (slot : UInt64) (value : Json) : Json :=
  bareJson (.object
    [("context", .object
      [("apiVersion", .string "2.0.0"), ("slot", .number (.posInt slot))]), ("value", value)])

def errorJson (message : String) : Json :=
  .object
    [("jsonrpc", .string "2.0"),
      ("error", .object [("code", .number (.negInt (-32602))), ("message", .string message)]),
      ("id", .number (.posInt 1))]

def valueJson (accounts : List RawAccount) (key : Json) : Json :=
  match (key.asStr.bind (Pubkey.fromBase58 .bitcoin)).bind fun k =>
      accounts.find? fun a => a.pubkey = k with
  | some a => accountJson a
  | none => .null

/-- A response with an error in it is an application error. -/
def readResponse (response : Json) : Except BootstrapError Json :=
  match response.get "error" with
  | some err => .error (.rpc err.render)
  | none => .ok response

/-- A server of a list of accounts at a slot, for the requests of the program. -/
def serve (slot : UInt64) (accounts : List RawAccount) (request : Json) : Json :=
  match (request.get "method").bind Json.asStr,
      ((request.get "params").bind Json.asArray).getD [] with
  | some "getSlot", _ => bareJson (.number (.posInt slot))
  | some "getHealth", _ => bareJson (.string "ok")
  | some "getAccountInfo", key :: _ => contextJson slot (valueJson accounts key)
  | some "getMultipleAccounts", .array keys :: _ =>
    contextJson slot (.array (keys.map (valueJson accounts)))
  | some "getProgramAccounts", .string program :: config :: _ =>
    match Pubkey.fromBase58 .bitcoin program with
    | some k =>
      let filters := ((config.get "filters").bind Json.asArray).getD []
      bareJson (.array (((accounts.filter fun a => a.owner = k).filter fun a =>
        filters.all (filterKeeps a)).map itemJson))
    | none => errorJson "Invalid param: Invalid"
  | _, _ => errorJson "Method not found"

section Serve

variable (slot : UInt64) (accounts : List RawAccount)

lemma spells_accountJson (a : RawAccount) : Spells standardCodecs a (accountJson a) := by
  refine ⟨rfl, ⟨_, rfl, Pubkey.fromBase58_toBase58 a.owner, fun hzero => ?_⟩,
    ⟨_, _, rfl, decodeBase64_encode a.data⟩⟩
  rw [hzero]
  decide +kernel

lemma spellsItem_itemJson (a : RawAccount) : SpellsItem standardCodecs a (itemJson a) :=
  ⟨⟨_, rfl, Pubkey.fromBase58_toBase58 a.pubkey⟩, _, rfl, spells_accountJson a⟩

lemma forall₂_spellsItem (listed : List RawAccount) :
    List.Forall₂ (SpellsItem standardCodecs) listed (listed.map itemJson) := by
  induction listed with
  | nil => exact .nil
  | cons a listed ih => exact .cons (spellsItem_itemJson a) ih

lemma spellsAnswer_valueJson (k : Pubkey) :
    SpellsAnswer standardCodecs (accounts.find? fun a => a.pubkey = k)
      (valueJson accounts (.string (k.toBase58 .bitcoin))) := by
  have hkey : (Json.string (k.toBase58 .bitcoin)).asStr.bind (Pubkey.fromBase58 .bitcoin) =
      some k := Pubkey.fromBase58_toBase58 k
  unfold valueJson
  rw [hkey, Option.bind_some]
  cases accounts.find? fun a => a.pubkey = k with
  | none => exact rfl
  | some a => exact spells_accountJson a

lemma forall₂_spellsAnswer (keys : List Pubkey) :
    List.Forall₂ (fun k value => SpellsAnswer standardCodecs
        (accounts.find? fun a => a.pubkey = k) value) keys
      ((keys.map fun k => Json.string (k.toBase58 .bitcoin)).map (valueJson accounts)) := by
  induction keys with
  | nil => exact .nil
  | cons k keys ih => exact .cons (spellsAnswer_valueJson accounts k) ih

/-- What it answers to a request for a program's accounts. -/
def programJson (k : Pubkey) (filters : List Json) : Json :=
  bareJson (.array (((accounts.filter fun a => a.owner = k).filter fun a =>
    filters.all (filterKeeps a)).map itemJson))

/-- The filters are read back from the configuration that has them, if there are any. -/
lemma filters_of_config (filters : List Json) :
    (((Json.object (accountConfig ++
      if filters = [] then [] else [("filters", .array filters)])).get "filters").bind
        Json.asArray).getD [] = filters := by
  by_cases hnone : filters = []
  · rw [hnone]
    rfl
  · rw [if_neg hnone]
    rfl

lemma serve_getProgramAccountsFiltered (k : Pubkey) (filters : List Json) :
    serve slot accounts (jsonrpcGetProgramAccountsFiltered standardCodecs k filters) =
      programJson accounts k filters := by
  have hserve : serve slot accounts (jsonrpcGetProgramAccountsFiltered standardCodecs k filters) =
      match Pubkey.fromBase58 .bitcoin (k.toBase58 .bitcoin) with
      | some k => programJson accounts k ((((Json.object (accountConfig ++
          if filters = [] then [] else [("filters", .array filters)])).get "filters").bind
            Json.asArray).getD [])
      | none => errorJson "Invalid param: Invalid" := rfl
  rw [hserve, Pubkey.fromBase58_toBase58, filters_of_config]

/-- **The server holds its accounts**, for any keys and filters. -/
lemma holds_serve (keys : List Pubkey) (filters : List Json) :
    Holds standardCodecs (fun request => readResponse (serve slot accounts request)) keys filters
      slot accounts fun a => filters.all (filterKeeps a) := by
  refine ⟨fun k _ => ⟨_, _, rfl, ⟨rfl, rfl⟩, spellsAnswer_valueJson accounts k⟩,
    ⟨_, _, rfl, ⟨rfl, rfl⟩, forall₂_spellsAnswer accounts keys⟩, fun k _ => ?_, fun k _ => ?_⟩
  · -- The plain request is the filtered one without filters.
    refine ⟨_, _, accounts.filter fun a => a.owner = k,
      congrArg readResponse (serve_getProgramAccountsFiltered slot accounts k []), rfl, ?_, .rfl⟩
    have hall : (accounts.filter fun a => a.owner = k).filter (fun a =>
        ([] : List Json).all (filterKeeps a)) = accounts.filter fun a => a.owner = k :=
      List.filter_eq_self.2 fun _ _ => rfl
    rw [hall]
    exact forall₂_spellsItem _
  · exact ⟨_, _, (accounts.filter fun a => a.owner = k).filter fun a =>
      filters.all (filterKeeps a),
      congrArg readResponse (serve_getProgramAccountsFiltered slot accounts k filters), Or.inl rfl,
      forall₂_spellsItem _, .rfl⟩

end Serve

/-- Two accounts of klend and one of the Save program, under three keys. -/
def threeAccounts : List RawAccount :=
  [⟨.test 50 0, 5, Programs.klend, [1], 7⟩, ⟨.test 50 1, 6, Programs.klend, [2, 3], 8⟩,
    ⟨.test 51 0, 9, Programs.save, [4, 5], 9⟩]

/-- Accounts of two bytes. -/
def twoBytes : List Json := [.object [("dataSize", .number (.posInt 2))]]

/-- All four requests over a server of the three accounts, read back: for a held account, one
that is not held, and a program. -/
theorem jsonRpc_eq_fixture_threeAccounts :
    Call.answered (fun request => readResponse (serve 42 threeAccounts request))
        (getMultipleAccounts standardCodecs [.test 50 1, .test 52 0, Programs.klend]) =
        .ok [some ⟨.test 50 1, 6, Programs.klend, [2, 3], 42⟩, none, none] ∧
      Call.answered (fun request => readResponse (serve 42 threeAccounts request))
        (getAccountInfo standardCodecs (.test 50 1)) =
        .ok (some ⟨.test 50 1, 6, Programs.klend, [2, 3], 42⟩) ∧
      (∃ out, getProgramAccounts standardCodecs
          (post fun request => readResponse (serve 42 threeAccounts request)) commitment
            Programs.klend = .ok out ∧
        out.Perm [⟨.test 50 0, 5, Programs.klend, [1], 0⟩,
          ⟨.test 50 1, 6, Programs.klend, [2, 3], 0⟩]) ∧
      ∃ out at', (at' = 0 ∨ at' = 42) ∧
        Call.answered (fun request => readResponse (serve 42 threeAccounts request))
          (getProgramAccountsFiltered standardCodecs Programs.klend twoBytes) = .ok out ∧
        out.Perm [⟨.test 50 1, 6, Programs.klend, [2, 3], at'⟩] := by
  obtain ⟨hmany, hkeys⟩ := jsonRpc_eq_fixture
    (holds_serve 42 threeAccounts [.test 50 1, .test 52 0, Programs.klend] twoBytes)
  obtain ⟨hone, -, -⟩ := hkeys (.test 50 1) (by simp)
  obtain ⟨-, hprogram, hfiltered⟩ := hkeys Programs.klend (by simp)
  exact ⟨hmany, hone, hprogram, hfiltered⟩

end RpcServer

end Grokbotliq
