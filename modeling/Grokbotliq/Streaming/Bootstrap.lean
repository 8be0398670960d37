import Grokbotliq.Core.Base58
import Grokbotliq.Core.StoreMerge
import Grokbotliq.Framework.Json
import Grokbotliq.Framework.Outcome

/-!
# Bootstrap over JSON-RPC

`getProgramAccounts` asks for the accounts of a program and reads the response, which must be
a bare array; `applyRawToStore` writes what it read into the state store.  The slot of each
account is read from the response's context, a part that a bare array does not have
(`getProgramAccounts_slot`), so every account of every poll is stored at slot 0 and an account
that is already held stays as it is.  `second_poll_lands_iff` says which second polls the store
nevertheless shows.

With all slots equal the store's rule that only a newer version replaces an entry means that the
first account listed under a key stays (`get_second_poll`).  The second poll shows where it lists
nothing else under that key than what is already there.
-/

namespace Grokbotliq

/-- `BootstrapError`. -/
inductive BootstrapError
  | rpc (message : String)
  | decode (message : String)
  | http (message : String)
  | config (message : String)
  deriving DecidableEq

/-- The text of the error. -/
def BootstrapError.display : BootstrapError → String
  | rpc message => "rpc: " ++ message
  | decode message => "decode: " ++ message
  | http message => "http: " ++ message
  | config message => "config: " ++ message

/-- The text encodings, which third-party crates decode. -/
structure Codecs extends Base58 where
  /-- `STANDARD.decode`; the error is the text it prints. -/
  decodeBase64 : String → Except String (List UInt8)

structure RawAccount where
  pubkey : Pubkey
  lamports : UInt64
  owner : Pubkey
  data : List UInt8
  slot : UInt64
  deriving DecidableEq

/-- The entry an account is stored as. -/
def RawAccount.stored (a : RawAccount) (source : UpdateSource) (now : ℕ) :
    StoredAccount (List UInt8) :=
  ⟨a.slot.toNat, 0, a.pubkey, a.data, source, now⟩

/-- The entries of a list of accounts, the `i`-th of them received at `now i`. -/
def storedAt (accounts : List RawAccount) (source : UpdateSource) (now : ℕ → ℕ) :
    List (StoredAccount (List UInt8)) :=
  accounts.zipIdx.map fun a => a.1.stored source (now a.2)

/-- Apply raw accounts into a byte-level state store. -/
def applyRawToStore (store : StateStore (List UInt8)) (accounts : List RawAccount)
    (source : UpdateSource) (now : ℕ → ℕ) : StateStore (List UInt8) :=
  store.applyAll (storedAt accounts source now)

namespace Bootstrap

/-! ## Hexadecimal keys -/

/-- The byte can start a character of a UTF-8 text. -/
def isCharStart (b : UInt8) : Bool := b < 128 || 192 ≤ b

def hexDigit (b : UInt8) : Option UInt8 :=
  if 48 ≤ b && b ≤ 57 then some (b - 48)
  else if 97 ≤ b && b ≤ 102 then some (b - 87)
  else if 65 ≤ b && b ≤ 70 then some (b - 55)
  else none

/-- `u8::from_str_radix` on two bytes; a plus sign may lead. -/
def fromHexPair (a b : UInt8) : Option UInt8 :=
  if a = 43 then hexDigit b
  else do
    let hi ← hexDigit a
    let lo ← hexDigit b
    return hi * 16 + lo

/-- The loop of `hex_32`; a pair that cuts a character panics. -/
def hexPairs : List UInt8 → Outcome Unit (List UInt8)
  | a :: b :: rest =>
    if !isCharStart a || !rest.head?.all isCharStart then .panic
    else
      match fromHexPair a b with
      | none => .err ()
      | some x => do
        let xs ← hexPairs rest
        return x :: xs
  | _ => .ok []

/-- `hex_32`, on the UTF-8 bytes of the text. -/
def hex32 (s : String) : Outcome Unit (List UInt8) :=
  let bytes := s.toList.flatMap String.utf8EncodeChar
  if bytes.length ≠ 64 then .err () else hexPairs bytes

/-! ## Reading a response -/

/-- The slot of the response's context, 0 when there is none. -/
def resultSlot (resp : Json) : UInt64 :=
  ((resp.pointer "/result/context/slot").bind Json.asU64).getD 0

def b64Decode (c : Codecs) (s : String) : Outcome BootstrapError (List UInt8) :=
  match c.decodeBase64 s with
  | .ok bytes => .ok bytes
  | .error e => .err (.decode ("base64: " ++ e))

def orDecode {α : Type} (x : Option α) (message : String) : Outcome BootstrapError α :=
  match x with
  | some a => .ok a
  | none => .err (.decode message)

/-- An account's owner: base58, or 64 hexadecimal digits where that gives the zero key. -/
def parseOwner (c : Codecs) (ownerS : String) : Outcome BootstrapError Pubkey := do
  let owner := (Pubkey.fromBase58 c.toBase58 ownerS).getD Pubkey.default
  let owner ←
    if owner = Pubkey.default then
      match hex32 ownerS with
      | .ok bytes => .ok ((Pubkey.fromBytes bytes).getD Pubkey.default)
      | .err _ => .ok ((Pubkey.fromBase58 c.toBase58 ownerS).getD Pubkey.default)
      | .panic => .panic
    else .ok owner
  return (Pubkey.fromBase58 c.toBase58 ownerS).getD owner

def parseData (c : Codecs) (data : Json) : Outcome BootstrapError (List UInt8) :=
  match data.asArray with
  | some arr => do
    let s ← orDecode (arr.head?.bind Json.asStr) "data[0]"
    b64Decode c s
  | none =>
    match data.asStr with
    | some s => b64Decode c s
    | none => .err (.decode "data encoding")

def parseAccountValue (c : Codecs) (pubkey : Pubkey) (slot : UInt64) (val : Json) :
    Outcome BootstrapError (Option RawAccount) :=
  if val.isNull then .ok none
  else do
    let lamports ← orDecode ((val.get "lamports").bind Json.asU64) "missing lamports"
    let ownerS ← orDecode ((val.get "owner").bind Json.asStr) "missing owner"
    let owner ← parseOwner c ownerS
    let dataArr ← orDecode (val.get "data") "missing data"
    let data ← parseData c dataArr
    return some ⟨pubkey, lamports, owner, data, slot⟩

/-- One item of the array of accounts. -/
def parseItem (c : Codecs) (slot : UInt64) (item : Json) :
    Outcome BootstrapError (Option RawAccount) := do
  let pkS ← orDecode ((item.get "pubkey").bind Json.asStr) "pubkey"
  let pubkey ← orDecode (Pubkey.fromBase58 c.toBase58 pkS) ("bad pubkey " ++ pkS)
  let account ← orDecode (item.get "account") "account"
  parseAccountValue c pubkey slot account

/-- The loop over the array of accounts: the first failure is the outcome. -/
def parseItems (c : Codecs) (slot : UInt64) : List Json → Outcome BootstrapError (List RawAccount)
  | [] => .ok []
  | item :: items => do
    let raw ← parseItem c slot item
    let out ← parseItems c slot items
    return raw.toList ++ out

def jsonrpcGetProgramAccounts (programId commitment : String) : Json :=
  .object
    [("jsonrpc", .string "2.0"), ("id", .number (.posInt 1)),
      ("method", .string "getProgramAccounts"),
      ("params", .array [.string programId,
        .object [("encoding", .string "base64"), ("commitment", .string commitment)]])]

/-- `get_program_accounts`, over a transport that answers a request or fails. -/
def getProgramAccounts (c : Codecs) (postJson : Json → Outcome BootstrapError Json)
    (commitment : String) (programId : Pubkey) : Outcome BootstrapError (List RawAccount) := do
  let resp ← postJson (jsonrpcGetProgramAccounts (programId.toBase58 c.toBase58) commitment)
  let slot := resultSlot resp
  let arr ← orDecode ((resp.pointer "/result").bind Json.asArray) "result array"
  parseItems c slot arr

/-! ## The slot of what is read -/

lemma orDecode_eq_ok {α : Type} {x : Option α} {message : String} {a : α}
    (h : orDecode x message = .ok a) : x = some a := by
  cases x with
  | none => exact absurd h (by simp [orDecode])
  | some b => rw [orDecode, Outcome.ok.injEq] at h; rw [h]

/-- Below a bare array a pointer that names a field selects nothing. -/
lemma foldlM_step_of_array {resp : Json} {arr : List Json}
    (h : (resp.pointer "/result").bind Json.asArray = some arr) {token : List Char}
    (htoken : Json.parseIndex (Json.unescapeTilde (Json.unescapeSlash token)) = none)
    (rest : List (List Char)) :
    ("result".toList.splitOn '/' ++ token :: rest).foldlM Json.step resp = none := by
  obtain ⟨result, hresult, harr⟩ := Option.bind_eq_some_iff.1 h
  -- The answer is a bare array, and a step into an array takes an index.
  have hshape : result = .array arr := by
    cases result with
    | array elems => rw [Json.asArray, Option.some.injEq] at harr; rw [harr]
    | null => exact absurd harr (by simp [Json.asArray])
    | bool _ => exact absurd harr (by simp [Json.asArray])
    | number _ => exact absurd harr (by simp [Json.asArray])
    | string _ => exact absurd harr (by simp [Json.asArray])
    | object _ => exact absurd harr (by simp [Json.asArray])
  have hpath : "/result".toList = '/' :: "result".toList := rfl
  have hfold : ("result".toList.splitOn '/').foldlM Json.step resp = some (.array arr) := by
    rw [← Json.pointer_eq hpath, hresult, hshape]
  rw [List.foldlM_append, hfold, Option.bind_eq_bind, Option.bind_some, List.foldlM_cons,
    Json.step_array_of_not_index arr htoken]
  rfl

/-- The pointer to the context's slot finds nothing in a bare array. -/
lemma resultSlot_of_array {resp : Json} {arr : List Json}
    (h : (resp.pointer "/result").bind Json.asArray = some arr) : resultSlot resp = 0 := by
  have hpath : "/result/context/slot".toList = '/' :: "result/context/slot".toList := rfl
  have htokens : "result/context/slot".toList.splitOn '/' =
      "result".toList.splitOn '/' ++ ["context".toList, "slot".toList] := by decide
  rw [resultSlot, Json.pointer_eq hpath, htokens, foldlM_step_of_array h (by decide)]
  rfl

/-- No more does the pointer to the value. -/
lemma pointer_value_of_array {resp : Json} {arr : List Json}
    (h : (resp.pointer "/result").bind Json.asArray = some arr) :
    resp.pointer "/result/value" = none := by
  have hpath : "/result/value".toList = '/' :: "result/value".toList := rfl
  have htokens : "result/value".toList.splitOn '/' =
      "result".toList.splitOn '/' ++ ["value".toList] := by decide
  rw [Json.pointer_eq hpath, htokens, foldlM_step_of_array h (by decide)]

lemma parseAccountValue_slot {c : Codecs} {pubkey : Pubkey} {slot : UInt64} {val : Json}
    {raw : RawAccount} (h : parseAccountValue c pubkey slot val = .ok (some raw)) :
    raw.slot = slot := by
  unfold parseAccountValue at h
  split_ifs at h with hnull
  · exact absurd h (by simp)
  · obtain ⟨_, _, h⟩ := Outcome.bind_eq_ok.1 h
    obtain ⟨_, _, h⟩ := Outcome.bind_eq_ok.1 h
    obtain ⟨_, _, h⟩ := Outcome.bind_eq_ok.1 h
    obtain ⟨_, _, h⟩ := Outcome.bind_eq_ok.1 h
    obtain ⟨_, _, h⟩ := Outcome.bind_eq_ok.1 h
    obtain rfl : _ = raw := by simpa using h
    rfl

lemma parseItem_slot {c : Codecs} {slot : UInt64} {item : Json} {raw : RawAccount}
    (h : parseItem c slot item = .ok (some raw)) : raw.slot = slot := by
  obtain ⟨_, _, h⟩ := Outcome.bind_eq_ok.1 h
  obtain ⟨_, _, h⟩ := Outcome.bind_eq_ok.1 h
  obtain ⟨_, _, h⟩ := Outcome.bind_eq_ok.1 h
  exact parseAccountValue_slot h

lemma parseItems_slot {c : Codecs} {slot : UInt64} {items : List Json} {out : List RawAccount}
    (h : parseItems c slot items = .ok out) : ∀ r ∈ out, r.slot = slot := by
  induction items generalizing out with
  | nil =>
      obtain rfl : out = [] := (Outcome.ok.inj h).symm
      exact fun r hr => absurd hr (by simp)
  | cons item items ih =>
      obtain ⟨raw, hraw, h⟩ := Outcome.bind_eq_ok.1 h
      obtain ⟨rest, hrest, h⟩ := Outcome.bind_eq_ok.1 h
      obtain rfl : raw.toList ++ rest = out := Outcome.ok.inj h
      intro r hr
      rcases List.mem_append.1 hr with hr | hr
      · rw [Option.mem_toList] at hr
        rw [hr] at hraw
        exact parseItem_slot hraw
      · exact ih hrest r hr

/-- Every account a poll returns carries slot 0. -/
theorem getProgramAccounts_slot {c : Codecs} {postJson : Json → Outcome BootstrapError Json}
    {commitment : String} {programId : Pubkey} {out : List RawAccount}
    (h : getProgramAccounts c postJson commitment programId = .ok out) :
    ∀ r ∈ out, r.slot = 0 := by
  obtain ⟨resp, _, h⟩ := Outcome.bind_eq_ok.1 h
  obtain ⟨arr, harr, h⟩ := Outcome.bind_eq_ok.1 h
  rw [resultSlot_of_array (orDecode_eq_ok harr)] at h
  exact parseItems_slot h

/-! ## Two polls -/

/-- The first of the accounts with this key. -/
def firstListed (accounts : List RawAccount) (k : Pubkey) : Option RawAccount :=
  accounts.find? fun a => a.pubkey = k

lemma find?_map_stored (source : UpdateSource) (now : ℕ → ℕ) (k : Pubkey)
    (accounts : List RawAccount) (i : ℕ) :
    (((accounts.zipIdx i).map fun a => a.1.stored source (now a.2)).find?
      fun e => e.pubkey = k).map StoredAccount.decoded =
      (firstListed accounts k).map RawAccount.data := by
  induction accounts generalizing i with
  | nil => rfl
  | cons a accounts ih =>
      have hrest := ih (i + 1)
      rw [List.zipIdx_cons, List.map_cons, firstListed, List.find?_cons, List.find?_cons]
      by_cases hk : a.pubkey = k
      · simp [RawAccount.stored, hk]
      · simpa [RawAccount.stored, hk, firstListed] using hrest

lemma storedAt_version {accounts : List RawAccount} (h : ∀ r ∈ accounts, r.slot = 0)
    (source : UpdateSource) (now : ℕ → ℕ) :
    ∀ e ∈ storedAt accounts source now, e.version = toLex (0, 0) := by
  intro e he
  obtain ⟨⟨a, i⟩, ha, rfl⟩ := List.mem_map.1 he
  have hslot : a.slot = 0 := h a (List.fst_mem_of_mem_zipIdx ha)
  rw [RawAccount.stored, StoredAccount.version, hslot]
  rfl

/-- **After two polls the store shows, under every key, what was listed for it first.** -/
theorem get_second_poll {R₁ R₂ : List RawAccount} (h₁ : ∀ r ∈ R₁, r.slot = 0)
    (h₂ : ∀ r ∈ R₂, r.slot = 0) (source₁ source₂ : UpdateSource) (now₁ now₂ : ℕ → ℕ)
    (k : Pubkey) :
    ((applyRawToStore (applyRawToStore .new R₁ source₁ now₁) R₂ source₂ now₂).get k).map
      StoredAccount.decoded = (firstListed (R₁ ++ R₂) k).map RawAccount.data := by
  have happend : applyRawToStore (applyRawToStore .new R₁ source₁ now₁) R₂ source₂ now₂ =
      StateStore.new.applyAll (storedAt R₁ source₁ now₁ ++ storedAt R₂ source₂ now₂) :=
    (Runs.exec_append ..).symm
  have hversion : ∀ e ∈ storedAt R₁ source₁ now₁ ++ storedAt R₂ source₂ now₂,
      e.version = toLex (0, 0) := by
    intro e he
    rcases List.mem_append.1 he with he | he
    · exact storedAt_version h₁ source₁ now₁ e he
    · exact storedAt_version h₂ source₂ now₂ e he
  have hnew : ∀ k e, (StateStore.new : StateStore (List UInt8)).get k = some e →
      e.version = toLex (0, 0) := fun k e h => absurd h (by simp)
  have hfirst := find?_map_stored source₁ now₁ k R₁ 0
  have hsecond := find?_map_stored source₂ now₂ k R₂ 0
  rw [happend, StateStore.get_applyAll_of_same_version k _ hnew hversion, StateStore.get_new,
    Option.none_or, List.find?_append, firstListed, List.find?_append, Option.map_or, Option.map_or]
  rw [storedAt, storedAt, hfirst, hsecond]
  rfl

/-- **Which second polls the store shows.**  It holds the data of the second poll for every
account listed there exactly when each of these accounts is listed first with that data. -/
theorem second_poll_lands_iff (c : Codecs) (commitment : String)
    (postJson₁ postJson₂ : Json → Outcome BootstrapError Json) (programId₁ programId₂ : Pubkey)
    (source₁ source₂ : UpdateSource) (now₁ now₂ : ℕ → ℕ) {R₁ R₂ : List RawAccount}
    (h₁ : getProgramAccounts c postJson₁ commitment programId₁ = .ok R₁)
    (h₂ : getProgramAccounts c postJson₂ commitment programId₂ = .ok R₂) :
    (∀ r ∈ R₂, ((applyRawToStore (applyRawToStore .new R₁ source₁ now₁) R₂ source₂ now₂).get
      r.pubkey).map StoredAccount.decoded = some r.data) ↔
    ∀ r ∈ R₂, ∀ first, firstListed (R₁ ++ R₂) r.pubkey = some first → first.data = r.data := by
  have hget := get_second_poll (getProgramAccounts_slot h₁) (getProgramAccounts_slot h₂)
    source₁ source₂ now₁ now₂
  refine forall₂_congr fun r hr => ?_
  rw [hget]
  constructor
  · intro hdata first hfirst
    rw [hfirst] at hdata
    exact Option.some.inj hdata
  · intro hsame
    have hlisted : (firstListed (R₁ ++ R₂) r.pubkey).isSome := by
      rw [firstListed, List.find?_isSome]
      exact ⟨r, List.mem_append_right R₁ hr, decide_eq_true rfl⟩
    obtain ⟨first, hfirst⟩ := Option.isSome_iff_exists.1 hlisted
    rw [hfirst, Option.map_some, hsame first hfirst]

/-! ## Two polls of one account -/

/-- Base64 on the two texts used here. -/
def sampleCodecs : Codecs where
  toBase58 := Base58.bitcoin
  decodeBase64 s :=
    if s = "AQ==" then .ok [1] else if s = "Ag==" then .ok [2] else .error "Invalid padding"

def zeroKeyText : String := "11111111111111111111111111111111"

/-- A poll that lists the zero key with this data. -/
def pollOf (data : String) : Json :=
  .object
    [("jsonrpc", .string "2.0"), ("id", .number (.posInt 1)),
      ("result", .array [.object [("pubkey", .string zeroKeyText),
        ("account", .object [("lamports", .number (.posInt 5)), ("owner", .string zeroKeyText),
          ("data", .array [.string data, .string "base64"])])]])]

lemma getProgramAccounts_pollOf_one :
    getProgramAccounts sampleCodecs (fun _ => .ok (pollOf "AQ==")) "processed" .default =
      .ok [⟨.default, 5, .default, [1], 0⟩] := by
  rfl

lemma getProgramAccounts_pollOf_two :
    getProgramAccounts sampleCodecs (fun _ => .ok (pollOf "Ag==")) "processed" .default =
      .ok [⟨.default, 5, .default, [2], 0⟩] := by
  rfl

theorem second_poll_lands_unchanged :
    ((applyRawToStore (applyRawToStore .new [⟨.default, 5, .default, [1], 0⟩] .rpc fun _ => 10)
      [⟨.default, 5, .default, [1], 0⟩] .rpc fun _ => 20).get .default).map
        StoredAccount.decoded = some [1] := by
  have hlands := second_poll_lands_iff sampleCodecs "processed" (fun _ => .ok (pollOf "AQ=="))
    (fun _ => .ok (pollOf "AQ==")) .default .default .rpc .rpc (fun _ => 10) (fun _ => 20)
    getProgramAccounts_pollOf_one getProgramAccounts_pollOf_one
  exact hlands.2 (by decide) ⟨.default, 5, .default, [1], 0⟩ (List.mem_singleton_self _)

/-- The second poll lists the account with new data, and the store goes on showing the old. -/
theorem second_poll_dropped :
    ∃ R₁ R₂ : List RawAccount,
      getProgramAccounts sampleCodecs (fun _ => .ok (pollOf "AQ==")) "processed" .default = .ok R₁ ∧
      getProgramAccounts sampleCodecs (fun _ => .ok (pollOf "Ag==")) "processed" .default = .ok R₂ ∧
      ∃ r ∈ R₂, r.data = [2] ∧
        ((applyRawToStore (applyRawToStore .new R₁ .rpc fun _ => 10) R₂ .rpc fun _ => 20).get
          r.pubkey).map StoredAccount.decoded = some [1] := by
  refine ⟨_, _, getProgramAccounts_pollOf_one, getProgramAccounts_pollOf_two,
    ⟨.default, 5, .default, [2], 0⟩, List.mem_singleton_self _, rfl, ?_⟩
  decide

end Bootstrap

end Grokbotliq
