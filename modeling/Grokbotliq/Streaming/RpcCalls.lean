import Grokbotliq.Framework.JsonText
import Grokbotliq.Framework.Requests
import Grokbotliq.Streaming.Bootstrap

/-!
# Calls over JSON-RPC

What the methods of `JsonRpcBootstrap` ask for and how they read the answer.  A `Call` is a program
of requests that comes to an outcome; it does not know its transport.  Run over a pool it goes
through the pool's rotation, and where each request has one answer, whoever gives it, it is a
function of these answers (`Call.answered`), which takes a sequence of calls step by step
(`answered_bind`).

A method panics in one place only: an owner text of 64 bytes that is not base58 is cut into pairs
of bytes, and a pair may lie across a character (`hex32`).

Reading an answer is kept apart from asking for it: each method is one request and one reader of
the response, so that what a method returns for a given response does not depend on how the
response was got.
-/

namespace Grokbotliq

/-- A call over a JSON-RPC transport, which may fail or panic. -/
def Call (α : Type) : Type :=
  RequestProg Json (Except BootstrapError Json) (Outcome BootstrapError α)

namespace Call

def ret {α : Type} (x : Outcome BootstrapError α) : Call α := RequestProg.done x

/-- The first call that gives no value decides; the others are not made. -/
instance : Monad Call where
  pure a := ret (.ok a)
  bind x f := RequestProg.bind x fun outcome =>
    match outcome with
    | .ok a => f a
    | .err e => ret (.err e)
    | .panic => ret .panic

/-- The call's error as a value. -/
def attempt {α : Type} (x : Call α) : Call (Except BootstrapError α) :=
  RequestProg.bind x fun outcome =>
    match outcome with
    | .ok a => ret (.ok (.ok a))
    | .err e => ret (.ok (.error e))
    | .panic => ret .panic

/-- One request, and what is read from the response. -/
def request {α : Type} (body : Json) (parse : Json → Outcome BootstrapError α) : Call α :=
  RequestProg.ask body fun response =>
    match response with
    | .ok resp => ret (parse resp)
    | .error e => ret (.err e)

/-! ### Run over a transport -/

section Run

variable {σ α β : Type} {handler : σ → Json → σ × Except BootstrapError Json} {s : σ}

/-- A call that goes on and comes to a value came to one before, and goes on from where that
left the transport. -/
lemma run_bind_eq_ok {x : Call α} {f : α → Call β} {b : β}
    (h : (RequestProg.run handler s (x >>= f : Call β)).2 = .ok b) :
    ∃ a, (RequestProg.run handler s x).2 = .ok a ∧
      (RequestProg.run handler (RequestProg.run handler s x).1 (f a)).2 = .ok b := by
  have hrun := (congrArg Prod.snd (RequestProg.run_bind handler x _ s)).symm.trans h
  cases hx : (RequestProg.run handler s x).2 with
  | ok a =>
      rw [hx] at hrun
      exact ⟨a, rfl, hrun⟩
  | err e =>
      rw [hx] at hrun
      cases hrun
  | panic =>
      rw [hx] at hrun
      cases hrun

lemma run_ret (x : Outcome BootstrapError α) : (RequestProg.run handler s (ret x)).2 = x := rfl

end Run

/-! ### Answered by a function -/

section Answered

variable {α β : Type} (serve : Json → Except BootstrapError Json)

/-- What a call comes to where every request has its answer. -/
def answered (x : Call α) : Outcome BootstrapError α :=
  (RequestProg.run (fun (_ : Unit) request => ((), serve request)) () x).2

@[simp] lemma answered_ret (x : Outcome BootstrapError α) : answered serve (ret x) = x := rfl

@[simp] lemma answered_pure (a : α) : answered serve (pure a) = .ok a := rfl

/-- A sequence of calls comes to the sequence of what they come to. -/
@[simp] lemma answered_bind (x : Call α) (f : α → Call β) :
    answered serve (x >>= f) = answered serve x >>= fun a => answered serve (f a) := by
  refine (congrArg Prod.snd (RequestProg.run_bind _ x _ ())).trans ?_
  show _ = Outcome.bind (answered serve x) _
  unfold answered
  cases (RequestProg.run (fun (_ : Unit) request => ((), serve request)) () x).2 <;> rfl

/-- An attempt fails with nothing but a panic. -/
lemma answered_attempt (x : Call α) :
    answered serve x.attempt = match answered serve x with
      | .ok a => .ok (.ok a)
      | .err e => .ok (.error e)
      | .panic => .panic := by
  refine (congrArg Prod.snd (RequestProg.run_bind _ x _ ())).trans ?_
  unfold answered
  cases (RequestProg.run (fun (_ : Unit) request => ((), serve request)) () x).2 <;> rfl

lemma answered_request (body : Json) (parse : Json → Outcome BootstrapError α) :
    answered serve (request body parse) = match serve body with
      | .ok resp => parse resp
      | .error e => .err e := by
  unfold answered request
  rw [RequestProg.run]
  cases serve body <;> rfl

end Answered

end Call

namespace Bootstrap

/-- `JsonRpcBootstrap::new`. -/
def commitment : String := "processed"

def jsonrpc (method : String) (params : List Json) : Json :=
  .object
    [("jsonrpc", .string "2.0"), ("id", .number (.posInt 1)), ("method", .string method),
      ("params", .array params)]

def getSlot : Call UInt64 :=
  .request (jsonrpc "getSlot" [.object [("commitment", .string commitment)]]) fun resp =>
    orDecode ((resp.get "result").bind Json.asU64) "getSlot result"

/-- The health as a text; a result of another shape is rendered. -/
def getHealth : Call String :=
  .request (jsonrpc "getHealth" []) fun resp =>
    match resp.get "result" with
    | some (.string s) => .ok s
    | some v => .ok v.render
    | none => .err (.decode "getHealth result")

/-- The loop of `get_multiple_accounts` over the keys; a missing entry is `null`. -/
def parseAccounts (c : Codecs) (slot : UInt64) (arr : List Json) (i : ℕ) :
    List Pubkey → Outcome BootstrapError (List (Option RawAccount))
  | [] => .ok []
  | key :: keys => do
    let account ← parseAccountValue c key slot (arr.getD i .null)
    let rest ← parseAccounts c slot arr (i + 1) keys
    return account :: rest

/-- What every request for accounts says about the answer. -/
def accountConfig : List (String × Json) :=
  [("encoding", .string "base64"), ("commitment", .string commitment)]

def jsonrpcGetAccountInfo (c : Codecs) (key : Pubkey) : Json :=
  jsonrpc "getAccountInfo" [.string (key.toBase58 c.toBase58), .object accountConfig]

def jsonrpcGetMultipleAccounts (c : Codecs) (keys : List Pubkey) : Json :=
  jsonrpc "getMultipleAccounts"
    [.array (keys.map fun k => .string (k.toBase58 c.toBase58)), .object accountConfig]

def jsonrpcGetProgramAccountsFiltered (c : Codecs) (programId : Pubkey) (filters : List Json) :
    Json :=
  jsonrpc "getProgramAccounts" [.string (programId.toBase58 c.toBase58),
    .object (accountConfig ++ if filters = [] then [] else [("filters", .array filters)])]

def getAccountInfo (c : Codecs) (key : Pubkey) : Call (Option RawAccount) :=
  .request (jsonrpcGetAccountInfo c key) fun resp =>
    parseAccountValue c key (resultSlot resp) ((resp.pointer "/result/value").getD .null)

def getMultipleAccounts (c : Codecs) (keys : List Pubkey) : Call (List (Option RawAccount)) :=
  .request (jsonrpcGetMultipleAccounts c keys) fun resp => do
    let arr ← orDecode ((resp.pointer "/result/value").bind Json.asArray) "result.value array"
    parseAccounts c (resultSlot resp) arr 0 keys

/-- A filtered `getProgramAccounts`; the accounts stand in the result or in its value. -/
def getProgramAccountsFiltered (c : Codecs) (programId : Pubkey) (filters : List Json) :
    Call (List RawAccount) :=
  .request (jsonrpcGetProgramAccountsFiltered c programId filters) fun resp => do
    let arr ← orDecode (((resp.pointer "/result").bind Json.asArray).or
      ((resp.pointer "/result/value").bind Json.asArray)) "result array"
    parseItems c (resultSlot resp) arr

/-- What `simulateTransaction` returned; the whole response, which no caller looks at, is left
out. -/
structure SimulateResult where
  err : Option Json
  logs : List String
  unitsConsumed : Option UInt64

def jsonrpcSimulateTransaction (txBase64 : String) (sigVerify : Bool) : Json :=
  jsonrpc "simulateTransaction"
    [.string txBase64,
      .object [("encoding", .string "base64"), ("sigVerify", .bool sigVerify),
        ("replaceRecentBlockhash", .bool !sigVerify)]]

def simulateTransaction (txBase64 : String) (sigVerify : Bool) : Call SimulateResult :=
  .request (jsonrpcSimulateTransaction txBase64 sigVerify) fun resp =>
    let value := (resp.pointer "/result/value").getD .null
    .ok {
      err := (value.get "err").filter fun e => !e.isNull
      logs := (((value.get "logs").bind Json.asArray).getD []).filterMap Json.asStr
      unitsConsumed := (value.get "unitsConsumed").bind Json.asU64 }

end Bootstrap

end Grokbotliq
