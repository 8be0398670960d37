import Grokbotliq.Framework.JsonText
import Grokbotliq.Streaming.RpcPool

/-!
# Application errors over HTTP

The transport turns an exchange with a server into a value or an error, whose text the pool then
searches for signs of an overloaded endpoint.  An application error is searched like any other,
by the whole text of its object: `app_error_not_retried_iff` says which of them end a call, and
`rotates_of_part` that a number anywhere in the object can keep one from doing so.

The text searched is the compact JSON of the whole error object.  Whatever part of the object is
printed therefore counts, a code or a number deep inside as much as the message, and a phrase that
is found there rotates whatever the error is about.
-/

namespace Grokbotliq

/-- An error of the HTTP client.  The text it prints names the URL of the request. -/
structure HttpFailure where
  isTimeout : Bool
  display : String → String

structure HttpStatus where
  code : UInt16
  reason : String

namespace HttpStatus

def ok : HttpStatus := ⟨200, "OK"⟩

def isSuccess (s : HttpStatus) : Bool := 200 ≤ s.code && s.code < 300

def display (s : HttpStatus) : String := toString s.code.toNat ++ " " ++ s.reason

end HttpStatus

/-- What becomes of a request: no answer, or a status with a body that is JSON or is not. -/
inductive HttpExchange
  | failed (e : HttpFailure)
  | replied (status : HttpStatus) (body : Except HttpFailure Json)

/-- `HttpJsonRpcTransport::post_json`. -/
def HttpJsonRpcTransport.postJson (rpcUrl : String) (exchange : HttpExchange) :
    Except BootstrapError Json :=
  if rpcUrl.isEmpty || Text.contains rpcUrl "YOUR_" then
    .error (.config ("rpc_url missing or placeholder (" ++ rpcUrl ++ ")"))
  else
    match exchange with
    | .failed e =>
      let msg := e.display rpcUrl
      if e.isTimeout || Text.contains (Text.toLowercase msg) "timed out" then
        .error (.http ("timeout: " ++ msg))
      else .error (.http msg)
    | .replied status (.error e) =>
      .error (.http ("json body (" ++ status.display ++ "): " ++ e.display rpcUrl))
    | .replied status (.ok val) =>
      if status.code = 429 then .error (.http ("HTTP 429: " ++ val.render))
      else if !status.isSuccess then
        .error (.http ("HTTP " ++ status.display ++ ": " ++ val.render))
      else
        match val.get "error" with
        | some err => .error (.rpc err.render)
        | none => .ok val

namespace RotatingRpcPool

/-- What the endpoint at a URL answers; an exchange that takes too long is given up. -/
def answerAt (rpcUrl : String) (exchange : Option HttpExchange) : Except BootstrapError Json :=
  match exchange with
  | some exchange => HttpJsonRpcTransport.postJson rpcUrl exchange
  | none => .error (.http "timeout waiting for RPC")

def answer (p : RotatingRpcPool) (idx : ℕ) (exchange : Option HttpExchange) :
    Except BootstrapError Json := answerAt (p.urls.getD idx "") exchange

/-! ## Pools as configured -/

/-- No URL is missing or a placeholder. -/
def Configured (p : RotatingRpcPool) : Prop :=
  ∀ u ∈ p.urls, u.isEmpty = false ∧ Text.contains u "YOUR_" = false

lemma configured_fromUrls {urls : List String} {p : RotatingRpcPool}
    (h : fromUrls urls = .ok p) : p.Configured := by
  obtain ⟨hurls, -, hplain, -⟩ := fromUrls_eq_ok h
  intro u hu
  obtain ⟨-, hfull⟩ := List.mem_filter.1 (hurls ▸ hu)
  exact ⟨by simpa using hfull, hplain u hu⟩

/-- Calls leave the URLs as they are. -/
lemma exec_runCall_urls {V : Type*} (calls : List (PostCall V)) (p : RotatingRpcPool) :
    (Runs.exec runCall p calls).urls = p.urls := by
  refine Runs.exec_invariant (fun q : RotatingRpcPool => q.urls = p.urls) (fun q c hq => ?_)
    calls rfl
  rw [← hq]
  exact postLoop_urls ..

/-! ## Which application errors end a call -/

/-- What the text of an error is searched for, in lower case. -/
def rotationPhrases : List String :=
  ["429", "too many request", "500", "502", "503", "504", "http 5", "timeout", "timed out",
    "deadline"]

lemma ofMessage_eq_rpcApp_iff {message : String} :
    RpcFailKind.ofMessage message .rpcApp = .rpcApp ↔
      ∀ phrase ∈ rotationPhrases, Text.contains (Text.toLowercase message) phrase = false := by
  simp only [RpcFailKind.ofMessage, rotationPhrases, List.forall_mem_cons, Bool.or_eq_true]
  split_ifs with hrate hserver htime
  · refine iff_of_false (fun h => nomatch h) fun h => ?_
    simp [h.1, h.2.1] at hrate
  · refine iff_of_false (fun h => nomatch h) fun h => ?_
    simp [h] at hserver
  · refine iff_of_false (fun h => nomatch h) fun h => ?_
    simp [h] at htime
  · simp only [not_or, Bool.not_eq_true] at hrate hserver htime
    refine iff_of_true rfl ⟨hrate.1, hrate.2, ?_⟩
    obtain ⟨⟨⟨⟨h500, h502⟩, h503⟩, h504⟩, h5⟩ := hserver
    obtain ⟨⟨htimeout, htimed⟩, hdeadline⟩ := htime
    exact ⟨h500, h502, h503, h504, h5, htimeout, htimed, hdeadline,
      fun _ h => absurd h List.not_mem_nil⟩

lemma classifyError_rpc (message : String) :
    classifyError (.rpc message) = RpcFailKind.ofMessage message .rpcApp := rfl

/-- An error that is not the application's own rotates. -/
lemma rotates_rpc_iff {message : String} :
    Rotates (.error (.rpc message) : Except BootstrapError Json) ↔
      RpcFailKind.ofMessage message .rpcApp ≠ .rpcApp := by
  show (RpcFailKind.ofMessage message .rpcApp).shouldRotate = true ↔ _
  rw [RpcFailKind.ofMessage]
  split_ifs with hrate hserver htime
  · exact iff_of_true rfl (by decide)
  · exact iff_of_true rfl (by decide)
  · exact iff_of_true rfl (by decide)
  · exact iff_of_false (by decide) (by decide)

lemma contains_eq_true_iff {haystack needle : String} :
    Text.contains haystack needle = true ↔ needle.toList <:+: haystack.toList := by
  rw [Text.contains, List.any_eq_true, List.infix_iff_prefix_suffix]
  constructor
  · rintro ⟨tail, htail, hprefix⟩
    exact ⟨tail, List.isPrefixOf_iff_prefix.1 hprefix, (List.mem_tails _ _).1 htail⟩
  · rintro ⟨tail, hprefix, hsuffix⟩
    exact ⟨tail, (List.mem_tails _ _).2 hsuffix, List.isPrefixOf_iff_prefix.2 hprefix⟩

/-- The text of a part is found in the text of the whole. -/
lemma contains_of_part {v err : Json} {phrase : String} (hpart : Json.Part v err)
    (hv : phrase.toList <:+: v.render.toList.map Char.toLower) :
    Text.contains (Text.toLowercase err.render) phrase = true := by
  rw [contains_eq_true_iff, Text.toLowercase, String.toList_ofList]
  exact hv.trans (hpart.infix_render.map Char.toLower)

/-- A phrase that is not escaped stands in the text of a string around it. -/
lemma infix_render_string {phrase : String}
    (hplain : (phrase.toList.flatMap Json.escapeChar).map Char.toLower = phrase.toList)
    (before after : String) :
    phrase.toList <:+:
      (Json.string (before ++ phrase ++ after)).render.toList.map Char.toLower := by
  simp only [Json.render, Json.renderString, String.toList_append, String.toList_ofList,
    List.flatMap_append, List.map_append, hplain, List.append_assoc]
  rw [← List.append_assoc]
  exact List.infix_append' _ _ _

/-- **A phrase in any part of the object rotates**, in a number or a string as in the message. -/
theorem rotates_of_part {v err : Json} {phrase : String} (hphrase : phrase ∈ rotationPhrases)
    (hpart : Json.Part v err) (hv : phrase.toList <:+: v.render.toList.map Char.toLower) :
    Rotates (.error (.rpc err.render) : Except BootstrapError Json) := by
  have hwhole := contains_of_part hpart hv
  refine rotates_rpc_iff.2 fun happ => ?_
  have hnone := ofMessage_eq_rpcApp_iff.1 happ phrase hphrase
  rw [hwhole] at hnone
  exact absurd hnone (by decide)

/-- The digits of a status in the number of an account. -/
theorem rotates_account_number :
    Rotates (.error (.rpc (Json.object [("data", .array [.number (.posInt 14295)])]).render) :
      Except BootstrapError Json) :=
  rotates_of_part (show "429" ∈ rotationPhrases by decide)
    (.field (.elem .whole List.mem_cons_self) List.mem_cons_self) (by decide +kernel)

/-- The answer of a server with an application error. -/
lemma answer_of_error {p : RotatingRpcPool} (hp : p.Configured) {idx : ℕ}
    (hidx : idx < p.urls.length) {status : HttpStatus} {body err : Json}
    (hsuccess : status.isSuccess = true) (herr : body.get "error" = some err) :
    p.answer idx (some (.replied status (.ok body))) = .error (.rpc err.render) := by
  have hmem : p.urls.getD idx "" ∈ p.urls := by
    rw [List.getD_eq_getElem _ _ hidx]
    exact List.getElem_mem hidx
  obtain ⟨hempty, hplain⟩ := hp _ hmem
  have hcode : status.code ≠ 429 := by
    intro h
    rw [HttpStatus.isSuccess, h] at hsuccess
    exact absurd hsuccess (by decide)
  simp only [answer, answerAt, HttpJsonRpcTransport.postJson, hempty, hplain, Bool.or_self,
    Bool.false_eq_true, if_false, if_neg hcode, hsuccess, Bool.not_true, herr]

/-- **Which application errors end a call.**  In a pool of configured URLs, after any calls, an
application error of the current endpoint is classified as one, and is returned after this one
request, exactly when none of the phrases occurs in the text of its whole object. -/
theorem app_error_not_retried_iff {urls : List String} {p₀ : RotatingRpcPool}
    (hpool : fromUrls urls = .ok p₀) (calls : List (PostCall Json))
    (exchanges : ℕ → Option HttpExchange) (elapsed : ℕ → UInt64) {status : HttpStatus}
    {body err : Json} (hsuccess : status.isSuccess = true) (herr : body.get "error" = some err)
    (hreply : exchanges (Runs.exec runCall p₀ calls).currentIndex =
      some (.replied status (.ok body))) :
    let p := Runs.exec runCall p₀ calls
    let out := p.postJson (fun idx => p.answer idx (exchanges idx)) elapsed
    (classifyError (.rpc err.render) = .rpcApp ∧ out.contacted = [p.currentIndex] ∧
        out.result = .error (.rpc err.render)) ↔
      ∀ phrase ∈ rotationPhrases,
        Text.contains (Text.toLowercase err.render) phrase = false := by
  intro p out
  have hready : p.Ready :=
    (Runs.exec_invariant Sound (fun q c hq => hq.postJson c.answers c.elapsed) calls
      (sound_fromUrls hpool)).toReady
  have hconfigured : p.Configured := by
    intro u hu
    rw [exec_runCall_urls calls p₀] at hu
    exact configured_fromUrls hpool u hu
  have hlt : p.currentIndex < p.urls.length := by
    rw [hready.currentIndex_eq]
    exact hready.index_lt
  have hanswer : p.answer p.currentIndex (exchanges p.currentIndex) =
      .error (.rpc err.render) := by
    rw [hreply]
    exact answer_of_error hconfigured hlt hsuccess herr
  constructor
  · rintro ⟨hkind, -, -⟩
    rw [classifyError_rpc] at hkind
    exact ofMessage_eq_rpcApp_iff.1 hkind
  · intro hphrases
    have hkind : classifyError (.rpc err.render) = .rpcApp := by
      rw [classifyError_rpc]
      exact ofMessage_eq_rpcApp_iff.2 hphrases
    obtain ⟨k, hspec⟩ := postJson_spec hready (fun idx => p.answer idx (exchanges idx)) elapsed
    -- the first answer does not rotate, so it is the last
    have hk : k = 0 := by
      by_contra hpos
      have hrotates := hspec.rotated 0 (Nat.pos_of_ne_zero hpos)
      rw [Nat.add_zero, Nat.mod_eq_of_lt hlt, hanswer] at hrotates
      exact rotates_rpc_iff.1 hrotates hkind
    subst hk
    refine ⟨hkind, ?_, ?_⟩
    · rw [hspec.contacted]
      simp [Nat.mod_eq_of_lt hlt]
    · rw [hspec.result, Nat.add_zero, Nat.mod_eq_of_lt hlt, hanswer]

/-! ## Two errors of one server -/

def twoUrls : List String := ["https://a.example/key", "https://b.example"]

/-- An error about the parameters of a call. -/
def invalidParams : Json :=
  .object [("code", .number (.negInt (-32602))), ("message", .string "invalid")]

/-- An error about a slot whose number has the digits of a status. -/
def skippedSlot : Json :=
  .object [("code", .number (.negInt (-32007))),
    ("message", .string "Slot 312429507 was skipped, or missing due to ledger jump")]

/-- Every endpoint answers with the error. -/
def allAnswer (err : Json) : ℕ → Option HttpExchange :=
  fun _ => some (.replied .ok (.ok (.object [("error", err), ("id", .number (.posInt 1))])))

theorem invalidParams_not_retried :
    ∃ p, fromUrls twoUrls = .ok p ∧
      let out := p.postJson (fun idx => p.answer idx (allAnswer invalidParams idx)) fun _ => 20
      (classifyError (.rpc invalidParams.render) = .rpcApp ∧ out.contacted = [p.currentIndex] ∧
        out.result = .error (.rpc invalidParams.render)) := by
  obtain ⟨p, hpool⟩ : ∃ p, fromUrls twoUrls = .ok p := ⟨_, rfl⟩
  have hlower : Text.toLowercase invalidParams.render =
      "\x7b\"code\":-32602,\"message\":\"invalid\"\x7d" := by
    decide +kernel
  refine ⟨p, hpool, (app_error_not_retried_iff hpool [] (allAnswer invalidParams) (fun _ => 20)
    rfl rfl rfl).2 ?_⟩
  rw [hlower]
  decide +kernel

/-- Neither the code nor the words of the message say so, but the error counts as rate limiting
and both endpoints are asked. -/
theorem skippedSlot_retried :
    ∃ p, fromUrls twoUrls = .ok p ∧
      classifyError (.rpc skippedSlot.render) = .rateLimited ∧
      (p.postJson (fun idx => p.answer idx (allAnswer skippedSlot idx)) fun _ => 20).contacted =
        [0, 1] := by
  obtain ⟨p, hpool⟩ : ∃ p, fromUrls twoUrls = .ok p := ⟨_, rfl⟩
  have hready : p.Ready := (sound_fromUrls hpool).toReady
  have hshape : p.urls.length = 2 ∧ p.currentIndex = 0 := by
    cases hpool
    decide
  obtain ⟨hlength, hcurrent⟩ := hshape
  -- the digits of the slot read as the status of rate limiting
  have hdigits : Text.contains (Text.toLowercase skippedSlot.render) "429" = true := by
    refine contains_of_part (.field .whole (List.mem_cons_of_mem _ List.mem_cons_self)) ?_
    exact infix_render_string (by decide) "Slot 312"
      "507 was skipped, or missing due to ledger jump"
  have hkind : classifyError (.rpc skippedSlot.render) = .rateLimited := by
    rw [classifyError_rpc, RpcFailKind.ofMessage, hdigits]
    rfl
  have hrotates : ∀ idx < p.urls.length,
      Rotates (p.answer idx (allAnswer skippedSlot idx)) := by
    intro idx hidx
    have hanswer : p.answer idx (allAnswer skippedSlot idx) = .error (.rpc skippedSlot.render) :=
      answer_of_error (configured_fromUrls hpool) hidx rfl rfl
    rw [hanswer, rotates_rpc_iff, ← classifyError_rpc, hkind]
    decide
  obtain ⟨k, hspec⟩ := postJson_spec hready (fun idx => p.answer idx (allAnswer skippedSlot idx))
    fun _ => 20
  -- every answer rotates, so the call ends at the last endpoint
  have hk : k + 1 = 2 := by
    rcases hspec.stopped with hlast | hstays
    · omega
    · exact absurd (hrotates _ (Nat.mod_lt _ (by omega))) hstays
  refine ⟨p, hpool, hkind, ?_⟩
  rw [hspec.contacted, hk, hlength, hcurrent]
  rfl

end RotatingRpcPool

end Grokbotliq
