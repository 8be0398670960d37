import Grokbotliq.Streaming.RpcServer
import Grokbotliq.Streaming.SecretUrls

/-!
# Networks that answer

In a steady network every endpoint answers a request at once and in one way, whichever endpoint
it is and however often it was asked.  There the pool no longer matters: a call over any pool that
was built of URLs comes to what its requests are answered (`run_post_steady`).  What discovery and
startup make of a network can so be read off their requests, one at a time.

Such networks are what the examples of discovery and of startup run over.  The pool may be in any
state it can be left in by earlier calls, and stays configured and sound (`configured_post`,
`sound_post`).
-/

namespace Grokbotliq

/-- A network whose endpoints all answer a request so, after twenty microseconds. -/
def World.steady (serve : Json → Json) : World := fun _ _ body =>
  (some (.replied .ok (.ok (serve body))), 20)

open RpcServer

namespace RotatingRpcPool

variable {serve : Json → Json} {p : RotatingRpcPool}

lemma answerAt_replied {url : String}
    (hurl : url.isEmpty = false ∧ Text.contains url "YOUR_" = false) (response : Json) :
    answerAt url (some (.replied .ok (.ok response))) = readResponse response := by
  simp only [answerAt, HttpJsonRpcTransport.postJson, hurl.1, hurl.2, Bool.or_self,
    Bool.false_eq_true, if_false]
  rfl

lemma Configured.answer (h : p.Configured) {idx : ℕ} (hidx : idx < p.urls.length)
    (response : Json) :
    p.answer idx (some (.replied .ok (.ok response))) = readResponse response := by
  refine answerAt_replied (h _ ?_) response
  rw [List.getD_eq_getElem _ _ hidx]
  exact List.getElem_mem hidx

end RotatingRpcPool

namespace Session

variable {α : Type} {serve : Json → Json} {s : Session}

/-- Whichever endpoint the request ends at, the answer is the same. -/
lemma post_steady (hsound : s.pool.Sound) (hconf : s.pool.Configured) (body : Json) :
    (s.post (.steady serve) body).2 = readResponse (serve body) := by
  obtain ⟨k, hk⟩ := RotatingRpcPool.postJson_spec hsound.toReady
    (s.answers (.steady serve) body) fun _ => 20
  exact hk.result.trans (hconf.answer (Nat.mod_lt _ hsound.nonempty) (serve body))

lemma sound_post {world : World} (h : s.pool.Sound) (body : Json) :
    (s.post world body).1.pool.Sound := h.postJson _ _

lemma configured_post {world : World} (h : s.pool.Configured) (body : Json) :
    (s.post world body).1.pool.Configured := fun u hu =>
  h u (RotatingRpcPool.postLoop_urls .. ▸ hu)

/-- **A call in a steady network** comes to what its requests are answered, and leaves a pool for
the next call. -/
theorem run_post_steady (hsound : s.pool.Sound) (hconf : s.pool.Configured) (x : Call α) :
    (RequestProg.run (post (.steady serve)) s x).2 =
        Call.answered (fun request => readResponse (serve request)) x ∧
      (RequestProg.run (post (.steady serve)) s x).1.pool.Sound ∧
      (RequestProg.run (post (.steady serve)) s x).1.pool.Configured := by
  -- The two runs stay related: the pool stays sound and keeps its URLs, the other has no state.
  refine RequestProg.run_eq_of_steps (P := fun _ _ => True)
    (R := fun (s : Session) (_ : Unit) => s.pool.Sound ∧ s.pool.Configured)
    (fun s _ body hs _ => ⟨post_steady hs.1 hs.2 body, sound_post hs.1 body,
      configured_post hs.2 body⟩) x ⟨hsound, hconf⟩ ?_
  exact RequestProg.steps_of_invariant (I := fun _ => True) (fun _ _ _ => trivial)
    (fun _ _ _ => trivial) x trivial

end Session

end Grokbotliq
