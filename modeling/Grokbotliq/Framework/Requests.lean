import Mathlib

/-!
# Programs that send requests

A program is a tree: it is done, or it sends a request and goes on with the response.  Requests
are answered by a handler, which has a state of its own.  A program knows its handler by the
responses alone, so two runs of it come to the same as long as the two handlers respond alike,
step by step (`RequestProg.run_eq_of_steps`).

A relation between two handlers is carried along the run.  It has to be kept only by the requests
that the program really sends, in the states in which it sends them, and `Steps` says what these
are.
-/

namespace Grokbotliq

/-- A program with requests `ρ` and responses `ω` that comes to an `α`. -/
inductive RequestProg (ρ ω α : Type)
  | done (a : α)
  | ask (request : ρ) (next : ω → RequestProg ρ ω α)

namespace RequestProg

variable {ρ ω α β σ τ : Type}

/-- One program after the other. -/
protected def bind : RequestProg ρ ω α → (α → RequestProg ρ ω β) → RequestProg ρ ω β
  | done a, f => f a
  | ask request next, f => ask request fun response => (next response).bind f

/-- What a handler leaves and the program comes to. -/
def run (handler : σ → ρ → σ × ω) (s : σ) : RequestProg ρ ω α → σ × α
  | done a => (s, a)
  | ask request next => (next (handler s request).2).run handler (handler s request).1

/-- A program that goes on runs on from where the first part leaves the handler. -/
theorem run_bind (handler : σ → ρ → σ × ω) (p : RequestProg ρ ω α) (f : α → RequestProg ρ ω β)
    (s : σ) :
    (p.bind f).run handler s = (f (p.run handler s).2).run handler (p.run handler s).1 := by
  induction p generalizing s with
  | done a => rfl
  | ask request next ih => exact ih (handler s request).2 (handler s request).1

/-- Every request of the run is sent in a state in which `P` holds of it. -/
def Steps (handler : σ → ρ → σ × ω) (P : σ → ρ → Prop) (s : σ) : RequestProg ρ ω α → Prop
  | done _ => True
  | ask request next =>
    P s request ∧ (next (handler s request).2).Steps handler P (handler s request).1

/-- **Two runs of one program.**  If the handlers respond alike in related states wherever `P`
holds, and stay related, then a run whose requests all meet `P` comes to the same under both. -/
theorem run_eq_of_steps {handler : σ → ρ → σ × ω} {handler' : τ → ρ → τ × ω}
    {R : σ → τ → Prop} {P : σ → ρ → Prop}
    (hstep : ∀ s t request, R s t → P s request →
      (handler s request).2 = (handler' t request).2 ∧
        R (handler s request).1 (handler' t request).1)
    (p : RequestProg ρ ω α) {s : σ} {t : τ} (hst : R s t) (hP : p.Steps handler P s) :
    (p.run handler s).2 = (p.run handler' t).2 ∧
      R (p.run handler s).1 (p.run handler' t).1 := by
  induction p generalizing s t with
  | done a => exact ⟨rfl, hst⟩
  | ask request next ih =>
      obtain ⟨hhere, hrest⟩ := hP
      obtain ⟨hresponse, hnext⟩ := hstep s t request hst hhere
      have hrun := ih (handler s request).2 hnext hrest
      rw [run, run, ← hresponse]
      exact hrun

/-- What holds of every request sent in a state of an invariant holds along the run. -/
lemma steps_of_invariant {handler : σ → ρ → σ × ω} {I : σ → Prop} {P : σ → ρ → Prop}
    (hI : ∀ s request, I s → I (handler s request).1) (hP : ∀ s request, I s → P s request)
    (p : RequestProg ρ ω α) {s : σ} (hs : I s) : p.Steps handler P s := by
  induction p generalizing s with
  | done a => trivial
  | ask request next ih => exact ⟨hP s request hs, ih _ (hI s request hs)⟩

end RequestProg

end Grokbotliq
