import Mathlib

/-!
# Computations that return, fail or panic

`Outcome ε α` is what a call of a fallible function comes to: a value, an error the caller can
match on, or a panic (an index out of range, a failed assertion), which no caller sees.  The
three are kept apart so that "returns an error" and "does not return" are different statements.

A list of calls stops at the first outcome that is not a value.  `forall₂_of_mapM_eq_ok` and
`exists_foldlM_eq_ok` take such a list apart when it returns; `mapM_eq_panic_iff` is the converse
for calls that have no errors.
-/

namespace Grokbotliq

/-- The outcome of a call. -/
inductive Outcome (ε α : Type*)
  /-- The call returns a value. -/
  | ok (a : α)
  /-- The call returns an error. -/
  | err (e : ε)
  /-- The call panics. -/
  | panic
  deriving DecidableEq

namespace Outcome

variable {ε α β : Type*}

/-- The call returns a value. -/
def isOk : Outcome ε α → Bool
  | ok _ => true
  | err _ => false
  | panic => false

lemma isOk_iff {x : Outcome ε α} : x.isOk = true ↔ ∃ a, x = ok a := by
  cases x <;> simp [isOk]

/-- Sequencing: the first outcome that is not a value is the outcome. -/
protected def bind (x : Outcome ε α) (f : α → Outcome ε β) : Outcome ε β :=
  match x with
  | ok a => f a
  | err e => err e
  | panic => panic

instance {ε : Type*} : Monad (Outcome ε) where
  pure := ok
  bind := Outcome.bind

@[simp] lemma pure_eq (a : α) : (pure a : Outcome ε α) = ok a := rfl

@[simp] lemma ok_bind {α β : Type _} (a : α) (f : α → Outcome ε β) : (ok a >>= f) = f a := rfl

@[simp] lemma err_bind {α β : Type _} (e : ε) (f : α → Outcome ε β) :
    ((err e : Outcome ε α) >>= f) = err e := rfl

@[simp] lemma panic_bind {α β : Type _} (f : α → Outcome ε β) :
    ((panic : Outcome ε α) >>= f) = panic := rfl

lemma bind_eq_ok {α β : Type _} {x : Outcome ε α} {f : α → Outcome ε β} {b : β} :
    (x >>= f) = ok b ↔ ∃ a, x = ok a ∧ f a = ok b := by
  cases x <;> simp

lemma bind_eq_err {α β : Type _} {x : Outcome ε α} {f : α → Outcome ε β} {e : ε} :
    (x >>= f) = err e ↔ x = err e ∨ ∃ a, x = ok a ∧ f a = err e := by
  cases x <;> simp

lemma bind_eq_panic {α β : Type _} {x : Outcome ε α} {f : α → Outcome ε β} :
    (x >>= f) = panic ↔ x = panic ∨ ∃ a, x = ok a ∧ f a = panic := by
  cases x <;> simp

instance {ε : Type*} : LawfulMonad (Outcome ε) := by
  refine LawfulMonad.mk' _ ?_ ?_ ?_
  · intro α x
    cases x <;> rfl
  · intro α β a f
    rfl
  · intro α β γ x f g
    cases x <;> rfl

/-- A loop returns when every round of it does. -/
lemma exists_foldlM_eq_ok {α β : Type _} {f : β → α → Outcome ε β} {xs : List α}
    (h : ∀ b, ∀ a ∈ xs, ∃ b', f b a = ok b') (b : β) : ∃ b', xs.foldlM f b = ok b' := by
  induction xs generalizing b with
  | nil => exact ⟨b, rfl⟩
  | cons a xs ih =>
      obtain ⟨b', hb'⟩ := h b a List.mem_cons_self
      obtain ⟨r, hr⟩ := ih (fun b a ha => h b a (List.mem_cons_of_mem _ ha)) b'
      exact ⟨r, by rw [List.foldlM_cons, hb', ok_bind, hr]⟩

/-- Without errors, a list of calls panics when one of them does. -/
lemma mapM_eq_panic_iff {α β : Type} {f : α → Outcome Empty β} {xs : List α} :
    xs.mapM f = panic ↔ ∃ x ∈ xs, f x = panic := by
  induction xs with
  | nil => simp
  | cons x xs ih =>
      rw [List.mapM_cons, bind_eq_panic, List.exists_mem_cons_iff, ← ih]
      cases hx : f x with
      | ok y => simp [bind_eq_panic]
      | err e => exact e.elim
      | panic => simp

/-- A list of calls returns what each of them returns. -/
lemma forall₂_of_mapM_eq_ok {ε α β : Type} {f : α → Outcome ε β} {xs : List α} {ys : List β}
    (h : xs.mapM f = ok ys) : List.Forall₂ (fun x y => f x = ok y) xs ys := by
  induction xs generalizing ys with
  | nil =>
      rw [List.mapM_nil, pure_eq] at h
      obtain rfl := ok.inj h
      exact List.Forall₂.nil
  | cons x xs ih =>
      rw [List.mapM_cons] at h
      obtain ⟨y, hy, hrest⟩ := bind_eq_ok.1 h
      obtain ⟨ys', hys, hcons⟩ := bind_eq_ok.1 hrest
      obtain rfl := ok.inj hcons
      exact List.Forall₂.cons hy (ih hys)

end Outcome

end Grokbotliq
