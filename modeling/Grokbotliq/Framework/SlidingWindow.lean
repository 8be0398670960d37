import Mathlib

/-!
# Sums over a sliding window

Events carry an instant and an amount.  `recent W now es` are those a limiter that prunes at
`now` still remembers; forgetting twice is forgetting once, at the later instant
(`recent_recent`), so a limiter may prune whenever it likes.

`WithinBudget W L es` says that the amounts in every closed interval of length `W` come to at
most `L`.  A limiter that admits an amount only when it fits beside the recent ones keeps this,
although the admitted event is booked at an instant later than the check
(`WithinBudget.append`).

The sum of an interval is compared with what was remembered when its last amount was admitted:
everything of the interval that came before was still remembered then (`load_recent_le`), so the
limit that was checked bounds all of it.
-/

namespace Grokbotliq.SlidingWindow

variable {α : Type*}

/-- The events remembered at `now`; an event later than `now` has age zero. -/
def recent (W now : ℕ) (es : List (ℕ × α)) : List (ℕ × α) :=
  es.filter fun e => now - e.1 ≤ W

/-- The events of the closed interval from `lo` to `hi`. -/
def between (lo hi : ℕ) (es : List (ℕ × α)) : List (ℕ × α) :=
  es.filter fun e => lo ≤ e.1 ∧ e.1 ≤ hi

/-- The sum of the amounts. -/
def load (amount : α → ℕ) (es : List (ℕ × α)) : ℕ := (es.map fun e => amount e.2).sum

@[simp] lemma load_nil (amount : α → ℕ) : load amount [] = 0 := rfl

@[simp] lemma load_cons (amount : α → ℕ) (e : ℕ × α) (es : List (ℕ × α)) :
    load amount (e :: es) = amount e.2 + load amount es := by
  simp [load]

@[simp] lemma load_append (amount : α → ℕ) (es es' : List (ℕ × α)) :
    load amount (es ++ es') = load amount es + load amount es' := by
  simp [load]

lemma load_le_of_sublist (amount : α → ℕ) {es es' : List (ℕ × α)} (h : es.Sublist es') :
    load amount es ≤ load amount es' :=
  List.Sublist.sum_le_sum (h.map _) fun _ _ => Nat.zero_le _

/-! ## Forgetting -/

/-- What is forgotten at an instant is forgotten at every later one. -/
lemma recent_recent {W t t' : ℕ} (h : t ≤ t') (es : List (ℕ × α)) :
    recent W t' (recent W t es) = recent W t' es := by
  rw [recent, recent, List.filter_filter]
  refine List.filter_congr fun e _ => ?_
  simp only [← Bool.decide_and]
  exact decide_eq_decide.2 ⟨fun hand => hand.1, fun hle => ⟨hle, by omega⟩⟩

lemma recent_append (W now : ℕ) (es es' : List (ℕ × α)) :
    recent W now (es ++ es') = recent W now es ++ recent W now es' := List.filter_append _ _

/-! ## Budgets

The check and the booking are two events, and the clock may go on between them. -/

/-- In no closed interval of length `W` do the amounts exceed `L`. -/
def WithinBudget (amount : α → ℕ) (W L : ℕ) (es : List (ℕ × α)) : Prop :=
  ∀ lo, load amount (between lo (lo + W) es) ≤ L

namespace WithinBudget

variable {amount : α → ℕ} {W L : ℕ} {es : List (ℕ × α)}

lemma nil : WithinBudget amount W L [] := fun _ => Nat.zero_le L

/-- What is remembered lies in one interval. -/
lemma load_recent_le (h : WithinBudget amount W L es) {now : ℕ}
    (hpast : ∀ e ∈ es, e.1 ≤ now) : load amount (recent W now es) ≤ L := by
  have hsame : recent W now es = between (now - W) (now - W + W) es := by
    refine List.filter_congr fun e he => decide_eq_decide.2 ?_
    have := hpast e he
    omega
  rw [hsame]
  exact h (now - W)

/-- An amount that fits beside what is remembered at the check may be booked at any later
instant. -/
lemma append (h : WithinBudget amount W L es) {checked booked : ℕ} {a : α}
    (hlater : checked ≤ booked) (hfits : load amount (recent W checked es) + amount a ≤ L) :
    WithinBudget amount W L (es ++ [(booked, a)]) := by
  intro lo
  have hsplit : between lo (lo + W) (es ++ [(booked, a)]) =
      between lo (lo + W) es ++ between lo (lo + W) [(booked, a)] := List.filter_append _ _
  rw [hsplit, load_append]
  by_cases hin : lo ≤ booked ∧ booked ≤ lo + W
  · -- every earlier event of the interval was still remembered at the check
    have hsub : (between lo (lo + W) es).Sublist (recent W checked es) := by
      refine List.monotone_filter_right es fun e he => ?_
      simp only [decide_eq_true_eq] at he ⊢
      omega
    have hone : load amount (between lo (lo + W) [(booked, a)]) = amount a := by
      simp [between, hin]
    have hold := load_le_of_sublist amount hsub
    omega
  · have hnone : between lo (lo + W) [(booked, a)] = [] := by
      simpa [between] using hin
    rw [hnone, load_nil, Nat.add_zero]
    exact h lo

end WithinBudget

end Grokbotliq.SlidingWindow
