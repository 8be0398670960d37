import Grokbotliq.Framework.Outcome

/-!
# Checked 128-bit arithmetic

A `u128` is a natural number and an `i128` an integer.  The saturating operations stop at the top
of the range; the plain ones panic outside of it.  That is what a build does that checks overflow;
a release build wraps there and goes on.  So a panic here stands for the overflow itself, and
"returns a value" says that no step overflows, in which case both builds return that value.  (The
profit gate's signed difference is modelled the other way, wrapping: see `ProfitConfig.evaluate`.)

A loop that adds up what its elements are worth is `checkedSum`: an element may have no worth,
which ends the loop with its error, and the running total may leave the range.  As nothing
negative is added, the loop returns exactly when every element has a worth and the whole sum is
in range, in whatever order the elements come (`checkedSum_eq_ok_iff`).

The exact condition is of use because it is symmetric.  A loop that stops at the first error
returns that error, and which one is first does depend on the order; whether the loop returns a
value does not.
-/

namespace Grokbotliq.MachineInt

/-! ## Numbers -/

def maxU128 : ℕ := 2 ^ 128 - 1

/-- Saturating multiplication on `u128`. -/
def satMulU128 (a b : ℕ) : ℕ := min (a * b) maxU128

lemma satMulU128_lt (a b : ℕ) : satMulU128 a b < 2 ^ 128 := by
  have hle : satMulU128 a b ≤ maxU128 := Nat.min_le_right _ _
  rw [maxU128] at hle
  omega

/-- A second factor shows through saturation. -/
lemma satMulU128_satMulU128 (a b : ℕ) {c : ℕ} (hc : 0 < c) :
    satMulU128 (satMulU128 a b) c = min (a * b * c) maxU128 := by
  rw [satMulU128, satMulU128]
  rcases Nat.le_total (a * b) maxU128 with hle | hge
  · rw [Nat.min_eq_left hle]
  · have htop : maxU128 ≤ maxU128 * c := Nat.le_mul_of_pos_right _ hc
    have habove : maxU128 ≤ a * b * c := hge.trans (Nat.le_mul_of_pos_right _ hc)
    rw [Nat.min_eq_right hge, Nat.min_eq_right htop, Nat.min_eq_right habove]

/-- `n as i128` for a `u128`: the same 128 bits, read as two's complement. -/
def asI128 (n : ℕ) : ℤ := if n < 2 ^ 127 then n else n - 2 ^ 128

lemma asI128_of_lt {n : ℕ} (h : n < 2 ^ 127) : asI128 n = n := if_pos h

/-- Saturating multiplication on `i128`. -/
def satMulI128 (a b : ℤ) : ℤ := max (-2 ^ 127) (min (a * b) (2 ^ 127 - 1))

variable {ε α M : Type*}

/-- A result in range, or the panic of an overflow. -/
def checked (Fits : M → Prop) [DecidablePred Fits] (m : M) : Outcome ε M :=
  if Fits m then .ok m else .panic

lemma checked_eq_ok_iff {Fits : M → Prop} [DecidablePred Fits] {m m' : M} :
    (checked Fits m : Outcome ε M) = .ok m' ↔ m = m' ∧ Fits m := by
  rw [checked]
  split_ifs with hfits <;> simp [hfits]

lemma checked_ne_err {Fits : M → Prop} [DecidablePred Fits] {m : M} {e : ε} :
    checked Fits m ≠ .err e := by
  rw [checked]
  split_ifs <;> simp

/-- Plain subtraction on `u128`. -/
def subU128 (a b : ℕ) : Outcome ε ℕ := if b ≤ a then .ok (a - b) else .panic

abbrev FitsU128 (n : ℕ) : Prop := n ≤ maxU128

abbrev FitsI128 (z : ℤ) : Prop := -2 ^ 127 ≤ z ∧ z < 2 ^ 127

/-- Plain addition on `i128`, in a build that checks for overflow or in one that wraps. -/
def addI128 (checks : Bool) (a b : ℤ) : Outcome ε ℤ :=
  if checks then checked FitsI128 (a + b) else .ok ((a + b).bmod (2 ^ 128))

lemma addI128_of_fits (checks : Bool) {a b : ℤ} (h : FitsI128 (a + b)) :
    (addI128 checks a b : Outcome ε ℤ) = .ok (a + b) := by
  cases checks
  · rw [addI128, if_neg Bool.false_ne_true]
    exact congrArg Outcome.ok (Int.bmod_eq_of_le (by omega) (by omega))
  · exact checked_eq_ok_iff.2 ⟨rfl, h⟩

/-! ## Sums

The loop of every health and of every total in this arithmetic. -/

section Sum

variable [AddCommMonoid M] (Fits : M → Prop) [DecidablePred Fits] (worth : α → Outcome ε M)

/-- The loop that adds what the elements are worth to `acc`. -/
def checkedSum (acc : M) : List α → Outcome ε M
  | [] => .ok acc
  | x :: xs => do
    let v ← worth x
    let acc ← checked Fits (acc + v)
    checkedSum acc xs

variable {Fits worth}

lemma exists_of_checkedSum_eq_err {acc : M} {xs : List α} {e : ε}
    (h : checkedSum Fits worth acc xs = .err e) : ∃ x ∈ xs, worth x = .err e := by
  induction xs generalizing acc with
  | nil => exact absurd h (by simp [checkedSum])
  | cons x xs ih =>
      rcases Outcome.bind_eq_err.1 h with hx | ⟨v, -, hbody⟩
      · exact ⟨x, List.mem_cons_self, hx⟩
      · rcases Outcome.bind_eq_err.1 hbody with hadd | ⟨acc', -, hloop⟩
        · exact absurd hadd checked_ne_err
        · obtain ⟨y, hy, herr⟩ := ih hloop
          exact ⟨y, List.mem_cons_of_mem x hy, herr⟩

/-- With one element at most the loop panics only where the element does. -/
lemma checkedSum_eq_panic_iff {xs : List α} (hone : xs.length ≤ 1)
    (hfits : ∀ x ∈ xs, ∀ v, worth x = .ok v → Fits v) :
    checkedSum Fits worth 0 xs = .panic ↔ ∃ x ∈ xs, worth x = .panic := by
  match xs, hone with
  | [], _ => simp [checkedSum]
  | [x], _ =>
      have hfits := hfits x List.mem_cons_self
      cases hx : worth x with
      | ok v => simp [checkedSum, hx, checked, hfits v hx]
      | err e => simp [checkedSum, hx]
      | panic => simp [checkedSum, hx]

variable [PartialOrder M] [IsOrderedAddMonoid M]

/-- **When the loop returns.**  Every element has a worth and the whole sum is in range. -/
theorem checkedSum_eq_ok_iff (hdown : ∀ a b, 0 ≤ a → a ≤ b → Fits b → Fits a) {xs : List α}
    {value : α → M} (hvalue : ∀ x ∈ xs, ∀ v, worth x = .ok v → v = value x ∧ 0 ≤ v) {acc : M}
    (hacc : 0 ≤ acc) (hfits : Fits acc) {total : M} :
    checkedSum Fits worth acc xs = .ok total ↔
      (∀ x ∈ xs, ∃ v, worth x = .ok v) ∧ total = acc + (xs.map value).sum ∧ Fits total := by
  induction xs generalizing acc with
  | nil =>
      rw [checkedSum, Outcome.ok.injEq]
      constructor
      · rintro rfl
        exact ⟨by simp, by simp, hfits⟩
      · rintro ⟨-, rfl, -⟩
        simp
  | cons x xs ih =>
      have hrest := List.forall_mem_of_forall_mem_cons hvalue
      rw [checkedSum, Outcome.bind_eq_ok, List.map_cons, List.sum_cons, List.forall_mem_cons]
      constructor
      · rintro ⟨v, hx, hbody⟩
        obtain ⟨acc', hadd, hloop⟩ := Outcome.bind_eq_ok.1 hbody
        obtain ⟨rfl, hfits'⟩ := checked_eq_ok_iff.1 hadd
        obtain ⟨rfl, hpos⟩ := hvalue x List.mem_cons_self v hx
        obtain ⟨hall, htotal, hin⟩ := (ih hrest (add_nonneg hacc hpos) hfits').1 hloop
        exact ⟨⟨⟨_, hx⟩, hall⟩, htotal.trans (add_assoc _ _ _), hin⟩
      · rintro ⟨⟨⟨v, hx⟩, hall⟩, htotal, hin⟩
        obtain ⟨rfl, hpos⟩ := hvalue x List.mem_cons_self v hx
        -- The later values are not negative, so every partial sum fits below the total.
        have hsum : 0 ≤ (xs.map value).sum := by
          apply List.sum_nonneg
          intro w hw
          obtain ⟨y, hy, rfl⟩ := List.mem_map.1 hw
          obtain ⟨w, hw⟩ := hall y hy
          obtain ⟨rfl, hnonneg⟩ := hrest y hy w hw
          exact hnonneg
        rw [← add_assoc] at htotal
        have hle : acc + value x ≤ total := htotal ▸ le_add_of_nonneg_right hsum
        have hfits' : Fits (acc + value x) := hdown _ _ (add_nonneg hacc hpos) hle hin
        refine ⟨_, hx, Outcome.bind_eq_ok.2 ⟨_, checked_eq_ok_iff.2 ⟨rfl, hfits'⟩, ?_⟩⟩
        exact (ih hrest (add_nonneg hacc hpos) hfits').2 ⟨hall, htotal, hin⟩

end Sum

/-- The loop over `u128` values, for elements whose worth is known. -/
lemma checkedSum_nat_eq_ok_iff {worth : α → Outcome ε ℕ} {HasWorth : α → Prop} {value : α → ℕ}
    (h : ∀ x v, worth x = .ok v ↔ HasWorth x ∧ v = value x) {xs : List α} {total : ℕ} :
    checkedSum FitsU128 worth 0 xs = .ok total ↔
      (∀ x ∈ xs, HasWorth x) ∧ total = (xs.map value).sum ∧ FitsU128 total := by
  have hdown : ∀ a b : ℕ, 0 ≤ a → a ≤ b → FitsU128 b → FitsU128 a :=
    fun a b _ hle hb => hle.trans hb
  have hvalue : ∀ x ∈ xs, ∀ v, worth x = .ok v → v = value x ∧ 0 ≤ v :=
    fun x _ v hv => ⟨((h x v).1 hv).2, Nat.zero_le v⟩
  rw [checkedSum_eq_ok_iff hdown hvalue le_rfl (Nat.zero_le _), zero_add]
  apply and_congr_left'
  simp only [h, exists_and_left, exists_eq, and_true]

end Grokbotliq.MachineInt
