import Grokbotliq.Framework.Wire

/-!
# Base-128 groups as a loop, and their canonical form

A loop shifts the groups of a number off its low end; what it has pushed, followed by the encoding
of what is left, stays the encoding of the number (`shiftGroups_eq`).

A number can be written with any number of groups of zeros at its high end.  The encoding writes
none: among the byte strings that decode to a number it is the one without a trailing group of
zeros (`eq_base128_of_decode`).

Canonical does not mean bounded: the bytes of a number of any size are covered, and
`length_base128_le` gives how many there are for a number below a power of 128.
-/

namespace Grokbotliq.Wire

/-! ## The loop -/

/-- `while v >= 0x80 { out.push(((v & 0x7f) as u8) | 0x80); v >>= 7; }`, and the last group. -/
def shiftGroups (v : ℕ) (out : List UInt8) : List UInt8 :=
  if 0x80 ≤ v then shiftGroups (v >>> 7) (out ++ [UInt8.ofNat (v &&& 0x7f) ||| 0x80])
  else out ++ [UInt8.ofNat v]
termination_by v
decreasing_by
  rw [Nat.shiftRight_eq_div_pow]
  omega

/-- The continuation bit is added to the low seven bits. -/
lemma continued_group (v : ℕ) :
    UInt8.ofNat (v &&& 0x7f) ||| 0x80 = UInt8.ofNat (v % 128 + 128) := by
  have hlow : v &&& 0x7f = v % 128 := Nat.and_two_pow_sub_one_eq_mod v 7
  have hbits : ∀ m < 128, UInt8.ofNat m ||| 0x80 = UInt8.ofNat (m + 128) := by decide
  rw [hlow]
  exact hbits _ (Nat.mod_lt v (by norm_num))

theorem shiftGroups_eq (v : ℕ) (out : List UInt8) : shiftGroups v out = out ++ base128 v := by
  induction v using Nat.strong_induction_on generalizing out with
  | _ v ih =>
      rw [shiftGroups]
      split_ifs with hge
      · have hshift : v >>> 7 = v / 128 := Nat.shiftRight_eq_div_pow v 7
        rw [hshift, ih (v / 128) (by omega), continued_group, base128_of_ge hge, List.append_assoc,
          List.singleton_append]
      · rw [base128_of_lt (Nat.lt_of_not_le hge)]

/-! ## Length -/

/-- Each group holds seven bits. -/
lemma length_base128_le {n k : ℕ} (h : n < 128 ^ (k + 1)) : (base128 n).length ≤ k + 1 := by
  induction k generalizing n with
  | zero =>
      rw [base128_of_lt (by simpa using h)]
      exact le_rfl
  | succ k ih =>
      rcases Nat.lt_or_ge n 128 with hlt | hge
      · rw [base128_of_lt hlt]
        exact Nat.le_add_left _ _
      · rw [base128_of_ge hge, List.length_cons]
        apply Nat.succ_le_succ
        apply ih
        rw [Nat.div_lt_iff_lt_mul (by norm_num)]
        exact h

/-! ## The canonical form

A decoder that follows the continuation bits accepts other spellings too. -/

/-- No group of zeros ends the number, unless it is the only group. -/
def NoTrailingZero (bs : List UInt8) : Prop := bs.length = 1 ∨ bs.getLast? ≠ some 0

instance (bs : List UInt8) : Decidable (NoTrailingZero bs) := inferInstanceAs (Decidable (_ ∨ _))

lemma base128_ne_nil (n : ℕ) : base128 n ≠ [] := by
  rw [base128]
  split_ifs <;> exact List.cons_ne_nil _ _

lemma getLast?_base128_ne {n : ℕ} (h : 0 < n) : (base128 n).getLast? ≠ some 0 := by
  induction n using Nat.strong_induction_on with
  | _ n ih =>
      rcases Nat.lt_or_ge n 128 with hlt | hge
      · rw [base128_of_lt hlt, List.getLast?_singleton, ne_eq, Option.some.injEq]
        intro hzero
        have hbyte : (UInt8.ofNat n).toNat = 0 := by
          rw [hzero]
          rfl
        rw [UInt8.toNat_ofNat'] at hbyte
        omega
      · rw [base128_of_ge hge, List.getLast?_cons_of_ne_nil (base128_ne_nil _)]
        exact ih (n / 128) (by omega) (by omega)

theorem noTrailingZero_base128 (n : ℕ) : NoTrailingZero (base128 n) := by
  rcases Nat.eq_zero_or_pos n with rfl | hpos
  · exact Or.inl (by rw [base128_of_lt (by norm_num)]; rfl)
  · exact Or.inr (getLast?_base128_ne hpos)

/-- A decoder takes at least one byte. -/
lemma length_lt_of_decode {bs rest : List UInt8} {n : ℕ} (h : decodeBase128 bs = some (n, rest)) :
    rest.length < bs.length := by
  induction bs generalizing n with
  | nil => exact absurd h (by simp [decodeBase128])
  | cons b bs ih =>
      rw [decodeBase128] at h
      split_ifs at h with hlast
      · obtain ⟨-, rfl⟩ := Prod.mk.inj (Option.some.inj h)
        exact Nat.lt_succ_self _
      · obtain ⟨⟨m, rest'⟩, hm, heq⟩ := Option.map_eq_some_iff.1 h
        obtain ⟨-, rfl⟩ := Prod.mk.inj heq
        exact (ih hm).trans (Nat.lt_succ_self _)

/-- **The encoding is the canonical form** of what decodes to a number. -/
theorem eq_base128_of_decode {bs rest : List UInt8} {n : ℕ}
    (h : decodeBase128 (bs ++ rest) = some (n, rest)) (hcanonical : NoTrailingZero bs) :
    bs = base128 n := by
  induction bs generalizing n with
  | nil => exact absurd (length_lt_of_decode h) (lt_irrefl _)
  | cons b bs ih =>
      have hb : b.toNat < 256 := b.toNat_lt
      rw [List.cons_append, decodeBase128] at h
      split_ifs at h with hlast
      · -- the only group
        obtain ⟨rfl, hrest⟩ := Prod.mk.inj (Option.some.inj h)
        obtain rfl : bs = [] := List.append_left_eq_self.1 hrest
        rw [base128_of_lt hlast, UInt8.ofNat_toNat]
      · obtain ⟨⟨m, rest'⟩, hm, heq⟩ := Option.map_eq_some_iff.1 h
        obtain ⟨rfl, rfl⟩ := Prod.mk.inj heq
        have hne : bs ≠ [] := by
          rintro rfl
          exact absurd (length_lt_of_decode hm) (lt_irrefl _)
        -- The rest ends in no zero either, so it is the groups of its own number, which is not
        -- zero.
        have hzero : bs.getLast? ≠ some 0 := by
          rcases hcanonical with hone | hzero
          · exact absurd (List.length_eq_zero_iff.1 (Nat.succ.inj hone)) hne
          · rwa [List.getLast?_cons_of_ne_nil hne] at hzero
        have hbs := ih hm (Or.inr hzero)
        have hm0 : 0 < m := by
          rcases Nat.eq_zero_or_pos m with rfl | hpos
          · rw [hbs, base128_of_lt (by norm_num)] at hzero
            exact absurd rfl hzero
          · exact hpos
        have hgroup : (b.toNat - 128 + 128 * m) % 128 + 128 = b.toNat := by omega
        have hrest : (b.toNat - 128 + 128 * m) / 128 = m := by omega
        rw [base128_of_ge (by omega), hgroup, hrest, ← hbs, UInt8.ofNat_toNat]

end Grokbotliq.Wire
