import Mathlib

/-!
# Base64

The standard alphabet with padding: three bytes are four characters of six bits each, and a text
ends with one or two signs of padding where the last group is short.  A decoder takes groups of
four characters, wants padding nowhere but at the end, and the bits that padding leaves over to be
zero.  It reads back what the encoder writes (`Base64.decode_encode`), group by group.

The decoder recurses as the encoder does, three bytes against four characters.  What it has to
tell is which group is the last: the one with nothing after it, so the encoder must not go on with
an empty rest (`encodeChars_ne_nil`).
-/

namespace Grokbotliq.Base64

def alphabet : List Char :=
  "ABCDEFGHIJKLMNOPQRSTUVWXYZabcdefghijklmnopqrstuvwxyz0123456789+/".toList

/-- The character of six bits. -/
def symbol (n : ℕ) : Char := alphabet.getD (n % 64) 'A'

def symbolValue (ch : Char) : Option ℕ := alphabet.idxOf? ch

/-! ## Encoding -/

/-- The characters of the bytes, group by group. -/
def encodeChars : List UInt8 → List Char
  | a :: b :: c :: rest =>
    let n := a.toNat * 65536 + b.toNat * 256 + c.toNat
    symbol (n / 262144) :: symbol (n / 4096) :: symbol (n / 64) :: symbol n :: encodeChars rest
  | [a, b] =>
    let n := a.toNat * 1024 + b.toNat * 4
    [symbol (n / 4096), symbol (n / 64), symbol n, '=']
  | [a] =>
    let n := a.toNat * 16
    [symbol (n / 64), symbol n, '=', '=']
  | [] => []

def encode (bytes : List UInt8) : String := String.ofList (encodeChars bytes)

/-! ## Decoding -/

/-- The last group: three, two or one bytes, as it has no, one or two signs of padding. -/
def decodeLast (w x y z : Char) : Option (List UInt8) := do
  let p ← symbolValue w
  let q ← symbolValue x
  if y = '=' ∧ z = '=' then
    let n := p * 64 + q
    if n % 16 = 0 then some [UInt8.ofNat (n / 16)] else none
  else
    let r ← symbolValue y
    if z = '=' then
      let n := p * 4096 + q * 64 + r
      if n % 4 = 0 then some [UInt8.ofNat (n / 1024), UInt8.ofNat (n / 4)] else none
    else
      let s ← symbolValue z
      let n := p * 262144 + q * 4096 + r * 64 + s
      some [UInt8.ofNat (n / 65536), UInt8.ofNat (n / 256), UInt8.ofNat n]

/-- A group that is not the last has no padding. -/
def decodeGroup (w x y z : Char) : Option (List UInt8) :=
  if y = '=' ∨ z = '=' then none else decodeLast w x y z

def decodeChars : List Char → Option (List UInt8)
  | [] => some []
  | [w, x, y, z] => decodeLast w x y z
  | w :: x :: y :: z :: rest => do
    let here ← decodeGroup w x y z
    let more ← decodeChars rest
    return here ++ more
  | _ => none

def decode (text : String) : Option (List UInt8) := decodeChars text.toList

/-! ## Reading back -/

lemma symbolValue_symbol (n : ℕ) : symbolValue (symbol n) = some (n % 64) := by
  have hall : ∀ d < 64, symbolValue (alphabet.getD d 'A') = some d := by decide
  exact hall (n % 64) (Nat.mod_lt _ (by norm_num))

/-- Padding is no character of the alphabet. -/
lemma symbol_ne_padding (n : ℕ) : symbol n ≠ '=' := by
  intro h
  have hnone : symbolValue '=' = none := by decide
  have hvalue := symbolValue_symbol n
  rw [h, hnone] at hvalue
  cases hvalue

lemma decodeLast_three (a b c : UInt8) :
    decodeLast (symbol ((a.toNat * 65536 + b.toNat * 256 + c.toNat) / 262144))
        (symbol ((a.toNat * 65536 + b.toNat * 256 + c.toNat) / 4096))
        (symbol ((a.toNat * 65536 + b.toNat * 256 + c.toNat) / 64))
        (symbol (a.toNat * 65536 + b.toNat * 256 + c.toNat)) = some [a, b, c] := by
  have ha := a.toNat_lt
  have hb := b.toNat_lt
  have hc := c.toNat_lt
  simp only [decodeLast, symbolValue_symbol, symbol_ne_padding, Option.bind_eq_bind,
    Option.bind_some, false_and, if_false]
  refine congrArg some
    (congrArg₂ List.cons ?_ (congrArg₂ List.cons ?_ (congrArg₂ List.cons ?_ rfl)))
  all_goals
    rw [← UInt8.toNat_inj, UInt8.toNat_ofNat']
    omega

lemma decodeLast_two (a b : UInt8) :
    decodeLast (symbol ((a.toNat * 1024 + b.toNat * 4) / 4096))
        (symbol ((a.toNat * 1024 + b.toNat * 4) / 64)) (symbol (a.toNat * 1024 + b.toNat * 4)) '=' =
      some [a, b] := by
  have ha := a.toNat_lt
  have hb := b.toNat_lt
  simp only [decodeLast, symbolValue_symbol, symbol_ne_padding, Option.bind_eq_bind,
    Option.bind_some, false_and, if_false, if_true]
  rw [if_pos (by omega)]
  refine congrArg some (congrArg₂ List.cons ?_ (congrArg₂ List.cons ?_ rfl))
  all_goals
    rw [← UInt8.toNat_inj, UInt8.toNat_ofNat']
    omega

lemma decodeLast_one (a : UInt8) :
    decodeLast (symbol (a.toNat * 16 / 64)) (symbol (a.toNat * 16)) '=' '=' = some [a] := by
  have ha := a.toNat_lt
  simp only [decodeLast, symbolValue_symbol, Option.bind_eq_bind, Option.bind_some, and_self,
    if_true]
  rw [if_pos (by omega)]
  refine congrArg some (congrArg₂ List.cons ?_ rfl)
  rw [← UInt8.toNat_inj, UInt8.toNat_ofNat']
  omega

lemma encodeChars_ne_nil {bytes : List UInt8} (h : bytes ≠ []) : encodeChars bytes ≠ [] := by
  induction bytes using encodeChars.induct with
  | case1 a b c rest => simp [encodeChars]
  | case2 a b => simp [encodeChars]
  | case3 a => simp [encodeChars]
  | case4 => exact absurd rfl h

lemma decodeChars_encodeChars (bytes : List UInt8) :
    decodeChars (encodeChars bytes) = some bytes := by
  induction bytes using encodeChars.induct with
  | case1 a b c rest ih =>
      by_cases hrest : rest = []
      · subst hrest
        exact decodeLast_three a b c
      · -- More characters follow, so the group is one without padding.
        have hgroup := decodeLast_three a b c
        obtain ⟨ch, chars, hchars⟩ := List.exists_cons_of_ne_nil (encodeChars_ne_nil hrest)
        rw [hchars] at ih
        rw [encodeChars, hchars, decodeChars, decodeGroup, if_neg (by simp [symbol_ne_padding]),
          hgroup, ih]
        · rfl
        · simp
  | case2 a b => exact decodeLast_two a b
  | case3 a => exact decodeLast_one a
  | case4 => rfl

/-- **What is encoded is read back.** -/
theorem decode_encode (bytes : List UInt8) : decode (encode bytes) = some bytes := by
  rw [decode, encode, String.toList_ofList, decodeChars_encodeChars]

example : encode [0x66, 0x6F, 0x6F, 0x62] = "Zm9vYg==" ∧ decode "Zm9vYh==" = none := by
  decide +kernel

end Grokbotliq.Base64
