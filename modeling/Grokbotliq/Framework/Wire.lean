import Mathlib

/-!
# Bytes on the wire

Writers produce a list of bytes and readers consume a front part of one.  The single notion
relating them is `Reads r bs a`: from any input that begins with `bs`, the reader `r` returns
`a` and leaves exactly what follows `bs`.  It composes along `bind` as the bytes concatenate,
so a format is verified one field at a time, in the order in which its fields stand.

Two integer encodings are covered: fixed-width little-endian (`leBytes`) and base-128 groups
with a continuation bit (`base128`).

`Reads` has the rest of the input in it, so it needs no framing; `Exact` is stronger and says of a
reader that the encodings are all it accepts, which makes it and the encoding inverse to each
other.  A table of equal entries goes by `reads_many`, once for each kind of entry.
-/

namespace Grokbotliq.Wire

/-! ## Little-endian integers -/

/-- The `w` low bytes of `n`, least significant first. -/
def leBytes : ℕ → ℕ → List UInt8
  | 0, _ => []
  | w + 1, n => UInt8.ofNat (n % 256) :: leBytes w (n / 256)

/-- The integer a little-endian byte string denotes. -/
def ofLeBytes : List UInt8 → ℕ
  | [] => 0
  | b :: bs => b.toNat + 256 * ofLeBytes bs

@[simp] lemma length_leBytes (w n : ℕ) : (leBytes w n).length = w := by
  induction w generalizing n with
  | zero => rfl
  | succ w ih => rw [leBytes, List.length_cons, ih]

lemma ofLeBytes_leBytes (w n : ℕ) : ofLeBytes (leBytes w n) = n % 256 ^ w := by
  induction w generalizing n with
  | zero => simp [leBytes, ofLeBytes, Nat.mod_one]
  | succ w ih =>
      have hbyte : (UInt8.ofNat (n % 256)).toNat = n % 256 := by
        rw [UInt8.toNat_ofNat']
        omega
      rw [leBytes, ofLeBytes, hbyte, ih, Nat.pow_succ, Nat.mul_comm (256 ^ w) 256, Nat.mod_mul]

/-- A value that fits in `w` bytes is read back. -/
lemma ofLeBytes_leBytes_of_lt {w n : ℕ} (h : n < 256 ^ w) : ofLeBytes (leBytes w n) = n := by
  rw [ofLeBytes_leBytes, Nat.mod_eq_of_lt h]

/-- Bytes are the encoding of what they denote. -/
lemma leBytes_ofLeBytes (bs : List UInt8) : leBytes bs.length (ofLeBytes bs) = bs := by
  induction bs with
  | nil => rfl
  | cons b bs ih =>
      have hb : b.toNat < 256 := b.toNat_lt
      have hlow : (b.toNat + 256 * ofLeBytes bs) % 256 = b.toNat := by omega
      have hhigh : (b.toNat + 256 * ofLeBytes bs) / 256 = ofLeBytes bs := by omega
      rw [List.length_cons, ofLeBytes, leBytes, hlow, hhigh, ih, UInt8.ofNat_toNat]

lemma ofLeBytes_lt (bs : List UInt8) : ofLeBytes bs < 256 ^ bs.length := by
  induction bs with
  | nil => exact Nat.one_pos
  | cons b bs ih =>
      have hb : b.toNat < 256 := b.toNat_lt
      rw [ofLeBytes, List.length_cons, Nat.pow_succ]
      omega

/-! ## Readers -/

/-- A reader of a value at the front of the input. -/
abbrev Reader (α : Type) := StateT (List UInt8) Option α

/-- `r` reads exactly `bs` off the front of any input and returns `a`. -/
def Reads {α : Type} (r : Reader α) (bs : List UInt8) (a : α) : Prop :=
  ∀ rest, r.run (bs ++ rest) = some (a, rest)

variable {α β : Type}

lemma Reads.pure (a : α) : Reads (Pure.pure a) [] a := fun _ => rfl

lemma Reads.bind {r : Reader α} {f : α → Reader β} {bs cs : List UInt8} {a : α} {b : β}
    (hr : Reads r bs a) (hf : Reads (f a) cs b) : Reads (r >>= f) (bs ++ cs) b := by
  intro rest
  rw [StateT.run_bind, List.append_assoc, hr]
  exact hf rest

/-- A reader that read everything leaves nothing. -/
lemma Reads.run_eq {r : Reader α} {bs : List UInt8} {a : α} (h : Reads r bs a) :
    r.run bs = some (a, []) := by
  simpa using h []

/-- One byte. -/
def readByte : Reader UInt8 := fun
  | [] => none
  | b :: rest => some (b, rest)

lemma reads_byte (b : UInt8) : Reads readByte [b] b := fun _ => rfl

/-- The literal byte `b`; any other byte is refused. -/
def readLiteral (b : UInt8) : Reader Unit := do
  let c ← readByte
  if c = b then Pure.pure () else failure

lemma reads_literal (b : UInt8) : Reads (readLiteral b) [b] () := by
  intro rest
  simp [readLiteral, readByte, StateT.run, Bind.bind, StateT.bind, Pure.pure, StateT.pure]

/-- Nothing is read; the input is refused unless `c` holds. -/
def check (c : Prop) [Decidable c] : Reader Unit := if c then Pure.pure () else failure

lemma reads_check {c : Prop} [Decidable c] (h : c) : Reads (check c) [] () := by
  rw [check, if_pos h]
  exact Reads.pure ()

/-- Exactly `n` bytes. -/
def readBytes (n : ℕ) : Reader (List UInt8) := fun input =>
  if n ≤ input.length then some (input.take n, input.drop n) else none

lemma reads_bytes (bs : List UInt8) : Reads (readBytes bs.length) bs bs := by
  intro rest
  simp [readBytes, StateT.run]

/-- `n` values one after another. -/
def readMany (r : Reader α) : ℕ → Reader (List α)
  | 0 => Pure.pure []
  | n + 1 => do
      let a ← r
      let as ← readMany r n
      Pure.pure (a :: as)

/-- If each element's encoding reads back, the concatenated encodings read back. -/
theorem reads_many {γ : Type} {r : Reader α} (enc : γ → List UInt8) (val : γ → α) :
    ∀ (xs : List γ), (∀ x ∈ xs, Reads r (enc x) (val x)) →
      Reads (readMany r xs.length) (xs.flatMap enc) (xs.map val)
  | [], _ => Reads.pure []
  | x :: xs, h => by
      have htail : Reads (readMany r xs.length) (xs.flatMap enc) (xs.map val) :=
        reads_many enc val xs fun y hy => h y (List.mem_cons_of_mem _ hy)
      have hcons := htail.bind (f := fun as => Pure.pure (val x :: as))
        (Reads.pure (val x :: xs.map val))
      rw [List.append_nil] at hcons
      exact (h x List.mem_cons_self).bind hcons

/-! ## Readers of exactly the encodings -/

/-- `r` accepts the encodings with anything after them, and nothing else. -/
def Exact (r : Reader α) (enc : α → List UInt8) : Prop :=
  ∀ (input : List UInt8) (a : α) (rest : List UInt8),
    r.run input = some (a, rest) ↔ input = enc a ++ rest

lemma Exact.bind_iff {r : Reader α} {enc : α → List UInt8} (h : Exact r enc) {f : α → Reader β}
    {input rest : List UInt8} {b : β} :
    (r >>= f).run input = some (b, rest) ↔
      ∃ a mid, input = enc a ++ mid ∧ (f a).run mid = some (b, rest) := by
  rw [StateT.run_bind]
  constructor
  · intro hrun
    obtain ⟨⟨a, mid⟩, hr, hf⟩ := Option.bind_eq_some_iff.1 hrun
    exact ⟨a, mid, (h _ _ _).1 hr, hf⟩
  · rintro ⟨a, mid, hinput, hf⟩
    exact Option.bind_eq_some_iff.2 ⟨(a, mid), (h _ _ _).2 hinput, hf⟩

lemma exact_byte : Exact readByte fun b => [b] := by
  intro input b rest
  cases input with
  | nil => simp [readByte, StateT.run]
  | cons c cs => simp [readByte, StateT.run]

/-- `n` bytes and what they denote. -/
def readFixed (n : ℕ) (dec : { bs : List UInt8 // bs.length = n } → α) : Reader α := fun input =>
  if h : n ≤ input.length then
    some (dec ⟨input.take n, List.length_take_of_le h⟩, input.drop n)
  else none

/-- A fixed-width reading that is inverse to an encoding of that width is exact. -/
lemma exact_fixed {n : ℕ} {dec : { bs : List UInt8 // bs.length = n } → α}
    {enc : α → List UInt8} (hlen : ∀ a, (enc a).length = n) (henc : ∀ bs, enc (dec bs) = bs.1)
    (hdec : ∀ a, dec ⟨enc a, hlen a⟩ = a) : Exact (readFixed n dec) enc := by
  intro input a rest
  change readFixed n dec input = some (a, rest) ↔ _
  unfold readFixed
  constructor
  · intro hrun
    split_ifs at hrun with h
    obtain ⟨rfl, rfl⟩ := Prod.mk.inj (Option.some.inj hrun)
    rw [henc, List.take_append_drop]
  · rintro rfl
    have hle : n ≤ (enc a ++ rest).length := by simp [hlen]
    have htake : (enc a ++ rest).take n = enc a := List.take_left' (hlen a)
    have hdrop : (enc a ++ rest).drop n = rest := List.drop_left' (hlen a)
    rw [dif_pos hle, hdrop]
    simp only [htake, hdec]

/-! ## Base-128 groups -/

/-- Base-128 groups, least significant first, the continuation bit on all but the last. -/
def base128 (n : ℕ) : List UInt8 :=
  if n < 128 then [UInt8.ofNat n] else UInt8.ofNat (n % 128 + 128) :: base128 (n / 128)
termination_by n
decreasing_by omega

lemma base128_of_lt {n : ℕ} (h : n < 128) : base128 n = [UInt8.ofNat n] := by
  rw [base128, if_pos h]

lemma base128_of_ge {n : ℕ} (h : 128 ≤ n) :
    base128 n = UInt8.ofNat (n % 128 + 128) :: base128 (n / 128) := by
  rw [base128, if_neg (by omega)]

/-- The groups up to and including the first without a continuation bit, however many they are and
also where a shorter spelling exists.  A reader of compact-u16 lengths is stricter: it takes at
most three groups, of at most 16 bits in all, and refuses an alias such as `80 00`. -/
def decodeBase128 : List UInt8 → Option (ℕ × List UInt8)
  | [] => none
  | b :: rest =>
    if b.toNat < 128 then some (b.toNat, rest)
    else (decodeBase128 rest).map fun p => (b.toNat - 128 + 128 * p.1, p.2)

/-- The base-128 integer at the front of the input. -/
def readBase128 : Reader ℕ := decodeBase128

theorem reads_base128 (n : ℕ) : Reads readBase128 (base128 n) n := by
  induction n using Nat.strong_induction_on with
  | _ n ih =>
      intro rest
      -- By strong induction: a number of more than one group leaves a smaller one behind the first.
      rcases Nat.lt_or_ge n 128 with hlt | hge
      · have hbyte : (UInt8.ofNat n).toNat = n := by
          rw [UInt8.toNat_ofNat']
          omega
        rw [base128_of_lt hlt]
        change decodeBase128 (UInt8.ofNat n :: rest) = some (n, rest)
        rw [decodeBase128, hbyte, if_pos hlt]
      · have hbyte : (UInt8.ofNat (n % 128 + 128)).toNat = n % 128 + 128 := by
          rw [UInt8.toNat_ofNat']
          omega
        have hrec : decodeBase128 (base128 (n / 128) ++ rest) = some (n / 128, rest) :=
          ih (n / 128) (by omega) rest
        rw [base128_of_ge hge]
        change decodeBase128 (UInt8.ofNat (n % 128 + 128) :: (base128 (n / 128) ++ rest)) = _
        rw [decodeBase128, hbyte, if_neg (by omega), hrec, Option.map_some]
        have hn : n % 128 + 128 - 128 + 128 * (n / 128) = n := by omega
        rw [hn]

end Grokbotliq.Wire
