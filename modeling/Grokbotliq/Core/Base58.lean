import Grokbotliq.Core.Types

/-!
# Keys as text

A pubkey is written in base58, which a third-party crate encodes and decodes.  The program's
functions take the two as a parameter.  `Base58.bitcoin` is the encoding as the crate documents it,
and it reads back every string of bytes it writes (`Base58.decode_encode`): the leading zero bytes
are counted by the leading ones of the text, and what is left on either side is one number without
a leading zero digit.

Reading back needs two facts of positional notation, both about numbers whose first digit is not
zero: the digits of the number are the digits one started from (`digits_number`), and leading
zeros are worth nothing (`number_replicate_zero_append`), so that they can be taken off and put
back on either side.
-/

namespace Grokbotliq

/-- `bs58`. -/
structure Base58 where
  encode : List UInt8 → String
  decode : String → Option (List UInt8)

namespace Base58

def alphabet : List Char := "123456789ABCDEFGHJKLMNPQRSTUVWXYZabcdefghijkmnopqrstuvwxyz".toList

/-- The number that digits write, the first the most significant. -/
def number (base : ℕ) (digits : List ℕ) : ℕ := digits.foldl (fun n d => n * base + d) 0

/-- The encoding over the usual alphabet: a leading zero byte is a leading `1`, and the rest is
one number. -/
def bitcoin : Base58 where
  encode bytes :=
    let zeros := bytes.takeWhile (· == 0)
    let n := number 256 (bytes.map UInt8.toNat)
    String.ofList (zeros.map (fun _ => '1') ++
      (Nat.digits 58 n).reverse.map fun d => alphabet.getD d '1')
  decode s := do
    let digits ← s.toList.mapM fun ch => alphabet.idxOf? ch
    let zeros := digits.takeWhile (· == 0)
    let n := number 58 digits
    return zeros.map (fun _ => 0) ++ (Nat.digits 256 n).reverse.map UInt8.ofNat

/-! ## Reading back -/

lemma number_eq_ofDigits (base : ℕ) (digits : List ℕ) :
    number base digits = Nat.ofDigits base digits.reverse := by
  rw [Nat.ofDigits_eq_foldr, List.foldr_reverse, number]
  congr 1
  funext n d
  simp [Nat.add_comm, Nat.mul_comm]

/-- Leading zeros are worth nothing. -/
lemma number_replicate_zero_append (base k : ℕ) (digits : List ℕ) :
    number base (List.replicate k 0 ++ digits) = number base digits := by
  induction k with
  | zero => rfl
  | succ k ih =>
      rw [List.replicate_succ, List.cons_append, ← ih]
      simp [number]

/-- What `takeWhile` leaves of a list starts with something else. -/
lemma takeWhile_replicate_append {α : Type} (p : α → Bool) {a : α} (ha : p a = true) (k : ℕ)
    {rest : List α} (hrest : ∀ b ∈ rest.head?, p b = false) :
    (List.replicate k a ++ rest).takeWhile p = List.replicate k a := by
  induction k with
  | zero =>
      cases rest with
      | nil => rfl
      | cons b rest => simp [hrest b rfl]
  | succ k ih => rw [List.replicate_succ, List.cons_append, List.takeWhile_cons_of_pos ha, ih]

/-- A list of digits without a leading zero is that of its number. -/
lemma digits_number {base : ℕ} (hbase : 1 < base) {digits : List ℕ}
    (hlt : ∀ d ∈ digits, d < base) (hhead : ∀ d ∈ digits.head?, d ≠ 0) :
    (Nat.digits base (number base digits)).reverse = digits := by
  rw [number_eq_ofDigits, Nat.digits_ofDigits base hbase, List.reverse_reverse]
  · exact fun d hd => hlt d (List.mem_reverse.1 hd)
  · intro hne
    rw [List.getLast_reverse]
    exact hhead _ (List.head?_eq_some_head _)

/-- The digits of a number start with no zero. -/
lemma head?_reverse_digits {base n : ℕ} :
    ∀ d ∈ (Nat.digits base n).reverse.head?, d ≠ 0 := by
  intro d hd
  rw [List.head?_reverse, Option.mem_def] at hd
  have hne : Nat.digits base n ≠ [] := by
    rintro hnil
    simp [hnil] at hd
  rw [List.getLast?_eq_some_getLast hne] at hd
  obtain rfl := Option.some.inj hd
  exact Nat.getLast_digit_ne_zero base (Nat.digits_ne_nil_iff_ne_zero.1 hne)

lemma idxOf?_alphabet {d : ℕ} (hd : d < 58) : alphabet.idxOf? (alphabet.getD d '1') = some d := by
  revert d
  decide

lemma mapM_idxOf?_alphabet {digits : List ℕ} (hlt : ∀ d ∈ digits, d < 58) :
    (digits.map fun d => alphabet.getD d '1').mapM (fun ch => alphabet.idxOf? ch) =
      some digits := by
  induction digits with
  | nil => rfl
  | cons d digits ih =>
      rw [List.map_cons, List.mapM_cons, idxOf?_alphabet (hlt d List.mem_cons_self),
        ih fun d' hd' => hlt d' (List.mem_cons_of_mem _ hd')]
      rfl

/-- **The encoding is read back**, whatever the bytes. -/
theorem decode_encode (bytes : List UInt8) :
    bitcoin.decode (bitcoin.encode bytes) = some bytes := by
  -- The bytes are so many zeros and a rest that starts with none.
  obtain ⟨k, rest, rfl, hrest⟩ : ∃ k rest, bytes = List.replicate k 0 ++ rest ∧
      ∀ b ∈ rest.head?, (b == (0 : UInt8)) = false := by
    refine ⟨(bytes.takeWhile (· == 0)).length, bytes.dropWhile (· == 0), ?_, fun b hb => ?_⟩
    · have hzeros : bytes.takeWhile (· == 0) =
          List.replicate (bytes.takeWhile (· == 0)).length 0 :=
        List.eq_replicate_length.2 fun b hb => by simpa using List.mem_takeWhile_imp hb
      rw [← hzeros, List.takeWhile_append_dropWhile]
    · have hne := List.head?_dropWhile_not (· == (0 : UInt8)) bytes
      rw [Option.mem_def.1 hb] at hne
      simpa using hne
  obtain ⟨n, hn⟩ : ∃ n, n = number 256 (rest.map UInt8.toNat) := ⟨_, rfl⟩
  -- The text is so many ones and the digits of the rest's number.
  have hencode : (bitcoin.encode (List.replicate k 0 ++ rest)).toList =
      ((List.replicate k 0 ++ (Nat.digits 58 n).reverse).map fun d => alphabet.getD d '1') := by
    have hnumber : number 256 ((List.replicate k (0 : UInt8) ++ rest).map UInt8.toNat) = n := by
      rw [List.map_append, List.map_replicate, UInt8.toNat_zero, number_replicate_zero_append, hn]
    have hone : alphabet.getD 0 '1' = '1' := by decide
    show (String.ofList _).toList = _
    rw [String.toList_ofList, hnumber, takeWhile_replicate_append (· == 0) rfl k hrest,
      List.map_append, List.map_replicate, List.map_replicate, hone]
  -- Every position is one of the alphabet, and the digits proper start with none that is zero.
  have hdigits : ∀ d ∈ List.replicate k 0 ++ (Nat.digits 58 n).reverse, d < 58 := by
    intro d hd
    rcases List.mem_append.1 hd with hd | hd
    · rw [List.eq_of_mem_replicate hd]
      norm_num
    · exact Nat.digits_lt_base (by norm_num) (List.mem_reverse.1 hd)
  have hleft : ∀ d ∈ (Nat.digits 58 n).reverse.head?, (d == 0) = false := fun d hd => by
    simpa using head?_reverse_digits d hd
  -- Reading it, the same zeros are taken off, and the number's bytes are the rest.
  have hbytes : (Nat.digits 256 n).reverse.map UInt8.ofNat = rest := by
    rw [hn, digits_number (by norm_num)]
    · rw [List.map_map]
      exact (List.map_congr_left fun b _ => UInt8.ofNat_toNat).trans rest.map_id
    · intro d hd
      obtain ⟨b, -, rfl⟩ := List.mem_map.1 hd
      exact b.toNat_lt
    · intro d hd
      rw [List.head?_map, Option.mem_def, Option.map_eq_some_iff] at hd
      obtain ⟨b, hb, rfl⟩ := hd
      have hne : b ≠ 0 := by simpa using hrest b hb
      exact fun hzero => hne (UInt8.toNat_inj.1 hzero)
  show ((bitcoin.encode _).toList.mapM fun ch => alphabet.idxOf? ch).bind _ = _
  rw [hencode, mapM_idxOf?_alphabet hdigits, Option.bind_some]
  show some _ = _
  rw [takeWhile_replicate_append (· == 0) rfl k hleft, number_replicate_zero_append,
    number_eq_ofDigits, List.reverse_reverse, Nat.ofDigits_digits, hbytes, List.map_replicate]

end Base58

namespace Pubkey

def toBase58 (c : Base58) (k : Pubkey) : String := c.encode k.bytes

def fromBase58 (c : Base58) (s : String) : Option Pubkey := (c.decode s).bind fromBytes

/-- A key is read back from its text. -/
lemma fromBase58_toBase58 (k : Pubkey) : fromBase58 .bitcoin (k.toBase58 .bitcoin) = some k := by
  rw [fromBase58, toBase58, Base58.decode_encode, Option.bind_some, fromBytes_bytes]

end Pubkey

end Grokbotliq
