import Grokbotliq.Framework.Outcome

/-!
# Lines and slices of a text

A text is treated as its list of characters, but a slice is given in bytes: it panics when it is
out of range, when it ends before it starts, and when it begins or ends inside a character.
`slice_mid` is the one slice that always succeeds: from the end of a prefix to the start of a
suffix.

Whether a slice panics depends on the text and on the position in bytes, never on what the slice
is for.  `Straddles` names the one way in which a position in range can be wrong, and
`splitBytes_eq_none_iff` is the whole condition for a slice from the start.
-/

namespace Grokbotliq.Text

/-! ## Lines -/

/-- A line without the carriage return that its line feed may leave. -/
def stripCarriageReturn (line : List Char) : List Char :=
  if line.getLast? = some '\r' then line.dropLast else line

/-- `s.lines()`: what stands between line feeds; an empty rest after the last is no line. -/
def lines (s : String) : List String :=
  let parts := s.toList.splitOn '\n'
  let rest := parts.getLast?.getD []
  (parts.dropLast.map stripCarriageReturn ++ if rest = [] then [] else [rest]).map String.ofList

/-- `s.split_once(c)`: what stands before and after the first `c`. -/
def splitOnce (s : String) (c : Char) : Option (String × String) :=
  match s.toList.span fun d => d != c with
  | (_, []) => none
  | (before, _ :: after) => some (String.ofList before, String.ofList after)

/-! ## Slices -/

/-- The number of bytes of the characters. -/
def byteLen (cs : List Char) : ℕ := (cs.map Char.utf8Size).sum

lemma byteLen_cons (c : Char) (cs : List Char) : byteLen (c :: cs) = c.utf8Size + byteLen cs := by
  rw [byteLen, List.map_cons, List.sum_cons]
  rfl

lemma byteLen_append (cs ds : List Char) : byteLen (cs ++ ds) = byteLen cs + byteLen ds := by
  rw [byteLen, List.map_append, List.sum_append]
  rfl

/-- The characters of the first `n` bytes and the others, unless a character lies across. -/
def splitBytes : ℕ → List Char → Option (List Char × List Char)
  | 0, cs => some ([], cs)
  | _ + 1, [] => none
  | n + 1, c :: cs =>
    if c.utf8Size ≤ n + 1 then
      (splitBytes (n + 1 - c.utf8Size) cs).map fun p => (c :: p.1, p.2)
    else none

/-- `&s[start..stop]`. -/
def slice {ε : Type} (s : String) (start stop : ℕ) : Outcome ε String :=
  if stop < start then .panic
  else
    match splitBytes start s.toList with
    | none => .panic
    | some (_, rest) =>
      match splitBytes (stop - start) rest with
      | none => .panic
      | some (part, _) => .ok (String.ofList part)

lemma splitBytes_append (cs ds : List Char) :
    splitBytes (byteLen cs) (cs ++ ds) = some (cs, ds) := by
  induction cs with
  | nil => cases ds <;> rfl
  | cons c cs ih =>
      have hsize : 0 < c.utf8Size := Char.utf8Size_pos c
      obtain ⟨n, hn⟩ : ∃ n, c.utf8Size + byteLen cs = n + 1 := ⟨_, (Nat.succ_pred (by omega)).symm⟩
      have hrest : n + 1 - c.utf8Size = byteLen cs := by omega
      rw [byteLen_cons, hn, List.cons_append, splitBytes, if_pos (by omega), hrest, ih]
      rfl

/-- A character of the text lies across the end of its first `n` bytes. -/
def Straddles (n : ℕ) (cs : List Char) : Prop :=
  ∃ pre c post, cs = pre ++ c :: post ∧ byteLen pre < n ∧ n < byteLen pre + c.utf8Size

lemma straddles_cons {n : ℕ} {c : Char} {cs : List Char} (hc : c.utf8Size ≤ n) :
    Straddles n (c :: cs) ↔ Straddles (n - c.utf8Size) cs := by
  constructor
  · rintro ⟨pre, d, post, heq, hbefore, hafter⟩
    cases pre with
    | nil =>
        obtain ⟨rfl, rfl⟩ := List.cons.inj heq
        rw [byteLen, List.map_nil, List.sum_nil, Nat.zero_add] at hafter
        omega
    | cons c' pre =>
        obtain ⟨rfl, rfl⟩ := List.cons.inj heq
        rw [byteLen_cons] at hbefore hafter
        exact ⟨pre, d, post, rfl, by omega, by omega⟩
  · rintro ⟨pre, d, post, rfl, hbefore, hafter⟩
    refine ⟨c :: pre, d, post, rfl, ?_, ?_⟩ <;> rw [byteLen_cons] <;> omega

/-- There are no first `n` bytes of a shorter text, or where a character lies across their end. -/
lemma splitBytes_eq_none_iff {n : ℕ} {cs : List Char} :
    splitBytes n cs = none ↔ byteLen cs < n ∨ Straddles n cs := by
  induction cs generalizing n with
  | nil =>
      have hnot : ¬ Straddles n [] := fun ⟨pre, c, post, heq, _⟩ => by simp at heq
      rw [or_iff_left hnot]
      cases n <;> simp [splitBytes, byteLen]
  | cons c cs ih =>
      cases n with
      | zero => simp [splitBytes, Straddles]
      | succ n =>
          rw [splitBytes]
          split_ifs with hc
          · rw [Option.map_eq_none_iff, ih, straddles_cons hc, byteLen_cons]
            exact or_congr_left (by omega)
          · have hstraddles : Straddles (n + 1) (c :: cs) :=
              ⟨[], c, cs, rfl, Nat.succ_pos n, by simpa [byteLen] using hc⟩
            exact iff_of_true rfl (Or.inr hstraddles)

/-- From the end of a prefix to the start of a suffix. -/
lemma slice_mid {ε : Type} (pre mid post : List Char) :
    (slice (String.ofList (pre ++ mid ++ post)) (byteLen pre) (byteLen (pre ++ mid)) :
      Outcome ε String) = .ok (String.ofList mid) := by
  have hstop : byteLen (pre ++ mid) - byteLen pre = byteLen mid := by
    rw [byteLen_append]
    omega
  have hle : ¬ byteLen (pre ++ mid) < byteLen pre := by
    rw [byteLen_append]
    omega
  rw [slice, if_neg hle, String.toList_ofList, List.append_assoc, splitBytes_append, hstop]
  simp only [splitBytes_append]

lemma slice_of_lt {ε : Type} (s : String) {start stop : ℕ} (h : stop < start) :
    (slice s start stop : Outcome ε String) = .panic := if_pos h

/-- A slice from the start panics where the text has no first `n` bytes. -/
lemma slice_zero_eq_panic_iff {ε : Type} (s : String) (n : ℕ) :
    (slice s 0 n : Outcome ε String) = .panic ↔ byteLen s.toList < n ∨ Straddles n s.toList := by
  have hzero : splitBytes 0 s.toList = some ([], s.toList) := by
    cases s.toList <;> rfl
  rw [slice, if_neg (Nat.not_lt_zero n), hzero, Nat.sub_zero, ← splitBytes_eq_none_iff]
  cases hsplit : splitBytes n s.toList with
  | none => simp [hsplit]
  | some parts => simp [hsplit]

end Grokbotliq.Text
