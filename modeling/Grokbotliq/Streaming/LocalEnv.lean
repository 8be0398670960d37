import Grokbotliq.Framework.KeyMap
import Grokbotliq.Framework.TextSlice
import Grokbotliq.Streaming.Redact

/-!
# The local environment file

`parse_env_file` reads KEY=VALUE lines at the start of every binary.  The last line of a key
decides, and quotes around a value are cut off by a slice in bytes.  A value that is a single quote
begins and ends with one, and its slice ends before it starts: `parse_env_iff` says that this is
the only text the parser panics on.

The value of a line is decided by `stripQuotes`, the map by the order of the lines.  The loop
keeps `Describes`: its map says of every key what the last value read for it stands for.
-/

namespace Grokbotliq.LocalEnv

def doubleQuote : Char := Char.ofNat 34

def singleQuote : Char := Char.ofNat 39

/-- `v.starts_with(q) && v.ends_with(q)`. -/
def IsBetween (q : Char) (v : String) : Prop :=
  v.toList.head? = some q ∧ v.toList.getLast? = some q

instance (q : Char) (v : String) : Decidable (IsBetween q v) :=
  inferInstanceAs (Decidable (_ ∧ _))

/-- The value without its quotes: `v[1..v.len() - 1]`. -/
def stripQuotes (v : String) : Outcome Empty String :=
  if IsBetween doubleQuote v ∨ IsBetween singleQuote v then
    Text.slice v 1 (Text.byteLen v.toList - 1)
  else .ok v

/-- The body of the loop over the lines. -/
def parseLine (map : KeyMap String String) (line : String) :
    Outcome Empty (KeyMap String String) :=
  let line := Text.trim line
  if line.isEmpty ∨ line.toList.head? = some '#' then .ok map
  else
    match Text.splitOnce line '=' with
    | none => .ok map
    | some (k, v) =>
      let k := Text.trim k
      if k.isEmpty then .ok map
      else do
        let v ← stripQuotes (Text.trim v)
        return map.insert k v

/-- KEY=VALUE lines (no export, simple quotes). -/
def parseEnvFile (contents : String) : Outcome Empty (KeyMap String String) :=
  (Text.lines contents).foldlM parseLine ∅

/-! ## What a file says -/

/-- The key and the trimmed value of a KEY=VALUE line that is no comment. -/
def assignment (line : String) : Option (String × String) :=
  if (Text.trim line).toList.head? = some '#' then none
  else
    (Text.splitOnce (Text.trim line) '=').bind fun (k, v) =>
      if Text.trim k = "" then none else some (Text.trim k, Text.trim v)

def assignments (contents : String) : List (String × String) :=
  (Text.lines contents).filterMap assignment

/-- The value of the last assignment to `key`. -/
def lastValue (xs : List (String × String)) (key : String) : Option String :=
  (xs.filter fun x => x.1 = key).getLast?.map Prod.snd

/-- `v` is `w` between two quotes of one kind. -/
def Wraps (v w : String) : Prop :=
  ∃ q, (q = doubleQuote ∨ q = singleQuote) ∧ v.toList = q :: w.toList ++ [q]

/-- What `v` stands for: what is between its quotes, or itself where it is not between two. -/
def Denotes (v w : String) : Prop := Wraps v w ∨ (∀ w', ¬ Wraps v w') ∧ w = v

/-- The map has the keys that are assigned, each with what the last value stands for. -/
def Describes (xs : List (String × String)) (map : KeyMap String String) : Prop :=
  ∀ key, Option.Rel Denotes (lastValue xs key) (map.lookup key)

/-- A value that is one quote. -/
def LoneQuote (v : String) : Prop := v.toList = [doubleQuote] ∨ v.toList = [singleQuote]

instance (v : String) : Decidable (LoneQuote v) := inferInstanceAs (Decidable (_ ∨ _))

/-! ## Quotes -/

section Quotes

variable {v w : String}

lemma byteLen_quote {q : Char} (hq : q = doubleQuote ∨ q = singleQuote) : Text.byteLen [q] = 1 := by
  rcases hq with rfl | rfl <;> decide

/-- A text that begins and ends with a quote is one quote, or something between two. -/
lemma isBetween_iff {q : Char} :
    IsBetween q v ↔ v.toList = [q] ∨ ∃ w : String, v.toList = q :: w.toList ++ [q] := by
  constructor
  · rintro ⟨hhead, hlast⟩
    obtain ⟨rest, hrest⟩ := List.head?_eq_some_iff.1 hhead
    rcases List.eq_nil_or_concat rest with rfl | ⟨mid, d, rfl⟩
    · exact Or.inl hrest
    · rw [hrest, List.concat_eq_append, ← List.cons_append, List.getLast?_concat] at hlast
      obtain rfl := Option.some.inj hlast
      exact Or.inr ⟨String.ofList mid, by rw [hrest, String.toList_ofList]; simp⟩
  · rintro (hv | ⟨w, hv⟩)
    · exact ⟨by rw [hv]; rfl, by rw [hv]; rfl⟩
    · exact ⟨by rw [hv]; rfl, by rw [hv, List.getLast?_concat]⟩

/-- The slice from the first quote to the second. -/
lemma slice_of_wraps (h : Wraps v w) :
    (Text.slice v 1 (Text.byteLen v.toList - 1) : Outcome Empty String) = .ok w := by
  obtain ⟨q, hq, hv⟩ := h
  have hstop : Text.byteLen v.toList - 1 = Text.byteLen ([q] ++ w.toList) := by
    rw [hv, Text.byteLen_append, byteLen_quote hq, Nat.add_sub_cancel]
    rfl
  have htext : v = String.ofList ([q] ++ w.toList ++ [q]) := by
    rw [← String.toList_inj, hv, String.toList_ofList]
    rfl
  have hmid := Text.slice_mid (ε := Empty) [q] w.toList [q]
  rw [byteLen_quote hq, ← htext, ← hstop, String.ofList_toList] at hmid
  exact hmid

lemma isBetween_quote_iff :
    IsBetween doubleQuote v ∨ IsBetween singleQuote v ↔ LoneQuote v ∨ ∃ w, Wraps v w := by
  rw [isBetween_iff, isBetween_iff]
  constructor
  · rintro ((hv | ⟨w, hv⟩) | (hv | ⟨w, hv⟩))
    · exact Or.inl (Or.inl hv)
    · exact Or.inr ⟨w, doubleQuote, Or.inl rfl, hv⟩
    · exact Or.inl (Or.inr hv)
    · exact Or.inr ⟨w, singleQuote, Or.inr rfl, hv⟩
  · rintro ((hv | hv) | ⟨w, q, rfl | rfl, hv⟩)
    · exact Or.inl (Or.inl hv)
    · exact Or.inr (Or.inl hv)
    · exact Or.inl (Or.inr ⟨w, hv⟩)
    · exact Or.inr (Or.inr ⟨w, hv⟩)

lemma Wraps.unique {w' : String} (h : Wraps v w) (h' : Wraps v w') : w = w' := by
  obtain ⟨q, -, hv⟩ := h
  obtain ⟨q', -, hv'⟩ := h'
  have heq := hv.symm.trans hv'
  rw [List.cons_append, List.cons_append] at heq
  exact String.toList_inj.1 (List.append_inj_left' (List.cons.inj heq).2 rfl)

lemma stripQuotes_of_loneQuote (h : LoneQuote v) : stripQuotes v = .panic := by
  have hlen : Text.byteLen v.toList = 1 := by
    rcases h with h | h
    · rw [h, byteLen_quote (Or.inl rfl)]
    · rw [h, byteLen_quote (Or.inr rfl)]
  rw [stripQuotes, if_pos (isBetween_quote_iff.2 (Or.inl h)), hlen]
  exact Text.slice_of_lt v Nat.zero_lt_one

lemma stripQuotes_of_wraps (h : Wraps v w) : stripQuotes v = .ok w := by
  rw [stripQuotes, if_pos (isBetween_quote_iff.2 (Or.inr ⟨w, h⟩))]
  exact slice_of_wraps h

lemma stripQuotes_of_not_wraps (hlone : ¬ LoneQuote v) (h : ∀ w, ¬ Wraps v w) :
    stripQuotes v = .ok v := by
  apply if_neg
  rw [isBetween_quote_iff]
  rintro (hv | ⟨w, hw⟩)
  · exact hlone hv
  · exact h w hw

/-- **When a value is read**: unless it is one quote. -/
lemma stripQuotes_eq_ok_iff : stripQuotes v = .ok w ↔ ¬ LoneQuote v ∧ Denotes v w := by
  by_cases hlone : LoneQuote v
  · simp [stripQuotes_of_loneQuote hlone, hlone]
  · by_cases hwraps : ∃ w', Wraps v w'
    · obtain ⟨w', hw'⟩ := hwraps
      rw [stripQuotes_of_wraps hw', Outcome.ok.injEq]
      constructor
      · rintro rfl
        exact ⟨hlone, Or.inl hw'⟩
      · rintro ⟨-, hw | ⟨hnone, -⟩⟩
        · exact hw'.unique hw
        · exact absurd hw' (hnone w')
    · have hnone := not_exists.1 hwraps
      rw [stripQuotes_of_not_wraps hlone hnone, Outcome.ok.injEq]
      constructor
      · rintro rfl
        exact ⟨hlone, Or.inr ⟨hnone, rfl⟩⟩
      · rintro ⟨-, hw | ⟨-, rfl⟩⟩
        · exact absurd hw (hnone w)
        · rfl

lemma exists_denotes (v : String) : ∃ w, Denotes v w := by
  by_cases hwraps : ∃ w, Wraps v w
  · exact hwraps.imp fun _ => Or.inl
  · exact ⟨v, Or.inr ⟨not_exists.1 hwraps, rfl⟩⟩

end Quotes

/-! ## The loop -/

/-- One line: nothing happens, or the value of its assignment is read and inserted. -/
lemma parseLine_eq (map : KeyMap String String) (line : String) :
    parseLine map line =
      (assignment line).elim (.ok map) fun a =>
        stripQuotes a.2 >>= fun w => .ok (map.insert a.1 w) := by
  rw [parseLine, assignment]
  by_cases hcomment : (Text.trim line).toList.head? = some '#'
  · rw [if_pos hcomment, if_pos (Or.inr hcomment)]
    rfl
  · rw [if_neg hcomment]
    by_cases hempty : (Text.trim line).isEmpty = true
    · -- an empty line has no `=`
      rw [if_pos (Or.inl hempty), String.isEmpty_iff.1 hempty]
      rfl
    · rw [if_neg (not_or.2 ⟨hempty, hcomment⟩)]
      cases Text.splitOnce (Text.trim line) '=' with
      | none => rfl
      | some kv =>
          obtain ⟨k, v⟩ := kv
          by_cases hk : Text.trim k = ""
          · simp [hk]
          · simp [hk, String.isEmpty_iff]

lemma lastValue_append (xs : List (String × String)) (k v key : String) :
    lastValue (xs ++ [(k, v)]) key = if key = k then some v else lastValue xs key := by
  rw [lastValue, List.filter_append]
  by_cases hk : key = k
  · simp [hk]
  · simp [hk, Ne.symm hk, lastValue]

lemma describes_nil : Describes [] ∅ := by
  intro key
  rw [AList.lookup_empty]
  exact Option.Rel.none

/-- The last assignment decides. -/
lemma Describes.insert {xs : List (String × String)} {map : KeyMap String String}
    (h : Describes xs map) {k v w : String} (hvalue : Denotes v w) :
    Describes (xs ++ [(k, v)]) (map.insert k w) := by
  intro key
  rw [lastValue_append, KeyMap.lookup_insert_eq_ite]
  split_ifs
  · exact Option.Rel.some hvalue
  · exact h key

/-- The loop returns when no value is one quote, and what it returns describes what it has read. -/
lemma foldlM_parseLine_iff {ls : List String} {xs : List (String × String)}
    {map : KeyMap String String} (h : Describes xs map) :
    (∃ map', ls.foldlM parseLine map = .ok map' ∧ Describes (xs ++ ls.filterMap assignment) map') ↔
      ∀ a ∈ ls.filterMap assignment, ¬ LoneQuote a.2 := by
  induction ls generalizing xs map with
  | nil =>
      rw [List.filterMap_nil, List.append_nil]
      exact iff_of_true ⟨map, rfl, h⟩ fun _ ha => absurd ha List.not_mem_nil
  | cons line ls ih =>
      rw [List.foldlM_cons, parseLine_eq]
      cases hline : assignment line with
      | none =>
          rw [List.filterMap_cons_none hline, Option.elim_none, Outcome.ok_bind]
          exact ih h
      | some a =>
          obtain ⟨k, v⟩ := a
          rw [List.filterMap_cons_some hline, List.forall_mem_cons, List.append_cons,
            Option.elim_some]
          -- A value that is one quote panics here; every other is entered and the rest parsed.
          by_cases hlone : LoneQuote v
          · rw [stripQuotes_of_loneQuote hlone]
            simp [hlone]
          · obtain ⟨w, hw⟩ := exists_denotes v
            have hnext : Describes (xs ++ [(k, v)]) (map.insert k w) := h.insert hw
            rw [stripQuotes_eq_ok_iff.2 ⟨hlone, hw⟩, Outcome.ok_bind, Outcome.ok_bind, ih hnext]
            simp only [hlone, not_false_eq_true, true_and]

/-- **When a file is read**, and what then comes of it: unless an assigned value is one quote. -/
theorem parse_env_iff (contents : String) :
    (∃ map, parseEnvFile contents = .ok map ∧ Describes (assignments contents) map) ↔
      ∀ a ∈ assignments contents, ¬ LoneQuote a.2 := by
  -- nothing has been read before the first line
  have hloop : (∃ map, (Text.lines contents).foldlM parseLine ∅ = .ok map ∧
      Describes ([] ++ (Text.lines contents).filterMap assignment) map) ↔
        ∀ a ∈ (Text.lines contents).filterMap assignment, ¬ LoneQuote a.2 :=
    foldlM_parseLine_iff describes_nil
  rw [List.nil_append] at hloop
  exact hloop

/-- A file whose only line opens a quote. -/
def openQuote : String := "K=" ++ String.singleton doubleQuote

/-- The parser panics on it. -/
theorem openQuote_panics :
    parseEnvFile openQuote = .panic ∧
      assignments openQuote = [("K", String.singleton doubleQuote)] ∧
      ¬ ∃ map, parseEnvFile openQuote = .ok map ∧ Describes (assignments openQuote) map := by
  have hpanic : parseEnvFile openQuote = .panic := by decide +kernel
  refine ⟨hpanic, by decide +kernel, ?_⟩
  rintro ⟨map, hmap, -⟩
  rw [hpanic] at hmap
  exact absurd hmap (by simp)

end Grokbotliq.LocalEnv
