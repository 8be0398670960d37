import Grokbotliq.Execution.Plan
import Grokbotliq.Streaming.Bootstrap

/-!
# Swap instructions from a quote

A quote names its instructions under `swapInstruction` and in an array `instructions`, or is one
instruction itself.  What cannot be read is left out, an instruction or a single account of one,
and the blob is marked incomplete only when nothing was read at all.
`fromJsonValue_faithful_iff` says for which quotes the mark can be trusted.

What a quote says is stated on the JSON itself: which of its values are instruction objects, and
what each of them lists.  The parser's silent omissions then show as a difference, and the
condition is that nothing in any instruction object would be left out.
-/

namespace Grokbotliq

namespace JupiterQuote

/-! ## The parser -/

/-- One account of an instruction; a flag that is missing or no boolean is false. -/
def parseAccount (c : Codecs) (m : Json) : Option AccountMeta := do
  let pk ← (m.get "pubkey").bind Json.asStr
  let pk ← Pubkey.fromBase58 c.toBase58 pk
  let isSigner := ((m.get "isSigner").bind Json.asBool).getD false
  let isWritable := ((m.get "isWritable").bind Json.asBool).getD false
  return if isWritable then .new pk isSigner else .newReadonly pk isSigner

/-- The accounts an instruction lists: none unless they are in an array. -/
def listedAccounts (obj : Json) : List Json := ((obj.get "accounts").bind Json.asArray).getD []

def parseOneIx (c : Codecs) (obj : Json) : Option LabeledIx := do
  let programIdS ← (obj.get "programId").bind Json.asStr
  let programId ← Pubkey.fromBase58 c.toBase58 programIdS
  let dataS ← (obj.get "data").bind Json.asStr
  let data ← (c.decodeBase64 dataS).toOption
  if data = [] then none
  else
    let accounts := (listedAccounts obj).filterMap (parseAccount c)
    return ⟨"jupiter_swap", ⟨programId, accounts, data⟩⟩

/-- `JupiterQuoteBlob::from_json_value`. -/
def fromJsonValue (c : Codecs) (v : Json) : Execution.JupiterQuoteBlob :=
  let swap := (v.get "swapInstruction").toList.filterMap (parseOneIx c)
  let listed := (((v.get "instructions").bind Json.asArray).getD []).filterMap (parseOneIx c)
  let instructions := swap ++ listed
  let instructions := if instructions = [] then (parseOneIx c v).toList else instructions
  ⟨instructions, instructions.isEmpty⟩

/-! ## What a quote says -/

def isObject : Json → Bool
  | .object _ => true
  | _ => false

/-- The instruction objects of a quote, in order. -/
def instructionObjects (v : Json) : List Json :=
  ((v.get "swapInstruction").toList ++
    ((v.get "instructions").bind Json.asArray).getD []).filter isObject

/-- A flag as listed: a boolean, and false where it is missing. -/
def FlagIs (m : Json) (key : String) (b : Bool) : Prop :=
  m.get key = some (.bool b) ∨ m.get key = none ∧ b = false

structure AccountIs (c : Codecs) (m : Json) (account : AccountMeta) : Prop where
  pubkey : ∃ s, m.get "pubkey" = some (.string s) ∧
    Pubkey.fromBase58 c.toBase58 s = some account.pubkey
  signer : FlagIs m "isSigner" account.isSigner
  writable : FlagIs m "isWritable" account.isWritable

/-- The instruction is what the object says, with every account it lists. -/
structure InstructionIs (c : Codecs) (obj : Json) (l : LabeledIx) : Prop where
  programId : ∃ s, obj.get "programId" = some (.string s) ∧
    Pubkey.fromBase58 c.toBase58 s = some l.ix.programId
  data : ∃ s, obj.get "data" = some (.string s) ∧ c.decodeBase64 s = .ok l.ix.data
  accounts : List.Forall₂ (AccountIs c) (listedAccounts obj) l.ix.accounts

/-- The blob has every instruction object of the quote, in order, and marks an empty one. -/
structure Faithful (c : Codecs) (v : Json) (blob : Execution.JupiterQuoteBlob) : Prop where
  complete : blob.incomplete = false → ∃ parsed,
    List.Forall₂ (InstructionIs c) (instructionObjects v) parsed ∧
      List.Sublist parsed blob.instructions
  omitted : blob.incomplete = true → blob.instructions = []

/-! ## Which quotes are read faithfully -/

/-- Program id and data can be read, and there is some data. -/
structure Readable (c : Codecs) (obj : Json) : Prop where
  programId : ∃ s k, obj.get "programId" = some (.string s) ∧
    Pubkey.fromBase58 c.toBase58 s = some k
  data : ∃ s bytes, obj.get "data" = some (.string s) ∧ c.decodeBase64 s = .ok bytes ∧
    bytes ≠ []

/-- Each listed account has a key that can be read, and flags that are booleans. -/
structure WellFormed (c : Codecs) (obj : Json) : Prop extends Readable c obj where
  accounts : ∀ m ∈ listedAccounts obj, ∃ account, AccountIs c m account

variable {c : Codecs} {v obj m : Json} {l : LabeledIx} {account : AccountMeta}

lemma asStr_eq_some {j : Json} {s : String} : j.asStr = some s ↔ j = .string s := by
  cases j <;> simp [Json.asStr]

lemma bind_asStr_eq_some {x : Option Json} {s : String} :
    x.bind Json.asStr = some s ↔ x = some (.string s) := by
  simp only [Option.bind_eq_some_iff, asStr_eq_some, exists_eq_right]

/-- What `parse_one_ix` reads. -/
lemma parseOneIx_eq_some_iff :
    parseOneIx c obj = some l ↔ ∃ s k t bytes, obj.get "programId" = some (.string s) ∧
      Pubkey.fromBase58 c.toBase58 s = some k ∧ obj.get "data" = some (.string t) ∧
      c.decodeBase64 t = .ok bytes ∧ bytes ≠ [] ∧
      ⟨"jupiter_swap", ⟨k, (listedAccounts obj).filterMap (parseAccount c), bytes⟩⟩ = l := by
  have hdecode {t : String} {bytes : List UInt8} :
      (c.decodeBase64 t).toOption = some bytes ↔ c.decodeBase64 t = .ok bytes := by
    cases c.decodeBase64 t <;> simp [Except.toOption]
  constructor
  · intro h
    obtain ⟨s, hs, h⟩ := Option.bind_eq_some_iff.1 h
    obtain ⟨k, hk, h⟩ := Option.bind_eq_some_iff.1 h
    obtain ⟨t, ht, h⟩ := Option.bind_eq_some_iff.1 h
    obtain ⟨bytes, hbytes, h⟩ := Option.bind_eq_some_iff.1 h
    by_cases hempty : bytes = []
    · rw [if_pos hempty] at h
      exact absurd h (by simp)
    · rw [if_neg hempty] at h
      exact ⟨s, k, t, bytes, bind_asStr_eq_some.1 hs, hk, bind_asStr_eq_some.1 ht,
        hdecode.1 hbytes, hempty, Option.some.inj h⟩
  · rintro ⟨s, k, t, bytes, hs, hk, ht, hbytes, hempty, rfl⟩
    refine Option.bind_eq_some_iff.2 ⟨s, bind_asStr_eq_some.2 hs, ?_⟩
    refine Option.bind_eq_some_iff.2 ⟨k, hk, ?_⟩
    refine Option.bind_eq_some_iff.2 ⟨t, bind_asStr_eq_some.2 ht, ?_⟩
    refine Option.bind_eq_some_iff.2 ⟨bytes, hdecode.2 hbytes, ?_⟩
    rw [if_neg hempty]
    rfl

lemma parseOneIx_isSome_iff : (parseOneIx c obj).isSome = true ↔ Readable c obj := by
  rw [Option.isSome_iff_exists]
  constructor
  · rintro ⟨l, hl⟩
    obtain ⟨s, k, t, bytes, hs, hk, ht, hbytes, hempty, -⟩ := parseOneIx_eq_some_iff.1 hl
    exact ⟨⟨s, k, hs, hk⟩, ⟨t, bytes, ht, hbytes, hempty⟩⟩
  · rintro ⟨⟨s, k, hs, hk⟩, ⟨t, bytes, ht, hbytes, hempty⟩⟩
    exact ⟨_, parseOneIx_eq_some_iff.2 ⟨s, k, t, bytes, hs, hk, ht, hbytes, hempty, rfl⟩⟩

lemma parseOneIx_data_ne_nil (h : parseOneIx c obj = some l) : l.ix.data ≠ [] := by
  obtain ⟨_, _, _, _, _, _, _, _, hempty, rfl⟩ := parseOneIx_eq_some_iff.1 h
  exact hempty

/-- Only objects have fields. -/
lemma parseOneIx_of_not_object (h : isObject v = false) : parseOneIx c v = none := by
  cases v with
  | object fields => exact absurd h (by simp [isObject])
  | null => rfl
  | bool _ => rfl
  | number _ => rfl
  | string _ => rfl
  | array _ => rfl

lemma FlagIs.getD {key : String} {b : Bool} (h : FlagIs m key b) :
    ((m.get key).bind Json.asBool).getD false = b := by
  rcases h with h | ⟨h, rfl⟩
  · rw [h]
    rfl
  · rw [h]
    rfl

/-- A well-formed account is read as it is. -/
lemma AccountIs.parseAccount_eq (h : AccountIs c m account) :
    parseAccount c m = some account := by
  obtain ⟨⟨s, hs, hk⟩, hsigner, hwritable⟩ := h
  refine Option.bind_eq_some_iff.2 ⟨s, bind_asStr_eq_some.2 hs, ?_⟩
  refine Option.bind_eq_some_iff.2 ⟨account.pubkey, hk, ?_⟩
  rw [hsigner.getD, hwritable.getD]
  obtain ⟨pubkey, isSigner, isWritable⟩ := account
  cases isWritable <;> rfl

lemma forall₂_filterMap_parseAccount {ms : List Json}
    (h : ∀ m ∈ ms, ∃ account, AccountIs c m account) :
    List.Forall₂ (AccountIs c) ms (ms.filterMap (parseAccount c)) := by
  induction ms with
  | nil => exact List.Forall₂.nil
  | cons m ms ih =>
      obtain ⟨account, haccount⟩ := h m List.mem_cons_self
      rw [List.filterMap_cons_some haccount.parseAccount_eq]
      exact List.Forall₂.cons haccount (ih fun m' hm' => h m' (List.mem_cons_of_mem _ hm'))

/-- A well-formed instruction is read as it is. -/
lemma WellFormed.parseOneIx (h : WellFormed c obj) :
    ∃ l, JupiterQuote.parseOneIx c obj = some l ∧ InstructionIs c obj l := by
  obtain ⟨⟨⟨s, k, hs, hk⟩, ⟨t, bytes, ht, hbytes, hempty⟩⟩, haccounts⟩ := h
  exact ⟨_, parseOneIx_eq_some_iff.2 ⟨s, k, t, bytes, hs, hk, ht, hbytes, hempty, rfl⟩,
    ⟨s, hs, hk⟩, ⟨t, ht, hbytes⟩, forall₂_filterMap_parseAccount haccounts⟩

lemma exists_of_forall₂ {α β : Type*} {r : α → β → Prop} {xs : List α} {ys : List β}
    (h : List.Forall₂ r xs ys) {x : α} (hx : x ∈ xs) : ∃ y ∈ ys, r x y := by
  induction h with
  | nil => exact absurd hx List.not_mem_nil
  | @cons a b as bs hab _ ih =>
      rcases List.mem_cons.1 hx with rfl | hx
      · exact ⟨b, List.mem_cons_self, hab⟩
      · obtain ⟨y, hy, hxy⟩ := ih hx
        exact ⟨y, List.mem_cons_of_mem _ hy, hxy⟩

/-- Conversely, what an object says with data in it is well-formed. -/
lemma InstructionIs.wellFormed (h : InstructionIs c obj l) (hdata : l.ix.data ≠ []) :
    WellFormed c obj := by
  obtain ⟨⟨s, hs, hk⟩, ⟨t, ht, hbytes⟩, haccounts⟩ := h
  refine ⟨⟨⟨s, _, hs, hk⟩, ⟨t, _, ht, hbytes, hdata⟩⟩, fun m hm => ?_⟩
  obtain ⟨account, -, haccount⟩ := exists_of_forall₂ haccounts hm
  exact ⟨account, haccount⟩

/-! ## The blob -/

/-- Values that are no objects are left out either way. -/
lemma filterMap_parseOneIx_filter (vs : List Json) :
    (vs.filter isObject).filterMap (parseOneIx c) = vs.filterMap (parseOneIx c) := by
  rw [List.filterMap_filter]
  refine List.filterMap_congr fun v _ => ?_
  cases hobject : isObject v with
  | true => rfl
  | false => exact (parseOneIx_of_not_object hobject).symm

/-- The instructions read: those of the quote's objects, and the quote itself in their place. -/
lemma instructions_fromJsonValue (c : Codecs) (v : Json) :
    (fromJsonValue c v).instructions =
      if (instructionObjects v).filterMap (parseOneIx c) = [] then (parseOneIx c v).toList
      else (instructionObjects v).filterMap (parseOneIx c) := by
  rw [instructionObjects, filterMap_parseOneIx_filter, List.filterMap_append]
  rfl

lemma data_ne_nil_of_mem (h : l ∈ (fromJsonValue c v).instructions) : l.ix.data ≠ [] := by
  rw [instructions_fromJsonValue] at h
  split_ifs at h with hnone
  · exact parseOneIx_data_ne_nil (Option.mem_toList.1 h)
  · obtain ⟨obj, -, hobj⟩ := List.mem_filterMap.1 h
    exact parseOneIx_data_ne_nil hobj

lemma forall₂_filterMap_parseOneIx {objs : List Json} (h : ∀ obj ∈ objs, WellFormed c obj) :
    List.Forall₂ (InstructionIs c) objs (objs.filterMap (parseOneIx c)) := by
  induction objs with
  | nil => exact List.Forall₂.nil
  | cons obj objs ih =>
      obtain ⟨l, hl, hsays⟩ := (h obj List.mem_cons_self).parseOneIx
      rw [List.filterMap_cons_some hl]
      exact List.Forall₂.cons hsays (ih fun o ho => h o (List.mem_cons_of_mem _ ho))

/-- Nothing is attached exactly when nothing can be read. -/
lemma instructions_eq_nil_iff :
    (fromJsonValue c v).instructions = [] ↔
      ∀ obj ∈ v :: instructionObjects v, ¬Readable c obj := by
  have hread (obj : Json) : parseOneIx c obj = none ↔ ¬Readable c obj := by
    rw [← parseOneIx_isSome_iff, Bool.not_eq_true, Option.isSome_eq_false_iff,
      Option.isNone_iff_eq_none]
  rw [instructions_fromJsonValue, List.forall_mem_cons, ← hread]
  simp only [← hread, ← List.filterMap_eq_nil_iff]
  split_ifs with hnone
  · rw [Option.toList_eq_nil_iff, and_iff_left hnone]
  · exact iff_of_false hnone fun h => hnone h.2

/-- **Which quotes are read faithfully.**  For every JSON value: exactly those in which nothing
can be read as an instruction, and those whose instruction objects are all well-formed. -/
theorem fromJsonValue_faithful_iff (c : Codecs) (v : Json) :
    Faithful c v (fromJsonValue c v) ↔
      (∀ obj ∈ v :: instructionObjects v, ¬Readable c obj) ∨
        ∀ obj ∈ instructionObjects v, WellFormed c obj := by
  have hmark : (fromJsonValue c v).incomplete = (fromJsonValue c v).instructions.isEmpty := rfl
  constructor
  · intro hfaithful
    -- Marked incomplete, nothing may be read; unmarked, every object is one instruction.
    by_cases hmarked : (fromJsonValue c v).incomplete = true
    · exact Or.inl (instructions_eq_nil_iff.1 (hfaithful.omitted hmarked))
    · obtain ⟨parsed, hparsed, hsub⟩ := hfaithful.complete (Bool.eq_false_iff.2 hmarked)
      refine Or.inr fun obj hobj => ?_
      obtain ⟨l, hl, hsays⟩ := exists_of_forall₂ hparsed hobj
      exact hsays.wellFormed (data_ne_nil_of_mem (hsub.subset hl))
  · intro hcases
    refine ⟨fun hmarked => ?_, fun hmarked => List.isEmpty_iff.1 (hmark ▸ hmarked)⟩
    rcases hcases with hnone | hall
    · rw [hmark, instructions_eq_nil_iff.2 hnone] at hmarked
      exact absurd hmarked (by decide)
    · refine ⟨_, forall₂_filterMap_parseOneIx hall, ?_⟩
      rw [instructions_fromJsonValue]
      split_ifs with hnone
      · rw [hnone]
        exact List.nil_sublist _
      · exact List.Sublist.refl _

/-! ## A quote with an account that cannot be read -/

/-- Its one account has a key of one character. -/
def badAccount : Json :=
  .object [("swapInstruction", .object
    [("accounts", .array [.object [("pubkey", .string "1"), ("isWritable", .bool true)]]),
      ("data", .string "AQ=="), ("programId", .string Bootstrap.zeroKeyText)])]

/-- The instruction is attached without the account, and the blob is not marked. -/
theorem badAccount_not_marked :
    fromJsonValue Bootstrap.sampleCodecs badAccount =
        ⟨[⟨"jupiter_swap", ⟨.default, [], [1]⟩⟩], false⟩ ∧
      ¬Faithful Bootstrap.sampleCodecs badAccount
        (fromJsonValue Bootstrap.sampleCodecs badAccount) := by
  have hblob : fromJsonValue Bootstrap.sampleCodecs badAccount =
      ⟨[⟨"jupiter_swap", ⟨.default, [], [1]⟩⟩], false⟩ := by
    rfl
  refine ⟨hblob, fun hfaithful => ?_⟩
  obtain ⟨parsed, hparsed, hsub⟩ := hfaithful.complete (by rw [hblob])
  -- the only instruction attached has no account where the object lists one
  obtain ⟨l, hl, hsays⟩ := exists_of_forall₂ hparsed List.mem_cons_self
  have hattached := hsub.subset hl
  rw [hblob] at hattached
  obtain rfl := List.mem_singleton.1 hattached
  exact absurd hsays.accounts.length_eq (by decide)

end JupiterQuote

end Grokbotliq
