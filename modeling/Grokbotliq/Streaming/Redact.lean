import Grokbotliq.Framework.TextSlice

/-!
# Text handling and redacted URLs

What the streaming code does to texts: trimming, searching, lower-casing, and reducing an RPC
URL to its host for logs and reports.  Texts are treated as their lists of characters.

The functions take the text apart where the source's do.  What comes out is analysed in
`Streaming/RpcUrl.lean`, for URLs that are given by their parts.
-/

namespace Grokbotliq

namespace Text

/-- Unicode's `White_Space`, which `trim` removes. -/
def isWhitespace (c : Char) : Bool :=
  let n := c.toNat
  (9 ≤ n && n ≤ 13) || n == 32 || n == 0x85 || n == 0xA0 || n == 0x1680 ||
    (0x2000 ≤ n && n ≤ 0x200A) || n == 0x2028 || n == 0x2029 || n == 0x202F || n == 0x205F ||
    n == 0x3000

def trim (s : String) : String :=
  String.ofList (((s.toList.dropWhile isWhitespace).reverse.dropWhile isWhitespace).reverse)

/-- `haystack.contains(needle)`. -/
def contains (haystack needle : String) : Bool :=
  haystack.toList.tails.any fun tail => needle.toList.isPrefixOf tail

/-- `to_lowercase`, on the ASCII letters.  What other letters become cannot complete a text that
is searched for: `K` (Kelvin) occurs in none, and `İ` becomes an `i` with a combining dot. -/
def toLowercase (s : String) : String := String.ofList (s.toList.map Char.toLower)

/-- The characters after a prefix, when it is one. -/
def stripPrefix (s pre : String) : Option String :=
  if pre.toList.isPrefixOf s.toList then some (String.ofList (s.toList.drop pre.toList.length))
  else none

/-- `s.split(stop).next()`: what stands before the first of these characters. -/
def upTo (s : String) (stop : Char → Bool) : String :=
  String.ofList (s.toList.takeWhile fun c => !stop c)

/-- `s.split(c).next_back()`: what stands after the last `c`. -/
def afterLast (s : String) (c : Char) : String :=
  String.ofList ((s.toList.reverse.takeWhile fun d => d != c).reverse)

end Text

/-- `scheme://host` only: path, query, fragment and userinfo are stripped. -/
def rpcUrlHostOnly (url : String) : String :=
  let t := Text.trim url
  if t.isEmpty then ""
  else
    match (Text.stripPrefix t "https://").map (("https", ·)) <|>
        (Text.stripPrefix t "http://").map (("http", ·)) with
    | none => "<redacted>"
    | some (scheme, rest) =>
      let hostport := Text.afterLast (Text.upTo rest fun c => c == '/' || c == '?' || c == '#') '@'
      if hostport.isEmpty then "<redacted>" else scheme ++ "://" ++ hostport

/-- Short base58 pubkey for logs: the first 4 and the last 4 bytes.  It panics where one of the two
cuts is inside a character. -/
def shortB58 {ε : Type} (s : String) : Outcome ε String := do
  let t := Text.trim s
  let len := Text.byteLen t.toList
  if len ≤ 10 then return t
  else
    let first ← Text.slice t 0 4
    let last ← Text.slice t (len - 4) len
    return first ++ "…" ++ last

/-- What `shortB58` comes to for a text whose characters are of one byte each, as those of a base58
text are (`shortB58_of_ascii`). -/
def shortText (s : String) : String :=
  let t := (Text.trim s).toList
  if t.length ≤ 10 then String.ofList t
  else String.ofList (t.take 4) ++ "…" ++ String.ofList (t.drop (t.length - 4))

lemma byteLen_of_ascii {cs : List Char} (h : ∀ c ∈ cs, c.utf8Size = 1) :
    Text.byteLen cs = cs.length := by
  rw [Text.byteLen, List.map_congr_left h, List.map_const', List.sum_replicate, smul_eq_mul,
    mul_one]

lemma shortB58_of_ascii {ε : Type} {s : String}
    (h : ∀ c ∈ (Text.trim s).toList, c.utf8Size = 1) :
    (shortB58 s : Outcome ε String) = .ok (shortText s) := by
  obtain ⟨t, ht⟩ : ∃ t, (Text.trim s).toList = t := ⟨_, rfl⟩
  have htrim : Text.trim s = String.ofList t := by rw [← ht, String.ofList_toList]
  rw [ht] at h
  have hsub {cs : List Char} (hcs : ∀ c ∈ cs, c ∈ t) : Text.byteLen cs = cs.length :=
    byteLen_of_ascii fun c hc => h c (hcs c hc)
  unfold shortB58 shortText
  simp only [ht, hsub fun _ hc => hc]
  split_ifs with hshort
  · rw [htrim]
    rfl
  · have hfirst : (Text.slice (Text.trim s) 0 4 : Outcome ε String) =
        .ok (String.ofList (t.take 4)) := by
      have hmid := Text.slice_mid (ε := ε) [] (t.take 4) (t.drop 4)
      rwa [List.nil_append, List.take_append_drop, hsub fun _ => List.mem_of_mem_take,
        List.length_take_of_le (by omega), ← htrim] at hmid
    have hlast : (Text.slice (Text.trim s) (t.length - 4) t.length : Outcome ε String) =
        .ok (String.ofList (t.drop (t.length - 4))) := by
      have hmid := Text.slice_mid (ε := ε) (t.take (t.length - 4)) (t.drop (t.length - 4)) []
      rwa [List.append_nil, List.take_append_drop, hsub fun _ => List.mem_of_mem_take,
        List.length_take_of_le (by omega), hsub fun _ hc => hc, ← htrim] at hmid
    rw [hfirst, Outcome.ok_bind, hlast, Outcome.ok_bind]
    rfl

end Grokbotliq
