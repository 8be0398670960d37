import Grokbotliq.Streaming.Redact

/-!
# The public part of an RPC URL

A URL has a scheme and a host, and around the host what may be secret: userinfo before it, and a
path, a query or a fragment after it.  `rpcUrlHostOnly` searches the text for these parts from
the outside; `rpcUrlHostOnly_text` says that it finds scheme and host whatever the rest is, and
`rpcUrlHostOnly_idem` that nothing changes when it searches what it has found.

The search is from the outside in: the scheme first, then up to the first character that ends an
authority, and then behind the last `@`.  Each of these finds its part because the parts before it
cannot contain what it looks for, which is what `RpcUrl` demands of them.
-/

namespace Grokbotliq

/-- A character that ends the authority of a URL. -/
def endsAuthority (c : Char) : Bool := c == '/' || c == '?' || c == '#'

structure RpcUrl where
  scheme : String
  userinfo : Option String
  host : String
  /-- Path, query and fragment. -/
  tail : String
  scheme_eq : scheme = "https" ∨ scheme = "http"
  userinfo_plain : ∀ info ∈ userinfo, ∀ c ∈ info.toList, endsAuthority c = false
  host_ne : host.toList ≠ []
  host_plain : ∀ c ∈ host.toList,
    endsAuthority c = false ∧ (c != '@') = true ∧ Text.isWhitespace c = false
  tail_start : ∀ c ∈ tail.toList.head?, endsAuthority c = true

namespace RpcUrl

/-- What stands between scheme and host. -/
def credentials (u : RpcUrl) : List Char := u.userinfo.elim [] fun info => info.toList ++ ['@']

def text (u : RpcUrl) : String :=
  String.ofList (u.scheme.toList ++ "://".toList ++ u.credentials ++ u.host.toList ++
    u.tail.toList)

/-- The two differ at most in path, query, fragment or userinfo. -/
def SameEndpoint (u v : RpcUrl) : Prop := u.scheme = v.scheme ∧ u.host = v.host

end RpcUrl

/-! ## Trimming -/

namespace Text

/-- `trim_end`, on characters. -/
def trimEnd (xs : List Char) : List Char := (xs.reverse.dropWhile isWhitespace).reverse

lemma trim_eq (s : String) :
    trim s = String.ofList (trimEnd (s.toList.dropWhile isWhitespace)) := rfl

/-- Up to a character that is no blank, nothing is trimmed at the end. -/
lemma trimEnd_append_cons {c : Char} (hc : isWhitespace c = false) (xs ys : List Char) :
    trimEnd (xs ++ c :: ys) = xs ++ c :: trimEnd ys := by
  have hstay : (c :: xs.reverse).dropWhile isWhitespace = c :: xs.reverse :=
    List.dropWhile_cons_of_neg (by rw [hc]; decide)
  have hreverse : (xs ++ c :: ys).reverse = ys.reverse ++ c :: xs.reverse := by simp
  rw [trimEnd, trimEnd, hreverse, List.dropWhile_append]
  split_ifs with hempty
  · rw [hstay, List.isEmpty_iff.1 hempty]
    simp
  · simp

lemma isWhitespace_of_endsAuthority {c : Char} (h : endsAuthority c = true) :
    isWhitespace c = false := by
  simp only [endsAuthority, Bool.or_eq_true, beq_iff_eq] at h
  rcases h with (rfl | rfl) | rfl <;> decide

end Text

namespace RpcUrl

variable (u : RpcUrl)

/-- What stands after `scheme://`. -/
def afterScheme : List Char := u.credentials ++ u.host.toList ++ u.tail.toList

lemma toList_text : u.text.toList = u.scheme.toList ++ "://".toList ++ u.afterScheme := by
  rw [text, String.toList_ofList, afterScheme]
  simp only [List.append_assoc]

/-- The URL with its tail trimmed. -/
def trimmed : RpcUrl where
  scheme := u.scheme
  userinfo := u.userinfo
  host := u.host
  tail := String.ofList (Text.trimEnd u.tail.toList)
  scheme_eq := u.scheme_eq
  userinfo_plain := u.userinfo_plain
  host_ne := u.host_ne
  host_plain := u.host_plain
  tail_start := by
    intro c hc
    rw [String.toList_ofList] at hc
    cases htail : u.tail.toList with
    | nil =>
        rw [htail] at hc
        exact absurd hc (by simp [Text.trimEnd])
    | cons d ds =>
        have hd : endsAuthority d = true := u.tail_start d (by rw [htail]; rfl)
        have hkeep := Text.trimEnd_append_cons (Text.isWhitespace_of_endsAuthority hd) [] ds
        rw [List.nil_append, List.nil_append] at hkeep
        rw [htail, hkeep, List.head?_cons, Option.mem_some_iff] at hc
        rwa [← hc]

/-- Trimming the text trims the tail alone. -/
lemma trim_text : Text.trim u.text = u.trimmed.text := by
  have hfront : u.text.toList.dropWhile Text.isWhitespace = u.text.toList := by
    rw [u.toList_text]
    rcases u.scheme_eq with hscheme | hscheme <;> rw [hscheme] <;> rfl
  -- the host ends in a character that is no blank
  obtain ⟨host, last, hhost⟩ : ∃ host last, u.host.toList = host ++ [last] :=
    ⟨_, _, (List.dropLast_append_getLast u.host_ne).symm⟩
  have hlast : Text.isWhitespace last = false :=
    (u.host_plain last (by rw [hhost]; simp)).2.2
  have hsplit : u.text.toList =
      (u.scheme.toList ++ "://".toList ++ u.credentials ++ host) ++ last :: u.tail.toList := by
    rw [u.toList_text, afterScheme, hhost]
    simp
  rw [Text.trim_eq, hfront, hsplit, Text.trimEnd_append_cons hlast, text]
  show _ = String.ofList (u.scheme.toList ++ "://".toList ++ u.credentials ++ u.host.toList ++
    (String.ofList (Text.trimEnd u.tail.toList)).toList)
  rw [String.toList_ofList, hhost]
  simp

/-! ## Redaction -/

lemma stripPrefix_append (pre : String) (rest : List Char) :
    Text.stripPrefix (String.ofList (pre.toList ++ rest)) pre = some (String.ofList rest) := by
  have hprefix : pre.toList.isPrefixOf (pre.toList ++ rest) = true :=
    List.isPrefixOf_iff_prefix.2 (List.prefix_append _ _)
  rw [Text.stripPrefix, String.toList_ofList, if_pos hprefix, List.drop_left]

lemma upTo_afterScheme :
    Text.upTo (String.ofList u.afterScheme) (fun c => c == '/' || c == '?' || c == '#') =
      String.ofList (u.credentials ++ u.host.toList) := by
  -- Neither credentials nor host hold a character that ends the authority; the tail starts with
  -- one.
  have hkept : ∀ c ∈ u.credentials ++ u.host.toList, (!endsAuthority c) = true := by
    intro c hc
    rcases List.mem_append.1 hc with hc | hc
    · cases hinfo : u.userinfo with
      | none =>
          rw [credentials, hinfo] at hc
          exact absurd hc List.not_mem_nil
      | some info =>
          rw [credentials, hinfo] at hc
          rcases List.mem_append.1 hc with hc | hc
          · rw [u.userinfo_plain info hinfo c hc]
            rfl
          · obtain rfl := List.mem_singleton.1 hc
            rfl
    · rw [(u.host_plain c hc).1]
      rfl
  have htail : u.tail.toList.takeWhile (fun c => !endsAuthority c) = [] := by
    cases htail : u.tail.toList with
    | nil => rfl
    | cons d ds =>
        have hd : endsAuthority d = true := u.tail_start d (by rw [htail]; rfl)
        exact List.takeWhile_cons_of_neg (by rw [hd]; decide)
  show String.ofList ((String.ofList u.afterScheme).toList.takeWhile
    fun c => !endsAuthority c) = _
  rw [String.toList_ofList, afterScheme, List.takeWhile_append_of_pos hkept, htail,
    List.append_nil]

lemma afterLast_authority :
    Text.afterLast (String.ofList (u.credentials ++ u.host.toList)) '@' = u.host := by
  have hhost : ∀ c ∈ u.host.toList.reverse, (c != '@') = true := fun c hc =>
    (u.host_plain c (List.mem_reverse.1 hc)).2.1
  have hcredentials : u.credentials.reverse.takeWhile (fun c => c != '@') = [] := by
    rw [credentials]
    cases u.userinfo with
    | none => rfl
    | some info =>
        rw [Option.elim_some, List.reverse_append]
        rfl
  rw [Text.afterLast, String.toList_ofList, List.reverse_append,
    List.takeWhile_append_of_pos hhost, hcredentials, List.append_nil, List.reverse_reverse,
    String.ofList_toList]

lemma strip_scheme :
    ((Text.stripPrefix u.text "https://").map (("https", ·)) <|>
      (Text.stripPrefix u.text "http://").map (("http", ·))) =
        some (u.scheme, String.ofList u.afterScheme) := by
  have htext : u.text = String.ofList (u.scheme.toList ++ "://".toList ++ u.afterScheme) := by
    rw [← u.toList_text, String.ofList_toList]
  rcases u.scheme_eq with hscheme | hscheme
  · have hstrip : Text.stripPrefix u.text "https://" = some (String.ofList u.afterScheme) := by
      rw [htext, hscheme]
      exact stripPrefix_append "https://" u.afterScheme
    rw [hstrip, hscheme]
    rfl
  · have hstrip : Text.stripPrefix u.text "http://" = some (String.ofList u.afterScheme) := by
      rw [htext, hscheme]
      exact stripPrefix_append "http://" u.afterScheme
    -- The longer prefix is tried first and does not fit.
    have hnot : Text.stripPrefix u.text "https://" = none := by
      have hprefix : "https://".toList.isPrefixOf u.text.toList = false := by
        rw [u.toList_text, hscheme]
        rfl
      rw [Text.stripPrefix, hprefix]
      rfl
    rw [hstrip, hnot, hscheme]
    rfl

lemma isEmpty_text : u.text.isEmpty = false := by
  rw [Bool.eq_false_iff, ne_eq, String.isEmpty_iff]
  intro hempty
  have hlist := u.toList_text
  rw [hempty] at hlist
  exact absurd hlist.symm (by simp)

/-- **Scheme and host are all that is left of a URL.** -/
theorem rpcUrlHostOnly_text : rpcUrlHostOnly u.text = u.scheme ++ "://" ++ u.host := by
  have hhost : u.host.isEmpty = false := by
    rw [Bool.eq_false_iff, ne_eq, String.isEmpty_iff]
    rintro hempty
    exact u.host_ne (by rw [hempty]; rfl)
  have hauthority : Text.afterLast (Text.upTo (String.ofList u.trimmed.afterScheme)
      fun c => c == '/' || c == '?' || c == '#') '@' = u.host := by
    rw [upTo_afterScheme]
    exact u.trimmed.afterLast_authority
  rw [rpcUrlHostOnly]
  simp only [u.trim_text, u.trimmed.isEmpty_text, u.trimmed.strip_scheme, hauthority, hhost,
    Bool.false_eq_true, if_false]
  rfl

/-- URLs of one endpoint look the same in reports. -/
lemma SameEndpoint.rpcUrlHostOnly_eq {u v : RpcUrl} (h : SameEndpoint u v) :
    rpcUrlHostOnly u.text = rpcUrlHostOnly v.text := by
  rw [rpcUrlHostOnly_text, rpcUrlHostOnly_text, h.1, h.2]

/-! ## Redacting twice -/

/-- Scheme and host, with nothing around them. -/
def ofHost (scheme host : String) (hscheme : scheme = "https" ∨ scheme = "http")
    (hne : host.toList ≠ [])
    (hplain : ∀ c ∈ host.toList,
      endsAuthority c = false ∧ (c != '@') = true ∧ Text.isWhitespace c = false) : RpcUrl where
  scheme := scheme
  userinfo := none
  host := host
  tail := ""
  scheme_eq := hscheme
  userinfo_plain := fun _ h => absurd h (by simp)
  host_ne := hne
  host_plain := hplain
  tail_start := fun _ h => absurd h (by simp)

lemma text_ofHost {scheme host : String} (hscheme : scheme = "https" ∨ scheme = "http")
    (hne : host.toList ≠ [])
    (hplain : ∀ c ∈ host.toList,
      endsAuthority c = false ∧ (c != '@') = true ∧ Text.isWhitespace c = false) :
    (ofHost scheme host hscheme hne hplain).text = scheme ++ "://" ++ host := by
  apply String.toList_inj.1
  rw [toList_text, afterScheme]
  simp [credentials, ofHost]

/-- What is left of a URL holds no blank. -/
lemma isWhitespace_of_mem_rpcUrlHostOnly {c : Char} (hc : c ∈ (rpcUrlHostOnly u.text).toList) :
    Text.isWhitespace c = false := by
  rw [rpcUrlHostOnly_text, String.toList_append] at hc
  rcases List.mem_append.1 hc with hc | hc
  · have hscheme : (u.scheme ++ "://").toList.all (fun d => !Text.isWhitespace d) = true := by
      rcases u.scheme_eq with hscheme | hscheme <;> rw [hscheme] <;> rfl
    simpa using List.all_eq_true.1 hscheme c hc
  · exact (u.host_plain c hc).2.2

end RpcUrl

/-- A host that is left over holds no character that the search stops at. -/
lemma plain_of_mem_afterLast_upTo {s : String} {c : Char}
    (hc : c ∈ (Text.afterLast (Text.upTo s fun c => c == '/' || c == '?' || c == '#') '@').toList) :
    endsAuthority c = false ∧ (c != '@') = true := by
  rw [Text.afterLast, String.toList_ofList, List.mem_reverse] at hc
  have hat : (c != '@') = true := List.mem_takeWhile_imp (p := fun d => d != '@') hc
  have hmem := List.mem_reverse.1 ((List.takeWhile_prefix _).subset hc)
  rw [Text.upTo, String.toList_ofList] at hmem
  have hkept : (!endsAuthority c) = true :=
    List.mem_takeWhile_imp (p := fun d => !endsAuthority d) hmem
  exact ⟨by simpa using hkept, hat⟩

/-- What a redaction can be. -/
lemma rpcUrlHostOnly_cases (url : String) :
    rpcUrlHostOnly url = "" ∨ rpcUrlHostOnly url = "<redacted>" ∨
      ∃ scheme host, (scheme = "https" ∨ scheme = "http") ∧ host.toList ≠ [] ∧
        (∀ c ∈ host.toList, endsAuthority c = false ∧ (c != '@') = true) ∧
        rpcUrlHostOnly url = scheme ++ "://" ++ host := by
  rw [rpcUrlHostOnly]
  simp only
  split_ifs with hempty
  · exact Or.inl rfl
  · cases hstrip : ((Text.stripPrefix (Text.trim url) "https://").map (("https", ·)) <|>
        (Text.stripPrefix (Text.trim url) "http://").map (("http", ·))) with
    | none => exact Or.inr (Or.inl rfl)
    | some found =>
        obtain ⟨scheme, rest⟩ := found
        simp only
        split_ifs with hhost
        · exact Or.inr (Or.inl rfl)
        · refine Or.inr (Or.inr ⟨scheme, _, ?_, ?_, fun c hc => ?_, rfl⟩)
          · rw [Option.orElse_apply, Option.orElse_eq_or, Option.or_eq_some_iff] at hstrip
            rcases hstrip with hhttps | ⟨-, hhttp⟩
            · obtain ⟨_, -, hfound⟩ := Option.map_eq_some_iff.1 hhttps
              exact Or.inl (congrArg Prod.fst hfound).symm
            · obtain ⟨_, -, hfound⟩ := Option.map_eq_some_iff.1 hhttp
              exact Or.inr (congrArg Prod.fst hfound).symm
          · intro hnil
            exact hhost (by rw [String.isEmpty_iff]; exact String.toList_eq_nil_iff.1 hnil)
          · exact plain_of_mem_afterLast_upTo hc

/-- **Redacting twice is redacting once**, on every redaction without a blank. -/
theorem rpcUrlHostOnly_idem {url : String}
    (h : ∀ c ∈ (rpcUrlHostOnly url).toList, Text.isWhitespace c = false) :
    rpcUrlHostOnly (rpcUrlHostOnly url) = rpcUrlHostOnly url := by
  rcases rpcUrlHostOnly_cases url with hurl | hurl | ⟨scheme, host, hscheme, hne, hplain, hurl⟩
  · rw [hurl]
    decide
  · rw [hurl]
    decide
  · have hhost : ∀ c ∈ host.toList,
        endsAuthority c = false ∧ (c != '@') = true ∧ Text.isWhitespace c = false := by
      intro c hc
      refine ⟨(hplain c hc).1, (hplain c hc).2, h c ?_⟩
      rw [hurl, String.toList_append]
      exact List.mem_append_right _ hc
    have hbare := (RpcUrl.ofHost scheme host hscheme hne hhost).rpcUrlHostOnly_text
    rw [RpcUrl.text_ofHost] at hbare
    rw [hurl]
    exact hbare

/-- **A redaction tells scheme and host alone**, and redacting it again changes nothing. -/
theorem redaction_public (u v : RpcUrl) (h : u.SameEndpoint v) :
    rpcUrlHostOnly u.text = u.scheme ++ "://" ++ u.host ∧
      rpcUrlHostOnly v.text = rpcUrlHostOnly u.text ∧
      rpcUrlHostOnly (rpcUrlHostOnly u.text) = rpcUrlHostOnly u.text := by
  have hidem : rpcUrlHostOnly (rpcUrlHostOnly u.text) = rpcUrlHostOnly u.text :=
    rpcUrlHostOnly_idem fun _ hc => u.isWhitespace_of_mem_rpcUrlHostOnly hc
  exact ⟨u.rpcUrlHostOnly_text, h.rpcUrlHostOnly_eq.symm, hidem⟩

/-- A URL with userinfo, and a key in its query. -/
def busyUrl : RpcUrl where
  scheme := "https"
  userinfo := some "bot:p@s"
  host := "rpc.example:443"
  tail := "/v0?api-key=k#a@b"
  scheme_eq := Or.inl rfl
  userinfo_plain := by
    intro info hinfo
    have heq : "bot:p@s" = info := Option.some.inj hinfo
    rw [← heq]
    have hall : ("bot:p@s".toList.all fun c => !endsAuthority c) = true := by decide
    simpa only [List.all_eq_true, Bool.not_eq_true'] using hall
  host_ne := by decide
  host_plain := by
    have hall : ("rpc.example:443".toList.all fun c =>
        !endsAuthority c && (c != '@' && !Text.isWhitespace c)) = true := by decide
    simpa only [List.all_eq_true, Bool.and_eq_true, Bool.not_eq_true'] using hall
  tail_start := by
    intro c hc
    have hhead : "/v0?api-key=k#a@b".toList.head? = some '/' := rfl
    rw [hhead] at hc
    obtain rfl := Option.some.inj hc
    rfl

/-- The same endpoint, with nothing around it. -/
def quietUrl : RpcUrl :=
  .ofHost "https" "rpc.example:443" busyUrl.scheme_eq busyUrl.host_ne busyUrl.host_plain

theorem redaction_public_busyUrl :
    rpcUrlHostOnly busyUrl.text = "https" ++ "://" ++ "rpc.example:443" ∧
      rpcUrlHostOnly quietUrl.text = rpcUrlHostOnly busyUrl.text ∧
      rpcUrlHostOnly (rpcUrlHostOnly busyUrl.text) = rpcUrlHostOnly busyUrl.text :=
  redaction_public busyUrl quietUrl ⟨rfl, rfl⟩

end Grokbotliq
