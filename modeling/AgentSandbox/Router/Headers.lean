import AgentSandbox.Lib.GoErrors
import AgentSandbox.Lib.GoNet
import AgentSandbox.Lib.GoStrings

/-!
# The Go router's routing headers

Model of `sandbox-router/proxy/headers.go` (`ParseSandboxHeaders`,
`validDNSLabel`, `validPodIP`) and of `Target.Resolve` in
`proxy/resolve.go`.  The header map is its `Get` function; `strconv.Atoi` is
`GoStrings.atoi`, and `net.ParseIP` is a parameter of which only its documented
promise is used: an address it returns is 16 bytes long.

Go's byte loop in `validDNSLabel` runs here over characters: every byte of a
non-ASCII character is at least `0x80` and fails every case, as the character
does, so both loops reject the same strings.
-/

set_option autoImplicit false

namespace AgentSandbox.Router

open GoNet GoErrors IpAddress

def HeaderSandboxID : String := "X-Sandbox-Id"
def HeaderSandboxUID : String := "X-Sandbox-Uid"
def HeaderSandboxNamespace : String := "X-Sandbox-Namespace"
def HeaderSandboxPort : String := "X-Sandbox-Port"
def HeaderSandboxPodIP : String := "X-Sandbox-Pod-Ip"

def DefaultSandboxNamespace : String := "default"
def DefaultSandboxPort : Int := 8888

def StatusBadRequest : Nat := 400

structure Target where
  id : String
  uid : String
  «namespace» : String
  port : Int
  podIP : String
deriving DecidableEq, Repr

structure ParseOptions where
  allowLoopbackPodIP : Bool

structure Error where
  status : Nat
  detail : String
deriving DecidableEq, Repr

/-- The function of Go's standard library that the parser calls and this model leaves open. -/
structure GoLib where
  parseIP : String → Option IP

/-- `net.ParseIP` returns every address in its 16-byte form. -/
def GoLib.ParseIPSixteen (lib : GoLib) : Prop :=
  ∀ s ip, lib.parseIP s = some ip → ip.length = 16

def validDNSLabel (s : String) : Bool :=
  if s = "" || decide (s.length > 63) then false
  else
    (List.range s.length).all fun i =>
      let c := s.toList.getD i ' '
      if decide ('0' ≤ c) && decide (c ≤ '9') then true
      else if decide ('a' ≤ c) && decide (c ≤ 'z') then true
      -- a hyphen only in the interior
      else if c = '-' then !(i == 0 || i == s.length - 1)
      else false

section Lib

variable (lib : GoLib)

def validPodIP (s : String) (allowLoopback : Bool) : Bool :=
  match lib.parseIP s with
  | none => false
  | some ip =>
      if ip.isUnspecified || ip.isLinkLocalUnicast || ip.isLinkLocalMulticast || ip.isMulticast then
        false
      else if ip.isLoopback && !allowLoopback then false
      else true

/-- The `X-Sandbox-Port` block of `ParseSandboxHeaders`. -/
def parsePort (raw : String) : Except Error Int :=
  if raw = "" then pure DefaultSandboxPort else
    match GoStrings.atoi raw with
    | none => throw ⟨StatusBadRequest, "Invalid port format."⟩
    | some n =>
        if decide (n < 1) || decide (n > 65535) then throw ⟨StatusBadRequest, "Invalid port format."⟩
        else pure n

def parseSandboxHeaders (h : String → String) (opts : ParseOptions) : Except Error Target := do
  let id := h HeaderSandboxID
  if id = "" then throw ⟨StatusBadRequest, "X-Sandbox-ID header is required."⟩
  if !validDNSLabel id then throw ⟨StatusBadRequest, "Invalid sandbox ID format."⟩
  let ns := if h HeaderSandboxNamespace = "" then DefaultSandboxNamespace else h HeaderSandboxNamespace
  if !validDNSLabel ns then throw ⟨StatusBadRequest, "Invalid namespace format."⟩
  let port ← parsePort (h HeaderSandboxPort)
  let podIP := h HeaderSandboxPodIP
  if podIP ≠ "" && !validPodIP lib podIP opts.allowLoopbackPodIP then
    throw ⟨StatusBadRequest, "Invalid target IP address."⟩
  pure { id := id, uid := h HeaderSandboxUID, «namespace» := ns, port := port, podIP := podIP }

/-- What `validPodIP` accepts: an address `ParseIP` reads that is not
link-local, multicast or unspecified, and loopback only when allowed. -/
theorem validPodIP_iff (sixteen : lib.ParseIPSixteen) {s : String} {allowLoopback : Bool} :
    validPodIP lib s allowLoopback = true ↔
      ∃ ip, lib.parseIP s = some ip ∧ ip.toAddr.unmap.isLinkLocal = false ∧
        ip.toAddr.unmap.isMulticast = false ∧ ip.toAddr.unmap.isUnspecified = false ∧
        (ip.toAddr.unmap.isLoopback = false ∨ allowLoopback = true) := by
  unfold validPodIP
  cases parsed : lib.parseIP s with
  | none => simp
  | some ip =>
      have len := sixteen s ip parsed
      have implied := @IP.isMulticast_of_isLinkLocalMulticast ip
      simp only [Option.some.injEq, exists_eq_left', ← isUnspecified_eq len,
        ← isLinkLocalUnicast_eq len, ← isMulticast_eq len, ← isLoopback_eq len]
      by_cases rejected :
          (ip.isUnspecified || ip.isLinkLocalUnicast || ip.isLinkLocalMulticast || ip.isMulticast) = true
      · -- one of the rejected classes; link-local multicast lies inside multicast
        rw [if_pos rejected, Bool.false_eq_true, false_iff]
        rintro ⟨linkLocal, multicast, unspecified, -⟩
        simp only [Bool.or_eq_true] at rejected
        rcases rejected with ((bad | bad) | bad) | bad <;> simp_all
      · rw [if_neg rejected]
        simp only [Bool.or_eq_true, not_or, Bool.not_eq_true] at rejected
        obtain ⟨⟨⟨unspecified, linkLocal⟩, -⟩, multicast⟩ := rejected
        by_cases looped : (ip.isLoopback && !allowLoopback) = true
        · rw [if_pos looped, Bool.false_eq_true, false_iff]
          simp only [Bool.and_eq_true, Bool.not_eq_true'] at looped
          simp [looped]
        · rw [if_neg looped, eq_self_iff_true, true_iff]
          refine ⟨linkLocal, multicast, unspecified, ?_⟩
          cases loop : ip.isLoopback
          · exact Or.inl rfl
          · simpa [loop] using looped

/- The cloud metadata address in its IPv4-mapped spelling is still link-local. -/
example : validPodIP ⟨fun _ => some (IPv4 169 254 169 254)⟩
    "::ffff:169.254.169.254" false = false := by decide

/-- The port a header gives: the default for an empty header, otherwise what
`Atoi` reads, when it lies in the TCP range. -/
theorem parsePort_eq_ok_iff {raw : String} {port : Int} :
    parsePort raw = .ok port ↔
      (raw = "" ∧ port = DefaultSandboxPort) ∨
        (raw ≠ "" ∧ GoStrings.atoi raw = some port ∧ 1 ≤ port ∧ port ≤ 65535) := by
  unfold parsePort
  by_cases empty : raw = ""
  · rw [if_pos empty, pure_eq_ok]
    simp [empty, eq_comm]
  · rw [if_neg empty]
    cases parsed : GoStrings.atoi raw with
    | none => simp [empty, throw, throwThe, MonadExceptOf.throw]
    | some n =>
        by_cases outside : n < 1 ∨ n > 65535
        · simp [empty, outside, throw, throwThe, MonadExceptOf.throw]
          omega
        · simp [empty, outside]
          omega

theorem exists_parsePort_eq_ok_iff {raw : String} :
    (∃ port, parsePort raw = .ok port) ↔
      raw = "" ∨ ∃ n, GoStrings.atoi raw = some n ∧ 1 ≤ n ∧ n ≤ 65535 := by
  simp only [parsePort_eq_ok_iff]
  constructor
  · rintro ⟨port, ⟨empty, -⟩ | ⟨-, parsed, inRange⟩⟩
    · exact .inl empty
    · exact .inr ⟨port, parsed, inRange⟩
  · rintro (empty | ⟨n, parsed, inRange⟩)
    · exact ⟨_, .inl ⟨empty, rfl⟩⟩
    · by_cases empty : raw = ""
      · exact ⟨_, .inl ⟨empty, rfl⟩⟩
      · exact ⟨n, .inr ⟨empty, parsed, inRange⟩⟩

theorem parsePort_ok {raw : String} {port : Int} (ok : parsePort raw = .ok port) :
    1 ≤ port ∧ port ≤ 65535 := by
  rcases parsePort_eq_ok_iff.mp ok with ⟨-, rfl⟩ | ⟨-, -, inRange⟩
  · decide
  · exact inRange

/-- `ParseSandboxHeaders` succeeds exactly when each guard passes, in the order
the source runs them, and then builds the `Target` from the headers. -/
theorem parseSandboxHeaders_eq_ok_iff {h : String → String} {opts : ParseOptions} {t : Target} :
    parseSandboxHeaders lib h opts = .ok t ↔
      ∃ port, h HeaderSandboxID ≠ "" ∧ validDNSLabel (h HeaderSandboxID) = true ∧
        validDNSLabel (if h HeaderSandboxNamespace = "" then DefaultSandboxNamespace
          else h HeaderSandboxNamespace) = true ∧
        parsePort (h HeaderSandboxPort) = .ok port ∧
        (h HeaderSandboxPodIP ≠ "" → validPodIP lib (h HeaderSandboxPodIP) opts.allowLoopbackPodIP = true) ∧
        t = { id := h HeaderSandboxID, uid := h HeaderSandboxUID,
              «namespace» := if h HeaderSandboxNamespace = "" then DefaultSandboxNamespace
                else h HeaderSandboxNamespace,
              port := port, podIP := h HeaderSandboxPodIP } := by
  unfold parseSandboxHeaders
  by_cases idSet : h HeaderSandboxID = ""
  · simp [idSet, throw, throwThe, MonadExceptOf.throw]
  by_cases idValid : validDNSLabel (h HeaderSandboxID) = true
  swap
  · simp [idSet, idValid, throw, throwThe, MonadExceptOf.throw]
  by_cases nsValid : validDNSLabel
      (if h HeaderSandboxNamespace = "" then DefaultSandboxNamespace else h HeaderSandboxNamespace) = true
  swap
  · simp [idSet, idValid, nsValid, throw, throwThe, MonadExceptOf.throw]
  simp only [idSet, idValid, nsValid, ne_eq, not_false_eq_true, Bool.not_true, Bool.false_eq_true,
    if_false, true_and, bind_eq_ok]
  -- the last guard, on the Pod IP, comes after the port is parsed
  by_cases ipRejected :
      (decide (h HeaderSandboxPodIP ≠ "") && !validPodIP lib (h HeaderSandboxPodIP) opts.allowLoopbackPodIP) = true
  · simp only [ne_eq, Bool.and_eq_true, decide_eq_true_eq, Bool.not_eq_true'] at ipRejected
    simp [ipRejected, throw, throwThe, MonadExceptOf.throw]
  · have valid : h HeaderSandboxPodIP ≠ "" → validPodIP lib (h HeaderSandboxPodIP) opts.allowLoopbackPodIP = true := by
      simpa using ipRejected
    rw [Bool.not_eq_true] at ipRejected
    simp only [ne_eq] at ipRejected
    simp only [ipRejected, Bool.false_eq_true, if_false, pure_eq_ok]
    constructor
    · rintro ⟨port, parsed, rfl⟩
      exact ⟨port, parsed, valid, rfl⟩
    · rintro ⟨port, parsed, -, rfl⟩
      exact ⟨port, parsed, rfl⟩

theorem parseSandboxHeaders_ok {h : String → String} {opts : ParseOptions} {t : Target}
    (ok : parseSandboxHeaders lib h opts = .ok t) :
    t.id = h HeaderSandboxID ∧ t.id ≠ "" ∧ validDNSLabel t.id = true ∧
      validDNSLabel t.namespace = true ∧ 1 ≤ t.port ∧ t.port ≤ 65535 ∧
      t.uid = h HeaderSandboxUID ∧ t.podIP = h HeaderSandboxPodIP ∧
      (t.podIP ≠ "" → validPodIP lib t.podIP opts.allowLoopbackPodIP = true) := by
  obtain ⟨port, idSet, idValid, nsValid, parsed, podIPValid, rfl⟩ :=
    (parseSandboxHeaders_eq_ok_iff lib).mp ok
  have inRange := parsePort_ok parsed
  exact ⟨rfl, idSet, idValid, nsValid, inRange.1, inRange.2, rfl, rfl, podIPValid⟩

end Lib

/-! ## The grammar `validDNSLabel` recognises

The source says the loop mirrors the Python router's regular expression
`^[a-z0-9]([-a-z0-9]*[a-z0-9])?$` with a 63-character cap.  `DNSLabel` is that
language written out, and `validDNSLabel_iff` says the loop accepts exactly
it: the loop reads each index once, and a hyphen is refused exactly at the
two ends, where the expression wants a letter or digit. -/

/-- `[a-z0-9]`. -/
def LowerAlnum (c : Char) : Prop := ('a' ≤ c ∧ c ≤ 'z') ∨ ('0' ≤ c ∧ c ≤ '9')

instance (c : Char) : Decidable (LowerAlnum c) :=
  inferInstanceAs (Decidable (('a' ≤ c ∧ c ≤ 'z') ∨ ('0' ≤ c ∧ c ≤ '9')))

/-- The strings `[a-z0-9]([-a-z0-9]*[a-z0-9])?` matches whole. -/
def DNSLabelGrammar (l : List Char) : Prop :=
  (∃ c, LowerAlnum c ∧ l = [c]) ∨
    ∃ c mid d, LowerAlnum c ∧ (∀ x ∈ mid, x = '-' ∨ LowerAlnum x) ∧ LowerAlnum d ∧
      l = c :: (mid ++ [d])

def DNSLabel (s : String) : Prop := DNSLabelGrammar s.toList ∧ s.length ≤ 63

theorem not_lowerAlnum_hyphen : ¬LowerAlnum '-' := by decide

theorem dnsLabelGrammar_iff {l : List Char} :
    DNSLabelGrammar l ↔ (∀ x ∈ l, x = '-' ∨ LowerAlnum x) ∧
      (∃ c, l.head? = some c ∧ LowerAlnum c) ∧ ∃ d, l.getLast? = some d ∧ LowerAlnum d := by
  constructor
  · rintro (⟨c, alnum, rfl⟩ | ⟨c, mid, d, first, inner, last, rfl⟩)
    · simp [alnum]
    · refine ⟨?_, ⟨c, rfl, first⟩, ⟨d, by rw [← List.cons_append, List.getLast?_concat], last⟩⟩
      intro x mem
      simp only [List.mem_cons, List.mem_append, List.not_mem_nil, or_false] at mem
      rcases mem with rfl | mem | rfl
      · exact .inr first
      · exact inner x mem
      · exact .inr last
  · rintro ⟨chars, ⟨c, head, first⟩, ⟨d, lastIs, last⟩⟩
    obtain ⟨rest, rfl⟩ : ∃ rest, l = c :: rest := List.head?_eq_some_iff.mp head
    -- one character, or a first, a middle and a last one
    rcases List.eq_nil_or_concat' rest with rfl | ⟨mid, d', rfl⟩
    · exact .inl ⟨c, first, rfl⟩
    · have : d' = d := by
        rw [← List.cons_append, List.getLast?_concat, Option.some.injEq] at lastIs
        exact lastIs
      subst this
      exact .inr ⟨c, mid, d', first, fun x mem => chars x (by simp [mem]), last, rfl⟩

theorem DNSLabelGrammar.ne_nil {l : List Char} : DNSLabelGrammar l → l ≠ [] := by
  rintro (⟨c, -, rfl⟩ | ⟨c, mid, d, -, -, -, rfl⟩) <;> simp

theorem DNSLabel.not_mem {s : String} (label : DNSLabel s) {c : Char} (notHyphen : c ≠ '-')
    (notAlnum : ¬LowerAlnum c) : c ∉ s.toList := by
  intro mem
  rcases (dnsLabelGrammar_iff.mp label.1).1 c mem with hyphen | alnum
  · exact notHyphen hyphen
  · exact notAlnum alnum

theorem validDNSLabel_eq_true_iff {s : String} :
    validDNSLabel s = true ↔ s ≠ "" ∧ s.length ≤ 63 ∧
      ∀ i c, s.toList[i]? = some c → LowerAlnum c ∨ (c = '-' ∧ i ≠ 0 ∧ i ≠ s.length - 1) := by
  unfold validDNSLabel
  simp only [gt_iff_lt, Bool.or_eq_true, decide_eq_true_eq, List.getD_eq_getElem?_getD,
    Bool.and_eq_true, Bool.not_or, Bool.if_false_right, Bool.if_true_left, Bool.decide_and,
    Bool.if_false_left, Bool.decide_or, Bool.not_eq_eq_eq_not, Bool.not_true,
    decide_eq_false_iff_not, not_lt, List.all_eq_true, List.mem_range, beq_eq_false_iff_ne, ne_eq]
  rw [and_assoc]
  refine and_congr_right fun _ => and_congr_right fun _ => ?_
  -- the loop's index runs over the characters of the string
  constructor
  · intro chars i c get
    obtain ⟨lt, rfl⟩ := List.getElem?_eq_some_iff.mp get
    have atIndex := chars i (by rwa [String.length_toList] at lt)
    rw [get, Option.getD_some] at atIndex
    -- the switch tests digits before letters
    rcases atIndex with digit | lower | hyphen
    · exact .inl (.inr digit)
    · exact .inl (.inl lower)
    · exact .inr hyphen
  · intro chars i lt
    have get : s.toList[i]? = some s.toList[i] := List.getElem?_eq_getElem (by rwa [String.length_toList])
    have atIndex := chars i _ get
    rw [get, Option.getD_some]
    rcases atIndex with (lower | digit) | hyphen
    · exact .inr (.inl lower)
    · exact .inl digit
    · exact .inr (.inr hyphen)

/-- A hyphen refused at the first and the last index is a letter or digit at
both ends. -/
theorem labelChars_iff {l : List Char} (ne : l ≠ []) :
    (∀ i c, l[i]? = some c → LowerAlnum c ∨ (c = '-' ∧ i ≠ 0 ∧ i ≠ l.length - 1)) ↔
      (∀ x ∈ l, x = '-' ∨ LowerAlnum x) ∧ (∃ c, l.head? = some c ∧ LowerAlnum c) ∧
        ∃ d, l.getLast? = some d ∧ LowerAlnum d := by
  have headAt : l.head? = l[0]? := List.head?_eq_getElem?
  have lastAt : l.getLast? = l[l.length - 1]? := List.getLast?_eq_getElem?
  constructor
  · intro chars
    refine ⟨fun x mem => ?_, ?_, ?_⟩
    · obtain ⟨i, get⟩ := List.mem_iff_getElem?.mp mem
      rcases chars i x get with alnum | ⟨hyphen, -, -⟩
      · exact .inr alnum
      · exact .inl hyphen
    · obtain ⟨c, head⟩ : ∃ c, l.head? = some c := ⟨l.head ne, List.head?_eq_some_head ne⟩
      refine ⟨c, head, ?_⟩
      rw [headAt] at head
      rcases chars 0 c head with alnum | ⟨-, notFirst, -⟩
      · exact alnum
      · exact absurd rfl notFirst
    · obtain ⟨d, last⟩ : ∃ d, l.getLast? = some d := ⟨l.getLast ne, List.getLast?_eq_some_getLast ne⟩
      refine ⟨d, last, ?_⟩
      rw [lastAt] at last
      rcases chars _ d last with alnum | ⟨-, -, notLast⟩
      · exact alnum
      · exact absurd rfl notLast
  · rintro ⟨chars, ⟨c, head, first⟩, ⟨d, last, lastAlnum⟩⟩ i x get
    rcases chars x (List.mem_of_getElem? get) with hyphen | alnum
    · -- a hyphen is neither the first nor the last character
      subst hyphen
      refine .inr ⟨rfl, ?_, ?_⟩
      · rintro rfl
        rw [headAt, get, Option.some.injEq] at head
        exact not_lowerAlnum_hyphen (head ▸ first)
      · rintro rfl
        rw [lastAt, get, Option.some.injEq] at last
        exact not_lowerAlnum_hyphen (last ▸ lastAlnum)
    · exact .inl alnum

theorem validDNSLabel_iff {s : String} : validDNSLabel s = true ↔ DNSLabel s := by
  rw [validDNSLabel_eq_true_iff, DNSLabel, ← String.length_toList, ne_eq,
    ← String.toList_eq_nil_iff]
  constructor
  · rintro ⟨ne, le, chars⟩
    exact ⟨dnsLabelGrammar_iff.mpr ((labelChars_iff ne).mp chars), le⟩
  · rintro ⟨grammar, le⟩
    have ne := grammar.ne_nil
    exact ⟨ne, le, (labelChars_iff ne).mpr (dnsLabelGrammar_iff.mp grammar)⟩

theorem validDNSLabel_namespace_iff {raw : String} :
    validDNSLabel (if raw = "" then DefaultSandboxNamespace else raw) = true ↔
      raw = "" ∨ DNSLabel raw := by
  by_cases empty : raw = ""
  · simp only [empty, if_true, true_or, iff_true]
    decide
  · simp only [empty, if_false, false_or]
    exact validDNSLabel_iff

/-! ## Choosing the upstream -/

inductive Source
  | podIP
  | cache
  | dns
deriving DecidableEq, Repr

structure URL where
  scheme : String
  host : String
  path : String
  rawQuery : String
deriving DecidableEq, Repr

/-- `net.JoinHostPort`: a host with a colon is bracketed. -/
def joinHostPort (host port : String) : String :=
  if ':' ∈ host.toList then "[" ++ host ++ "]:" ++ port else host ++ ":" ++ port

/-- The host `Resolve` dials and the branch that set its source.  `lookup` is
the informer cache's `Get` as the Pod IP of the entry for a UID, or `none`
when no cache is attached. -/
def Target.upstreamHost (t : Target) (clusterDomain : String)
    (lookup : Option (String → Option String)) : String × Source :=
  let chosen : String × Source :=
    if t.podIP ≠ "" then (t.podIP, .podIP)
    else match lookup with
      | some get =>
          if t.uid ≠ "" then
            match get t.uid with
            | some podIP => (podIP, .cache)
            | none => ("", .dns)
          else ("", .dns)
      | none => ("", .dns)
  -- the DNS form keeps the source already chosen
  if chosen.1 = "" then (t.id ++ "." ++ t.namespace ++ ".svc." ++ clusterDomain, chosen.2)
  else chosen

def Target.resolve (t : Target) (scheme clusterDomain path rawQuery : String)
    (lookup : Option (String → Option String)) : URL × Source :=
  let upstream := t.upstreamHost clusterDomain lookup
  (⟨if scheme = "" then "http" else scheme, joinHostPort upstream.1 (toString t.port), path,
    rawQuery⟩, upstream.2)

theorem upstreamHost_of_podIP {t : Target} (set : t.podIP ≠ "") (clusterDomain : String)
    (lookup : Option (String → Option String)) :
    t.upstreamHost clusterDomain lookup = (t.podIP, .podIP) := by
  simp [Target.upstreamHost, set]

/-- Without a Pod IP, and when the cache has no entry for the UID, `Resolve`
falls back to the DNS form. -/
theorem upstreamHost_of_miss {t : Target} (noPodIP : t.podIP = "") (clusterDomain : String)
    {lookup : Option (String → Option String)}
    (miss : ∀ get, lookup = some get → t.uid ≠ "" → get t.uid = none) :
    t.upstreamHost clusterDomain lookup =
      (t.id ++ "." ++ t.namespace ++ ".svc." ++ clusterDomain, .dns) := by
  unfold Target.upstreamHost
  cases lookup with
  | none => simp [noPodIP]
  | some get =>
      by_cases uidSet : t.uid = ""
      · simp [noPodIP, uidSet]
      · simp [noPodIP, uidSet, miss get rfl uidSet]

theorem colon_mem_dnsName_iff {id ns clusterDomain : String} (idLabel : DNSLabel id)
    (nsLabel : DNSLabel ns) :
    ':' ∈ (id ++ "." ++ ns ++ ".svc." ++ clusterDomain).toList ↔ ':' ∈ clusterDomain.toList := by
  have notInId := idLabel.not_mem (c := ':') (by decide) (by decide)
  have notInNs := nsLabel.not_mem (c := ':') (by decide) (by decide)
  simp [String.toList_append, notInId, notInNs]

/-! ## From the headers to the upstream URL -/

/-- The router accepts exactly the headers of the grammar, and the DNS form it
then dials is made of the two labels, `svc` and the cluster domain; the host
is bracketed when the cluster domain holds a colon. -/
theorem parseSandboxHeaders_spec (lib : GoLib) (h : String → String) (opts : ParseOptions) :
    ((∃ t, parseSandboxHeaders lib h opts = .ok t) ↔
        h HeaderSandboxID ≠ "" ∧ DNSLabel (h HeaderSandboxID) ∧
        (h HeaderSandboxNamespace = "" ∨ DNSLabel (h HeaderSandboxNamespace)) ∧
        (h HeaderSandboxPort = "" ∨
          ∃ n, GoStrings.atoi (h HeaderSandboxPort) = some n ∧ 1 ≤ n ∧ n ≤ 65535) ∧
        (h HeaderSandboxPodIP = "" ∨
          validPodIP lib (h HeaderSandboxPodIP) opts.allowLoopbackPodIP = true)) ∧
    ∀ t, parseSandboxHeaders lib h opts = .ok t →
      t.id = h HeaderSandboxID ∧
      t.namespace = (if h HeaderSandboxNamespace = "" then DefaultSandboxNamespace
        else h HeaderSandboxNamespace) ∧
      (h HeaderSandboxPort = "" → t.port = DefaultSandboxPort) ∧
      (h HeaderSandboxPort ≠ "" → GoStrings.atoi (h HeaderSandboxPort) = some t.port) ∧
      DNSLabel t.id ∧ DNSLabel t.namespace ∧
      (∀ c ∈ ['/', '@', ':', '.'], c ∉ t.id.toList ∧ c ∉ t.namespace.toList) ∧
      ∀ (scheme clusterDomain path rawQuery : String) (lookup : Option (String → Option String)),
        t.podIP = "" → (∀ get, lookup = some get → t.uid ≠ "" → get t.uid = none) →
        t.resolve scheme clusterDomain path rawQuery lookup =
          (⟨if scheme = "" then "http" else scheme,
            if ':' ∈ clusterDomain.toList then
              "[" ++ (t.id ++ "." ++ t.namespace ++ ".svc." ++ clusterDomain) ++ "]:" ++ toString t.port
            else t.id ++ "." ++ t.namespace ++ ".svc." ++ clusterDomain ++ ":" ++ toString t.port,
            path, rawQuery⟩, .dns) := by
  constructor
  · constructor
    · rintro ⟨t, ok⟩
      obtain ⟨port, idSet, idValid, nsValid, parsed, podIPValid, -⟩ :=
        (parseSandboxHeaders_eq_ok_iff lib).mp ok
      exact ⟨idSet, validDNSLabel_iff.mp idValid, validDNSLabel_namespace_iff.mp nsValid,
        exists_parsePort_eq_ok_iff.mp ⟨port, parsed⟩, or_iff_not_imp_left.mpr podIPValid⟩
    · rintro ⟨idSet, idLabel, nsLabel, portOk, podIPValid⟩
      obtain ⟨port, parsed⟩ := exists_parsePort_eq_ok_iff.mpr portOk
      exact ⟨_, (parseSandboxHeaders_eq_ok_iff lib).mpr ⟨port, idSet, validDNSLabel_iff.mpr idLabel,
        validDNSLabel_namespace_iff.mpr nsLabel, parsed, or_iff_not_imp_left.mp podIPValid, rfl⟩⟩
  · intro t ok
    obtain ⟨port, -, idValid, nsValid, parsed, -, rfl⟩ := (parseSandboxHeaders_eq_ok_iff lib).mp ok
    have idLabel := validDNSLabel_iff.mp idValid
    have nsLabel := validDNSLabel_iff.mp nsValid
    refine ⟨rfl, rfl, ?_, ?_, idLabel, nsLabel, ?_, ?_⟩
    · intro empty
      rcases parsePort_eq_ok_iff.mp parsed with ⟨-, default⟩ | ⟨set, -⟩
      · exact default
      · exact absurd empty set
    · intro set
      rcases parsePort_eq_ok_iff.mp parsed with ⟨empty, -⟩ | ⟨-, read, -⟩
      · exact absurd empty set
      · exact read
    · -- every character of a label is a letter, a digit or a hyphen
      intro c forbidden
      simp only [List.mem_cons, List.not_mem_nil, or_false] at forbidden
      obtain ⟨notHyphen, notAlnum⟩ : c ≠ '-' ∧ ¬LowerAlnum c := by
        rcases forbidden with rfl | rfl | rfl | rfl <;> decide
      exact ⟨idLabel.not_mem notHyphen notAlnum, nsLabel.not_mem notHyphen notAlnum⟩
    · intro scheme clusterDomain path rawQuery lookup noPodIP miss
      simp only [Target.resolve, upstreamHost_of_miss noPodIP clusterDomain miss, joinHostPort,
        colon_mem_dnsName_iff idLabel nsLabel]

def agentHeaders (key : String) : String := if key = HeaderSandboxID then "my-sandbox" else ""

/-- A library that reads nothing: the headers above never call it. -/
def emptyGoLib : GoLib := ⟨fun _ => none⟩

def agentTarget : Target := ⟨"my-sandbox", "", "default", 8888, ""⟩

theorem parseSandboxHeaders_spec_clusterLocal :
    parseSandboxHeaders emptyGoLib agentHeaders ⟨false⟩ = .ok agentTarget ∧
      agentTarget.resolve "" "cluster.local" "/run" "" none =
        (⟨"http", "my-sandbox.default.svc.cluster.local:8888", "/run", ""⟩, .dns) := by
  have parsed : parseSandboxHeaders emptyGoLib agentHeaders ⟨false⟩ = .ok agentTarget := by decide
  obtain ⟨-, -, -, -, -, -, -, resolved⟩ :=
    (parseSandboxHeaders_spec emptyGoLib agentHeaders ⟨false⟩).2 agentTarget parsed
  refine ⟨parsed, ?_⟩
  rw [resolved "" "cluster.local" "/run" "" none rfl (by simp)]
  decide

/-- A cluster domain with a colon gets the whole DNS form bracketed. -/
theorem resolve_colonDomainBracketed :
    parseSandboxHeaders emptyGoLib agentHeaders ⟨false⟩ = .ok agentTarget ∧
      (agentTarget.resolve "http" "cluster:local" "/" "" none).1.host =
        "[my-sandbox.default.svc.cluster:local]:8888" := by
  decide

end AgentSandbox.Router
