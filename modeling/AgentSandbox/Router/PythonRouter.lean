import AgentSandbox.Lib.PyIpaddress
import AgentSandbox.Router.Headers

/-!
# The Python router's target

Model of `_is_valid_dns_label` and `_resolve_target` in
`clients/python/agentic-sandbox-client/sandbox-router/sandbox_router.py`.
Headers are read by `headers.get`; `ipaddress.ip_address` and `int` are
parameters, returning `none` where Python raises `ValueError`.  The URL the
function formats is left out: the result names the host it puts in it.

The pod IP override is then checked in both routers
(`podIP_override_not_internal`).
-/

set_option autoImplicit false

namespace AgentSandbox.Router

open IpAddress GoErrors

def MIN_TCP_PORT : Int := 1
def MAX_TCP_PORT : Int := 65535
def DEFAULT_SANDBOX_PORT : Int := 8888
def DEFAULT_NAMESPACE : String := "default"

/-- `[a-z0-9]`. -/
def isLowerAlnum (c : Char) : Bool := (decide ('a' ≤ c) && decide (c ≤ 'z')) || (decide ('0' ≤ c) && decide (c ≤ '9'))

/-- The strings `[a-z0-9](?:[-a-z0-9]*[a-z0-9])?` matches whole. -/
def dnsLabelBody : List Char → Bool
  | [] => false
  | [c] => isLowerAlnum c
  | c :: rest =>
      isLowerAlnum c && rest.dropLast.all (fun d => d == '-' || isLowerAlnum d) &&
        rest.getLast?.all isLowerAlnum

/-- `DNS_LABEL_REGEX.match(label)` for `^[a-z0-9](?:[-a-z0-9]*[a-z0-9])?$`: `$`
matches at the end or before a newline that ends the string. -/
def dnsLabelRegexMatch (label : String) : Bool :=
  dnsLabelBody label.toList ||
    (label.toList.getLast? == some '\n' && dnsLabelBody label.toList.dropLast)

def isValidDnsLabel (label : String) : Bool :=
  if label = "" || decide (label.length > 63) then false else dnsLabelRegexMatch label

structure RoutingError where
  message : String
deriving DecidableEq, Repr

/-- What `_resolve_target` puts in the URL's host. -/
inductive TargetHost
  | address (ip : IpAddr)
  | dns (name : String)
deriving DecidableEq, Repr

structure PyTarget where
  host : TargetHost
  port : Int
  sandboxId : String
deriving DecidableEq, Repr

/-- The Python functions `_resolve_target` calls outside the router. -/
structure PyLib where
  ipAddress : String → Option IpAddr
  int : String → Option Int

section Resolve

variable (lib : PyLib) (clusterDomain : String)

/-- `port = int(headers.get("X-Sandbox-Port", DEFAULT_SANDBOX_PORT))` and its
range check, inside one `try`. -/
def resolvePort (raw : Option String) : Except RoutingError Int :=
  match raw with
  | none => pure DEFAULT_SANDBOX_PORT
  | some text =>
      match lib.int text with
      | none => throw ⟨"Invalid port format."⟩
      | some port =>
          if MIN_TCP_PORT ≤ port ∧ port ≤ MAX_TCP_PORT then pure port
          else throw ⟨"Invalid port format."⟩

/-- The `X-Sandbox-Pod-IP` block: a `RoutingError` raised inside the `try` is
not a `ValueError` and leaves it unchanged. -/
def resolveHost (sandboxId «namespace» : String) (podIp : Option String) :
    Except RoutingError TargetHost :=
  match podIp with
  | some text =>
      if text = "" then pure (.dns (sandboxId ++ "." ++ «namespace» ++ ".svc." ++ clusterDomain))
      else
        match lib.ipAddress text with
        | none => throw ⟨"Invalid target IP address format."⟩
        | some ip =>
            if PyIpaddress.isLoopback ip || PyIpaddress.isLinkLocal ip ||
                PyIpaddress.isMulticast ip || PyIpaddress.isUnspecified ip then
              throw ⟨"Invalid target IP address."⟩
            else pure (.address ip)
  | none => pure (.dns (sandboxId ++ "." ++ «namespace» ++ ".svc." ++ clusterDomain))

/-- `if not sandbox_id`: a missing or empty header. -/
def requireSandboxId (raw : Option String) : Except RoutingError String :=
  match raw with
  | some id => if id = "" then throw ⟨"X-Sandbox-ID header is required."⟩ else pure id
  | none => throw ⟨"X-Sandbox-ID header is required."⟩

def resolveTarget (headers : String → Option String) : Except RoutingError PyTarget := do
  let sandboxId ← requireSandboxId (headers "X-Sandbox-ID")
  if !isValidDnsLabel sandboxId then throw ⟨"Invalid sandbox ID format."⟩
  let ns := (headers "X-Sandbox-Namespace").getD DEFAULT_NAMESPACE
  if !isValidDnsLabel ns then throw ⟨"Invalid namespace format."⟩
  let port ← resolvePort lib (headers "X-Sandbox-Port")
  let host ← resolveHost lib clusterDomain sandboxId ns (headers "X-Sandbox-Pod-IP")
  pure ⟨host, port, sandboxId⟩

theorem resolveHost_address {sandboxId ns : String} {podIp : Option String} {ip : IpAddr}
    (ok : resolveHost lib clusterDomain sandboxId ns podIp = .ok (.address ip)) :
    ip.isInternal = false := by
  unfold resolveHost at ok
  cases podIp with
  | none => simp at ok
  | some text =>
      by_cases empty : text = ""
      · simp [empty] at ok
      · simp only [if_neg empty] at ok
        cases parsed : lib.ipAddress text with
        | none => simp [parsed] at ok
        | some found =>
            simp only [parsed] at ok
            by_cases rejected : (PyIpaddress.isLoopback found || PyIpaddress.isLinkLocal found ||
                PyIpaddress.isMulticast found || PyIpaddress.isUnspecified found) = true
            · rw [if_pos rejected] at ok
              simp at ok
            · rw [if_neg rejected, pure_eq_ok, TargetHost.address.injEq] at ok
              subst ok
              rw [Bool.not_eq_true, PyIpaddress.isLoopback_eq, PyIpaddress.isLinkLocal_eq,
                PyIpaddress.isMulticast_eq, PyIpaddress.isUnspecified_eq] at rejected
              exact rejected

theorem resolveTarget_address {headers : String → Option String} {target : PyTarget} {ip : IpAddr}
    (ok : resolveTarget lib clusterDomain headers = .ok target) (dialled : target.host = .address ip) :
    ip.isInternal = false := by
  unfold resolveTarget at ok
  simp only [bind_eq_ok] at ok
  obtain ⟨sandboxId, -, ok⟩ := ok
  have idValid : isValidDnsLabel sandboxId = true := by
    by_contra bad
    rw [Bool.not_eq_true] at bad
    simp [bad] at ok
  set ns := (headers "X-Sandbox-Namespace").getD DEFAULT_NAMESPACE
  have nsValid : isValidDnsLabel ns = true := by
    by_contra bad
    rw [Bool.not_eq_true] at bad
    simp [idValid, bad] at ok
  simp only [idValid, nsValid, Bool.not_true, Bool.false_eq_true, ↓reduceIte, bind_eq_ok,
    pure_eq_ok] at ok
  obtain ⟨port, -, host, hostOk, rfl⟩ := ok
  subst dialled
  exact resolveHost_address lib clusterDomain hostOk

end Resolve

/-- Neither router dials an internal address that a caller names in
`X-Sandbox-Pod-IP`.  The Go router with `AllowLoopbackPodIP` off dials only a
non-internal address, with it on also a loopback one; the Python router
routes only to a non-internal address. -/
theorem podIP_override_not_internal (goLib : GoLib) (sixteen : goLib.ParseIPSixteen)
    (pyLib : PyLib) (clusterDomain : String) (lookup : Option (String → Option String)) :
    (∀ h t, parseSandboxHeaders goLib h ⟨false⟩ = .ok t → t.podIP ≠ "" →
      ∃ ip, goLib.parseIP (t.upstreamHost clusterDomain lookup).1 = some ip ∧
        ip.toAddr.isInternal = false) ∧
    (∀ h t, parseSandboxHeaders goLib h ⟨true⟩ = .ok t → t.podIP ≠ "" →
      ∃ ip, goLib.parseIP (t.upstreamHost clusterDomain lookup).1 = some ip ∧
        (ip.toAddr.isInternal = false ∨ ip.toAddr.unmap.isLoopback = true)) ∧
    (∀ headers target ip, resolveTarget pyLib clusterDomain headers = .ok target →
      target.host = .address ip → ip.isInternal = false) := by
  refine ⟨fun h t ok set => ?_, fun h t ok set => ?_, fun headers target ip ok dialled =>
    resolveTarget_address pyLib clusterDomain ok dialled⟩
  all_goals
    obtain ⟨-, -, -, -, -, -, -, -, checked⟩ := parseSandboxHeaders_ok goLib ok
    obtain ⟨ip, parsed, linkLocal, multicast, unspecified, loopback⟩ :=
      (validPodIP_iff goLib sixteen).mp (checked set)
    refine ⟨ip, by rw [upstreamHost_of_podIP set]; exact parsed, ?_⟩
    simp only [IpAddr.isInternal, linkLocal, multicast, unspecified, Bool.or_false]
  · simpa using loopback
  · cases isLoop : ip.toAddr.unmap.isLoopback <;> simp

/-- Libraries that read the one address `10.0.0.7`, Go's in its 16-byte form. -/
def onePodIpGoLib : GoLib where
  parseIP s := if s = "10.0.0.7" then some (GoNet.IPv4 10 0 0 7) else none

def onePodIpPyLib : PyLib where
  ipAddress s := if s = "10.0.0.7" then some (.v4 ⟨0x0a000007, by norm_num⟩) else none
  int _ := none

theorem onePodIpGoLib_parseIPSixteen : onePodIpGoLib.ParseIPSixteen := by
  intro s ip parsed
  simp only [onePodIpGoLib] at parsed
  split at parsed
  · cases parsed
    rfl
  · cases parsed

theorem podIP_override_not_internal_onePodIp :
    onePodIpGoLib.ParseIPSixteen ∧
      (∀ h t, parseSandboxHeaders onePodIpGoLib h ⟨false⟩ = .ok t → t.podIP ≠ "" →
        ∃ ip, onePodIpGoLib.parseIP (t.upstreamHost "cluster.local" none).1 = some ip ∧
          ip.toAddr.isInternal = false) ∧
      (∀ h t, parseSandboxHeaders onePodIpGoLib h ⟨true⟩ = .ok t → t.podIP ≠ "" →
        ∃ ip, onePodIpGoLib.parseIP (t.upstreamHost "cluster.local" none).1 = some ip ∧
          (ip.toAddr.isInternal = false ∨ ip.toAddr.unmap.isLoopback = true)) ∧
      (∀ headers target ip, resolveTarget onePodIpPyLib "cluster.local" headers = .ok target →
        target.host = .address ip → ip.isInternal = false) :=
  ⟨onePodIpGoLib_parseIPSixteen,
    podIP_override_not_internal onePodIpGoLib onePodIpGoLib_parseIPSixteen onePodIpPyLib
      "cluster.local" none⟩

end AgentSandbox.Router
