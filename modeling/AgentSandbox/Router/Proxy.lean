import AgentSandbox.Router.Headers
import AgentSandbox.Router.Retry
import AgentSandbox.Router.PodCache
import AgentSandbox.Router.Authz

/-!
# Where the proxy sends a request, and what it does to the cache

Model of `Handler.ServeHTTP` (`sandbox-router/proxy/proxy.go`) as far as it
decides where a request goes and what it does to the Pod-IP cache: the headers
are parsed, the authorizer decides, `Resolve` picks the upstream from the Pod-IP
header, the cache or DNS, the transport's outcome comes back, and on a dial
failure of an address taken from the cache the `ErrorHandler` evicts the entry.
The authorizer's decision and the transport's outcome for each URL are
parameters of a request, so a statement over all of them covers every
authorizer, every retry policy and every network.  Metrics, logs, tracing, the
per-request timeout and the `Rewrite` of the outbound headers are left out.

A router is one cache shared by its Pod informer and its requests, and a run
interleaves their events (`RouterEvent`).  Requests only ever remove entries
(`serveHTTP_cache`), so in every run from an empty cache each entry is the
address of a Ready Pod that the Sandbox controls, as the informer last reported
it (`Reported`), and a request routed through the cache dials exactly that
address (`upstream_of_cache`).  After a dial failure through the cache, requests
for the Sandbox go to DNS until the informer reports on it again
(`upstream_dns_after_eviction`).
-/

set_option autoImplicit false

namespace AgentSandbox.Router

open LastWrite

def StatusBadGateway : Nat := 502

/-- `Get` as `Resolve` reads it: the Pod IP of the entry. -/
def Cache.lookup (c : Cache) (uid : String) : Option String := (c.get uid).map Entry.podIP

/-- The fields of a `Handler` that `ServeHTTP` reads to route a request. -/
structure Handler where
  /-- `cfg.AllowLoopbackPodIP` -/
  allowLoopbackPodIP : Bool
  /-- `cfg.ClusterDomain` -/
  clusterDomain : String
  /-- `cache`, nil when no informer cache is attached -/
  cache : Option Cache

/-- What `ServeHTTP` answers. -/
inductive Response
  /-- `WriteJSONError` -/
  | error (e : Error)
  /-- the upstream's response, relayed, with the URL it was sent to -/
  | upstream (url : URL) (status : Nat)

namespace Handler

variable (lib : GoLib) (h : Handler)

/-- The URL `ServeHTTP` resolves once per request, and the branch that picked its host. -/
def upstream (target : Target) (path rawQuery : String) : URL × Source :=
  target.resolve "http" h.clusterDomain path rawQuery (h.cache.map Cache.lookup)

/-- The `ErrorHandler`'s condition for evicting the target's entry. -/
def evicts (target : Target) (src : Source) (err : GoError) : Bool :=
  src == .cache && h.cache.isSome && isRetriableDialError (some err) && target.uid != ""

/-- `ServeHTTP`: the answer, and the cache after the request. -/
def serveHTTP (headers : String → String) (path rawQuery : String)
    (authorize : Target → Option AuthzError) (roundTrip : URL → Except GoError Nat) :
    Response × Option Cache :=
  match parseSandboxHeaders lib headers ⟨h.allowLoopbackPodIP⟩ with
  | .error perr => (.error perr, h.cache)
  | .ok target =>
      match authorize target with
      | some err => (.error ⟨httpStatusFor (some err), err.error⟩, h.cache)
      | none =>
          let resolved := h.upstream target path rawQuery
          match roundTrip resolved.1 with
          | .ok status => (.upstream resolved.1 status, h.cache)
          | .error err =>
              (.error ⟨StatusBadGateway, "Could not connect to the backend sandbox: " ++ target.id⟩,
                if h.evicts target resolved.2 err then h.cache.map fun c => (c.invalidate target.uid).2
                else h.cache)

end Handler

/-- What happens to a router: an event of its Pod informer, or a request with the
authorizer's decision and the transport's outcome for each URL. -/
inductive RouterEvent
  | informer (event : InformerEvent)
  | request (headers : String → String) (path rawQuery : String)
      (authorize : Target → Option AuthzError) (roundTrip : URL → Except GoError Nat)

/-- An event is about the Sandbox `uid` when it is an informer event that asks for a write
to the Sandbox's entry. -/
def RouterEvent.about (uid : String) : RouterEvent → Prop
  | .informer event => ∃ w, event.write = some w ∧ w.key = uid
  | .request .. => False

/-! ## Resolving through the cache -/

theorem resolve_host (t : Target) (scheme clusterDomain path rawQuery : String)
    (lookup : Option (String → Option String)) :
    (t.resolve scheme clusterDomain path rawQuery lookup).1.host =
      joinHostPort (t.upstreamHost clusterDomain lookup).1 (toString t.port) := rfl

theorem resolve_source (t : Target) (scheme clusterDomain path rawQuery : String)
    (lookup : Option (String → Option String)) :
    (t.resolve scheme clusterDomain path rawQuery lookup).2 = (t.upstreamHost clusterDomain lookup).2 := rfl

/-- The cache branch of `Resolve`: no Pod-IP header, a UID, and an entry for it.  An entry
with an empty address would still fall through to the DNS form under this source. -/
theorem upstreamHost_of_cache {t : Target} {clusterDomain : String}
    {lookup : Option (String → Option String)} (fromCache : (t.upstreamHost clusterDomain lookup).2 = .cache) :
    ∃ get podIP, lookup = some get ∧ t.podIP = "" ∧ t.uid ≠ "" ∧ get t.uid = some podIP ∧
      (t.upstreamHost clusterDomain lookup).1 =
        if podIP = "" then t.id ++ "." ++ t.namespace ++ ".svc." ++ clusterDomain else podIP := by
  unfold Target.upstreamHost at fromCache ⊢
  by_cases header : t.podIP = ""
  · cases lookup with
    | none => simp [header] at fromCache
    | some get =>
        by_cases noUID : t.uid = ""
        · simp [header, noUID] at fromCache
        · cases found : get t.uid with
          | none => simp [header, noUID, found] at fromCache
          | some podIP =>
              refine ⟨get, podIP, rfl, header, noUID, found, ?_⟩
              by_cases empty : podIP = "" <;> simp [header, noUID, found, empty]
  · simp [header] at fromCache

/-! ## One request -/

section Request

variable (lib : GoLib) (allowLoopbackPodIP : Bool) (clusterDomain : String)

/-- The handler of a router, over its shared cache. -/
def handlerOf (c : Cache) : Handler := ⟨allowLoopbackPodIP, clusterDomain, some c⟩

@[simp] theorem handlerOf_allowLoopbackPodIP (c : Cache) :
    (handlerOf allowLoopbackPodIP clusterDomain c).allowLoopbackPodIP = allowLoopbackPodIP := rfl

@[simp] theorem handlerOf_clusterDomain (c : Cache) :
    (handlerOf allowLoopbackPodIP clusterDomain c).clusterDomain = clusterDomain := rfl

@[simp] theorem handlerOf_cache (c : Cache) : (handlerOf allowLoopbackPodIP clusterDomain c).cache = some c := rfl

variable {lib allowLoopbackPodIP clusterDomain}

theorem serveHTTP_cache (c : Cache) (headers : String → String) (path rawQuery : String)
    (authorize : Target → Option AuthzError) (roundTrip : URL → Except GoError Nat) :
    ((handlerOf allowLoopbackPodIP clusterDomain c).serveHTTP lib headers path rawQuery authorize roundTrip).2 =
        some c ∨
      ∃ uid, ((handlerOf allowLoopbackPodIP clusterDomain c).serveHTTP lib headers path rawQuery authorize
        roundTrip).2 = some (c.remove uid) := by
  unfold Handler.serveHTTP
  split
  · exact .inl rfl
  · rename_i target _
    split
    · exact .inl rfl
    · dsimp only
      split
      · exact .inl rfl
      · split
        · exact .inr ⟨target.uid, rfl⟩
        · exact .inl rfl

theorem serveHTTP_evicts {c : Cache} {headers : String → String} {path rawQuery : String}
    {authorize : Target → Option AuthzError} {roundTrip : URL → Except GoError Nat} {target : Target}
    {err : GoError} (parsed : parseSandboxHeaders lib headers ⟨allowLoopbackPodIP⟩ = .ok target)
    (allowed : authorize target = none)
    (fromCache : ((handlerOf allowLoopbackPodIP clusterDomain c).upstream target path rawQuery).2 = .cache)
    (failed : roundTrip ((handlerOf allowLoopbackPodIP clusterDomain c).upstream target path rawQuery).1 =
      .error err)
    (dialError : isRetriableDialError (some err) = true) :
    ((handlerOf allowLoopbackPodIP clusterDomain c).serveHTTP lib headers path rawQuery authorize roundTrip).2 =
      some (c.remove target.uid) := by
  obtain ⟨-, -, -, -, hasUID, -, -⟩ := upstreamHost_of_cache fromCache
  have evicted : (handlerOf allowLoopbackPodIP clusterDomain c).evicts target
      ((handlerOf allowLoopbackPodIP clusterDomain c).upstream target path rawQuery).2 err = true := by
    rw [Handler.evicts, fromCache]
    simp [dialError, hasUID]
  simp only [Handler.serveHTTP, handlerOf_allowLoopbackPodIP, parsed, allowed, failed, evicted, if_true,
    handlerOf_cache, Option.map_some]
  rfl

end Request

/-! ## Runs of a router -/

section Router

variable (lib : GoLib) (allowLoopbackPodIP : Bool) (clusterDomain : String)

def routerStep (c : Cache) : RouterEvent → Cache
  | .informer event => c.handle event
  | .request headers path rawQuery authorize roundTrip =>
      ((handlerOf allowLoopbackPodIP clusterDomain c).serveHTTP lib headers path rawQuery authorize
        roundTrip).2.getD c

def routerRun (c : Cache) (events : List RouterEvent) : Cache :=
  events.foldl (routerStep lib allowLoopbackPodIP clusterDomain) c

/-- Every entry is the address of a Ready Pod the Sandbox controls, as an informer event of
`history` delivered it, and no event after that one is about the Sandbox. -/
def Reported (history : List RouterEvent) (c : Cache) : Prop :=
  ∀ uid e, c.get uid = some e → ∃ pre event post pod,
    history = pre ++ .informer event :: post ∧ event.current? = some pod ∧
      sandboxUIDOf pod = some uid ∧ pod.entry? = some e ∧ ∀ later ∈ post, ¬ later.about uid

variable {lib allowLoopbackPodIP clusterDomain}

theorem get_routerStep_request {c : Cache} {headers : String → String} {path rawQuery : String}
    {authorize : Target → Option AuthzError} {roundTrip : URL → Except GoError Nat} {uid : String}
    {e : Entry}
    (found : (routerStep lib allowLoopbackPodIP clusterDomain c
      (.request headers path rawQuery authorize roundTrip)).get uid = some e) :
    c.get uid = some e := by
  simp only [routerStep] at found
  rcases serveHTTP_cache c headers path rawQuery authorize roundTrip with same | ⟨removed, evicted⟩
  · rwa [same, Option.getD_some] at found
  · rw [evicted, Option.getD_some] at found
    by_cases other : removed = uid
    · simp [Cache.get, other, AList.lookup_erase] at found
    · simpa [Cache.get, AList.lookup_erase_ne (Ne.symm other)] using found

theorem get_handle_of_not_about {c : Cache} {event : InformerEvent} {uid : String}
    (quiet : ¬ (RouterEvent.informer event).about uid) : (c.handle event).get uid = c.get uid := by
  simp only [Cache.get, Cache.handle_entries]
  cases wrote : event.write with
  | none => rfl
  | some w =>
      have other : w.key ≠ uid := fun same => quiet ⟨w, wrote, same⟩
      simp [lookup_apply, other]

theorem Reported.step {history : List RouterEvent} {c : Cache}
    (reported : Reported history c) (event : RouterEvent) :
    Reported (history ++ [event]) (routerStep lib allowLoopbackPodIP clusterDomain c event) := by
  intro uid e found
  -- an entry found before the event, and an event that is not about it
  have earlier : c.get uid = some e → ¬ event.about uid →
      ∃ pre ev post pod, history ++ [event] = pre ++ .informer ev :: post ∧ ev.current? = some pod ∧
        sandboxUIDOf pod = some uid ∧ pod.entry? = some e ∧ ∀ later ∈ post, ¬ later.about uid := by
    intro before quiet
    obtain ⟨pre, ev, post, pod, decomposed, current, controlled, asked, after⟩ := reported uid e before
    refine ⟨pre, ev, post ++ [event], pod, by simp [decomposed], current, controlled, asked, ?_⟩
    intro later member
    rcases List.mem_append.mp member with old | new
    · exact after later old
    · rwa [List.mem_singleton.mp new]
  cases event with
  | request headers path rawQuery authorize roundTrip =>
      exact earlier (get_routerStep_request found) id
  | informer ev =>
      by_cases about : (RouterEvent.informer ev).about uid
      · -- the event wrote the entry itself
        obtain ⟨⟨key, value⟩, wrote, rfl⟩ := about
        have written : (c.handle ev).get key = value := by
          simp [Cache.get, Cache.handle_entries, wrote, lookup_apply]
        simp only [routerStep, written] at found
        subst found
        obtain ⟨pod, current, controlled, asked⟩ := write_eq_some_entry wrote
        exact ⟨history, ev, [], pod, rfl, current, controlled, asked, by simp⟩
      · simp only [routerStep, get_handle_of_not_about about] at found
        exact earlier found about

theorem reported_routerRun (events : List RouterEvent) :
    ∀ {history : List RouterEvent} {c : Cache}, Reported history c →
      Reported (history ++ events) (routerRun lib allowLoopbackPodIP clusterDomain c events) := by
  -- induction on the events still to run, the history so far generalized
  induction events with
  | nil => simp [routerRun]
  | cons event rest ih =>
      intro history c reported
      have next : Reported ((history ++ [event]) ++ rest) (routerRun lib allowLoopbackPodIP clusterDomain
          (routerStep lib allowLoopbackPodIP clusterDomain c event) rest) := ih (reported.step event)
      simpa only [routerRun, List.foldl_cons, List.append_assoc, List.singleton_append] using next

theorem reported_new : Reported [] Cache.new := by
  intro uid e found
  simp [Cache.get, Cache.new, AList.lookup_empty] at found

/-- Runs in which no informer event is about `uid` give back only an entry that was there
before: a request only ever removes one.  Induction on the events. -/
theorem get_routerRun_of_found (events : List RouterEvent) {uid : String}
    (quiet : ∀ event ∈ events, ¬ event.about uid) :
    ∀ {c : Cache} {e : Entry}, (routerRun lib allowLoopbackPodIP clusterDomain c events).get uid = some e →
      c.get uid = some e := by
  induction events with
  | nil => exact id
  | cons event rest ih =>
      intro c e found
      have next := ih (fun later member => quiet later (List.mem_cons_of_mem event member)) found
      cases event with
      | informer ev => rwa [routerStep, get_handle_of_not_about (quiet _ List.mem_cons_self)] at next
      | request headers path rawQuery authorize roundTrip => exact get_routerStep_request next

/-- `host` is the address of a Ready Pod that the Sandbox `uid` controls, as an add or update of
the informer in `events` delivered it; no later informer event of `events` is about the Sandbox,
and its entry stayed in the cache after every later event, so no request evicted it. -/
def DialsReportedPod (lib : GoLib) (allowLoopbackPodIP : Bool) (clusterDomain : String) (events : List RouterEvent)
    (uid : String) (port : Int) (host : String) : Prop :=
  ∃ pre event post pod, events = pre ++ .informer event :: post ∧ event.current? = some pod ∧
    sandboxUIDOf pod = some uid ∧ podReady pod = true ∧ pod.podIP ≠ "" ∧
    host = joinHostPort pod.podIP (toString port) ∧ (∀ later ∈ post, ¬ later.about uid) ∧
    ∃ e, pod.entry? = some e ∧ ∀ k ≤ post.length,
      (routerRun lib allowLoopbackPodIP clusterDomain Cache.new (pre ++ .informer event :: post.take k)).get uid = some e

/-- In every run of a router from an empty cache, a request that `Resolve` routes through the
cache dials the address of a Ready Pod that the target's Sandbox controls, as the Pod informer
last reported it, with the entry held since. -/
theorem upstream_of_cache (events : List RouterEvent) (target : Target) (path rawQuery : String)
    (fromCache : ((handlerOf allowLoopbackPodIP clusterDomain
      (routerRun lib allowLoopbackPodIP clusterDomain Cache.new events)).upstream target path rawQuery).2 = .cache) :
    DialsReportedPod lib allowLoopbackPodIP clusterDomain events target.uid target.port
      ((handlerOf allowLoopbackPodIP clusterDomain
        (routerRun lib allowLoopbackPodIP clusterDomain Cache.new events)).upstream target path rawQuery).1.host := by
  obtain ⟨get, podIP, attached, -, -, found, host⟩ := upstreamHost_of_cache fromCache
  simp only [handlerOf_cache, handlerOf_clusterDomain, Option.map_some, Option.some.injEq] at attached host
  subst attached
  obtain ⟨e, entry, rfl⟩ := Option.map_eq_some_iff.mp found
  obtain ⟨pre, event, post, pod, decomposed, current, controlled, asked, quiet⟩ :=
    (reported_routerRun events reported_new) target.uid e entry
  obtain ⟨ready, hasIP, rfl⟩ := Pod.entry?_eq_some_iff.mp asked
  have events_eq : events = pre ++ .informer event :: post := by simpa using decomposed
  refine ⟨pre, event, post, pod, events_eq, current, controlled, ready, hasIP, ?_, quiet, _, asked, fun k _ => ?_⟩
  · rw [Handler.upstream, resolve_host, handlerOf_cache, handlerOf_clusterDomain, Option.map_some, host,
      if_neg hasIP]
  · -- the run splits after the first `k` later events; the rest hands the entry back
    have split : routerRun lib allowLoopbackPodIP clusterDomain Cache.new events =
        routerRun lib allowLoopbackPodIP clusterDomain
          (routerRun lib allowLoopbackPodIP clusterDomain Cache.new (pre ++ .informer event :: post.take k))
          (post.drop k) := by
      conv_lhs => rw [events_eq, ← List.take_append_drop k post]
      simp only [routerRun, ← List.foldl_append, List.append_assoc, List.cons_append]
    rw [split] at entry
    exact get_routerRun_of_found (post.drop k) (fun later member => quiet later (List.mem_of_mem_drop member)) entry

/-- A Ready Pod of the Sandbox whose UID is `sandbox-uid`. -/
def readyPod : Pod :=
  ⟨"my-sandbox", "default", [⟨"agents.x-k8s.io/v1beta1", "Sandbox", "sandbox-uid", some true⟩], "10.0.0.7",
    [⟨Controller.PodReady, .conditionTrue⟩]⟩

/-- Headers naming the Sandbox and its UID. -/
def uidHeaders (key : String) : String :=
  if key = HeaderSandboxID then "my-sandbox" else if key = HeaderSandboxUID then "sandbox-uid" else ""

def uidTarget : Target := ⟨"my-sandbox", "sandbox-uid", "default", 8888, ""⟩

theorem upstream_of_cache_readyPod :
    ((handlerOf false "cluster.local" (routerRun emptyGoLib false "cluster.local" Cache.new
        [.informer (.add (.pod readyPod))])).upstream uidTarget "/" "").2 = .cache ∧
      DialsReportedPod emptyGoLib false "cluster.local" [.informer (.add (.pod readyPod))] uidTarget.uid uidTarget.port
        ((handlerOf false "cluster.local" (routerRun emptyGoLib false "cluster.local" Cache.new
          [.informer (.add (.pod readyPod))])).upstream uidTarget "/" "").1.host :=
  have fromCache : ((handlerOf false "cluster.local" (routerRun emptyGoLib false "cluster.local" Cache.new
      [.informer (.add (.pod readyPod))])).upstream uidTarget "/" "").2 = .cache := by decide +kernel
  ⟨fromCache, upstream_of_cache _ _ _ _ fromCache⟩

theorem get_routerRun_of_quiet (events : List RouterEvent) {uid : String}
    (quiet : ∀ event ∈ events, ¬ event.about uid) :
    ∀ {c : Cache}, c.get uid = none → (routerRun lib allowLoopbackPodIP clusterDomain c events).get uid = none := by
  induction events with
  | nil => exact id
  | cons event rest ih =>
      intro c absent
      apply ih (fun later member => quiet later (List.mem_cons_of_mem event member))
      cases event with
      | informer ev =>
          rw [routerStep, get_handle_of_not_about (quiet _ List.mem_cons_self), absent]
      | request headers path rawQuery authorize roundTrip =>
          cases after : (routerStep lib allowLoopbackPodIP clusterDomain c
            (.request headers path rawQuery authorize roundTrip)).get uid with
          | none => rfl
          | some e => rw [get_routerStep_request after] at absent; cases absent

/-- After a request whose dial of an address from the cache fails with a dial error, every
request for the same Sandbox without a Pod-IP header goes to the DNS form, until an informer
event about the Sandbox comes. -/
theorem upstream_dns_after_eviction {c : Cache} {headers : String → String} {path rawQuery : String}
    {authorize : Target → Option AuthzError} {roundTrip : URL → Except GoError Nat} {target : Target}
    {err : GoError} (parsed : parseSandboxHeaders lib headers ⟨allowLoopbackPodIP⟩ = .ok target)
    (allowed : authorize target = none)
    (fromCache : ((handlerOf allowLoopbackPodIP clusterDomain c).upstream target path rawQuery).2 = .cache)
    (failed : roundTrip ((handlerOf allowLoopbackPodIP clusterDomain c).upstream target path rawQuery).1 =
      .error err)
    (dialError : isRetriableDialError (some err) = true)
    (later : List RouterEvent) (quiet : ∀ event ∈ later, ¬ event.about target.uid)
    {next : Target} (sameSandbox : next.uid = target.uid) (noPodIP : next.podIP = "")
    (path' rawQuery' : String) :
    (handlerOf allowLoopbackPodIP clusterDomain (routerRun lib allowLoopbackPodIP clusterDomain
        (routerStep lib allowLoopbackPodIP clusterDomain c (.request headers path rawQuery authorize roundTrip))
        later)).upstream next path' rawQuery' =
      (⟨"http", joinHostPort (next.id ++ "." ++ next.namespace ++ ".svc." ++ clusterDomain) (toString next.port),
        path', rawQuery'⟩, .dns) := by
  have evicted : (routerStep lib allowLoopbackPodIP clusterDomain c
      (.request headers path rawQuery authorize roundTrip)).get target.uid = none := by
    simp [routerStep, serveHTTP_evicts parsed allowed fromCache failed dialError, Cache.get,
      AList.lookup_erase]
  have absent : (routerRun lib allowLoopbackPodIP clusterDomain (routerStep lib allowLoopbackPodIP clusterDomain c
      (.request headers path rawQuery authorize roundTrip)) later).get target.uid = none :=
    get_routerRun_of_quiet later quiet evicted
  have miss : next.upstreamHost clusterDomain (some (routerRun lib allowLoopbackPodIP clusterDomain
      (routerStep lib allowLoopbackPodIP clusterDomain c (.request headers path rawQuery authorize roundTrip))
      later).lookup) = (next.id ++ "." ++ next.namespace ++ ".svc." ++ clusterDomain, .dns) :=
    upstreamHost_of_miss noPodIP clusterDomain fun get attached _ => by
      cases attached
      simp [Cache.lookup, sameSandbox, absent]
  simp [Handler.upstream, Target.resolve, miss]

/-- A transport whose every dial is refused. -/
def dialRefused (_ : URL) : Except GoError Nat := .error [.opError "dial"]

theorem upstream_dns_after_eviction_readyPod :
    parseSandboxHeaders emptyGoLib uidHeaders ⟨false⟩ = .ok uidTarget ∧
      ((handlerOf false "cluster.local" (Cache.new.run [.add (.pod readyPod)])).upstream uidTarget "/" "").2 =
        .cache ∧
      isRetriableDialError (some [.opError "dial"]) = true ∧
      (handlerOf false "cluster.local" (routerRun emptyGoLib false "cluster.local"
          (routerStep emptyGoLib false "cluster.local" (Cache.new.run [.add (.pod readyPod)])
            (.request uidHeaders "/" "" (fun _ => none) dialRefused)) [])).upstream uidTarget "/" "" =
        (⟨"http", joinHostPort (uidTarget.id ++ "." ++ uidTarget.namespace ++ ".svc." ++ "cluster.local")
          (toString uidTarget.port), "/", ""⟩, .dns) :=
  have parsed : parseSandboxHeaders emptyGoLib uidHeaders ⟨false⟩ = .ok uidTarget := by decide
  have fromCache : ((handlerOf false "cluster.local" (Cache.new.run [.add (.pod readyPod)])).upstream
      uidTarget "/" "").2 = .cache := by decide +kernel
  have dialError : isRetriableDialError (some [.opError "dial"]) = true := by decide
  ⟨parsed, fromCache, dialError, upstream_dns_after_eviction parsed rfl fromCache rfl dialError []
    (by simp) rfl rfl "/" ""⟩

end Router

end AgentSandbox.Router
