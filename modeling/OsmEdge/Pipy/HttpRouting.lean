import OsmEdge.Pipy.RoutePolicy
import OsmEdge.Lib.GoSort
import OsmEdge.Lib.GoPtr

/-
  How a sidecar routes an outbound HTTP request (`outbound-http-routing.js`, the script that
  reads the Pipy configuration), and the outbound part of `reorder` (`jobs.go`), which sorts
  the route rules before the configuration is published.

  On the traffic match the request's destination picked, the router reads the rule name its
  `host` header maps to, and builds once for that name a tree: for every method, the route
  rules that allow it in their order (`GoMap.groupBy`; a rule without methods allows the
  seven of `allMethods`). The request goes by the first rule of its method's list whose path
  and headers accept it (`find_methodTree`): that rule and its rule set become `__route` and
  `__service`, and the request gets the header `serviceidentity` of the rule set. A property
  read with the key `undefined` reads the property named `undefined`.

  So on the configuration the outbound step generates and `reorder` sorts, a request is routed
  exactly when a route of a route configuration read for its host's rule name accepts it; the
  rule it goes by has the match of such a route and the clusters of all the routes with that
  match, and the request carries the proxy's own identity (`outbound_http_routing`). Sorting
  only permutes the rules of a rule set, so the order decides which of several routes that
  accept a request it goes by, never whether it is routed.

  Left out: the round-robin balancers that pick a cluster among the rule's and the failover
  cluster, and the replay of a request on failover; a request is routed from the context's
  defaults. Regular expressions are a parameter, `regexTest pattern text` for
  `new RegExp(pattern).test(text)`.
-/

namespace OsmEdge.Pipy

open OsmEdge.Constants

/-! ## What the HTTP routing scripts share -/

/-- `allMethods`: what a route rule without methods allows. -/
def allMethods : List String := ["GET", "HEAD", "POST", "PUT", "DELETE", "PATCH", "OPTIONS"]

/-- A request as the router reads its head: the method, the path, and the headers, a name
    once each. -/
structure Request where
  method : String
  path : String
  headers : AList fun _ : String => String

/-- A property read `obj[key]` with a key that may be `undefined`: JavaScript reads the
    property named `undefined`. -/
def propertyKey (key : Option String) : String := key.getD "undefined"

/-- The property of `HttpHostPort2Service` a request reads: its `host` header. -/
def Request.hostKey (req : Request) : String := propertyKey (req.headers.lookup "host")

/-- `config.Methods || allMethods`: a nil `Methods` is written as `null`, which reads as all of
    `allMethods`. -/
def allowedMethods (m : HTTPMatchRule) : List String :=
  if m.Methods.isEmpty then allMethods else m.Methods

section closures

variable (regexTest : String → String → Bool)

/-- `matchPath`: the path by the rule's `Type`. -/
def matchPath (m : HTTPMatchRule) (path : String) : Bool :=
  match m.MatchType with
  | .PathMatchRegex => regexTest m.Path path
  | .PathMatchExact => path == m.Path
  | .PathMatchPrefix => m.Path.toList.isPrefixOf path.toList

/-- `headerRules.every(...)`: every header of the rule matches the request's value of it, the
    empty text where the request has none. A rule without headers checks its path only, which
    is the same. -/
def matchHeaders (m : HTTPMatchRule) (headers : AList fun _ : String => String) : Bool :=
  decide (∀ h ∈ m.Headers, regexTest h.2 ((headers.lookup h.1).getD "") = true)

/-- The `rule` closure of a route rule, before it sets the route: its path, then its
    headers. -/
def ruleMatches (m : HTTPMatchRule) (path : String) (headers : AList fun _ : String => String) :
    Bool :=
  matchPath regexTest m path && matchHeaders regexTest m headers

/-- A route rule takes a request: it allows the request's method, so the tree lists it under
    the method, and its closure accepts the path and the headers. -/
def Accepts (m : HTTPMatchRule) (req : Request) : Bool :=
  decide (req.method ∈ allowedMethods m) && ruleMatches regexTest m req.path req.headers

end closures

namespace Outbound

open OsmEdge.Trafficpolicy OsmEdge.Catalog OsmEdge.Service ExceptLoop

/-! ## The outbound part of `reorder` -/

/-- `OutboundHTTPRouteRuleSlice.Less`: by path, the match-all path before nothing. -/
def OutboundHTTPRouteRuleLess (a b : OutboundHTTPRouteRule) : Bool :=
  if a.HTTPMatchRule.Path = RegexMatchAll then false
  else decide (a.HTTPMatchRule.Path < b.HTTPMatchRule.Path)

section reorder

variable (pdqsort : List OutboundHTTPRouteRule → List OutboundHTTPRouteRule)

/-- `OutboundHTTPRouteRuleSlice.sort`: `sort.Sort` when there are at least two rules;
    `pdqsort` is `sort.Sort` on more than twelve. -/
def OutboundHTTPRouteRuleSlice.sort (rules : List OutboundHTTPRouteRule) : List OutboundHTTPRouteRule :=
  if 1 < rules.length then GoSort.sort OutboundHTTPRouteRuleLess pdqsort rules else rules

/-- The loop of `reorder` over the rule sets of a traffic match, each sorted through its
    pointer. -/
def OutboundTrafficMatch.sortRouteRules (tm : OutboundTrafficMatch) : OutboundTrafficMatch :=
  { tm with
    HTTPServiceRouteRules := GoMap.mapVal
      (fun hrrs => { hrrs with RouteRules := OutboundHTTPRouteRuleSlice.sort pdqsort hrrs.RouteRules })
      tm.HTTPServiceRouteRules }

/-- The outbound part of `reorder`: the rule sets of every traffic match of every port's
    slice, ports in map order, sorted through the traffic match's pointer. The slices are
    sorted by their ranges next (`OutboundTrafficMatches.Sort`), which moves pointers only. -/
def reorderOutbound (ports : GoSet.Enumerator UInt16) (otp : OutboundTrafficPolicy) :
    OutboundTrafficPolicy :=
  { otp with
    namedTrafficMatches := ((GoMap.range ports otp.TrafficMatches).flatMap (·.2)).foldl
      (fun heap name => GoPtr.store heap name (OutboundTrafficMatch.sortRouteRules pdqsort))
      otp.namedTrafficMatches }

variable {pdqsort}

/-- Sorting only permutes the route rules. -/
theorem OutboundHTTPRouteRuleSlice.perm_sort (hpdq : ∀ xs, (pdqsort xs).Perm xs)
    (rules : List OutboundHTTPRouteRule) : (OutboundHTTPRouteRuleSlice.sort pdqsort rules).Perm rules := by
  unfold OutboundHTTPRouteRuleSlice.sort
  split
  · exact GoSort.perm_sort OutboundHTTPRouteRuleLess hpdq rules
  · exact .refl rules

theorem lookup_sortRouteRules (tm : OutboundTrafficMatch) (ruleName : String) :
    (tm.sortRouteRules pdqsort).HTTPServiceRouteRules.lookup ruleName =
      (tm.HTTPServiceRouteRules.lookup ruleName).map fun hrrs =>
        { hrrs with RouteRules := OutboundHTTPRouteRuleSlice.sort pdqsort hrrs.RouteRules } :=
  GoMap.lookup_mapVal _ _ _

/-- Sorting keeps what the route rules and the hosts are. -/
theorem Describes.sortRouteRules (hpdq : ∀ xs, (pdqsort xs).Perm xs) {tm : OutboundTrafficMatch}
    {C : Trafficpolicy.OutboundTrafficPolicy → Prop} (hd : Describes tm C) :
    Describes (tm.sortRouteRules pdqsort) C where
  rules ruleName := by
    have hrules := hd.rules ruleName
    rw [lookup_sortRouteRules]
    cases hlookup : tm.HTTPServiceRouteRules.lookup ruleName with
    | none => simpa [hlookup] using hrules
    | some hrrs =>
      simp only [hlookup, Option.map_some, Option.getD_some] at hrules ⊢
      exact hrules.perm (OutboundHTTPRouteRuleSlice.perm_sort hpdq hrrs.RouteRules).symm
  hosts := hd.hosts

theorem IdentityIs.sortRouteRules {serviceIdentity : String} {tm : OutboundTrafficMatch}
    (hi : IdentityIs serviceIdentity tm) : IdentityIs serviceIdentity (tm.sortRouteRules pdqsort) := by
  intro ruleName hsrrs hlookup
  rw [lookup_sortRouteRules] at hlookup
  obtain ⟨hrrs, hrrs_lookup, rfl⟩ := Option.map_eq_some_iff.mp hlookup
  exact hi ruleName hrrs hrrs_lookup

/-- What sorting keeps of a traffic match, `reorder` keeps of the traffic match of every
    name. -/
theorem getTrafficMatch_reorderOutbound (I : OutboundTrafficMatch → Prop)
    (hI : ∀ tm, I tm → I (tm.sortRouteRules pdqsort)) (ports : GoSet.Enumerator UInt16)
    {otp : OutboundTrafficPolicy} {name : String} (h : I (otp.getTrafficMatch name)) :
    I ((reorderOutbound pdqsort ports otp).getTrafficMatch name) :=
  GoPtr.getD_foldl_store id (fun _ => OutboundTrafficMatch.sortRouteRules pdqsort) I (fun _ => hI)
    .empty name _ _ h

end reorder

/-! ## The router -/

/-- What the router leaves for the modules after it: the rule (`__route`), and the rule set
    with its name (`__service`). -/
structure Routed where
  route : OutboundHTTPRouteRule
  name : String
  service : OutboundHTTPRouteRules

section router

variable (regexTest : String → String → Bool)

/-- `makeServiceHandler` for a rule name, applied to a request: the first rule of the tree's
    list for the request's method whose closure accepts the request sets `__route` and
    `__service`; with a service, the request gets the header `serviceidentity`. -/
def makeServiceHandler (portConfig : OutboundTrafficMatch) (serviceName : String) (req : Request) :
    Option Routed × Request :=
  match portConfig.HTTPServiceRouteRules.lookup serviceName with
  -- no rule set: `rules` is empty and nothing is found
  | none => (none, req)
  | some service =>
    let tree := GoMap.groupBy (fun r : OutboundHTTPRouteRule => allowedMethods r.HTTPMatchRule)
      service.RouteRules ∅
    match (tree.lookup req.method).bind
        (·.find? fun r => ruleMatches regexTest r.HTTPMatchRule req.path req.headers) with
    | none => (none, req)
    | some route =>
      (some ⟨route, serviceName, service⟩,
        { req with headers := req.headers.insert "serviceidentity" service.ServiceIdentity })

/-- `makePortHandler` applied to a request: the service handler of the rule name the request's
    host maps to. -/
def makePortHandler (portConfig : OutboundTrafficMatch) (req : Request) : Option Routed × Request :=
  makeServiceHandler regexTest portConfig
    (propertyKey (portConfig.HTTPHostPort2Service.lookup req.hostKey)) req

/-- The tree's list for the request's method, searched, finds the first rule that takes the
    request. -/
theorem find_methodTree (rules : List OutboundHTTPRouteRule) (req : Request) :
    ((GoMap.groupBy (fun r : OutboundHTTPRouteRule => allowedMethods r.HTTPMatchRule) rules ∅).lookup
      req.method).bind (·.find? fun r => ruleMatches regexTest r.HTTPMatchRule req.path req.headers) =
      rules.find? fun r => Accepts regexTest r.HTTPMatchRule req := by
  have hfind := GoMap.find?_groupBy (fun r : OutboundHTTPRouteRule => allowedMethods r.HTTPMatchRule)
    rules req.method fun r => ruleMatches regexTest r.HTTPMatchRule req.path req.headers
  -- a method with no list is searched as an empty one
  cases hlookup : (GoMap.groupBy (fun r : OutboundHTTPRouteRule => allowedMethods r.HTTPMatchRule)
      rules ∅).lookup req.method <;>
    simpa [hlookup, Accepts] using hfind

/-- What a service handler does with a request: nothing when no rule of its rule set takes it,
    else it routes it by the first that does. -/
theorem makeServiceHandler_cases (portConfig : OutboundTrafficMatch) (serviceName : String)
    (req : Request) :
    ((∀ service, portConfig.HTTPServiceRouteRules.lookup serviceName = some service →
        ∀ r ∈ service.RouteRules, Accepts regexTest r.HTTPMatchRule req = false) ∧
      makeServiceHandler regexTest portConfig serviceName req = (none, req)) ∨
    ∃ service route, portConfig.HTTPServiceRouteRules.lookup serviceName = some service ∧
      service.RouteRules.find? (fun r => Accepts regexTest r.HTTPMatchRule req) = some route ∧
      makeServiceHandler regexTest portConfig serviceName req =
        (some ⟨route, serviceName, service⟩,
          { req with headers := req.headers.insert "serviceidentity" service.ServiceIdentity }) := by
  unfold makeServiceHandler
  cases hservice : portConfig.HTTPServiceRouteRules.lookup serviceName with
  | none => exact .inl ⟨fun _ h => absurd h (by simp), rfl⟩
  | some service =>
    dsimp only
    rw [find_methodTree]
    cases hfound : service.RouteRules.find? fun r => Accepts regexTest r.HTTPMatchRule req with
    | none =>
      refine .inl ⟨fun service' hservice' r hr => ?_, rfl⟩
      cases hservice'
      simpa using List.find?_eq_none.mp hfound r hr
    | some route => exact .inr ⟨service, route, rfl, hfound, rfl⟩

end router

/-! ## Routing on a described traffic match -/

/-- A route of a route configuration of `C` read for the rule name. -/
def RouteOf (C : Trafficpolicy.OutboundTrafficPolicy → Prop) (ruleName : String) (route : OutboundRoute) :
    Prop :=
  ∃ config, C config ∧ config.Name = ruleName ∧ route ∈ config.Routes

/-- What the router does with a request on a traffic match whose rule sets and hosts the route
    configurations `C` describe and whose rule sets carry `serviceIdentity`. A routed request
    goes by a rule of its host's rule name that takes it, which has the match of a route of
    that name and the clusters of all those routes with the match, and it carries the
    identity. A request left unrouted is unchanged, and no route of its host's rule name
    takes it. -/
structure RoutesAsRead (regexTest : String → String → Bool) (tm : OutboundTrafficMatch)
    (C : Trafficpolicy.OutboundTrafficPolicy → Prop) (serviceIdentity : String) (req : Request) :
    Prop where
  routed : ∀ routed req', makePortHandler regexTest tm req = (some routed, req') →
    tm.HTTPHostPort2Service.lookup req.hostKey = some routed.name ∧
    (∃ config, C config ∧ config.Name = routed.name ∧ req.hostKey ∈ config.Hostnames) ∧
    Accepts regexTest routed.route.HTTPMatchRule req = true ∧
    (∃ route, RouteOf C routed.name route ∧
      httpMatchOf route.toRouteWeightedClusters = routed.route.HTTPMatchRule) ∧
    (∀ c, c ∈ routed.route.TargetClusters ↔ ∃ route, RouteOf C routed.name route ∧
      httpMatchOf route.toRouteWeightedClusters = routed.route.HTTPMatchRule ∧
        ∃ wc ∈ route.WeightedClusters, wc.ClusterName = c) ∧
    req'.headers.lookup "serviceidentity" = some serviceIdentity
  unrouted : ∀ req', makePortHandler regexTest tm req = (none, req') → req' = req ∧
    ∀ ruleName, tm.HTTPHostPort2Service.lookup req.hostKey = some ruleName →
      ∀ route, RouteOf C ruleName route → Accepts regexTest (httpMatchOf route.toRouteWeightedClusters) req = false

section described

variable (regexTest : String → String → Bool) {tm : OutboundTrafficMatch}
  {C : Trafficpolicy.OutboundTrafficPolicy → Prop} {serviceIdentity : String}

/-- No configuration of `C` is named `undefined`, so a host that maps to no rule name finds
    no rule. -/
theorem rules_undefined (hd : Describes tm C) (hundefined : ∀ config, C config → config.Name ≠ "undefined") :
    ((tm.HTTPServiceRouteRules.lookup "undefined").map (·.RouteRules)).getD [] = [] := by
  have hrules := hd.rules "undefined"
  -- every rule has the match of a route of a configuration named `undefined`; there is none
  apply List.eq_nil_iff_forall_not_mem.mpr
  intro r hr
  obtain ⟨route, ⟨config, hC, hname, -⟩, -⟩ :=
    (hrules.mem_matches r.HTTPMatchRule).mp (List.mem_map_of_mem hr)
  exact hundefined config hC hname

/-- A routed request goes by a rule of the rule name its host maps to. -/
theorem makePortHandler_some (hd : Describes tm C)
    (hundefined : ∀ config, C config → config.Name ≠ "undefined") {req req' : Request} {routed : Routed}
    (h : makePortHandler regexTest tm req = (some routed, req')) :
    tm.HTTPHostPort2Service.lookup req.hostKey = some routed.name ∧
      tm.HTTPServiceRouteRules.lookup routed.name = some routed.service ∧
      routed.service.RouteRules.find? (fun r => Accepts regexTest r.HTTPMatchRule req) = some routed.route ∧
      req' = { req with headers := req.headers.insert "serviceidentity" routed.service.ServiceIdentity } := by
  unfold makePortHandler at h
  rcases makeServiceHandler_cases regexTest tm
      (propertyKey (tm.HTTPHostPort2Service.lookup req.hostKey)) req with
    ⟨-, hnone⟩ | ⟨service, route, hservice, hfound, hsome⟩
  · rw [hnone] at h
    cases h
  · rw [hsome, Prod.mk.injEq, Option.some.injEq] at h
    obtain ⟨rfl, rfl⟩ := h
    refine ⟨?_, hservice, hfound, rfl⟩
    cases hhost : tm.HTTPHostPort2Service.lookup req.hostKey with
    | some ruleName => rfl
    | none =>
      -- the host maps to nothing: the rule set read is the one named `undefined`, which is empty
      rw [hhost] at hservice
      have hempty := rules_undefined hd hundefined
      rw [propertyKey, Option.getD_none] at hservice
      rw [hservice, Option.map_some, Option.getD_some] at hempty
      rw [hempty] at hfound
      cases hfound

theorem routesAsRead (hd : Describes tm C) (hid : IdentityIs serviceIdentity tm)
    (hundefined : ∀ config, C config → config.Name ≠ "undefined") (req : Request) :
    RoutesAsRead regexTest tm C serviceIdentity req where
  routed routed req' h := by
    obtain ⟨hhost, hservice, hfound, rfl⟩ := makePortHandler_some regexTest hd hundefined h
    have hmem : routed.route ∈ routed.service.RouteRules := List.mem_of_find?_eq_some hfound
    have haccepts := List.find?_some hfound
    have hrules := hd.rules routed.name
    rw [hservice, Option.map_some, Option.getD_some] at hrules
    obtain ⟨route, hroute, hmatch⟩ :=
      (hrules.mem_matches routed.route.HTTPMatchRule).mp (List.mem_map_of_mem hmem)
    refine ⟨hhost, hd.hosts _ _ hhost, haccepts, ⟨route, hroute, hmatch⟩,
      hrules.mem_clusters routed.route hmem, ?_⟩
    rw [AList.lookup_insert, hid routed.name routed.service hservice]
  unrouted req' h := by
    unfold makePortHandler at h
    rcases makeServiceHandler_cases regexTest tm
        (propertyKey (tm.HTTPHostPort2Service.lookup req.hostKey)) req with
      ⟨hnone, hresult⟩ | ⟨service, route, -, -, hsome⟩
    · rw [hresult, Prod.mk.injEq] at h
      refine ⟨h.2.symm, fun ruleName hhost route hroute => ?_⟩
      rw [hhost, propertyKey, Option.getD_some] at hnone
      -- the route has a rule of its match in the rule set, and that rule does not take it
      have hrules := hd.rules ruleName
      obtain ⟨r, hr, hmatch⟩ := List.mem_map.mp
        ((hrules.mem_matches _).mpr ⟨route, hroute, rfl⟩)
      cases hservice : tm.HTTPServiceRouteRules.lookup ruleName with
      | none => simp [hservice] at hr
      | some service =>
        rw [hservice, Option.map_some, Option.getD_some] at hr
        rw [← hmatch]
        exact hnone service hservice r hr
    · rw [hsome] at h
      cases h

end described

/-! ## The published configuration -/

section outbound

variable (it : Rds.MapOrder)
  (httpRouteConfigsPerPort : AList fun _ : Int => List Trafficpolicy.OutboundTrafficPolicy)

/-- A service's name is never `undefined`: it has the cluster domain. -/
theorem FQDN_ne_undefined (svc : MeshService) : svc.FQDN ≠ "undefined" := by
  intro h
  have hlength := congrArg String.length h
  have hsuffix : ".svc.cluster.local".length = 18 := rfl
  have hundefined : "undefined".length = 9 := rfl
  simp only [MeshService.FQDN, String.length_append] at hlength
  omega

/-- The generator reads the route configurations named after the upstream service. -/
theorem Name_of_mem_httpRouteConfigsOf {trafficMatch : TrafficMatch} {upstreamSvc : MeshService}
    {config : Trafficpolicy.OutboundTrafficPolicy}
    (h : config ∈ httpRouteConfigsOf it httpRouteConfigsPerPort trafficMatch upstreamSvc) :
    config.Name = upstreamSvc.FQDN := by
  unfold httpRouteConfigsOf getOutboundHTTPRouteConfigs at h
  split at h
  · exact (of_decide_eq_true (Bool.and_eq_true_iff.mp (List.mem_filter.mp h).2).1)
  · simp at h

theorem name_ne_undefined_of_reads {trafficMatch : TrafficMatch}
    {read : String × Trafficpolicy.OutboundTrafficPolicy}
    (h : ReadsConfig it httpRouteConfigsPerPort trafficMatch read) : read.2.Name ≠ "undefined" := by
  obtain ⟨-, -, upstreamSvc, -, hmem⟩ := h
  rw [Name_of_mem_httpRouteConfigsOf it httpRouteConfigsPerPort hmem]
  exact FQDN_ne_undefined upstreamSvc

variable (E : GoSet.Enumerator String) (clustersConfigs : List MeshClusterConfig)
  (upstreamEndpoints : String → List Endpoint) (pipyConf : PipyConf) (proxyIdentity : String)

theorem outbound_http_routing {trafficMatches : List TrafficMatch} {otp : OutboundTrafficPolicy}
    (h : outbound E clustersConfigs upstreamEndpoints it pipyConf proxyIdentity httpRouteConfigsPerPort
      trafficMatches = .ok (some otp))
    {pdqsort : List OutboundHTTPRouteRule → List OutboundHTTPRouteRule}
    (hpdq : ∀ xs, (pdqsort xs).Perm xs) (ports : GoSet.Enumerator UInt16)
    (regexTest : String → String → Bool) (name : String) (req : Request) :
    RoutesAsRead regexTest ((reorderOutbound pdqsort ports otp).getTrafficMatch name)
      (fun config => ∃ trafficMatch ∈ trafficMatches,
        ReadsConfig it httpRouteConfigsPerPort trafficMatch (name, config))
      proxyIdentity req := by
  obtain ⟨otp₀, dependClusters, hgen, hnamed⟩ := outbound_traffic_matches E clustersConfigs
    upstreamEndpoints it pipyConf proxyIdentity httpRouteConfigsPerPort h
  -- the balance generator left the traffic matches of the route generator
  have htm : otp.getTrafficMatch name = otp₀.getTrafficMatch name := by
    simp only [OutboundTrafficPolicy.getTrafficMatch, hnamed]
  have hd := generatePipyOutboundTrafficRoutePolicy_describes it pipyConf proxyIdentity
    httpRouteConfigsPerPort hgen name
  have hid := identity_generatePipyOutboundTrafficRoutePolicy it pipyConf proxyIdentity
    httpRouteConfigsPerPort hgen name
  rw [← htm] at hd hid
  apply routesAsRead regexTest
  · exact getTrafficMatch_reorderOutbound (fun tm => Describes tm _)
      (fun tm htm => htm.sortRouteRules hpdq) ports hd
  · exact getTrafficMatch_reorderOutbound (IdentityIs proxyIdentity)
      (fun tm hi => hi.sortRouteRules) ports hid
  · rintro config ⟨trafficMatch, -, hreads⟩
    exact name_ne_undefined_of_reads it httpRouteConfigsPerPort hreads

end outbound

/-! ### `bookbuyer`'s requests to the bookstore -/

/-- Ports in increasing order. -/
def portOrder : GoSet.Enumerator UInt16 :=
  GoSet.Enumerator.sortedBy UInt16.toNat @UInt16.toNat.inj

/-- The bookstore, on `bookstore-v1`. -/
def bookstoreMatch : TrafficMatch :=
  { Name := "outbound_default/bookstore_14001_http", DestinationPort := 14001,
    DestinationProtocol := "http", DestinationIPRanges := ["10.0.0.2/32"],
    WeightedClusters := [⟨"default/bookstore-v1|14001", 100⟩] }

/-- The route of `GET /books...` to `bookstore-v1`. -/
def booksRoute : OutboundRoute :=
  { HTTPRouteMatch := ⟨"/books", .PathMatchPrefix, ["GET"], ∅⟩,
    WeightedClusters := {⟨"default/bookstore-v1|14001", 100⟩}, RetryPolicy := none }

/-- The bookstore's route configuration on port 14001. -/
def bookstoreRouteConfigs : AList fun _ : Int => List Trafficpolicy.OutboundTrafficPolicy :=
  (∅ : AList fun _ : Int => List Trafficpolicy.OutboundTrafficPolicy).insert 14001
    [⟨"bookstore.default.svc.cluster.local", ["bookstore", "bookstore:14001"], [booksRoute]⟩]

/-- The outbound step for `bookbuyer`, before any endpoint is known. -/
def booksOutbound : Except String (Option OutboundTrafficPolicy) :=
  outbound clusterOrder [] (fun _ => []) Rds.ascendingOrder ⟨none, false, ∅⟩ "bookbuyer.default"
    bookstoreRouteConfigs [bookstoreMatch]

/-- The outbound part it writes. -/
def booksConf : OutboundTrafficPolicy :=
  match booksOutbound with
  | .ok (some otp) => otp
  | _ => .empty

/-- `GET /books/1` to the host `bookstore`. -/
def booksRequest : Request :=
  ⟨"GET", "/books/1", (∅ : AList fun _ : String => String).insert "host" "bookstore"⟩

theorem outbound_http_routing_books :
    RoutesAsRead (fun _ _ => true) ((reorderOutbound id portOrder booksConf).getTrafficMatch "14001=http")
      (fun config => ∃ trafficMatch ∈ [bookstoreMatch],
        ReadsConfig Rds.ascendingOrder bookstoreRouteConfigs trafficMatch ("14001=http", config))
      "bookbuyer.default" booksRequest :=
  outbound_http_routing Rds.ascendingOrder bookstoreRouteConfigs clusterOrder [] (fun _ => [])
    ⟨none, false, ∅⟩ "bookbuyer.default" (show booksOutbound = .ok (some booksConf) from rfl)
    (fun xs => .refl xs) portOrder _ "14001=http" booksRequest

/-- The request goes to the bookstore's rule set, with `bookbuyer`'s identity. -/
example : (makePortHandler (fun _ _ => true)
    ((reorderOutbound id portOrder booksConf).getTrafficMatch "14001=http") booksRequest).map
      (·.map (·.name)) (·.headers.lookup "serviceidentity") =
    (some "bookstore.default.svc.cluster.local", some "bookbuyer.default") := by
  decide

end Outbound

end OsmEdge.Pipy
