import OsmEdge.Pipy.HttpRouting
import OsmEdge.Pipy.Mesh

/-
  How a sidecar routes an inbound HTTP request (`inbound-http-routing.js`). This is where
  the mesh's access control on HTTP is decided: a request that no rule routes is answered
  `403 Access denied` (`inbound-http-default.js`).

  The script lists every route rule of a rule set in a tree by identity and method: under
  each service the rule allows, or under the empty identity when it allows any service (its
  `AllowedServices` is nil, written `null`). A request is searched in the list of the
  identity its `serviceidentity` header names, and only when that identity has no list for
  the method in the list of the empty identity (`makeServiceHandler_route`).

  So a rule open to every service is never consulted for an identity that another rule lists
  for the method (`inbound_identity_rules_shadow_open_rules`): that identity is refused a
  route open to all, which an identity no rule lists is given. The rule sets are the ones the
  mesh generator writes; a rule without principals is open to every service
  (`route_rule_no_principal_allows_any`).

  On a port with source ranges, a request from an address in one of them reads the rule
  name of the host `*`; an address is tested with `netmaskContains range address`, standing
  for `new Netmask(range).contains(address)`. Left out: the flag `__isIngress` and the
  round-robin pick of the cluster.
-/

namespace OsmEdge.Pipy

/-- `headers.serviceidentity` where it is truthy: there, and not empty. -/
def Request.identityHeader (req : Request) : Option String :=
  (req.headers.lookup "serviceidentity").filter (· ≠ "")

namespace Inbound

open OsmEdge.Constants OsmEdge.Trafficpolicy

/-- `config.AllowedServices ? new Set(config.AllowedServices) : ['']`: a rule whose services
    are nil is listed under the empty identity. -/
def allowedIdentities (r : InboundHTTPRouteRule) : List String :=
  if r.AllowedServices.isEmpty then [""] else r.AllowedServices

/-- Where the script pushes a rule, `tree[identity][method]`, the two levels as one key. -/
def treeKeys (r : InboundHTTPRouteRule) : List (String × String) :=
  (allowedIdentities r).flatMap fun identity =>
    (allowedMethods r.HTTPMatchRule).map fun method => (identity, method)

theorem mem_treeKeys {r : InboundHTTPRouteRule} {identity method : String} :
    (identity, method) ∈ treeKeys r ↔ identity ∈ allowedIdentities r ∧ method ∈ allowedMethods r.HTTPMatchRule := by
  simp [treeKeys]

/-- What the router leaves for the modules after it: the rule (`__route`), and the rule set
    with its name (`__service`). -/
structure Routed where
  route : InboundHTTPRouteRule
  name : String
  service : InboundHTTPRouteRules

section router

variable (regexTest : String → String → Bool)

/-- `makeServiceHandler` for a rule name, applied to a request: the list of the request's
    identity for its method, or where there is none the list of the empty identity, and in it
    the first rule whose closure accepts the request. -/
def makeServiceHandler (portConfig : InboundTrafficMatch) (serviceName : String) (req : Request) :
    Option Routed :=
  match portConfig.HTTPServiceRouteRules.lookup serviceName with
  -- no rule set: `rules` is empty and nothing is found
  | none => none
  | some service =>
    let tree := GoMap.groupBy treeKeys service.RouteRules ∅
    -- `headers.serviceidentity && tree[headers.serviceidentity]?.[method] || tree['']?.[method]`
    let candidates := (req.identityHeader.bind fun identity => tree.lookup (identity, req.method)).or
      (tree.lookup ("", req.method))
    (candidates.bind (·.find? fun r => ruleMatches regexTest r.HTTPMatchRule req.path req.headers)).map
      fun route => ⟨route, serviceName, service⟩

variable (netmaskContains : String → String → Bool)

/-- `makePortHandler` applied to a request from `remoteAddress`: on a port with source ranges,
    an address in one of them reads the rule name of the host `*`; any other request the rule
    name of its `host` header. -/
def makePortHandler (portConfig : InboundTrafficMatch) (remoteAddress : String) (req : Request) :
    Option Routed :=
  let ip := if remoteAddress.isEmpty then "127.0.0.1" else remoteAddress
  let host := if portConfig.SourceIPRanges.keys.any (netmaskContains · ip) then "*" else req.hostKey
  makeServiceHandler regexTest portConfig (propertyKey (portConfig.HTTPHostPort2Service.lookup host)) req

/-- The identity whose list the script searches: the request's, when a rule lists it for the
    method, else the empty identity. -/
def searchedIdentity (rules : List InboundHTTPRouteRule) (req : Request) : String :=
  match req.identityHeader with
  | some identity =>
    if rules.any fun r => decide (identity ∈ allowedIdentities r) &&
        decide (req.method ∈ allowedMethods r.HTTPMatchRule) then identity
    else ""
  | none => ""

/-- The list the script searches is the tree's list of the searched identity. -/
theorem candidates_eq (rules : List InboundHTTPRouteRule) (req : Request) :
    (req.identityHeader.bind fun identity =>
        (GoMap.groupBy treeKeys rules ∅).lookup (identity, req.method)).or
      ((GoMap.groupBy treeKeys rules ∅).lookup ("", req.method)) =
      (GoMap.groupBy treeKeys rules ∅).lookup (searchedIdentity rules req, req.method) := by
  unfold searchedIdentity
  cases req.identityHeader with
  | none => rfl
  | some identity =>
    dsimp only [Option.bind_some]
    by_cases hlisted : rules.any fun r => decide (identity ∈ allowedIdentities r) &&
        decide (req.method ∈ allowedMethods r.HTTPMatchRule)
    · -- a rule lists the identity for the method, so the identity has a list
      obtain ⟨l, hl⟩ : ∃ l, (GoMap.groupBy treeKeys rules ∅).lookup (identity, req.method) = some l := by
        apply Option.isSome_iff_exists.mp
        rw [AList.lookup_isSome, GoMap.mem_groupBy]
        simpa [mem_treeKeys] using hlisted
      rw [if_pos hlisted, hl, Option.some_or]
    · have hnone : (GoMap.groupBy treeKeys rules ∅).lookup (identity, req.method) = none := by
        rw [AList.lookup_eq_none, GoMap.mem_groupBy]
        simpa [mem_treeKeys] using hlisted
      rw [if_neg hlisted, hnone, Option.none_or]

/-- A service handler routes a request by the first rule of the rule set that lists the
    searched identity and takes the request. -/
theorem makeServiceHandler_route (portConfig : InboundTrafficMatch) (serviceName : String) (req : Request) :
    (makeServiceHandler regexTest portConfig serviceName req).map (·.route) =
      (portConfig.HTTPServiceRouteRules.lookup serviceName).bind fun service =>
        service.RouteRules.find? fun r =>
          decide (searchedIdentity service.RouteRules req ∈ allowedIdentities r) &&
            Accepts regexTest r.HTTPMatchRule req := by
  unfold makeServiceHandler
  cases portConfig.HTTPServiceRouteRules.lookup serviceName with
  | none => rfl
  | some service =>
    dsimp only [Option.bind_some]
    -- a rule is in the pair's list when it lists the identity and allows the method
    have hpred : (fun r => decide ((searchedIdentity service.RouteRules req, req.method) ∈ treeKeys r) &&
          ruleMatches regexTest r.HTTPMatchRule req.path req.headers) =
        fun r => decide (searchedIdentity service.RouteRules req ∈ allowedIdentities r) &&
          Accepts regexTest r.HTTPMatchRule req := by
      funext r
      simp only [mem_treeKeys, Accepts, Bool.decide_and, Bool.and_assoc]
    rw [candidates_eq, Option.map_map, ← hpred]
    refine Eq.trans ?_ (GoMap.find?_groupBy treeKeys service.RouteRules
      (searchedIdentity service.RouteRules req, req.method)
      fun r => ruleMatches regexTest r.HTTPMatchRule req.path req.headers)
    -- the searched list, when there is none, is searched as an empty one
    cases (GoMap.groupBy treeKeys service.RouteRules ∅).lookup
      (searchedIdentity service.RouteRules req, req.method) with
    | none => rfl
    | some l =>
      dsimp only [Option.bind_some, Option.getD_some]
      cases l.find? fun r => ruleMatches regexTest r.HTTPMatchRule req.path req.headers <;> rfl

theorem inbound_identity_rules_shadow_open_rules (portConfig : InboundTrafficMatch) (serviceName : String)
    {service : InboundHTTPRouteRules} (hservice : portConfig.HTTPServiceRouteRules.lookup serviceName = some service)
    {req : Request} {identity : String} (hidentity : req.identityHeader = some identity)
    (hlisted : ∃ r ∈ service.RouteRules,
      identity ∈ allowedIdentities r ∧ req.method ∈ allowedMethods r.HTTPMatchRule) :
    (makeServiceHandler regexTest portConfig serviceName req).map (·.route) =
      service.RouteRules.find? fun r =>
        decide (identity ∈ allowedIdentities r) && Accepts regexTest r.HTTPMatchRule req := by
  have hsearched : searchedIdentity service.RouteRules req = identity := by
    have hany : (service.RouteRules.any fun r => decide (identity ∈ allowedIdentities r) &&
        decide (req.method ∈ allowedMethods r.HTTPMatchRule)) = true := by
      obtain ⟨r, hr, hid, hmethod⟩ := hlisted
      exact List.any_eq_true.mpr ⟨r, hr, by simp [hid, hmethod]⟩
    unfold searchedIdentity
    rw [hidentity]
    dsimp only
    rw [if_pos hany]
  rw [makeServiceHandler_route, hservice, Option.bind_some, hsearched]

end router

/-! ### A health check open to every service -/

/-- The bookstore's inbound traffic match on port 14001. -/
def bookstoreInboundMatch : TrafficMatch :=
  { Name := "inbound_default/bookstore_14001_http", DestinationPort := 14001, DestinationProtocol := "http" }

/-- A rule that only `bookbuyer` may use, and a health check with no principal. -/
def bookstoreInboundConfig : Trafficpolicy.InboundTrafficPolicy :=
  ⟨"bookstore.default.svc.cluster.local", ["bookstore"],
    [{ Route := { HTTPRouteMatch := ⟨"/buy", .PathMatchPrefix, [], ∅⟩,
                  WeightedClusters := {⟨"default/bookstore|14001|local", 100⟩} }
       AllowedPrincipals := {"bookbuyer.default.cluster.local"} },
     { Route := { HTTPRouteMatch := ⟨"/health", .PathMatchPrefix, [], ∅⟩,
                  WeightedClusters := {⟨"default/bookstore|14001|local", 100⟩} }
       AllowedPrincipals := ∅ }]⟩

/-- The traffic match the mesh generator writes for them. -/
def healthPortConfig : InboundTrafficMatch :=
  match addMeshHTTPRoutes Rds.ascendingOrder "cluster.local" (fun _ => []) ⟨none, false, ∅⟩
      bookstoreInboundMatch bookstoreInboundConfig InboundTrafficMatch.empty with
  | .ok tm => tm
  | .error _ => InboundTrafficMatch.empty

/-- Its rule set. -/
def healthRules : InboundHTTPRouteRules :=
  match healthPortConfig.HTTPServiceRouteRules.lookup "bookstore.default.svc.cluster.local" with
  | some service => service
  | none => ⟨[], ∅, ∅⟩

/-- `GET /health` from `service`. -/
def healthRequest (service : String) : Request :=
  ⟨"GET", "/health", ((∅ : AList fun _ : String => String).insert "host" "bookstore").insert
    "serviceidentity" service⟩

/-- `bookbuyer`, listed for `/buy`, is refused the health check that is open to every
    service. -/
theorem inbound_identity_rules_shadow_open_rules_health :
    (makeServiceHandler (fun _ _ => true) healthPortConfig "bookstore.default.svc.cluster.local"
      (healthRequest "bookbuyer.default")).map (·.route) = none := by
  rw [inbound_identity_rules_shadow_open_rules (fun _ _ => true) healthPortConfig
    "bookstore.default.svc.cluster.local" (show _ = some healthRules from rfl)
    (show (healthRequest "bookbuyer.default").identityHeader = some "bookbuyer.default" from rfl)
    (by decide)]
  decide

/-- `bookthief`, which no rule lists, gets the health check. -/
example : (makeServiceHandler (fun _ _ => true) healthPortConfig "bookstore.default.svc.cluster.local"
    (healthRequest "bookthief.default")).map (·.route.HTTPMatchRule.Path) = some "/health" := by
  decide

end Inbound

end OsmEdge.Pipy
