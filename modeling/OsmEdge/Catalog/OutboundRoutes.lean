import OsmEdge.Catalog.Outbound
import OsmEdge.Lib.FirstWins

/-
  The HTTP route configurations of the outbound mesh traffic policy
  (`GetOutboundMeshTrafficPolicy`, `pkg/catalog/outbound_traffic_policies.go`), and
  `OutboundTrafficPolicy.AddRoute` (`pkg/trafficpolicy/trafficpolicy.go`), which adds their
  routes.

  For every upstream service that is not TCP the catalog makes a policy named after the
  service's FQDN, with its hostnames, and adds to it every route of every route match of the
  service with the match's upstream clusters. `AddRoute` keeps one route per route match: a
  match that is there with the same clusters only takes the retry policy, one with other
  clusters is an error, which the loop logs and skips. When none of the routes has the path
  `.*`, the wildcard route is added, to the clusters `getWildCardRouteUpstreamClusters`
  gathers; were that refused, the service's policy would be dropped, but a route with the
  wildcard's match has the path `.*`, so it never is. The policy goes to the slice of the
  service's port.

  So the routes of a policy are the first route of every route match, in the order the
  matches first come, then the wildcard route unless one of them has the path `.*`
  (`outboundTrafficPolicyOf_Routes`): the first TrafficSplit that routes a match decides its
  clusters. Every policy of every port has distinct route matches and a route with the path
  `.*` (`outbound_route_configs_well_formed`), and every upstream service that is not TCP
  has its policy in the slice of its port (`mem_getOutboundHTTPRouteConfigsPerPort`).

  Left out: the rate limit of a route, which `AddRoute` leaves nil; a duration is its
  nanoseconds.
-/

namespace OsmEdge.Trafficpolicy

open OsmEdge.Constants

/-- `policyv1alpha1.RetryPolicySpec`. -/
structure RetryPolicySpec where
  RetryOn : String
  PerTryTimeout : Option Int
  NumRetries : Option UInt32
  RetryBackoffBaseInterval : Option Int
  deriving DecidableEq, Repr

/-- A `RouteWeightedClusters` of an outbound policy: the route match, the set of weighted
    clusters and the retry policy. -/
structure OutboundRoute extends RouteWeightedClusters where
  RetryPolicy : Option RetryPolicySpec
  deriving DecidableEq

/-- `OutboundTrafficPolicy`. -/
structure OutboundTrafficPolicy where
  Name : String
  Hostnames : List String
  Routes : List OutboundRoute
  deriving DecidableEq

/-- `NewOutboundTrafficPolicy`. -/
def NewOutboundTrafficPolicy (name : String) (hostnames : List String) : OutboundTrafficPolicy :=
  { Name := name, Hostnames := hostnames, Routes := [] }

/-- What the error of `AddRoute` formats into `Route for HTTP Route Match: %v already exists:
    %v for outbound traffic policy: %s`: the match, the route that has it, the policy's
    name. -/
structure AddRouteError where
  HTTPRouteMatch : HTTPRouteMatch
  existingRoute : OutboundRoute
  Name : String

namespace OutboundTrafficPolicy

/-- `AddRoute`: the clusters as a set; the first route with the match takes the retry policy
    when it has the same clusters and is an error otherwise; with none, a route is
    appended. -/
def AddRoute (out : OutboundTrafficPolicy) (httpRouteMatch : HTTPRouteMatch)
    (retryPolicy : Option RetryPolicySpec) (weightedClusters : List WeightedCluster) :
    Except AddRouteError OutboundTrafficPolicy :=
  (loop weightedClusters.toFinset out.Routes).map fun routes => { out with Routes := routes }
where
  /-- The loop over the routes there. -/
  loop (wc : Finset WeightedCluster) : List OutboundRoute → Except AddRouteError (List OutboundRoute)
    | [] => .ok [{ HTTPRouteMatch := httpRouteMatch, WeightedClusters := wc, RetryPolicy := retryPolicy }]
    | existingRoute :: rest =>
      if existingRoute.HTTPRouteMatch = httpRouteMatch then
        if existingRoute.WeightedClusters = wc then
          .ok ({ existingRoute with RetryPolicy := retryPolicy } :: rest)
        else .error { HTTPRouteMatch := existingRoute.HTTPRouteMatch, existingRoute, Name := out.Name }
      else (loop wc rest).map (existingRoute :: ·)

/-- An outbound policy with one route per route match and a route whose path is `.*`. -/
structure WellFormed (out : OutboundTrafficPolicy) : Prop where
  nodup : (out.Routes.map (·.HTTPRouteMatch)).Nodup
  catchAll : ∃ r ∈ out.Routes, r.HTTPRouteMatch.Path = RegexMatchAll

/-- The route `AddRoute` appends. -/
def newRoute (httpRouteMatch : HTTPRouteMatch) (retryPolicy : Option RetryPolicySpec)
    (weightedClusters : List WeightedCluster) : OutboundRoute :=
  { HTTPRouteMatch := httpRouteMatch, WeightedClusters := weightedClusters.toFinset
    RetryPolicy := retryPolicy }

@[simp] theorem newRoute_HTTPRouteMatch (httpRouteMatch : HTTPRouteMatch)
    (retryPolicy : Option RetryPolicySpec) (weightedClusters : List WeightedCluster) :
    (newRoute httpRouteMatch retryPolicy weightedClusters).HTTPRouteMatch = httpRouteMatch := rfl

@[simp] theorem newRoute_WeightedClusters (httpRouteMatch : HTTPRouteMatch)
    (retryPolicy : Option RetryPolicySpec) (weightedClusters : List WeightedCluster) :
    (newRoute httpRouteMatch retryPolicy weightedClusters).WeightedClusters = weightedClusters.toFinset := rfl

section addRoute

variable {out : OutboundTrafficPolicy} {httpRouteMatch : HTTPRouteMatch}
  {retryPolicy : Option RetryPolicySpec} {wc : Finset WeightedCluster}

theorem AddRoute_eq (out : OutboundTrafficPolicy) (httpRouteMatch : HTTPRouteMatch)
    (retryPolicy : Option RetryPolicySpec) (weightedClusters : List WeightedCluster) :
    out.AddRoute httpRouteMatch retryPolicy weightedClusters =
      (AddRoute.loop out httpRouteMatch retryPolicy weightedClusters.toFinset out.Routes).map
        fun routes => { out with Routes := routes } := rfl

theorem loop_of_forall_ne :
    ∀ routes : List OutboundRoute, (∀ r ∈ routes, r.HTTPRouteMatch ≠ httpRouteMatch) →
      AddRoute.loop out httpRouteMatch retryPolicy wc routes =
        .ok (routes ++ [{ HTTPRouteMatch := httpRouteMatch, WeightedClusters := wc, RetryPolicy := retryPolicy }])
  | [], _ => rfl
  | r :: rest, h => by
    have hr : r.HTTPRouteMatch ≠ httpRouteMatch := h r List.mem_cons_self
    rw [AddRoute.loop, if_neg hr, loop_of_forall_ne rest fun r' hr' => h r' (List.mem_cons_of_mem r hr')]
    rfl

/-- With a route of the match, all of whose routes have the retry policy, the loop returns
    the routes unchanged or an error. -/
theorem loop_of_exists :
    ∀ routes : List OutboundRoute, (∃ r ∈ routes, r.HTTPRouteMatch = httpRouteMatch) →
      (∀ r ∈ routes, r.RetryPolicy = retryPolicy) →
      AddRoute.loop out httpRouteMatch retryPolicy wc routes = .ok routes ∨
        ∃ e, AddRoute.loop out httpRouteMatch retryPolicy wc routes = .error e
  | [], ⟨_, hr, _⟩, _ => absurd hr List.not_mem_nil
  | r :: rest, ⟨r', hr', hmatch⟩, hrp => by
    rw [AddRoute.loop]
    by_cases hr : r.HTTPRouteMatch = httpRouteMatch
    · rw [if_pos hr]
      split_ifs
      · -- the route there already has the retry policy
        have hself : { r with RetryPolicy := retryPolicy } = r := by
          rw [← hrp r List.mem_cons_self]
        exact .inl (by rw [hself])
      · exact .inr ⟨_, rfl⟩
    · rw [if_neg hr]
      have hrest : ∃ r ∈ rest, r.HTTPRouteMatch = httpRouteMatch := by
        rcases List.mem_cons.mp hr' with rfl | hmem
        · exact absurd hmatch hr
        · exact ⟨r', hmem, hmatch⟩
      rcases loop_of_exists rest hrest fun r'' h'' => hrp r'' (List.mem_cons_of_mem r h'') with
        h | ⟨e, h⟩
      · exact .inl (by rw [h]; rfl)
      · exact .inr ⟨e, by rw [h]; rfl⟩

end addRoute

/-- A route added as the catalog's route loop adds it: a route `AddRoute` refuses is
    skipped. -/
def addRouteOrSkip (out : OutboundTrafficPolicy) (httpRouteMatch : HTTPRouteMatch)
    (retryPolicy : Option RetryPolicySpec) (weightedClusters : List WeightedCluster) :
    OutboundTrafficPolicy :=
  match out.AddRoute httpRouteMatch retryPolicy weightedClusters with
  | .ok out' => out'
  | .error _ => out

/-- On a policy whose routes all have the retry policy, adding a route or skipping it is
    keeping the first route of every route match. -/
theorem addRouteOrSkip_eq {out : OutboundTrafficPolicy} {retryPolicy : Option RetryPolicySpec}
    (hrp : ∀ r ∈ out.Routes, r.RetryPolicy = retryPolicy) (httpRouteMatch : HTTPRouteMatch)
    (weightedClusters : List WeightedCluster) :
    out.addRouteOrSkip httpRouteMatch retryPolicy weightedClusters =
      { out with
        Routes := FirstWins.addNew (·.HTTPRouteMatch) out.Routes
                    (newRoute httpRouteMatch retryPolicy weightedClusters) } := by
  unfold addRouteOrSkip
  rw [AddRoute_eq]
  rcases FirstWins.addNew_cases (·.HTTPRouteMatch) out.Routes (newRoute httpRouteMatch retryPolicy weightedClusters)
    with ⟨hex, hadd⟩ | ⟨hne, hadd⟩
  · -- a route of the match is there: the policy is kept, whether `AddRoute` succeeds or not
    rw [newRoute_HTTPRouteMatch] at hex
    rw [hadd]
    rcases loop_of_exists out.Routes hex hrp with h | ⟨e, h⟩ <;> rw [h] <;> rfl
  · rw [newRoute_HTTPRouteMatch] at hne
    rw [hadd, loop_of_forall_ne out.Routes hne]
    rfl

theorem retryPolicy_addNew {routes : List OutboundRoute} {retryPolicy : Option RetryPolicySpec}
    (hrp : ∀ r ∈ routes, r.RetryPolicy = retryPolicy) (httpRouteMatch : HTTPRouteMatch)
    (weightedClusters : List WeightedCluster) :
    ∀ r ∈ FirstWins.addNew (·.HTTPRouteMatch) routes (newRoute httpRouteMatch retryPolicy weightedClusters),
      r.RetryPolicy = retryPolicy := by
  rcases FirstWins.addNew_cases (·.HTTPRouteMatch) routes (newRoute httpRouteMatch retryPolicy weightedClusters)
    with ⟨-, hadd⟩ | ⟨-, hadd⟩
  · rwa [hadd]
  · rw [hadd]
    intro r hr
    rcases List.mem_append.mp hr with hr | hr
    · exact hrp r hr
    · rw [List.mem_singleton.mp hr]
      rfl

end OutboundTrafficPolicy

end OsmEdge.Trafficpolicy

namespace OsmEdge.Service.MeshService

/-- `NamespacedKey`: the namespace and the provider key. -/
def NamespacedKey (ms : MeshService) : String := ms.Namespace ++ "/" ++ ms.ProviderKey

/-- `SiblingTo`. -/
def SiblingTo (ms svc : MeshService) : Bool := ms.NamespacedKey = svc.NamespacedKey

end OsmEdge.Service.MeshService

namespace OsmEdge.Catalog

open OsmEdge.Identity OsmEdge.Trafficpolicy OsmEdge.Service OsmEdge.Constants
open OsmEdge.Trafficpolicy.OutboundTrafficPolicy

/-! ## Retry policies -/

/-- `policyv1alpha1.RetrySrcDstSpec`. -/
structure RetrySrcDstSpec where
  Kind : String
  Name : String
  Namespace : String
  deriving DecidableEq, Repr

/-- `policyv1alpha1.RetrySpec`. -/
structure RetrySpec where
  Source : RetrySrcDstSpec
  Destinations : List RetrySrcDstSpec
  RetryPolicy : RetryPolicySpec
  deriving DecidableEq, Repr

/-- `policyv1alpha1.Retry`. -/
structure Retry where
  Spec : RetrySpec
  deriving DecidableEq, Repr

/-- What the route loop reads beyond the outbound catalog: the trust domain of the
    hostnames, the retry-policy feature flag and the Retry policies of the informer cache. -/
structure RouteCatalog where
  trustDomain : String
  EnableRetryPolicy : Bool
  retries : List Retry

namespace RouteCatalog

variable (rc : RouteCatalog)

/-- `ListRetryPolicies`: the Retry policies whose source is the service account. -/
def ListRetryPolicies (source : K8sServiceAccount) : List Retry :=
  rc.retries.filter fun retry =>
    retry.Spec.Source.Kind = kindSvcAccount ∧ retry.Spec.Source.Name = source.Name ∧
      retry.Spec.Source.Namespace = source.Namespace

/-- `GetRetryPolicy`: with the flag on, the policy of the first Retry of the source with a
    `Service` destination that is a sibling of the upstream service. -/
def GetRetryPolicy (src : K8sServiceAccount) (upstreamSvc : MeshService) : Option RetryPolicySpec :=
  if !rc.EnableRetryPolicy then none
  else
    (rc.ListRetryPolicies src).findSome? fun retryCRD =>
      if retryCRD.Spec.Destinations.any fun dest =>
          dest.Kind = "Service" ∧
            upstreamSvc.SiblingTo
              { Name := dest.Name, Namespace := dest.Namespace, Port := 0, TargetPort := 0, Protocol := "" }
      then some retryCRD.Spec.RetryPolicy
      else none

end RouteCatalog

/-! ## The routes of one upstream service -/

/-- `getWildCardRouteUpstreamClusters`: each cluster name once, the first time it comes;
    with a wildcard TrafficSplit the clusters of the route matches without split matches,
    with their weights, else the clusters of all route matches, each of weight
    `ClusterWeightAcceptAll`. `upstreamClusterMap` holds the names taken so far. -/
def getWildCardRouteUpstreamClusters (hasTrafficSplitWildCard : Bool)
    (routeMatches : List HTTPRouteMatchWithWeightedClusters) : List WeightedCluster :=
  let add := fun (weight : WeightedCluster → Int) (upstreamClusters : List WeightedCluster)
      (upstreamCluster : WeightedCluster) =>
    FirstWins.addNew (·.ClusterName) upstreamClusters
      { ClusterName := upstreamCluster.ClusterName, Weight := weight upstreamCluster }
  if hasTrafficSplitWildCard then
    (routeMatches.filter (!·.HasSplitMatches)).foldl
      (fun upstreamClusters routeMatch => routeMatch.UpstreamClusters.foldl (add (·.Weight)) upstreamClusters) []
  else
    routeMatches.foldl (fun upstreamClusters routeMatch =>
      routeMatch.UpstreamClusters.foldl (add fun _ => ClusterWeightAcceptAll) upstreamClusters) []

/-- The route loop of `GetOutboundMeshTrafficPolicy` for one service: every route of every
    route match, added with the match's upstream clusters, a refused one skipped; with it
    `hasWildCardRoute`, whether one of the routes has the path `.*`. -/
def addRouteMatches (retryPolicy : Option RetryPolicySpec)
    (routeMatches : List HTTPRouteMatchWithWeightedClusters) (out : OutboundTrafficPolicy) :
    OutboundTrafficPolicy × Bool :=
  routeMatches.foldl (fun acc routeMatch =>
    routeMatch.RouteMatches.foldl (fun acc route =>
      (acc.1.addRouteOrSkip route retryPolicy routeMatch.UpstreamClusters,
        acc.2 || route.Path = RegexMatchAll)) acc) (out, false)

/-- The routes the loop adds, in order, each with its match's clusters and the retry
    policy. -/
def routeEntries (retryPolicy : Option RetryPolicySpec)
    (routeMatches : List HTTPRouteMatchWithWeightedClusters) : List OutboundRoute :=
  routeMatches.flatMap fun routeMatch =>
    routeMatch.RouteMatches.map fun route => newRoute route retryPolicy routeMatch.UpstreamClusters

/-- The routes of one route match, added to a policy whose routes have the retry policy. -/
theorem foldl_addRouteOrSkip {retryPolicy : Option RetryPolicySpec} (upstreamClusters : List WeightedCluster) :
    ∀ (routes : List HTTPRouteMatch) (out : OutboundTrafficPolicy) (b : Bool),
      (∀ r ∈ out.Routes, r.RetryPolicy = retryPolicy) →
      routes.foldl (fun acc route =>
          (acc.1.addRouteOrSkip route retryPolicy upstreamClusters, acc.2 || route.Path = RegexMatchAll))
        (out, b) =
        ({ out with
           Routes := (routes.map fun route => newRoute route retryPolicy upstreamClusters).foldl
                       (FirstWins.addNew (·.HTTPRouteMatch)) out.Routes },
          b || routes.any (·.Path = RegexMatchAll))
  | [], out, b, _ => by simp
  | route :: routes, out, b, hrp => by
    rw [List.foldl_cons, addRouteOrSkip_eq hrp]
    rw [foldl_addRouteOrSkip upstreamClusters routes _ _ (retryPolicy_addNew hrp route upstreamClusters)]
    simp [Bool.or_assoc]

/-- The route loop keeps the first route of every route match it adds, and finds whether one
    of them has the path `.*`. -/
theorem addRouteMatches_eq (retryPolicy : Option RetryPolicySpec)
    (routeMatches : List HTTPRouteMatchWithWeightedClusters) (name : String) (hostnames : List String) :
    addRouteMatches retryPolicy routeMatches (NewOutboundTrafficPolicy name hostnames) =
      ({ Name := name, Hostnames := hostnames
         Routes := FirstWins.firstByKey (·.HTTPRouteMatch) (routeEntries retryPolicy routeMatches) },
        (routeEntries retryPolicy routeMatches).any (·.HTTPRouteMatch.Path = RegexMatchAll)) := by
  -- the loop over the route matches, from any policy whose routes have the retry policy
  have hloop : ∀ (rms : List HTTPRouteMatchWithWeightedClusters) (out : OutboundTrafficPolicy) (b : Bool),
      (∀ r ∈ out.Routes, r.RetryPolicy = retryPolicy) →
      rms.foldl (fun acc routeMatch =>
        routeMatch.RouteMatches.foldl (fun acc route =>
          (acc.1.addRouteOrSkip route retryPolicy routeMatch.UpstreamClusters,
            acc.2 || route.Path = RegexMatchAll)) acc) (out, b) =
        ({ out with Routes := (routeEntries retryPolicy rms).foldl (FirstWins.addNew (·.HTTPRouteMatch)) out.Routes },
          b || (routeEntries retryPolicy rms).any (·.HTTPRouteMatch.Path = RegexMatchAll)) := by
    intro rms
    induction rms with
    | nil => intro out b _; simp [routeEntries]
    | cons routeMatch rms ih =>
      intro out b hrp
      rw [List.foldl_cons, foldl_addRouteOrSkip _ _ _ _ hrp]
      -- the routes of the first match keep the retry policy for the rest of the loop
      have hrp' : ∀ r ∈ (routeMatch.RouteMatches.map fun route =>
            newRoute route retryPolicy routeMatch.UpstreamClusters).foldl
            (FirstWins.addNew (·.HTTPRouteMatch)) out.Routes, r.RetryPolicy = retryPolicy := by
        obtain ⟨rest, hsub, heq⟩ := FirstWins.foldl_addNew_append (·.HTTPRouteMatch) out.Routes
          (routeMatch.RouteMatches.map fun route => newRoute route retryPolicy routeMatch.UpstreamClusters)
        rw [heq]
        intro r hr
        rcases List.mem_append.mp hr with hr | hr
        · exact hrp r hr
        · obtain ⟨route, -, rfl⟩ := List.mem_map.mp (hsub.subset hr)
          rfl
      rw [ih _ _ hrp']
      simp only [routeEntries, List.flatMap_cons, List.foldl_append, List.any_append, List.any_map, Bool.or_assoc]
      rfl
  simpa [addRouteMatches, NewOutboundTrafficPolicy, FirstWins.firstByKey] using
    hloop routeMatches (NewOutboundTrafficPolicy name hostnames) false (by simp [NewOutboundTrafficPolicy])

namespace OutboundCatalog

variable (cat : OutboundCatalog) (targetPortOrder : GoSet.Enumerator UInt16) (rc : RouteCatalog)

/-- `hasTrafficSplitWildCard`: no TrafficSplit for the service, or one without matches. -/
def hasTrafficSplitWildCard (meshSvc : MeshService) : Bool :=
  let trafficSplits := cat.ListTrafficSplits meshSvc
  if trafficSplits.length > 0 then trafficSplits.any fun split => !(split.Spec.Matches.length > 0)
  else true

/-- The HTTP route configuration `GetOutboundMeshTrafficPolicy` makes for an upstream service
    that is not TCP; `none` when the wildcard route is refused and the loop goes on to the next
    service. -/
def outboundTrafficPolicyOf (downstreamSvcAccount : K8sServiceAccount) (meshSvc : MeshService) :
    Option OutboundTrafficPolicy :=
  let routeMatches := cat.routeMatchesOf targetPortOrder meshSvc
  let httpHostNamesForServicePort :=
    GetHostnamesForService rc.trustDomain meshSvc (downstreamSvcAccount.Namespace = meshSvc.Namespace)
  let outboundTrafficPolicy := NewOutboundTrafficPolicy meshSvc.FQDN httpHostNamesForServicePort
  let retryPolicy := rc.GetRetryPolicy downstreamSvcAccount meshSvc
  let (outboundTrafficPolicy, hasWildCardRoute) :=
    addRouteMatches retryPolicy routeMatches outboundTrafficPolicy
  if !hasWildCardRoute then
    let upstreamClusters := getWildCardRouteUpstreamClusters (cat.hasTrafficSplitWildCard meshSvc) routeMatches
    match outboundTrafficPolicy.AddRoute WildCardRouteMatch retryPolicy upstreamClusters with
    | .ok out => some out
    | .error _ => none
  else some outboundTrafficPolicy

/-- The loop of `GetOutboundMeshTrafficPolicy` over the services, in its HTTP route
    configurations: a TCP service is skipped, and the policy of every other one is appended
    to the slice of its port. -/
def addServiceRouteConfig (downstreamSvcAccount : K8sServiceAccount)
    (routeConfigPerPort : AList fun _ : Int => List OutboundTrafficPolicy) (meshSvc : MeshService) :
    AList fun _ : Int => List OutboundTrafficPolicy :=
  if meshSvc.Protocol = ProtocolTCP ∨ meshSvc.Protocol = ProtocolTCPServerFirst then routeConfigPerPort
  else
    match cat.outboundTrafficPolicyOf targetPortOrder rc downstreamSvcAccount meshSvc with
    | some outboundTrafficPolicy =>
      GoMap.appendAt routeConfigPerPort (meshSvc.Port.toNat : Int) [outboundTrafficPolicy]
    | none => routeConfigPerPort

/-- `HTTPRouteConfigsPerPort` of `GetOutboundMeshTrafficPolicy`; a panic for an identity
    without a dot. -/
def getOutboundHTTPRouteConfigsPerPort (downstreamIdentity : ServiceIdentity) :
    Except String (AList fun _ : Int => List OutboundTrafficPolicy) :=
  match downstreamIdentity.ToK8sServiceAccount with
  | .error e => .error e
  | .ok downstreamSvcAccount =>
    (cat.ListOutboundServicesForIdentity downstreamIdentity).map fun services =>
      services.foldl (cat.addServiceRouteConfig targetPortOrder rc downstreamSvcAccount) ∅

/-- The route of the wildcard match. -/
def wildCardRoute (downstreamSvcAccount : K8sServiceAccount) (meshSvc : MeshService) : OutboundRoute :=
  newRoute WildCardRouteMatch (rc.GetRetryPolicy downstreamSvcAccount meshSvc)
    (getWildCardRouteUpstreamClusters (cat.hasTrafficSplitWildCard meshSvc)
      (cat.routeMatchesOf targetPortOrder meshSvc))

/-- The policy of an upstream service is never dropped: its routes are the first route of
    every route match, in the order the matches first come, followed by the wildcard route
    when none of them has the path `.*`. -/
theorem outboundTrafficPolicyOf_Routes (downstreamSvcAccount : K8sServiceAccount) (meshSvc : MeshService) :
    cat.outboundTrafficPolicyOf targetPortOrder rc downstreamSvcAccount meshSvc =
      some { Name := meshSvc.FQDN
             Hostnames := GetHostnamesForService rc.trustDomain meshSvc
               (downstreamSvcAccount.Namespace = meshSvc.Namespace)
             Routes :=
               let entries := routeEntries (rc.GetRetryPolicy downstreamSvcAccount meshSvc)
                 (cat.routeMatchesOf targetPortOrder meshSvc)
               FirstWins.firstByKey (·.HTTPRouteMatch) entries ++
                 if entries.any (·.HTTPRouteMatch.Path = RegexMatchAll) then []
                 else [cat.wildCardRoute targetPortOrder rc downstreamSvcAccount meshSvc] } := by
  unfold outboundTrafficPolicyOf
  simp only [addRouteMatches_eq]
  set entries := routeEntries (rc.GetRetryPolicy downstreamSvcAccount meshSvc)
    (cat.routeMatchesOf targetPortOrder meshSvc)
  by_cases hwild : entries.any (·.HTTPRouteMatch.Path = RegexMatchAll) = true
  · simp [hwild]
  · -- no kept route has the wildcard's path, so the wildcard route is appended
    have hne : ∀ r ∈ FirstWins.firstByKey (·.HTTPRouteMatch) entries, r.HTTPRouteMatch ≠ WildCardRouteMatch := by
      intro r hr hmatch
      have hmem : r ∈ entries := (FirstWins.firstByKey_spec (·.HTTPRouteMatch) entries).1.subset hr
      have hpath : r.HTTPRouteMatch.Path = RegexMatchAll := by rw [hmatch]; rfl
      exact hwild (List.any_eq_true.mpr ⟨r, hmem, by simp [hpath]⟩)
    simp only [hwild, Bool.not_false, if_true, Bool.false_eq_true, if_false, AddRoute_eq]
    rw [loop_of_forall_ne _ hne]
    rfl

/-- Every policy the catalog makes has distinct route matches and a route with the path
    `.*`. -/
theorem wellFormed_outboundTrafficPolicyOf {downstreamSvcAccount : K8sServiceAccount} {meshSvc : MeshService}
    {out : OutboundTrafficPolicy}
    (h : cat.outboundTrafficPolicyOf targetPortOrder rc downstreamSvcAccount meshSvc = some out) :
    out.WellFormed := by
  rw [outboundTrafficPolicyOf_Routes, Option.some_inj] at h
  subst h
  set entries := routeEntries (rc.GetRetryPolicy downstreamSvcAccount meshSvc)
    (cat.routeMatchesOf targetPortOrder meshSvc)
  obtain ⟨hsub, hnodup, -⟩ := FirstWins.firstByKey_spec (·.HTTPRouteMatch) entries
  by_cases hwild : entries.any (·.HTTPRouteMatch.Path = RegexMatchAll) = true
  · -- the first route of the match of a `.*` route has its path
    obtain ⟨r, hr, hpath⟩ := List.any_eq_true.mp hwild
    obtain ⟨y, hy, hyr⟩ := FirstWins.exists_mem_firstByKey (·.HTTPRouteMatch) hr
    refine ⟨by simpa [hwild] using hnodup, y, by simpa [hwild] using hy, ?_⟩
    rw [hyr]
    simpa using hpath
  · have hpath : ∀ r ∈ FirstWins.firstByKey (·.HTTPRouteMatch) entries,
        r.HTTPRouteMatch.Path ≠ RegexMatchAll := by
      intro r hr hpath
      exact hwild (List.any_eq_true.mpr ⟨r, hsub.subset hr, by simp [hpath]⟩)
    constructor
    · simp only [hwild, Bool.false_eq_true, if_false, List.map_append, List.map_cons, List.map_nil]
      refine List.nodup_append.mpr ⟨hnodup, by simp, ?_⟩
      rintro _ hx _ hy rfl
      obtain ⟨r, hr, rfl⟩ := List.mem_map.mp hx
      exact hpath r hr (by rw [List.mem_singleton.mp hy]; rfl)
    · exact ⟨cat.wildCardRoute targetPortOrder rc downstreamSvcAccount meshSvc, by simp [hwild], rfl⟩

/-- The services loop keeps every policy of every port well formed. -/
theorem foldl_addServiceRouteConfig_wellFormed (downstreamSvcAccount : K8sServiceAccount) :
    ∀ (services : List MeshService) (m : AList fun _ : Int => List OutboundTrafficPolicy),
      (∀ port ps, m.lookup port = some ps → ∀ p ∈ ps, p.WellFormed) →
      ∀ port ps, (services.foldl (cat.addServiceRouteConfig targetPortOrder rc downstreamSvcAccount) m).lookup port = some ps →
        ∀ p ∈ ps, p.WellFormed
  | [], _, hm => hm
  | meshSvc :: services, m, hm => by
    refine foldl_addServiceRouteConfig_wellFormed downstreamSvcAccount services _ ?_
    intro port ps hps p hp
    unfold addServiceRouteConfig at hps
    split_ifs at hps
    · exact hm port ps hps p hp
    · cases hout : cat.outboundTrafficPolicyOf targetPortOrder rc downstreamSvcAccount meshSvc with
      | none => rw [hout] at hps; exact hm port ps hps p hp
      | some out =>
        rw [hout] at hps
        -- the slice of the port is the old one, with the service's policy at its port
        have hslice := GoMap.lookup_appendAt m (meshSvc.Port.toNat : Int) port [out]
        rw [hps, Option.getD_some] at hslice
        rw [hslice] at hp
        rcases List.mem_append.mp hp with hp | hp
        · cases hold : m.lookup port with
          | none => rw [hold] at hp; simp at hp
          | some ps' => rw [hold, Option.getD_some] at hp; exact hm port ps' hold p hp
        · split_ifs at hp
          · rw [List.mem_singleton.mp hp]
            exact cat.wellFormed_outboundTrafficPolicyOf targetPortOrder rc hout
          · simp at hp

/-- The services loop never takes a policy out of the slice of a port. -/
theorem foldl_addServiceRouteConfig_mono (downstreamSvcAccount : K8sServiceAccount) :
    ∀ (services : List MeshService) (m : AList fun _ : Int => List OutboundTrafficPolicy) (port : Int)
      (out : OutboundTrafficPolicy), out ∈ (m.lookup port).getD [] →
      out ∈ ((services.foldl (cat.addServiceRouteConfig targetPortOrder rc downstreamSvcAccount) m).lookup
        port).getD []
  | [], _, _, _, h => h
  | meshSvc :: services, m, port, out, h => by
    apply foldl_addServiceRouteConfig_mono downstreamSvcAccount services
    unfold addServiceRouteConfig
    split_ifs
    · exact h
    · cases cat.outboundTrafficPolicyOf targetPortOrder rc downstreamSvcAccount meshSvc with
      | none => exact h
      | some out' =>
        rw [GoMap.lookup_appendAt]
        exact List.mem_append_left _ h

/-- Every upstream service of the downstream that is not TCP has its policy in the slice of
    its port. -/
theorem mem_getOutboundHTTPRouteConfigsPerPort {downstreamIdentity : ServiceIdentity}
    {downstreamSvcAccount : K8sServiceAccount}
    (hsa : downstreamIdentity.ToK8sServiceAccount = .ok downstreamSvcAccount)
    {services : List MeshService} (hsvc : cat.ListOutboundServicesForIdentity downstreamIdentity = .ok services)
    {meshSvc : MeshService} (hmem : meshSvc ∈ services)
    (htcp : ¬(meshSvc.Protocol = ProtocolTCP ∨ meshSvc.Protocol = ProtocolTCPServerFirst)) :
    ∃ routeConfigPerPort out,
      cat.getOutboundHTTPRouteConfigsPerPort targetPortOrder rc downstreamIdentity = .ok routeConfigPerPort ∧
      cat.outboundTrafficPolicyOf targetPortOrder rc downstreamSvcAccount meshSvc = some out ∧
      out ∈ (routeConfigPerPort.lookup (meshSvc.Port.toNat : Int)).getD [] := by
  obtain ⟨pre, post, rfl⟩ := List.append_of_mem hmem
  obtain ⟨out, hout⟩ : ∃ out, cat.outboundTrafficPolicyOf targetPortOrder rc downstreamSvcAccount meshSvc = some out :=
    ⟨_, cat.outboundTrafficPolicyOf_Routes targetPortOrder rc downstreamSvcAccount meshSvc⟩
  refine ⟨_, out, by simp only [getOutboundHTTPRouteConfigsPerPort, hsa, hsvc]; rfl, hout, ?_⟩
  beta_reduce
  rw [List.foldl_append, List.foldl_cons]
  apply foldl_addServiceRouteConfig_mono
  -- the service's own step appends its policy to the slice of its port
  set m := pre.foldl (cat.addServiceRouteConfig targetPortOrder rc downstreamSvcAccount) ∅
  have hstep : cat.addServiceRouteConfig targetPortOrder rc downstreamSvcAccount m meshSvc =
      GoMap.appendAt m (meshSvc.Port.toNat : Int) [out] := by
    unfold addServiceRouteConfig
    rw [if_neg htcp, hout]
  rw [hstep, GoMap.lookup_appendAt]
  simp

/-- Every HTTP route configuration of the outbound mesh traffic policy has distinct route
    matches and a route with the path `.*`, on every port. -/
theorem outbound_route_configs_well_formed (downstreamIdentity : ServiceIdentity)
    (routeConfigPerPort : AList fun _ : Int => List OutboundTrafficPolicy)
    (h : cat.getOutboundHTTPRouteConfigsPerPort targetPortOrder rc downstreamIdentity = .ok routeConfigPerPort)
    (port : Int) (configs : List OutboundTrafficPolicy) (hport : routeConfigPerPort.lookup port = some configs) :
    ∀ config ∈ configs, config.WellFormed := by
  unfold getOutboundHTTPRouteConfigsPerPort at h
  cases hsa : downstreamIdentity.ToK8sServiceAccount with
  | error e => rw [hsa] at h; cases h
  | ok downstreamSvcAccount =>
    rw [hsa] at h
    cases hsvc : cat.ListOutboundServicesForIdentity downstreamIdentity with
    | error e => rw [hsvc] at h; cases h
    | ok services =>
      rw [hsvc] at h
      cases h
      exact cat.foldl_addServiceRouteConfig_wellFormed targetPortOrder rc downstreamSvcAccount services ∅
        (fun _ _ hnone => by simp at hnone) port configs hport

end OutboundCatalog

/-! ## A service with a TrafficSplit with route matches and one without -/

/-- The HTTPRouteGroup `demo/bookstore-routes`, with the match `GET /books`. -/
def bookstoreRoutes : HTTPRouteGroup :=
  { Namespace := "demo", Name := "bookstore-routes"
    Matches := some [{ Name := "books", Methods := ["GET"], PathRegex := "/books", Headers := ∅ }] }

/-- A TrafficSplit of `bookstore` that routes the group's matches to `bookstore-v1`. -/
def booksSplit : TrafficSplit :=
  { Namespace := "demo", Name := "bookstore-books"
    Spec := { Service := "bookstore"
              Matches := [{ APIGroup := some "specs.smi-spec.io", Kind := "HTTPRouteGroup",
                            Name := "bookstore-routes" }]
              Backends := [{ Service := "bookstore-v1", Weight := 100 }] } }

/-- A TrafficSplit of `bookstore` without matches, to `bookstore-v2`. -/
def canarySplit : TrafficSplit :=
  { Namespace := "demo", Name := "bookstore-canary"
    Spec := { Service := "bookstore", Matches := []
              Backends := [{ Service := "bookstore-v2", Weight := 100 }] } }

/-- The permissive mesh of `bookstoreCatalog` with the group and the two splits. -/
def booksCatalog : OutboundCatalog :=
  { bookstoreCatalog with
    meshSpec := { trafficTargets := [], httpRouteGroups := [bookstoreRoutes], tcpRoutes := []
                  IsMonitoredNamespace := fun _ => true
                  trafficTargets_keys := List.nodup_nil, httpRouteGroups_keys := List.nodup_singleton _
                  tcpRoutes_keys := List.nodup_nil }
    trafficSplits := [booksSplit, canarySplit] }

/-- The trust domain `cluster.local`, retry policies off. -/
def booksRouteCatalog : RouteCatalog :=
  { trustDomain := "cluster.local", EnableRetryPolicy := false, retries := [] }

/-- The HTTP route configurations of `bookbuyer.demo` in that mesh. -/
def booksRouteConfigs : AList fun _ : Int => List OutboundTrafficPolicy :=
  match booksCatalog.getOutboundHTTPRouteConfigsPerPort ascendingTargetPorts booksRouteCatalog "bookbuyer.demo" with
  | .ok routeConfigPerPort => routeConfigPerPort
  | .error _ => ∅

/-- The policy of `bookstore` on port 8080 routes `/books` to `bookstore-v1`, then has the
    wildcard route to `bookstore-v2`, and is well formed. -/
theorem outbound_route_configs_well_formed_books :
    booksCatalog.getOutboundHTTPRouteConfigsPerPort ascendingTargetPorts booksRouteCatalog "bookbuyer.demo" =
        .ok booksRouteConfigs ∧
      ((booksRouteConfigs.lookup 8080).getD []).map (fun p => p.Routes.map fun r => (r.HTTPRouteMatch.Path, r.WeightedClusters)) =
        [[("/books", {⟨"demo/bookstore-v1|8080", 100⟩}), (".*", {⟨"demo/bookstore-v2|8080", 100⟩})]] ∧
      ∀ config ∈ (booksRouteConfigs.lookup 8080).getD [], config.WellFormed := by
  have h : booksCatalog.getOutboundHTTPRouteConfigsPerPort ascendingTargetPorts booksRouteCatalog "bookbuyer.demo" =
      .ok booksRouteConfigs := rfl
  obtain ⟨configs, hport⟩ : ∃ configs, booksRouteConfigs.lookup 8080 = some configs :=
    Option.isSome_iff_exists.mp (by decide)
  refine ⟨h, by decide, ?_⟩
  rw [hport, Option.getD_some]
  exact booksCatalog.outbound_route_configs_well_formed ascendingTargetPorts booksRouteCatalog "bookbuyer.demo"
    booksRouteConfigs h 8080 configs hport

end OsmEdge.Catalog
