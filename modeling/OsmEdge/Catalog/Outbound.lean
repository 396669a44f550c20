import OsmEdge.Catalog.Egress
import Mathlib.Tactic.Ring
import Mathlib.Tactic.Linarith

/-
  The outbound mesh traffic policy of a downstream identity
  (`pkg/catalog/outbound_traffic_policies.go`), in the parts the listener builder reads: a
  traffic match for every upstream service and every route match of it, and a cluster per
  upstream service.

  A service that is the apex of TrafficSplits gets one route match per split, whose upstream
  clusters are the split's backends; a service with none gets one route match to its own
  cluster. Every route match of a service gives a traffic match with the same name, port,
  protocol and destination ranges; only the weighted clusters tell them apart.

  A backend's weight is shared among its active clusters by `activeUpstreamClusters`: each
  takes what is left divided by the number of clusters still to take a share, in Go's
  truncating division. The shares are the names in order and sum to the weight
  (`activeUpstreamClusters_spec`); for a weight that is not negative they are the floor of
  the quotient, then its ceiling, that many times as the remainder says
  (`shares_eq_replicate`).

  Left out: the HTTP route configurations per port and the set of DNS-resolvable services,
  which only the route and DNS builders read; the health-check flag and the upstream traffic
  setting of a cluster; an endpoint is its IP address as text.
-/

namespace OsmEdge.Catalog

open OsmEdge.Identity OsmEdge.Trafficpolicy OsmEdge.Service OsmEdge.Constants GoText

/-! ## TrafficSplits -/

/-- `split.TrafficSplitBackend`. -/
structure TrafficSplitBackend where
  Service : String
  Weight : Int
  deriving DecidableEq, Repr

/-- `split.TrafficSplitSpec`; a match names an HTTPRouteGroup. -/
structure TrafficSplitSpec where
  Service : String
  Backends : List TrafficSplitBackend
  Matches : List TypedLocalObjectReference
  deriving DecidableEq, Repr

/-- `split.TrafficSplit`. -/
structure TrafficSplit where
  Namespace : String
  Name : String
  Spec : TrafficSplitSpec
  deriving DecidableEq, Repr

/-- `HTTPRouteMatchWithWeightedClusters`. -/
structure HTTPRouteMatchWithWeightedClusters where
  UpstreamClusters : List WeightedCluster
  RouteMatches : List HTTPRouteMatch
  HasSplitMatches : Bool

/-- `OutboundMeshTrafficPolicy`, in the fields the listener builder reads. -/
structure OutboundMeshTrafficPolicy where
  TrafficMatches : List TrafficMatch
  ClustersConfigs : List MeshClusterConfig

/-- What the outbound builder reads of the MeshConfig, of the SMI client, of the Kubernetes
    controller (its services, namespaces and service ports), of the endpoint providers and of
    the multicluster controller. A target-port lookup takes the service's namespace, name and
    port. -/
structure OutboundCatalog where
  IsPermissiveTrafficPolicyMode : Bool
  meshSpec : MeshSpec
  trafficSplits : List TrafficSplit
  listMeshServices : List MeshService
  getServicesForServiceIdentity : ServiceIdentity → List MeshService
  GetNamespace : String → Bool
  getDNSResolvableServiceEndpoints : MeshService → List String
  GetTargetPortForServicePort : String → String → UInt16 → Option UInt16
  multiclusterTargetPorts : String → String → UInt16 → AList fun _ : UInt16 => Bool
  GetLbWeightForService : MeshService → Bool × Bool × Int

/-! ## Weighted clusters -/

/-- `activeUpstreamClusters`: the backend's weight shared among the active clusters, appended
    to the upstream clusters. -/
def activeUpstreamClusters (aas : List String) (backend : TrafficSplitBackend)
    (upstreamClusters : List WeightedCluster) : List WeightedCluster :=
  upstreamClusters ++ shares aas backend.Weight
where
  /-- The loop: each cluster takes what is left divided by the number of clusters still to
      take a share, `len(aas) - index`. -/
  shares : List String → Int → List WeightedCluster
    | [], _ => []
    | cn :: rest, totalWeight =>
      let weight := totalWeight.tdiv (rest.length + 1)
      { ClusterName := cn, Weight := weight } :: shares rest (totalWeight - weight)

namespace activeUpstreamClusters

@[simp] theorem shares_nil (totalWeight : Int) : shares [] totalWeight = [] := rfl

@[simp] theorem shares_cons (cn : String) (rest : List String) (totalWeight : Int) :
    shares (cn :: rest) totalWeight =
      { ClusterName := cn, Weight := totalWeight.tdiv (rest.length + 1) } ::
        shares rest (totalWeight - totalWeight.tdiv (rest.length + 1)) := rfl

/-- The shares carry the names, in order. -/
theorem names_shares : ∀ (aas : List String) (totalWeight : Int),
    (shares aas totalWeight).map (·.ClusterName) = aas
  | [], _ => rfl
  | cn :: rest, totalWeight => by
    simp [names_shares rest]

/-- The shares of a non-empty list add up to the weight, whatever its sign: the last
    cluster takes all that is left. -/
theorem sum_shares : ∀ (aas : List String) (totalWeight : Int), aas ≠ [] →
    ((shares aas totalWeight).map (·.Weight)).sum = totalWeight
  | [], _, h => absurd rfl h
  | [cn], totalWeight, _ => by simp
  | cn :: cn' :: rest, totalWeight, _ => by
    -- the rest of the clusters share exactly what this one leaves
    have ih := sum_shares (cn' :: rest)
      (totalWeight - totalWeight.tdiv ((cn' :: rest).length + 1)) (List.cons_ne_nil _ _)
    rw [shares_cons, List.map_cons, List.sum_cons, ih]
    dsimp only
    omega

/-- The share of a cluster when `q` per cluster and `s` more are left for `n + 1` clusters. -/
theorem tdiv_share (q : Int) (n s : Nat) (hq : 0 ≤ q) (hs : s ≤ n + 1) :
    (q * (n + 1 : Nat) + s).tdiv (n + 1) = if s = n + 1 then q + 1 else q := by
  have hk : (0 : Int) < n + 1 := by omega
  rw [Int.tdiv_eq_ediv_of_nonneg (by have := Int.mul_nonneg hq (Int.natCast_nonneg (n + 1)); omega)]
  split_ifs with h
  · subst h
    rw [show q * ((n + 1 : Nat) : Int) + ((n + 1 : Nat) : Int) = (q + 1) * (n + 1) by push_cast; ring]
    exact Int.mul_ediv_cancel _ hk.ne'
  · rw [show q * ((n + 1 : Nat) : Int) + (s : Int) = s + q * (n + 1) by push_cast; ring,
      Int.add_mul_ediv_right _ _ hk.ne', Int.ediv_eq_zero_of_lt (by omega) (by omega)]
    simp

/-- With `q` per cluster and `s` more left over, the shares are `q` for the first clusters and
    `q + 1` for the last `s`: each takes the floor until the remainder covers every cluster
    still to come. -/
theorem shares_eq_replicate : ∀ (aas : List String) (q : Int) (s : Nat), 0 ≤ q → s ≤ aas.length →
    (shares aas (q * aas.length + s)).map (·.Weight) =
      List.replicate (aas.length - s) q ++ List.replicate s (q + 1)
  | [], q, s, _, hs => by
    obtain rfl : s = 0 := by simpa using hs
    rfl
  | cn :: rest, q, s, hq, hs => by
    rw [List.length_cons] at hs ⊢
    simp only [shares_cons, List.map_cons]
    rw [tdiv_share q rest.length s hq hs]
    split_ifs with h
    · -- the remainder covers every cluster left: all take the ceiling
      subst h
      have hrest : q * (rest.length + 1 : Nat) + (rest.length + 1 : Nat) - (q + 1) =
          q * rest.length + rest.length := by push_cast; ring
      rw [hrest, shares_eq_replicate rest q rest.length hq le_rfl]
      simp [List.replicate_succ]
    · -- this cluster takes the floor, the remainder waits for the later ones
      have hrest : q * (rest.length + 1 : Nat) + s - q = q * rest.length + s := by push_cast; ring
      rw [hrest, shares_eq_replicate rest q s hq (by omega)]
      rw [show rest.length + 1 - s = (rest.length - s) + 1 by omega, List.replicate_succ]
      rfl

/-- For a weight that is not negative, every share is the floor or the ceiling of the weight
    over the number of clusters, and the shares never decrease. -/
theorem shares_balanced (aas : List String) (weight : Int) (haas : aas ≠ []) (hw : 0 ≤ weight) :
    (∀ c ∈ shares aas weight,
      c.Weight = weight / aas.length ∨ c.Weight = (weight + aas.length - 1) / aas.length) ∧
    ((shares aas weight).map (·.Weight)).Pairwise (· ≤ ·) := by
  have hn : (0 : Int) < aas.length := by have := List.length_pos_of_ne_nil haas; omega
  -- the weight is `q` per cluster and `s` more
  set q := weight / aas.length with hqdef
  set s := (weight % aas.length).toNat with hsdef
  have hq : 0 ≤ q := Int.ediv_nonneg hw hn.le
  have hs : (s : Int) = weight % aas.length := Int.toNat_of_nonneg (Int.emod_nonneg _ hn.ne')
  have hslt : (s : Int) < aas.length := hs ▸ Int.emod_lt_of_pos weight hn
  have hweight : weight = q * aas.length + s := by
    rw [hs, mul_comm]; exact (Int.mul_ediv_add_emod weight aas.length).symm
  have hmap := shares_eq_replicate aas q s hq (by omega)
  rw [← hweight] at hmap
  -- with a remainder, the ceiling is one more than the floor
  have hceil : 0 < s → (weight + aas.length - 1) / aas.length = q + 1 := by
    intro hs0
    have hsum : ((s : Int) - 1) + aas.length * (q + 1) = weight + aas.length - 1 := by
      rw [hweight]; ring
    exact ((Int.ediv_emod_unique hn).mpr ⟨hsum, by omega, by omega⟩).1
  constructor
  · intro c hc
    have hmem : c.Weight ∈ (shares aas weight).map (·.Weight) := List.mem_map_of_mem hc
    rw [hmap, List.mem_append, List.mem_replicate, List.mem_replicate] at hmem
    rcases hmem with ⟨-, h⟩ | ⟨hs0, h⟩
    · exact .inl h
    · exact .inr (by rw [h, hceil (by omega)])
  · rw [hmap, List.pairwise_append, List.pairwise_replicate, List.pairwise_replicate]
    refine ⟨.inr le_rfl, .inr le_rfl, ?_⟩
    intro a ha b hb
    rw [(List.mem_replicate.mp ha).2, (List.mem_replicate.mp hb).2]
    omega

end activeUpstreamClusters

/-- `failOverUpstreamClusters`: the fail-over clusters, with weight `ClusterWeightFailOver`. -/
def failOverUpstreamClusters (fos : List String) (upstreamClusters : List WeightedCluster) :
    List WeightedCluster :=
  upstreamClusters ++ fos.map fun cn => { ClusterName := cn, Weight := ClusterWeightFailOver }

namespace OutboundCatalog

variable (cat : OutboundCatalog) (targetPortOrder : GoSet.Enumerator UInt16)

/-- `mergeUpstreamClusters`: the service's own cluster, with the weight of the multicluster
    controller for an imported service. -/
def mergeUpstreamClusters (meshSvc : MeshService) (upstreamClusters : List WeightedCluster) :
    List WeightedCluster :=
  let weight :=
    if meshSvc.IsMultiClusterService then
      let (aa, fo, weight) := cat.GetLbWeightForService meshSvc
      if aa ∧ weight > 0 then weight else if fo then ClusterWeightFailOver else ClusterWeightAcceptAll
    else ClusterWeightAcceptAll
  upstreamClusters ++ [{ ClusterName := meshSvc.SidecarClusterName, Weight := weight }]

/-- The cluster of a split backend with a target port; backends are services of the apex's
    namespace. -/
def backendClusterName (meshSvc : MeshService) (backend : TrafficSplitBackend) (targetPort : UInt16) :
    String :=
  ({ Namespace := meshSvc.Namespace, Name := backend.Service, Port := meshSvc.Port,
     TargetPort := targetPort, Protocol := "" } : MeshService).SidecarClusterName

/-- The backend's cluster in this cluster, when the service has the apex's port. -/
def localClusters (meshSvc : MeshService) (backend : TrafficSplitBackend) : List String :=
  (cat.GetTargetPortForServicePort meshSvc.Namespace backend.Service meshSvc.Port).toList.map
    (backendClusterName meshSvc backend)

/-- The backend's clusters in other clusters that are not the local one, in the order the
    runtime ranges over the multicluster controller's map, each active or not. -/
def remoteClusters (meshSvc : MeshService) (backend : TrafficSplitBackend) : List (String × Bool) :=
  ((GoMap.range targetPortOrder
      (cat.multiclusterTargetPorts meshSvc.Namespace backend.Service meshSvc.Port)).map
    fun (targetPort, aa) => (backendClusterName meshSvc backend targetPort, aa)).filter
    fun (cn, _) => cn ∉ cat.localClusters meshSvc backend

/-- The active clusters of a backend, `aas`: the local one first. -/
def activeClusterNames (meshSvc : MeshService) (backend : TrafficSplitBackend) : List String :=
  cat.localClusters meshSvc backend ++
    ((cat.remoteClusters targetPortOrder meshSvc backend).filter (·.2)).map (·.1)

/-- The fail-over clusters of a backend, `fos`. -/
def failOverClusterNames (meshSvc : MeshService) (backend : TrafficSplitBackend) : List String :=
  ((cat.remoteClusters targetPortOrder meshSvc backend).filter (!·.2)).map (·.1)

/-- `mergeSplitUpstreamClusters`. -/
def mergeSplitUpstreamClusters (meshSvc : MeshService) (backend : TrafficSplitBackend)
    (upstreamClusters : List WeightedCluster) : List WeightedCluster :=
  failOverUpstreamClusters (cat.failOverClusterNames targetPortOrder meshSvc backend)
    (activeUpstreamClusters (cat.activeClusterNames targetPortOrder meshSvc backend) backend
      upstreamClusters)

/-! ## Upstream services and their route matches -/

/-- `ListTrafficSplits(WithTrafficSplitApexService(apexService))`: the splits of monitored
    namespaces whose apex, decoded from its hostname, is the service. -/
def ListTrafficSplits (apexService : MeshService) : List TrafficSplit :=
  cat.trafficSplits.filter fun trafficSplit =>
    cat.meshSpec.IsMonitoredNamespace trafficSplit.Namespace &&
      !(apexService.Name ≠ "" &&
        (apexService.Namespace ≠ trafficSplit.Namespace ||
          apexService.Name ≠ GetServiceFromHostname (some cat.GetNamespace) trafficSplit.Spec.Service))

/-- `getSplitRouteMatches`: the matches of every HTTPRouteGroup the split names. -/
def getSplitRouteMatches (split : TrafficSplit) : List HTTPRouteMatch :=
  cat.meshSpec.ListHTTPTrafficSpecs.flatMap fun trafficSpecs =>
    if trafficSpecs.Matches.isNone then []
    else if split.Spec.Matches.any (·.Name = trafficSpecs.Name) then
      getHTTPRouteMatchesFromHTTPRouteGroup trafficSpecs
    else []

/-- `ListOutboundServicesForIdentity`: every service in permissive mode; else the services of
    the destinations of the TrafficTargets that list the identity as a source, each once. -/
def ListOutboundServicesForIdentity (serviceIdentity : ServiceIdentity) :
    Except String (List MeshService) :=
  if cat.IsPermissiveTrafficPolicyMode then .ok cat.listMeshServices
  else
    match serviceIdentity.ToK8sServiceAccount with
    | .error e => .error e
    | .ok svcAccount =>
      .ok (GoSet.collectNew (cat.meshSpec.ListTrafficTargets.flatMap fun t =>
        if t.Spec.Sources.any (fun source =>
            source.Name = svcAccount.Name ∧ source.Namespace = svcAccount.Namespace) then
          cat.getServicesForServiceIdentity
            (K8sServiceAccount.ToServiceIdentity
              { Name := t.Spec.Destination.Name, Namespace := t.Spec.Destination.Namespace })
        else []))

/-- The route matches of an upstream service: one per TrafficSplit it is the apex of, to the
    split's backends; one to its own cluster when there is none. -/
def routeMatchesOf (meshSvc : MeshService) : List HTTPRouteMatchWithWeightedClusters :=
  let trafficSplits := cat.ListTrafficSplits meshSvc
  if trafficSplits.length > 0 then
    trafficSplits.map fun split =>
      { HasSplitMatches := split.Spec.Matches.length > 0
        RouteMatches := if split.Spec.Matches.length > 0 then cat.getSplitRouteMatches split else []
        UpstreamClusters := split.Spec.Backends.foldl
          (fun upstreamClusters backend =>
            cat.mergeSplitUpstreamClusters targetPortOrder meshSvc backend upstreamClusters) [] }
  else [{ UpstreamClusters := cat.mergeUpstreamClusters meshSvc [], RouteMatches := []
          HasSplitMatches := false }]

/-- The destination ranges of an upstream service: its endpoints as `/32` ranges, each once. -/
def destinationIPRangesOf (meshSvc : MeshService) : List String :=
  GoSet.collectNew ((cat.getDNSResolvableServiceEndpoints meshSvc).map (· ++ "/32"))

/-- The traffic match of an upstream service for one of its route matches. -/
def trafficMatchFor (meshSvc : MeshService) (routeMatch : HTTPRouteMatchWithWeightedClusters) :
    TrafficMatch :=
  { Name := meshSvc.OutboundTrafficMatchName
    DestinationPort := meshSvc.Port.toNat
    DestinationProtocol := meshSvc.Protocol
    DestinationIPRanges := cat.destinationIPRangesOf meshSvc
    WeightedClusters := routeMatch.UpstreamClusters }

/-- The traffic matches of an upstream service, one per route match. -/
def trafficMatchesOf (meshSvc : MeshService) : List TrafficMatch :=
  (cat.routeMatchesOf targetPortOrder meshSvc).map (cat.trafficMatchFor meshSvc)

/-- `GetOutboundMeshTrafficPolicy`, in its traffic matches and clusters; a panic for an
    identity without a dot. -/
def GetOutboundMeshTrafficPolicy (downstreamIdentity : ServiceIdentity) :
    Except String OutboundMeshTrafficPolicy :=
  match downstreamIdentity.ToK8sServiceAccount with
  | .error e => .error e
  | .ok _ =>
    (cat.ListOutboundServicesForIdentity downstreamIdentity).map fun services =>
      { TrafficMatches := services.flatMap (cat.trafficMatchesOf targetPortOrder)
        ClustersConfigs := services.map fun meshSvc =>
          { Name := meshSvc.SidecarClusterName, Service := meshSvc, Address := "", Port := 0 } }

/-- What `mergeSplitUpstreamClusters` appends: the backend's weight shared among its active
    clusters, then its fail-over clusters. -/
theorem mergeSplitUpstreamClusters_eq (meshSvc : MeshService) (backend : TrafficSplitBackend)
    (upstreamClusters : List WeightedCluster) :
    cat.mergeSplitUpstreamClusters targetPortOrder meshSvc backend upstreamClusters =
      upstreamClusters ++
        activeUpstreamClusters.shares (cat.activeClusterNames targetPortOrder meshSvc backend) backend.Weight ++
        (cat.failOverClusterNames targetPortOrder meshSvc backend).map fun cn =>
          { ClusterName := cn, Weight := ClusterWeightFailOver } := rfl

end OutboundCatalog

open activeUpstreamClusters in
/-- A split backend's weight is shared exactly among its active clusters: the shares carry
    their names in order and sum to the weight, and for a weight that is not negative each is
    the floor or the ceiling of the quotient, never decreasing. So `mergeSplitUpstreamClusters`
    appends clusters of total weight the backend's, followed by fail-over clusters, when it
    finds an active cluster for the backend; when it finds none the weight is dropped. -/
theorem split_backend_weight_shared :
    (∀ (aas : List String) (backend : TrafficSplitBackend) (upstreamClusters : List WeightedCluster),
      aas ≠ [] →
      ∃ ws, activeUpstreamClusters aas backend upstreamClusters = upstreamClusters ++ ws ∧
        ws.map (·.ClusterName) = aas ∧ (ws.map (·.Weight)).sum = backend.Weight ∧
        (0 ≤ backend.Weight →
          (∀ c ∈ ws, c.Weight = backend.Weight / aas.length ∨
            c.Weight = (backend.Weight + aas.length - 1) / aas.length) ∧
          (ws.map (·.Weight)).Pairwise (· ≤ ·))) ∧
    (∀ (cat : OutboundCatalog) (targetPortOrder : GoSet.Enumerator UInt16) (meshSvc : MeshService)
        (backend : TrafficSplitBackend) (upstreamClusters : List WeightedCluster),
      ∃ ws fs, cat.mergeSplitUpstreamClusters targetPortOrder meshSvc backend upstreamClusters =
          upstreamClusters ++ ws ++ fs ∧
        ws.map (·.ClusterName) = cat.activeClusterNames targetPortOrder meshSvc backend ∧
        (ws.map (·.Weight)).sum =
          (if cat.activeClusterNames targetPortOrder meshSvc backend = [] then 0 else backend.Weight) ∧
        ∀ f ∈ fs, f.Weight = ClusterWeightFailOver) := by
  refine ⟨fun aas backend upstreamClusters haas => ?_, fun cat targetPortOrder meshSvc backend upstreamClusters => ?_⟩
  · exact ⟨shares aas backend.Weight, rfl, names_shares aas _, sum_shares aas _ haas,
      shares_balanced aas _ haas⟩
  · refine ⟨_, _, cat.mergeSplitUpstreamClusters_eq targetPortOrder meshSvc backend upstreamClusters,
      names_shares _ _, ?_, by simp⟩
    -- no active cluster leaves no share; otherwise the shares make up the weight
    split_ifs with h
    · rw [h]; rfl
    · exact sum_shares _ _ h

/-- A weight of 100 over three clusters is shared as 33, 33 and 34. -/
theorem split_backend_weight_shared_three :
    ∃ ws, activeUpstreamClusters ["demo/bookstore-v1|8080", "demo/bookstore-v2|8080", "demo/bookstore-v3|8080"]
        { Service := "bookstore", Weight := 100 } [] = [] ++ ws ∧
      ws.map (·.ClusterName) = ["demo/bookstore-v1|8080", "demo/bookstore-v2|8080", "demo/bookstore-v3|8080"] ∧
      (ws.map (·.Weight)).sum = 100 ∧
      (0 ≤ (100 : Int) →
        (∀ c ∈ ws, c.Weight = 100 / 3 ∨ c.Weight = (100 + 3 - 1) / 3) ∧
        (ws.map (·.Weight)).Pairwise (· ≤ ·)) :=
  split_backend_weight_shared.1 _ _ _ (by decide)

/-! ## A mesh with two TrafficSplits for one service -/

/-- The HTTP service `demo/bookstore` on port 8080. -/
def bookstore : MeshService :=
  { Namespace := "demo", Name := "bookstore", Port := 8080, TargetPort := 8080, Protocol := "http" }

/-- A TrafficSplit of `bookstore` between `bookstore-v1` and `bookstore-v2`. -/
def bookstoreSplit (name : String) : TrafficSplit :=
  { Namespace := "demo", Name := name
    Spec := { Service := "bookstore", Matches := []
              Backends := [{ Service := "bookstore-v1", Weight := 50 },
                           { Service := "bookstore-v2", Weight := 50 }] } }

/-- A permissive mesh with the service at `10.0.0.5`, two TrafficSplits of it, and the
    backends `bookstore-v1` and `bookstore-v2` on port 8080; `bookstore-v3` does not exist. -/
def bookstoreCatalog : OutboundCatalog :=
  { IsPermissiveTrafficPolicyMode := true
    meshSpec := { trafficTargets := [], httpRouteGroups := [], tcpRoutes := []
                  IsMonitoredNamespace := fun _ => true
                  trafficTargets_keys := List.nodup_nil, httpRouteGroups_keys := List.nodup_nil
                  tcpRoutes_keys := List.nodup_nil }
    trafficSplits := [bookstoreSplit "bookstore-split", bookstoreSplit "bookstore-canary"]
    listMeshServices := [bookstore], getServicesForServiceIdentity := fun _ => []
    GetNamespace := fun ns => ns = "demo"
    getDNSResolvableServiceEndpoints := fun _ => ["10.0.0.5"]
    GetTargetPortForServicePort := fun ns name _ =>
      if ns = "demo" ∧ (name = "bookstore-v1" ∨ name = "bookstore-v2") then some 8080 else none
    multiclusterTargetPorts := fun _ _ _ => ∅
    GetLbWeightForService := fun _ => (false, false, 0) }

/-- Target ports ranged over in ascending order. -/
def ascendingTargetPorts : GoSet.Enumerator UInt16 :=
  GoSet.Enumerator.sortedBy UInt16.toNat fun _ _ h => UInt16.toNat_inj.mp h

/-- A backend of weight 50 with no cluster, `bookstore-v3`, contributes total weight 0. -/
theorem split_backend_weight_dropped :
    (bookstoreCatalog.mergeSplitUpstreamClusters ascendingTargetPorts bookstore
      { Service := "bookstore-v3", Weight := 50 } []).map (·.Weight) = [] := by
  decide

end OsmEdge.Catalog
