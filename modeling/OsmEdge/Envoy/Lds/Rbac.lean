import OsmEdge.Catalog.Inbound
import OsmEdge.Rbac.Policy
import OsmEdge.Lib.GoMap

/-
  The network RBAC filter of the inbound listener (`pkg/sidecar/providers/envoy/lds/rbac.go`):
  one `ALLOW` policy per TrafficTarget for the proxy's identity, named after it, with its
  sources as principals and the ports of its TCPRoutes as permissions.

  The policies map is filled by a loop keyed by the TrafficTarget's `<namespace>/<name>`;
  those keys are the informer cache's, hence distinct, so every listed TrafficTarget keeps
  its policy (`buildInboundRBACPolicies_allows`).
-/

namespace OsmEdge.Lds

open OsmEdge.Xds OsmEdge.Rbac OsmEdge.Trafficpolicy OsmEdge.Catalog OsmEdge.Identity

/-- `buildRBACPolicyFromTrafficTarget`. -/
def buildRBACPolicyFromTrafficTarget (trafficTarget : TrafficTargetWithRoutes)
    (trustDomain : String) : Policy :=
  let pb := trafficTarget.Sources.foldl (fun pb downstreamIdentity =>
    pb.AddPrincipal (ServiceIdentity.AsPrincipal downstreamIdentity trustDomain)) {}
  let pb := trafficTarget.TCPRouteMatches.foldl (fun pb tcpRouteMatch =>
    tcpRouteMatch.Ports.foldl PolicyBuilder.AddAllowedDestinationPort pb) pb
  pb.Build

/-- `buildInboundRBACPolicies`: the `ALLOW` filter over the policies of the TrafficTargets
    for the identity (the stat prefix is left out). -/
def buildInboundRBACPolicies (ms : MeshSpec) (IsPermissiveTrafficPolicyMode : Bool)
    (serviceIdentity : ServiceIdentity) (trustDomain : String) : RBAC :=
  let trafficTargets := ListInboundTrafficTargetsWithRoutes ms IsPermissiveTrafficPolicyMode
    serviceIdentity
  { action := .ALLOW
    policies := trafficTargets.foldl (fun rbacPolicies targetPolicy =>
      rbacPolicies.insert targetPolicy.Name (buildRBACPolicyFromTrafficTarget targetPolicy trustDomain)) ∅ }

/-- All ports of a TrafficTarget's TCP routes. -/
def allowedPorts (trafficTarget : TrafficTargetWithRoutes) : List UInt16 :=
  trafficTarget.TCPRouteMatches.flatMap (·.Ports)

/-- The nested port loop adds the ports of every TCP route match in order. -/
theorem foldl_tcpRouteMatches (ms : List TCPRouteMatch) (pb : PolicyBuilder) :
    ms.foldl (fun pb tcpRouteMatch => tcpRouteMatch.Ports.foldl PolicyBuilder.AddAllowedDestinationPort pb) pb =
      (ms.flatMap (·.Ports)).foldl PolicyBuilder.AddAllowedDestinationPort pb := by
  induction ms generalizing pb with
  | nil => rfl
  | cons m ms ih => rw [List.foldl_cons, ih, List.flatMap_cons, List.foldl_append]

/-- What the policy of one TrafficTarget matches. -/
theorem buildRBACPolicyFromTrafficTarget_matches (trafficTarget : TrafficTargetWithRoutes)
    (trustDomain : String) (d : Downstream) :
    (buildRBACPolicyFromTrafficTarget trafficTarget trustDomain).matches d = true ↔
      (trafficTarget.Sources = [] ∨
        (∃ s ∈ trafficTarget.Sources, ServiceIdentity.AsPrincipal s trustDomain = WildcardPrincipal) ∨
        ∃ s ∈ trafficTarget.Sources, d.principal = some (ServiceIdentity.AsPrincipal s trustDomain)) ∧
      (allowedPorts trafficTarget = [] ∨
        ∃ q ∈ allowedPorts trafficTarget, q.toNat = d.destinationPort) := by
  have h := PolicyBuilder.Build_addPrincipals_matches
    (trafficTarget.Sources.map (ServiceIdentity.AsPrincipal · trustDomain))
    (allowedPorts trafficTarget) d
  rw [List.foldl_map] at h
  simp only [List.map_eq_nil_iff, List.mem_map, exists_exists_and_eq_and] at h
  rw [← h, buildRBACPolicyFromTrafficTarget, foldl_tcpRouteMatches]
  rfl

/-! ## The policies of the listed TrafficTargets -/

/-- The names of the listed TrafficTargets are their cache keys, hence distinct. -/
theorem ListInboundTrafficTargetsWithRoutes_names_nodup (ms : MeshSpec) (permissive : Bool)
    (upstream : ServiceIdentity) :
    ((ListInboundTrafficTargetsWithRoutes ms permissive upstream).map (·.Name)).Nodup := by
  unfold ListInboundTrafficTargetsWithRoutes
  split
  · exact List.nodup_nil
  · -- the names are the keys of a sublist of the cache
    have hsub : ∀ xs : List TrafficTarget,
        ((xs.filterMap (inboundTrafficTargetWithRoutes ms upstream)).map (·.Name)).Sublist
          (xs.map fun t => namespacedKey t.Namespace t.Name) := by
      intro xs
      induction xs with
      | nil => exact List.Sublist.slnil
      | cons t ts ih =>
        rw [List.filterMap_cons, List.map_cons]
        cases hf : inboundTrafficTargetWithRoutes ms upstream t with
        | none => exact ih.cons _
        | some tt =>
          have hname : tt.Name = namespacedKey t.Namespace t.Name := by
            unfold inboundTrafficTargetWithRoutes at hf
            split at hf
            · cases hf
            · split at hf
              · cases hf
              · cases hf; rfl
          rw [List.map_cons, hname]
          exact ih.cons_cons _
    have hlist : (ms.ListTrafficTargets.map fun t => namespacedKey t.Namespace t.Name).Sublist
        (ms.trafficTargets.map fun t => namespacedKey t.Namespace t.Name) :=
      List.filter_sublist.map _
    exact ((hsub _).trans hlist).nodup ms.trafficTargets_keys

/-- The network filter lets a connection through exactly when the policy of one listed
    TrafficTarget matches it. -/
theorem buildInboundRBACPolicies_allows {allows : RBAC → Downstream → Bool}
    (hallows : AllowsLaw allows) (ms : MeshSpec) (permissive : Bool)
    (serviceIdentity : ServiceIdentity) (trustDomain : String) (d : Downstream) :
    allows (buildInboundRBACPolicies ms permissive serviceIdentity trustDomain) d = true ↔
      ∃ tt ∈ ListInboundTrafficTargetsWithRoutes ms permissive serviceIdentity,
        (buildRBACPolicyFromTrafficTarget tt trustDomain).matches d = true := by
  rw [hallows _ d rfl]
  unfold buildInboundRBACPolicies
  dsimp only
  constructor
  · rintro ⟨e, he, hm⟩
    rcases GoMap.mem_entries_foldl_insert (·.Name) (buildRBACPolicyFromTrafficTarget · trustDomain)
        _ ∅ e he with he | ⟨tt, htt, rfl⟩
    · cases he
    · exact ⟨tt, htt, hm⟩
  · rintro ⟨tt, htt, hm⟩
    refine ⟨⟨tt.Name, buildRBACPolicyFromTrafficTarget tt trustDomain⟩, ?_, hm⟩
    exact GoMap.mem_entries_foldl_insert_of_nodup (·.Name)
      (buildRBACPolicyFromTrafficTarget · trustDomain) _ ∅
      (ListInboundTrafficTargetsWithRoutes_names_nodup ms permissive serviceIdentity)
      (fun _ _ h => by cases h) tt htt

end OsmEdge.Lds
