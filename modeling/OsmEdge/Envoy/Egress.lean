import OsmEdge.Catalog.Egress
import OsmEdge.Envoy.Rds.Route
import Mathlib.Data.List.Flatten

/-
  The egress route configurations of the RDS response (`BuildEgressRouteConfiguration`,
  `pkg/sidecar/providers/envoy/rds/route/route_config.go`): one route configuration
  `rds-egress.<port>` for every port of `HTTPRouteConfigsPerPort`, with a virtual host for
  every HTTP route configuration of the port, whose domains are its hostnames.

  Envoy accepts a route configuration only when no domain is in two of its virtual hosts.
  The catalog appends to a port's slice once for every listed policy and every HTTP port of
  it, with no deduplication, so two Egress policies for one source that both allow a host on
  one HTTP port give two virtual hosts with the same domains.

  Proved:
  * `egress_route_config_duplicates_domain`: for every source with the egress feature on,
    and every two entries of its listed Egress policies (two policies, or one listed twice)
    that are not skipped and both allow a host on one HTTP port, the route configuration of
    the port has two virtual hosts with the host among their domains.
-/

namespace OsmEdge.Rds

open OsmEdge.Xds OsmEdge.Catalog OsmEdge.Trafficpolicy OsmEdge.Identity OsmEdge.Constants GoSet

/-- `egressRouteConfigNamePrefix`. -/
def egressRouteConfigNamePrefix : String := "rds-egress"

/-- `egressVirtualHost`. -/
def egressVirtualHost : String := "egress_virtual-host"

/-- `GetEgressRouteConfigNameForPort`. -/
def GetEgressRouteConfigNameForPort (port : Int) : String :=
  egressRouteConfigNamePrefix ++ "." ++ toString port

section egress

variable (it : MapOrder)

/-- `buildEgressRoutes`: a route for every method of every rule. -/
def buildEgressRoutes (routingRules : List EgressHTTPRoutingRule) : List Xds.Route :=
  routingRules.flatMap fun rule =>
    (sanitizeHTTPMethods rule.Route.HTTPRouteMatch.Methods).map fun httpMethod =>
      buildRoute it rule.Route httpMethod

/-- The virtual host of one egress HTTP route configuration. -/
def egressVirtualHostOf (config : EgressHTTPRouteConfig) : VirtualHost :=
  { buildVirtualHostStub egressVirtualHost config.Name config.Hostnames with
    Routes := buildEgressRoutes it config.RoutingRules }

/-- `BuildEgressRouteConfiguration`: a route configuration for every port, in the order the
    runtime ranges over the map. -/
def BuildEgressRouteConfiguration (portOrder : Enumerator Int)
    (portSpecificRouteConfigs : AList fun _ : Int => List EgressHTTPRouteConfig) :
    List RouteConfiguration :=
  (GoMap.range portOrder portSpecificRouteConfigs).map fun (port, configs) =>
    { Name := GetEgressRouteConfigNameForPort port
      VirtualHosts := configs.map (egressVirtualHostOf it) }

/-- Every port of the map has its route configuration, with a virtual host for each of its
    route configurations in order. -/
theorem mem_BuildEgressRouteConfiguration (portOrder : Enumerator Int)
    {portSpecificRouteConfigs : AList fun _ : Int => List EgressHTTPRouteConfig} {port : Int}
    {configs : List EgressHTTPRouteConfig} (h : portSpecificRouteConfigs.lookup port = some configs) :
    { Name := GetEgressRouteConfigNameForPort port, VirtualHosts := configs.map (egressVirtualHostOf it) } ∈
      BuildEgressRouteConfiguration it portOrder portSpecificRouteConfigs :=
  List.mem_map.mpr ⟨(port, configs), (GoMap.mem_range_iff _ _ _ _).mpr h, rfl⟩

/-- The domains of a virtual host are its route configuration's hostnames. -/
@[simp] theorem Domains_egressVirtualHostOf (config : EgressHTTPRouteConfig) :
    (egressVirtualHostOf it config).Domains = config.Hostnames := rfl

end egress

/-! ## Virtual hosts that share a domain -/

section duplicates

variable (ec : EgressCatalog)

/-- A listed policy that is not skipped, lists an HTTP port with the number and allows the
    host. -/
def AllowsHTTPHost (egressPolicy : Egress) (port : Int) (host : String) : Prop :=
  (∃ upstreamTrafficSetting, ec.getUpstreamTrafficSettingForEgress egressPolicy = .ok upstreamTrafficSetting) ∧
    (∃ portSpec ∈ egressPolicy.Spec.Ports, isHTTPPortOn port portSpec) ∧ host ∈ egressPolicy.Spec.Hosts

/-- Whether a route configuration is for the host. -/
def hasHostname (host : String) (config : EgressHTTPRouteConfig) : Bool :=
  host ∈ config.Hostnames

/-- Such a policy appends a configuration for the host to the port's slice. -/
theorem countP_routeConfigsOn_pos (source : K8sServiceAccount) {port : Int} {host : String}
    {egressPolicy : Egress} (h : AllowsHTTPHost ec egressPolicy port host) :
    0 < (routeConfigsOn ec source port egressPolicy).countP (hasHostname host) := by
  obtain ⟨⟨upstreamTrafficSetting, hsetting⟩, ⟨portSpec, hmem, hhttp⟩, hhost⟩ := h
  -- the host's configuration, appended for the HTTP port
  set configs := (buildHTTPRouteConfigs ec egressPolicy port upstreamTrafficSetting
    (getEgressSourceMTLS egressPolicy source)).1
  have hconfig : ∃ config ∈ configs, host ∈ config.Hostnames := by
    have hnames := Hostnames_buildHTTPRouteConfigs ec egressPolicy port upstreamTrafficSetting
      (getEgressSourceMTLS egressPolicy source)
    have : [host, host ++ ":" ++ toString port] ∈ configs.map (·.Hostnames) := by
      rw [hnames]
      exact List.mem_map_of_mem hhost
    obtain ⟨config, hconfig, hnames'⟩ := List.mem_map.mp this
    exact ⟨config, hconfig, by simp [hnames']⟩
  obtain ⟨config, hconfig, hhostname⟩ := hconfig
  have hin : config ∈ routeConfigsOn ec source port egressPolicy := by
    simp only [routeConfigsOn, hsetting]
    exact List.mem_flatMap.mpr ⟨portSpec, List.mem_filter.mpr ⟨hmem, hhttp⟩, hconfig⟩
  exact List.countP_pos_iff.mpr ⟨config, hin, by simpa [hasHostname] using hhostname⟩

/-- Two entries of a source's listed Egress policies that both allow a host on one HTTP
    port give the port's route configuration two virtual hosts with the host among their
    domains. -/
theorem egress_route_config_duplicates_domain (dd : Dedup) (it : MapOrder) (portOrder : Enumerator Int)
    (serviceIdentity : ServiceIdentity) (source : K8sServiceAccount)
    (hsource : serviceIdentity.ToK8sServiceAccount = .ok source) (henable : ec.EnableEgressPolicy = true)
    (egressPolicy₁ egressPolicy₂ : Egress) (port : Int) (host : String)
    (hlisted : [egressPolicy₁, egressPolicy₂].Sublist (ec.ListEgressPoliciesForSourceIdentity source))
    (h₁ : AllowsHTTPHost ec egressPolicy₁ port host) (h₂ : AllowsHTTPHost ec egressPolicy₂ port host) :
    ∃ egressTrafficPolicy, GetEgressTrafficPolicy ec dd serviceIdentity = .ok (some egressTrafficPolicy) ∧
      ∃ rc ∈ BuildEgressRouteConfiguration it portOrder egressTrafficPolicy.HTTPRouteConfigsPerPort,
        rc.Name = GetEgressRouteConfigNameForPort port ∧
        2 ≤ (rc.VirtualHosts.filter fun vh => host ∈ vh.Domains).length := by
  obtain ⟨egressTrafficPolicy, hpolicy, hlookup⟩ :=
    lookup_HTTPRouteConfigsPerPort ec dd serviceIdentity source hsource henable port
  set configs := (ec.ListEgressPoliciesForSourceIdentity source).flatMap (routeConfigsOn ec source port)
  -- each of the two entries contributes a configuration for the host
  have hcount : 2 ≤ configs.countP (hasHostname host) := by
    have hsub := hlisted.flatMap (routeConfigsOn ec source port)
    calc 2 ≤ (routeConfigsOn ec source port egressPolicy₁).countP (hasHostname host) +
            (routeConfigsOn ec source port egressPolicy₂).countP (hasHostname host) := by
          have := countP_routeConfigsOn_pos ec source h₁
          have := countP_routeConfigsOn_pos ec source h₂
          omega
      _ = ([egressPolicy₁, egressPolicy₂].flatMap (routeConfigsOn ec source port)).countP (hasHostname host) := by
          simp [List.countP_append]
      _ ≤ configs.countP (hasHostname host) := hsub.countP_le
  -- the port is in the map, with those configurations
  have hsome : egressTrafficPolicy.HTTPRouteConfigsPerPort.lookup port = some configs := by
    cases hl : egressTrafficPolicy.HTTPRouteConfigsPerPort.lookup port with
    | none =>
      rw [hl] at hlookup
      have : configs = [] := hlookup.symm
      rw [this] at hcount
      simp at hcount
    | some configs' =>
      rw [hl] at hlookup
      exact congrArg some hlookup
  refine ⟨egressTrafficPolicy, hpolicy, _, mem_BuildEgressRouteConfiguration it portOrder hsome, rfl, ?_⟩
  rw [List.filter_map, List.length_map, ← List.countP_eq_length_filter]
  exact hcount

/-- An Egress policy in `curl` that lets the service account `curl/curl` reach `httpbin.org`
    on the HTTP port 80. -/
def httpbinEgress (name : String) : Egress :=
  { Namespace := "curl", Name := name
    Spec := { Sources := [{ Kind := kindSvcAccount, Name := "curl", Namespace := "curl", MTLS := none }]
              Hosts := ["httpbin.org"], IPAddresses := []
              Ports := [{ Number := 80, Protocol := "http" }], Matches := [] } }

/-- A mesh with the egress feature on and two such policies, written by two teams. -/
def httpbinEgressCatalog : EgressCatalog :=
  { EnableEgressPolicy := true
    egresses := [httpbinEgress "httpbin", httpbinEgress "httpbin-80"]
    upstreamTrafficSettings := [], egressGateways := [], IsMonitoredNamespace := fun _ => true
    meshSpec := { trafficTargets := [], httpRouteGroups := [], tcpRoutes := []
                  IsMonitoredNamespace := fun _ => true
                  trafficTargets_keys := List.nodup_nil, httpRouteGroups_keys := List.nodup_nil
                  tcpRoutes_keys := List.nodup_nil } }

/-- Lean's structural hashes, and maps ranged over in ascending key order. -/
def structuralDedup : Dedup :=
  { hashTrafficMatch := hash, hashClusterConfig := hash
    order := Enumerator.sortedBy UInt64.toNat fun _ _ h => UInt64.toNat_inj.mp h }

/-- The route configuration `rds-egress.80` of `curl` has two virtual hosts for
    `httpbin.org`. -/
theorem egress_route_config_duplicates_httpbin :
    ∃ egressTrafficPolicy,
      GetEgressTrafficPolicy httpbinEgressCatalog structuralDedup "curl.curl" = .ok (some egressTrafficPolicy) ∧
      ∃ rc ∈ BuildEgressRouteConfiguration ascendingOrder
          (Enumerator.sortedBy (fun port : Int => port) Function.injective_id)
          egressTrafficPolicy.HTTPRouteConfigsPerPort,
        rc.Name = GetEgressRouteConfigNameForPort 80 ∧
        2 ≤ (rc.VirtualHosts.filter fun vh => "httpbin.org" ∈ vh.Domains).length :=
  egress_route_config_duplicates_domain httpbinEgressCatalog structuralDedup ascendingOrder
    (Enumerator.sortedBy (fun port : Int => port) Function.injective_id) "curl.curl"
    { Namespace := "curl", Name := "curl" } rfl rfl (httpbinEgress "httpbin") (httpbinEgress "httpbin-80")
    80 "httpbin.org" (by decide)
    ⟨⟨none, rfl⟩, ⟨_, List.mem_singleton_self _, by decide⟩, List.mem_singleton_self _⟩
    ⟨⟨none, rfl⟩, ⟨_, List.mem_singleton_self _, by decide⟩, List.mem_singleton_self _⟩

end duplicates

end OsmEdge.Rds
