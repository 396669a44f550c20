import OsmEdge.Catalog.OutboundRoutes
import OsmEdge.Envoy.Outbound

/-
  The outbound mesh route configurations of the RDS response
  (`BuildOutboundMeshRouteConfiguration`,
  `pkg/sidecar/providers/envoy/rds/route/route_config.go`): one route configuration
  `rds-outbound.<port>` for every port of `HTTPRouteConfigsPerPort`, with a virtual host for
  every outbound policy of the port, serving its hostnames, and a route for each of the
  policy's routes.

  `buildOutboundRoutes` builds every route with the path `.*` as a regex, no header and the
  wildcard method, whatever the route's match. Every route then accepts every request whose
  path and method `.*` matches, and Envoy, which takes the first route of the virtual host
  that accepts a request, sends all of them to the first route: the route matches of the
  TrafficSplits are not looked at. With the catalog's policies every virtual host has a
  route, so such a request is routed as soon as its authority has a virtual host
  (`envoy_outbound_first_route_takes_all`); the first route is the first route of the
  service's first TrafficSplit with matches, or its wildcard route
  (`outboundTrafficPolicyOf_Routes`).

  Left out of a route: the retry policy and the disabled timeout.
-/

namespace OsmEdge.Rds

open OsmEdge.Xds OsmEdge.Catalog OsmEdge.Trafficpolicy OsmEdge.Service OsmEdge.Identity
open OsmEdge.Constants GoSet

/-- `outboundVirtualHost`. -/
def outboundVirtualHost : String := "outbound_virtual-host"

section outbound

variable (it : MapOrder)

/-- The route `buildOutboundRoutes` builds of a route: its match made the path `.*` as a
    regex with no header, for the wildcard method. -/
def buildOutboundRoute (outRoute : OutboundRoute) : Xds.Route :=
  let tempOutbound : RouteWeightedClusters :=
    { outRoute.toRouteWeightedClusters with
      HTTPRouteMatch := { outRoute.HTTPRouteMatch with
        PathMatchType := .PathMatchRegex, Path := RegexMatchAll, Headers := ∅ } }
  buildRoute it tempOutbound WildcardHTTPMethod

/-- `buildOutboundRoutes`. -/
def buildOutboundRoutes (outRoutes : List OutboundRoute) : List Xds.Route :=
  outRoutes.map (buildOutboundRoute it)

/-- The virtual host of one outbound policy. -/
def outboundVirtualHostOf (config : OutboundTrafficPolicy) : VirtualHost :=
  { buildVirtualHostStub outboundVirtualHost config.Name config.Hostnames with
    Routes := buildOutboundRoutes it config.Routes }

/-- `BuildOutboundMeshRouteConfiguration`: a route configuration for every port, in the order
    the runtime ranges over the map. -/
def BuildOutboundMeshRouteConfiguration (portOrder : Enumerator Int)
    (portSpecificRouteConfigs : AList fun _ : Int => List OutboundTrafficPolicy) :
    List RouteConfiguration :=
  (GoMap.range portOrder portSpecificRouteConfigs).map fun (port, configs) =>
    { Name := Lds.GetOutboundMeshRouteConfigNameForPort port
      VirtualHosts := configs.map (outboundVirtualHostOf it) }

/-- The match of an outbound route: the path `.*` and the method header `.*`. -/
theorem Match_buildOutboundRoute (outRoute : OutboundRoute) :
    (buildOutboundRoute it outRoute).Match =
      { PathSpecifier := .SafeRegex RegexMatchAll
        Headers := [{ Name := methodHeaderKey, SafeRegexMatch := RegexMatchAll }] } := by
  simp [buildOutboundRoute, buildRoute, getHeadersForRoute, getRegexForMethod]

@[simp] theorem WeightedClusters_buildOutboundRoute (outRoute : OutboundRoute) :
    (buildOutboundRoute it outRoute).WeightedClusters = buildWeightedCluster it outRoute.WeightedClusters :=
  rfl

@[simp] theorem Routes_outboundVirtualHostOf (config : OutboundTrafficPolicy) :
    (outboundVirtualHostOf it config).Routes = buildOutboundRoutes it config.Routes := rfl

/-- Every port of the map has its route configuration, with a virtual host for each of its
    policies in order; and there are no others. -/
theorem mem_BuildOutboundMeshRouteConfiguration (portOrder : Enumerator Int)
    {portSpecificRouteConfigs : AList fun _ : Int => List OutboundTrafficPolicy} {routeConfig : RouteConfiguration} :
    routeConfig ∈ BuildOutboundMeshRouteConfiguration it portOrder portSpecificRouteConfigs ↔
      ∃ port configs, portSpecificRouteConfigs.lookup port = some configs ∧
        routeConfig = { Name := Lds.GetOutboundMeshRouteConfigNameForPort port
                        VirtualHosts := configs.map (outboundVirtualHostOf it) } := by
  simp only [BuildOutboundMeshRouteConfiguration, List.mem_map, Prod.exists, GoMap.mem_range_iff]
  constructor
  · rintro ⟨port, configs, hlookup, rfl⟩
    exact ⟨port, configs, hlookup, rfl⟩
  · rintro ⟨port, configs, hlookup, rfl⟩
    exact ⟨port, configs, hlookup, rfl⟩

end outbound

/-! ## How Envoy routes through them -/

section router

variable (fullMatch : String → String → Bool) (it : MapOrder)

/-- An outbound route accepts every request whose path and method `.*` matches. -/
theorem matches_buildOutboundRoute {req : Request} (hpath : fullMatch RegexMatchAll req.path = true)
    (hmethod : fullMatch RegexMatchAll req.method = true) (outRoute : OutboundRoute) :
    (buildOutboundRoute it outRoute).Match.matches fullMatch req = true := by
  rw [Match_buildOutboundRoute]
  simp [RouteMatch.matches, PathSpecifier.matches, Request.header, methodHeaderKey, hpath, hmethod]

/-- So of the outbound routes of a virtual host, the first takes every such request. -/
theorem find?_buildOutboundRoutes {req : Request} (hpath : fullMatch RegexMatchAll req.path = true)
    (hmethod : fullMatch RegexMatchAll req.method = true) (outRoutes : List OutboundRoute) :
    (buildOutboundRoutes it outRoutes).find? (·.Match.matches fullMatch req) =
      (buildOutboundRoutes it outRoutes).head? := by
  cases outRoutes with
  | nil => rfl
  | cons outRoute rest =>
    exact find?_routes_of_head fullMatch (matches_buildOutboundRoute fullMatch it hpath hmethod outRoute)

end router

/-- Envoy routes every request whose path and method `.*` matches through an outbound route
    configuration of the catalog's policies to the first route of the virtual host its
    authority picks, whatever the route matches of the policy; and it routes it whenever
    the authority picks a virtual host. This holds of every router that keeps the laws Envoy
    documents. -/
theorem envoy_outbound_first_route_takes_all (cat : OutboundCatalog)
    (targetPortOrder : Enumerator UInt16) (rcat : RouteCatalog) (it : MapOrder) (portOrder : Enumerator Int)
    {fullMatch : String → String → Bool} {select : RouteConfiguration → String → Option VirtualHost}
    {route : RouteConfiguration → Request → Option Route} (hrouter : RouterLaws fullMatch select route)
    (downstreamIdentity : ServiceIdentity)
    (routeConfigPerPort : AList fun _ : Int => List OutboundTrafficPolicy)
    (h : cat.getOutboundHTTPRouteConfigsPerPort targetPortOrder rcat downstreamIdentity = .ok routeConfigPerPort)
    (routeConfig : RouteConfiguration)
    (hrc : routeConfig ∈ BuildOutboundMeshRouteConfiguration it portOrder routeConfigPerPort)
    (req : Request) (hpath : fullMatch RegexMatchAll req.path = true)
    (hmethod : fullMatch RegexMatchAll req.method = true) :
    route routeConfig req = (select routeConfig req.authority).bind (·.Routes.head?) ∧
      (route routeConfig req).isSome = (select routeConfig req.authority).isSome := by
  obtain ⟨port, configs, hport, rfl⟩ := (mem_BuildOutboundMeshRouteConfiguration it portOrder).mp hrc
  -- the first route takes every such request
  have hfirst : ∀ config : OutboundTrafficPolicy,
      (outboundVirtualHostOf it config).Routes.find? (·.Match.matches fullMatch req) =
        (outboundVirtualHostOf it config).Routes.head? := fun config =>
    find?_buildOutboundRoutes fullMatch it hpath hmethod config.Routes
  have hroute : ∀ vh ∈ configs.map (outboundVirtualHostOf it),
      vh.Routes.find? (·.Match.matches fullMatch req) = vh.Routes.head? := by
    intro vh hvh
    obtain ⟨config, -, rfl⟩ := List.mem_map.mp hvh
    exact hfirst config
  -- and every virtual host has one, the catalog's policies being well formed
  have hne : ∀ vh ∈ configs.map (outboundVirtualHostOf it), vh.Routes.head?.isSome := by
    intro vh hvh
    obtain ⟨config, hconfig, rfl⟩ := List.mem_map.mp hvh
    obtain ⟨r, hr, -⟩ :=
      (cat.outbound_route_configs_well_formed targetPortOrder rcat downstreamIdentity routeConfigPerPort
        h port configs hport config hconfig).catchAll
    cases hroutes : config.Routes with
    | nil => rw [hroutes] at hr; cases hr
    | cons r' rest => simp [buildOutboundRoutes, hroutes]
  rw [hrouter.route_eq]
  cases hvh : select
      { Name := Lds.GetOutboundMeshRouteConfigNameForPort port
        VirtualHosts := configs.map (outboundVirtualHostOf it) } req.authority with
  | none => simp
  | some vh =>
    have hmem := hrouter.select_mem _ _ _ hvh
    simp only [Option.bind_some, Option.isSome_some]
    exact ⟨hroute vh hmem, by rw [hroute vh hmem]; exact hne vh hmem⟩

/-- RE2's full match on the patterns of these routes: `.*` takes every text without a
    newline, and another pattern without special characters only itself. -/
def re2FullMatch (regex s : String) : Bool :=
  (regex = RegexMatchAll && !s.toList.contains '\n') || regex = s

/-- Ports ranged over in ascending order. -/
def ascendingPorts : Enumerator Int :=
  Enumerator.sortedBy (fun port : Int => port) Function.injective_id

/-- The request `POST /other` to `bookstore`. -/
def otherRequest : Request :=
  { authority := "bookstore", path := "/other", method := "POST", headers := [] }

/-- On the proxy of `bookbuyer.demo`, a `POST /other` to `bookstore`, which the route match
    `GET /books` of its first TrafficSplit does not cover, is routed to that split's
    `bookstore-v1`, not to the wildcard route's `bookstore-v2`. -/
theorem envoy_outbound_first_route_takes_all_books :
    ∃ routeConfig ∈ BuildOutboundMeshRouteConfiguration ascendingOrder ascendingPorts booksRouteConfigs,
      (routeConfig.route re2FullMatch otherRequest =
          (routeConfig.selectVirtualHost otherRequest.authority).bind (·.Routes.head?) ∧
        (routeConfig.route re2FullMatch otherRequest).isSome =
          (routeConfig.selectVirtualHost otherRequest.authority).isSome) ∧
      (routeConfig.route re2FullMatch otherRequest).map (·.WeightedClusters) =
        some (buildWeightedCluster ascendingOrder {⟨"demo/bookstore-v1|8080", 100⟩}) := by
  have hsome : (booksRouteConfigs.lookup 8080).isSome = true := by decide
  have hport : booksRouteConfigs.lookup 8080 = some ((booksRouteConfigs.lookup 8080).getD []) := by
    cases hl : booksRouteConfigs.lookup 8080 with
    | none => rw [hl] at hsome; cases hsome
    | some configs => rfl
  have hrc := (mem_BuildOutboundMeshRouteConfiguration ascendingOrder ascendingPorts).mpr ⟨8080, _, hport, rfl⟩
  refine ⟨_, hrc, envoy_outbound_first_route_takes_all booksCatalog ascendingTargetPorts booksRouteCatalog
    ascendingOrder ascendingPorts (routerLaws re2FullMatch) "bookbuyer.demo" booksRouteConfigs rfl _
    hrc otherRequest (by decide) (by decide), by decide⟩

end OsmEdge.Rds
