import OsmEdge.Xds.Rbac

/-
  Envoy's route configuration (`envoy.config.route.v3`), in the fields the mesh sets.

  A route configuration holds virtual hosts, each with the domains it serves and its
  routes in order; a route has a match (a path specifier and header matchers, all of which
  must match), a weighted-cluster action, and per-filter configuration, of which the model
  keeps the HTTP RBAC policy (`envoy.filters.http.rbac`).

  How Envoy's router uses one, as Envoy documents it: the virtual host is the one whose
  domains serve the request's `:authority` best (an exact domain, then the longest suffix
  wildcard `*x`, then the longest prefix wildcard `x*`, then `*`; a wildcard stands for at
  least one character), and the route is the first of that host whose match accepts the
  request. A regex matches when RE2 matches it against the whole text; RE2 itself is the
  argument `fullMatch`.

  The router belongs to Envoy, outside the repository. Results about the route
  configurations the control plane builds take its choices as arguments `select` and
  `route`, with the laws Envoy documents for them (`RouterLaws`); `selectVirtualHost` and
  `route` below are one router with those laws (`routerLaws`).
-/

namespace OsmEdge.Xds

/-- `RouteMatch.path_specifier`. -/
inductive PathSpecifier where
  | SafeRegex (regex : String)
  | Path (path : String)
  | Prefix (value : String)
  deriving DecidableEq, Repr

/-- `HeaderMatcher` with a `safe_regex_match`. -/
structure HeaderMatcher where
  Name : String
  SafeRegexMatch : String
  deriving DecidableEq, Repr

/-- `RouteMatch`. -/
structure RouteMatch where
  PathSpecifier : PathSpecifier
  Headers : List HeaderMatcher
  deriving DecidableEq, Repr

/-- `WeightedCluster.ClusterWeight`. -/
structure ClusterWeight where
  Name : String
  Weight : UInt32
  deriving DecidableEq, Repr

/-- `WeightedCluster`. -/
structure WeightedCluster where
  Clusters : List ClusterWeight
  TotalWeight : UInt32
  deriving DecidableEq, Repr

/-- `Route`: match, weighted-cluster action (`nil` when the builder gave none) and the HTTP
    RBAC per-route configuration. -/
structure Route where
  Match : RouteMatch
  WeightedClusters : Option WeightedCluster
  RBACPerRoute : Option RBAC

/-- `VirtualHost`. -/
structure VirtualHost where
  Name : String
  Domains : List String
  Routes : List Route

/-- `RouteConfiguration`. -/
structure RouteConfiguration where
  Name : String
  VirtualHosts : List VirtualHost

/-! ## How Envoy routes a request -/

/-- What the router reads of a request: the `:authority`, the path without its query, the
    method, and the other headers. -/
structure Request where
  authority : String
  path : String
  method : String
  headers : List (String × String)
  deriving DecidableEq, Repr

/-- The value of a header of the request, pseudo-headers included. -/
def Request.header (req : Request) (name : String) : Option String :=
  if name = ":method" then some req.method
  else if name = ":authority" then some req.authority
  else (req.headers.find? (·.1 = name)).map (·.2)

/-- How well a domain serves a host, higher first: an exact domain, a suffix wildcard, a
    prefix wildcard (each the longer first), the catch-all `*`; `none` when it does not. -/
def domainScore (domain host : String) : Option Nat :=
  let d := domain.toList
  let h := host.toList
  let kind := h.length + 1
  if d = h then some (3 * kind)
  else match d with
    | ['*'] => some 0
    | '*' :: suffix =>
      if suffix.length < h.length ∧ suffix.isSuffixOf h then some (2 * kind + suffix.length) else none
    | _ =>
      match d.reverse with
      | '*' :: rprefix =>
        if rprefix.length < h.length ∧ rprefix.reverse.isPrefixOf h then some (kind + rprefix.length)
        else none
      | _ => none

/-- The best score of a virtual host's domains for a host. -/
def VirtualHost.score (vh : VirtualHost) (host : String) : Option Nat :=
  (vh.Domains.filterMap (domainScore · host)).max?

/-- The virtual host Envoy picks for a host: the best score, the first on a tie. -/
def RouteConfiguration.selectVirtualHost (rc : RouteConfiguration) (host : String) :
    Option VirtualHost :=
  (rc.VirtualHosts.foldl (fun best vh =>
    match vh.score host, best with
    | none, _ => best
    | some s, none => some (vh, s)
    | some s, some (_, s') => if s' < s then some (vh, s) else best) none).map (·.1)

section router

variable (fullMatch : String → String → Bool)

/-- Whether a path specifier accepts a path. -/
def PathSpecifier.matches (path : String) : PathSpecifier → Bool
  | .SafeRegex regex => fullMatch regex path
  | .Path p => p = path
  | .Prefix value => value.toList.isPrefixOf path.toList

/-- Whether a route match accepts a request: the path, and every header matcher on a header
    the request has. -/
def RouteMatch.matches (m : RouteMatch) (req : Request) : Bool :=
  m.PathSpecifier.matches fullMatch req.path &&
    m.Headers.all fun h => (req.header h.Name).any (fullMatch h.SafeRegexMatch)

/-- The route Envoy takes for a request: the first route of the virtual host picked for its
    authority that accepts it. -/
def RouteConfiguration.route (rc : RouteConfiguration) (req : Request) : Option Route :=
  (rc.selectVirtualHost req.authority).bind fun vh => vh.Routes.find? (·.Match.matches fullMatch req)

/-- The first route of a virtual host takes every request it accepts. -/
theorem find?_routes_of_head {rt : Route} {rest : List Route} {req : Request}
    (h : rt.Match.matches fullMatch req = true) :
    (rt :: rest).find? (·.Match.matches fullMatch req) = some rt := by
  simp [h]

end router

/-- The only virtual host, serving `*`, serves every host. -/
theorem selectVirtualHost_single_catchAll {rc : RouteConfiguration} {vh : VirtualHost}
    (hvh : rc.VirtualHosts = [vh]) (hstar : "*" ∈ vh.Domains) (host : String) :
    rc.selectVirtualHost host = some vh := by
  -- `*` serves the host, so the host's best score exists
  have hstarScore : ∃ s, domainScore "*" host = some s := by
    have hstarList : "*".toList = ['*'] := by decide
    simp only [domainScore, hstarList]
    split
    · exact ⟨_, rfl⟩
    · exact ⟨0, rfl⟩
  obtain ⟨s₀, hs₀⟩ := hstarScore
  have hne : vh.Domains.filterMap (domainScore · host) ≠ [] :=
    List.ne_nil_of_mem (List.mem_filterMap.mpr ⟨"*", hstar, hs₀⟩)
  obtain ⟨s, hs⟩ := Option.ne_none_iff_exists'.mp (mt List.max?_eq_none_iff.mp hne)
  simp [RouteConfiguration.selectVirtualHost, VirtualHost.score, hvh, hs]

/-! ## The router's laws -/

/-- A fold that at each step keeps its best so far or takes the element just looked at ends
    with its start or an element of the list. -/
theorem mem_foldl_of_step {α β : Type*} (f : Option β → α → Option β) (g : β → α)
    (hf : ∀ best a b, b ∈ f best a → b ∈ best ∨ g b = a) :
    ∀ (l : List α) (init : Option β) (b : β), b ∈ l.foldl f init → b ∈ init ∨ g b ∈ l
  | [], _, _, hb => .inl hb
  | a :: l, init, b, hb => by
    rcases mem_foldl_of_step f g hf l (f init a) b hb with hb' | hb'
    · rcases hf init a b hb' with h | h
      · exact .inl h
      · exact .inr (h ▸ List.mem_cons_self)
    · exact .inr (List.mem_cons_of_mem a hb')

/-- The virtual host Envoy picks is one of the route configuration's. -/
theorem RouteConfiguration.mem_of_selectVirtualHost {rc : RouteConfiguration} {host : String}
    {vh : VirtualHost} (h : rc.selectVirtualHost host = some vh) : vh ∈ rc.VirtualHosts := by
  unfold RouteConfiguration.selectVirtualHost at h
  obtain ⟨b, hb, rfl⟩ := Option.map_eq_some_iff.mp h
  refine (mem_foldl_of_step _ Prod.fst ?_ rc.VirtualHosts none b hb).resolve_left (by simp)
  -- one step keeps the best or takes the host just looked at
  intro best v b hb
  beta_reduce at hb
  split at hb
  · exact .inl hb
  · rw [Option.mem_def, Option.some_inj] at hb
    exact .inr (by rw [← hb])
  · split_ifs at hb
    · rw [Option.mem_def, Option.some_inj] at hb
      exact .inr (by rw [← hb])
    · exact .inl hb

/-- What Envoy documents of its router, as laws of a choice of virtual host `select` and a
    choice of route `route`, with RE2's full match `fullMatch`: the route of a request is the
    first route, of the virtual host chosen for its authority, whose match accepts it; the
    virtual host chosen is one of the configuration's; and the one virtual host of a
    configuration, when it serves `*`, is chosen for every authority. -/
structure RouterLaws (fullMatch : String → String → Bool)
    (select : RouteConfiguration → String → Option VirtualHost)
    (route : RouteConfiguration → Request → Option Route) : Prop where
  route_eq : ∀ rc req, route rc req =
    (select rc req.authority).bind fun vh => vh.Routes.find? (·.Match.matches fullMatch req)
  select_mem : ∀ rc host vh, select rc host = some vh → vh ∈ rc.VirtualHosts
  select_single_catchAll : ∀ rc vh host, rc.VirtualHosts = [vh] → "*" ∈ vh.Domains →
    select rc host = some vh

theorem routerLaws (fullMatch : String → String → Bool) :
    RouterLaws fullMatch RouteConfiguration.selectVirtualHost (RouteConfiguration.route fullMatch) where
  route_eq _ _ := rfl
  select_mem _ _ _ h := RouteConfiguration.mem_of_selectVirtualHost h
  select_single_catchAll _ _ host hvh hstar := selectVirtualHost_single_catchAll hvh hstar host

end OsmEdge.Xds
