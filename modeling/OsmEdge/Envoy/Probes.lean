import OsmEdge.Injector.HealthProbes

/-
  The listeners and clusters the Envoy bootstrap configuration sets up for a pod's health
  probes (`pkg/sidecar/providers/envoy/bootstrap/envoy_config_health_probes.go` and
  `getProbeResources` of `config.go`), and what Envoy does with the kubelet's requests.

  For each kind whose recorded probe is not a TCP probe, a listener on the kind's probe port
  routes the paths that start with the kind's probe path (`/osm-liveness-probe` and its
  siblings) to a static cluster on the original port, the prefix rewritten to the original
  path; a request on no route is answered 404. The webhook however sends every rewritten HTTP
  probe to `HealthcheckPath`, so an HTTP probe finds no route, and an `HTTPS` probe, recorded as
  a TCP probe, finds no listener.

  What Envoy does with a request on these listeners is taken as an argument `serve`, with the
  two laws Envoy documents that the result needs (`ServeLaws`): no listener on the port
  refuses the connection, and an HTTP request on no route of the port's listener is answered
  404. `envoyServe` is one answer with them.

  Proved: `envoy_http_probes_unreachable`, for every pod, container and kind, no rewritten HTTP
  probe reaches its container under the Envoy sidecar: the kubelet gets a 404 or a refused
  connection.
-/

namespace OsmEdge.Envoy

open OsmEdge.Constants OsmEdge.Injector

/-- `livenessCluster`. -/
def livenessCluster : String := "liveness_cluster"
/-- `readinessCluster`. -/
def readinessCluster : String := "readiness_cluster"
/-- `startupCluster`. -/
def startupCluster : String := "startup_cluster"
/-- `livenessListener`. -/
def livenessListener : String := "liveness_listener"
/-- `readinessListener`. -/
def readinessListener : String := "readiness_listener"
/-- `startupListener`. -/
def startupListener : String := "startup_listener"

/-- A static cluster with one endpoint, on localhost. -/
structure ProbeCluster where
  Name : String
  Port : Int
  deriving DecidableEq, Repr

/-- The one route of a probe listener's virtual host. -/
structure ProbeRoute where
  Prefix : String
  Cluster : String
  PrefixRewrite : String
  Timeout : Int
  deriving DecidableEq, Repr

/-- The filter chain of a probe listener: an HTTP connection manager with one route, or a TCP
    proxy to a cluster. -/
inductive ProbeFilter
  | http (route : ProbeRoute)
  | tcpProxy (cluster : String)
  deriving DecidableEq, Repr

/-- A probe listener, on `0.0.0.0` at `Port`. -/
structure ProbeListener where
  Name : String
  Port : Int
  Filter : ProbeFilter
  deriving DecidableEq, Repr

/-- `getProbeCluster`. -/
def getProbeCluster (clusterName : String) (port : Int) : ProbeCluster :=
  { Name := clusterName, Port := port }

/-- `getLivenessCluster` and its siblings. -/
def getKindCluster (clusterName : String) (originalProbe : Option HealthProbe) :
    Option ProbeCluster :=
  originalProbe.map fun p => getProbeCluster clusterName p.Port

/-- `getLivenessCluster`. -/
def getLivenessCluster : Option HealthProbe → Option ProbeCluster := getKindCluster livenessCluster
/-- `getReadinessCluster`. -/
def getReadinessCluster : Option HealthProbe → Option ProbeCluster :=
  getKindCluster readinessCluster
/-- `getStartupCluster`. -/
def getStartupCluster : Option HealthProbe → Option ProbeCluster := getKindCluster startupCluster

/-- `getVirtualHost`: a timeout under a second is raised to one. -/
def getVirtualHost (newPath clusterName originalProbePath : String) (routeTimeout : Int) :
    ProbeRoute :=
  let routeTimeout := if routeTimeout < 1000000000 then 1000000000 else routeTimeout
  { Prefix := newPath, Cluster := clusterName, PrefixRewrite := originalProbePath
    Timeout := routeTimeout }

/-- `getProbeListener`; marshalling the filters into `Any` does not fail on these messages. -/
def getProbeListener (listenerName clusterName newPath : String) (port : Int)
    (originalProbe : HealthProbe) : ProbeListener :=
  { Name := listenerName, Port := port
    Filter := if originalProbe.IsHTTP then
        .http (getVirtualHost newPath clusterName originalProbe.Path originalProbe.Timeout)
      else .tcpProxy clusterName }

/-- `getLivenessListener` and its siblings. -/
def getKindListener (listenerName clusterName newPath : String) (port : Nat)
    (originalProbe : Option HealthProbe) : Option ProbeListener :=
  originalProbe.map (getProbeListener listenerName clusterName newPath port)

/-- `getLivenessListener`. -/
def getLivenessListener : Option HealthProbe → Option ProbeListener :=
  getKindListener livenessListener livenessCluster LivenessProbePath LivenessProbePort
/-- `getReadinessListener`. -/
def getReadinessListener : Option HealthProbe → Option ProbeListener :=
  getKindListener readinessListener readinessCluster ReadinessProbePath ReadinessProbePort
/-- `getStartupListener`. -/
def getStartupListener : Option HealthProbe → Option ProbeListener :=
  getKindListener startupListener startupCluster StartupProbePath StartupProbePort

/-- One block of `getProbeResources`: a listener and a cluster for a recorded probe that is not
    a TCP probe. -/
def probeResource (listener : Option HealthProbe → Option ProbeListener)
    (cluster : Option HealthProbe → Option ProbeCluster) (probe : Option HealthProbe) :
    List ProbeListener × List ProbeCluster :=
  match probe with
  | some p => if !p.IsTCPSocket then ((listener (some p)).toList, (cluster (some p)).toList)
    else ([], [])
  | none => ([], [])

/-- `getProbeResources`: the probe listeners and clusters, liveness first. -/
def getProbeResources (probes : HealthProbes) : List ProbeListener × List ProbeCluster :=
  let liveness := probeResource getLivenessListener getLivenessCluster probes.Liveness
  let readiness := probeResource getReadinessListener getReadinessCluster probes.Readiness
  let startup := probeResource getStartupListener getStartupCluster probes.Startup
  (liveness.1 ++ readiness.1 ++ startup.1, liveness.2 ++ readiness.2 ++ startup.2)

/-! ## Envoy serving the probe ports -/

/-- What Envoy does with a request of the kubelet on its probe listeners: the listener of the
    port; on an HTTP listener, the route whose prefix starts the path, with the prefix
    rewritten, or 404; on a TCP proxy, the request passed through as it is. -/
def envoyServe (resources : List ProbeListener × List ProbeCluster) (req : ProbeRequest) :
    Delivery :=
  match resources.1.find? (·.Port = req.Port) with
  | none => .refused
  | some l =>
    match l.Filter with
    | .http route =>
      if req.Scheme ≠ .HTTP then .reset
      else if route.Prefix.toList <+: req.Path.toList then
        match resources.2.find? (·.Name = route.Cluster) with
        | some cl => .http (localAddress (toString cl.Port))
            (String.ofList (route.PrefixRewrite.toList ++ req.Path.toList.drop route.Prefix.length))
            false
        | none => .status 503
      else .status 404
    | .tcpProxy cluster =>
      match resources.2.find? (·.Name = cluster) with
      | some cl => .http (localAddress (toString cl.Port)) req.Path (req.Scheme = .HTTPS)
      | none => .reset

/-- What Envoy documents of the probe listeners, as laws of an answer `serve`: a request to a
    port without a listener is refused, and an HTTP request on an HTTP listener whose route
    prefix does not start its path is answered 404. -/
structure ServeLaws (serve : List ProbeListener × List ProbeCluster → ProbeRequest → Delivery) :
    Prop where
  refused : ∀ resources req, resources.1.find? (·.Port = req.Port) = none →
    serve resources req = .refused
  notFound : ∀ resources req l route, resources.1.find? (·.Port = req.Port) = some l →
    l.Filter = .http route → req.Scheme = .HTTP → ¬ route.Prefix.toList <+: req.Path.toList →
    serve resources req = .status 404

theorem envoyServe_laws : ServeLaws envoyServe where
  refused resources req h := by
    unfold envoyServe
    rw [h]
  notFound resources req l route hl hfilter hscheme hnotStart := by
    unfold envoyServe
    simp only [hl, hfilter, hscheme, ne_eq, not_true_eq_false, if_false]
    exact if_neg hnotStart

/-! ## The probe listeners serve no rewritten probe -/

section listeners

variable {probes : HealthProbes} {l : ProbeListener}

/-- The listener of a kind's block routes the kind's path on the kind's port, when the recorded
    probe is an HTTP or a TCP probe, as every probe the webhook records is. -/
theorem mem_probeResource (kind : ProbeKind) {listenerName clusterName : String}
    {cluster : Option HealthProbe → Option ProbeCluster} {probe : Option HealthProbe}
    (hwf : ∀ p, probe = some p → p.WellFormed)
    (hl : l ∈ (probeResource (getKindListener listenerName clusterName kind.path kind.port)
      cluster probe).1) :
    l.Port = kind.port ∧ ∃ route, l.Filter = .http route ∧ route.Prefix = kind.path := by
  unfold probeResource at hl
  rcases probe with _ | p
  · cases hl
  · by_cases htcp : p.IsTCPSocket = true
    · simp [htcp] at hl
    · -- a probe that is not a TCP probe is an HTTP one, and gets an HTTP route
      have hhttp : p.IsHTTP = true := by simpa [HealthProbe.WellFormed, htcp] using hwf p rfl
      simp only [htcp, Bool.not_false, if_true, getKindListener, Option.map_some,
        Option.toList_some, List.mem_singleton] at hl
      subst hl
      exact ⟨rfl, getVirtualHost kind.path clusterName p.Path p.Timeout,
        by simp [getProbeListener, hhttp], rfl⟩

theorem ProbeKind.port_injective {kind kind' : ProbeKind}
    (h : (kind.port : Int) = (kind'.port : Int)) : kind = kind' := by
  cases kind <;> cases kind' <;> first | rfl | simp [ProbeKind.port, LivenessProbePort,
    ReadinessProbePort, StartupProbePort] at h

/-- Every probe listener routes the path of the kind of its port. -/
theorem mem_getProbeResources (hwf : probes.WellFormed)
    (hl : l ∈ (getProbeResources probes).1) :
    ∃ kind : ProbeKind, l.Port = kind.port ∧
      ∃ route, l.Filter = .http route ∧ route.Prefix = kind.path := by
  simp only [getProbeResources, List.mem_append] at hl
  rcases hl with (hl | hl) | hl
  · exact ⟨.liveness, mem_probeResource .liveness (hwf .liveness) hl⟩
  · exact ⟨.readiness, mem_probeResource .readiness (hwf .readiness) hl⟩
  · exact ⟨.startup, mem_probeResource .startup (hwf .startup) hl⟩

end listeners

/-- No kind's probe path starts `HealthcheckPath`. -/
theorem path_not_prefix_healthcheckPath (kind : ProbeKind) :
    ¬ kind.path.toList <+: HealthcheckPath.toList := by
  cases kind <;> decide

/-- Envoy answers a GET of `HealthcheckPath` on a probe port with a 404, or refuses it. -/
theorem serve_healthcheckPath
    {serve : List ProbeListener × List ProbeCluster → ProbeRequest → Delivery}
    (hserve : ServeLaws serve) {probes : HealthProbes} (hwf : probes.WellFormed)
    {req : ProbeRequest} (kind : ProbeKind) (hport : req.Port = kind.port)
    (hpath : req.Path = HealthcheckPath) (hscheme : req.Scheme = .HTTP) :
    serve (getProbeResources probes) req = .status 404 ∨
      serve (getProbeResources probes) req = .refused := by
  cases hfind : (getProbeResources probes).1.find? (·.Port = req.Port) with
  | none => exact .inr (hserve.refused _ req hfind)
  | some l =>
    have hlPort : l.Port = req.Port := by simpa using List.find?_some hfind
    obtain ⟨kind', hkind', route, hfilter, hroutePath⟩ :=
      mem_getProbeResources hwf (List.mem_of_find?_eq_some hfind)
    -- the listener on the kind's port is the kind's own, whose prefix is the kind's path
    have hkind : kind' = kind := ProbeKind.port_injective (by rw [← hkind', hlPort, hport])
    refine .inl (hserve.notFound _ req l route hfind hfilter hscheme ?_)
    rw [hroutePath, hpath, hkind]
    exact path_not_prefix_healthcheckPath kind

/-- Under the Envoy sidecar no rewritten HTTP probe reaches its container. For every pod, every
    container of it and every kind whose probe is an HTTP GET, of any scheme and port, the
    webhook's pod holds the container with the probe rewritten, and the kubelet's request for
    it is answered 404 by the kind's probe listener, or refused when no listener was made, by
    every Envoy that keeps the laws of `ServeLaws`. -/
theorem envoy_http_probes_unreachable
    {serve : List ProbeListener × List ProbeCluster → ProbeRequest → Delivery}
    (hserve : ServeLaws serve) (pod : PodSpec) {c : Container} (hc : c ∈ pod.Containers)
    (kind : ProbeKind) {p : Probe} {get : HTTPGetAction} (hp : c.probe kind = some p)
    (hget : p.HTTPGet = some get) :
    ∃ p' req, rewrittenContainer c ∈ (RewriteHealthProbes pod).1.Containers ∧
      (rewrittenContainer c).probe kind = some p' ∧ kubeletRequest (defaultProbe p') = some req ∧
      (deliver (serve (getProbeResources (RewriteHealthProbes pod).2))
          (RewriteHealthProbes pod).2.UsesTCP req = .status 404 ∨
        deliver (serve (getProbeResources (RewriteHealthProbes pod).2))
          (RewriteHealthProbes pod).2.UsesTCP req = .refused) := by
  obtain ⟨p', req, hp', hreq, hport, hpath, hscheme⟩ :=
    kubeletRequest_rewriteProbe_get hget kind.path kind.port c.Ports
  refine ⟨p', req, mem_RewriteHealthProbes hc, ?_, hreq, ?_⟩
  · rw [probe_rewrittenContainer, hp, hp']
  · -- the request goes to the kind's probe port, which is not the port of osm-healthcheck
    have hne : req.Port ≠ HealthcheckPort := by
      rw [hport]
      cases kind <;> decide
    rw [deliver, if_neg hne]
    exact serve_healthcheckPath hserve (wellFormed_RewriteHealthProbes pod) kind hport hpath hscheme

/-- A bookstore container whose liveness probe is a plain HTTP GET of `/healthz` on 14001. -/
def bookstore : Container :=
  { Ports := [⟨"web", 14001⟩]
    LivenessProbe := some
      { HTTPGet := some { Path := "/healthz", Port := .int 14001, Scheme := none, HTTPHeaders := [] }
        TCPSocket := none, TimeoutSeconds := 1 }
    ReadinessProbe := none, StartupProbe := none }

/-- A pod of the one bookstore container. -/
def bookstorePod : PodSpec := { Containers := [bookstore] }

theorem envoy_http_probes_unreachable_bookstore :
    ∃ p' req, rewrittenContainer bookstore ∈ (RewriteHealthProbes bookstorePod).1.Containers ∧
      (rewrittenContainer bookstore).probe .liveness = some p' ∧
      kubeletRequest (defaultProbe p') = some req ∧
      (deliver (envoyServe (getProbeResources (RewriteHealthProbes bookstorePod).2))
          (RewriteHealthProbes bookstorePod).2.UsesTCP req = .status 404 ∨
        deliver (envoyServe (getProbeResources (RewriteHealthProbes bookstorePod).2))
          (RewriteHealthProbes bookstorePod).2.UsesTCP req = .refused) :=
  envoy_http_probes_unreachable envoyServe_laws bookstorePod (List.mem_singleton_self _) .liveness
    rfl rfl

-- the liveness listener answers the kubelet's GET of /osm-healthcheck on 15901 with a 404
example :
    deliver (envoyServe (getProbeResources (RewriteHealthProbes bookstorePod).2)) false
      { Port := 15901, Path := HealthcheckPath, Scheme := .HTTP
        Headers := [⟨"Original-Http-Port", "14001"⟩, ⟨"Original-Http-Path", "/healthz"⟩] } =
      .status 404 := by
  decide

end OsmEdge.Envoy
