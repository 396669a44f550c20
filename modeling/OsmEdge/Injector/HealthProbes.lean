import OsmEdge.Constants
import OsmEdge.Lib.GoText

/-
  The rewriting of a pod's health probes by the sidecar injector (`pkg/injector/health_probes.go`),
  and what becomes of a rewritten probe when the kubelet runs it.

  `rewriteProbe` turns every HTTP and TCP probe into an HTTP GET of `HealthcheckPath`. An HTTP
  probe (scheme empty or `HTTP`) moves to the probe port of its kind (15901 to 15903), carrying
  its original port and path in the headers `Original-Http-Port` and `Original-Http-Path`. An
  `HTTPS` probe moves there too, with the scheme `HTTP` and the header `Original-Tcp-Port`. A TCP
  probe becomes a GET on `HealthcheckPort` (15904), the port of `osm-healthcheck`, with the
  header `Original-Tcp-Port`. The returned `HealthProbes` keeps, for each kind, the original
  probe of the last container that has one. The `path` argument of `rewriteProbe` is not read:
  whatever its kind, the rewritten path is `HealthcheckPath`.

  The API server defaults an empty scheme to `HTTP` on the pod the webhook returns
  (`defaultProbe`). The kubelet then sends a GET to the probe's port and path, with its headers
  (`kubeletRequest`). `iptables` lets the four probe ports through to the pod, where the
  sidecar answers on 15901 to 15903 and `osm-healthcheck` on 15904 (`healthcheckHandler`). What
  reaches the application is a `Delivery`. `intendedDelivery` is what the rewriting should
  keep: the original port and path with the original scheme, and for a TCP probe a connection
  to the original port.
-/

namespace OsmEdge.Injector

open OsmEdge.Constants

/-! ## Pods and probes -/

/-- `intstr.IntOrString`. -/
inductive IntOrString
  | int (IntVal : Int)
  | string (StrVal : String)
  deriving DecidableEq, Repr

/-- `int32(x)`: the value wrapped into the 32-bit range. -/
def int32Of (x : Int) : Int := (x + 2 ^ 31) % 2 ^ 32 - 2 ^ 31

/-- `IntValue()`: the integer, or the string read by `strconv.Atoi`, 0 when it is not one. -/
def IntOrString.IntValue : IntOrString → Int
  | .int v => v
  | .string s => (GoText.atoi s.toList).getD 0

/-- `String()`: the string, or the integer in decimal. -/
def IntOrString.asString : IntOrString → String
  | .int v => toString v
  | .string s => s

/-- `corev1.HTTPHeader`. -/
structure HTTPHeader where
  Name : String
  Value : String
  deriving DecidableEq, Repr

/-- `corev1.URIScheme`: the schemes the API server accepts. -/
inductive URIScheme
  | HTTP
  | HTTPS
  deriving DecidableEq, Repr

/-- `corev1.HTTPGetAction`; `Scheme` is `none` when it is empty. -/
structure HTTPGetAction where
  Path : String
  Port : IntOrString
  Scheme : Option URIScheme
  HTTPHeaders : List HTTPHeader
  deriving DecidableEq, Repr

/-- `corev1.TCPSocketAction`. -/
structure TCPSocketAction where
  Port : IntOrString
  deriving DecidableEq, Repr

/-- `corev1.Probe`, with its HTTP and TCP handlers (any other handler is neither). -/
structure Probe where
  HTTPGet : Option HTTPGetAction
  TCPSocket : Option TCPSocketAction
  TimeoutSeconds : Int
  deriving DecidableEq, Repr

set_option linter.dupNamespace false in
/-- `corev1.ContainerPort`. -/
structure ContainerPort where
  Name : String
  ContainerPort : Int
  deriving DecidableEq, Repr

/-- `corev1.Container`, with its ports and probes. -/
structure Container where
  Ports : List ContainerPort
  LivenessProbe : Option Probe
  ReadinessProbe : Option Probe
  StartupProbe : Option Probe
  deriving DecidableEq, Repr

/-- `corev1.PodSpec`, with its containers: the part of the pod `RewriteHealthProbes` reads and
    rewrites in place. -/
structure PodSpec where
  Containers : List Container
  deriving DecidableEq, Repr

/-- `models.HealthProbe`: what the webhook records of an original probe. -/
structure HealthProbe where
  Path : String
  Port : Int
  Timeout : Int
  IsHTTP : Bool
  IsTCPSocket : Bool
  deriving DecidableEq, Repr

/-- `models.HealthProbes`. -/
structure HealthProbes where
  Liveness : Option HealthProbe := none
  Readiness : Option HealthProbe := none
  Startup : Option HealthProbe := none
  deriving DecidableEq, Repr

/-- `UsesTCP`: some recorded probe is a TCP probe (an `HTTPS` probe counts as one). -/
def HealthProbes.UsesTCP (probes : HealthProbes) : Bool :=
  (probes.Liveness.map (·.IsTCPSocket)).getD false ||
  (probes.Readiness.map (·.IsTCPSocket)).getD false ||
  (probes.Startup.map (·.IsTCPSocket)).getD false

/-- The three kinds of probe. -/
inductive ProbeKind
  | liveness
  | readiness
  | startup
  deriving DecidableEq, Repr

/-- The container's probe of a kind. -/
def Container.probe (c : Container) : ProbeKind → Option Probe
  | .liveness => c.LivenessProbe
  | .readiness => c.ReadinessProbe
  | .startup => c.StartupProbe

/-- The container with its probe of a kind replaced. -/
def Container.setProbe (c : Container) : ProbeKind → Option Probe → Container
  | .liveness, p => { c with LivenessProbe := p }
  | .readiness, p => { c with ReadinessProbe := p }
  | .startup, p => { c with StartupProbe := p }

/-- The recorded probe of a kind. -/
def HealthProbes.probe (probes : HealthProbes) : ProbeKind → Option HealthProbe
  | .liveness => probes.Liveness
  | .readiness => probes.Readiness
  | .startup => probes.Startup

/-- The path of a kind of probe (`LivenessProbePath` and its siblings). -/
def ProbeKind.path : ProbeKind → String
  | .liveness => LivenessProbePath
  | .readiness => ReadinessProbePath
  | .startup => StartupProbePath

/-- The port the sidecar serves a kind of probe on. -/
def ProbeKind.port : ProbeKind → Nat
  | .liveness => LivenessProbePort
  | .readiness => ReadinessProbePort
  | .startup => StartupProbePort

/-! ## The rewriting -/

/-- `errNoMatchingPort`. -/
def errNoMatchingPort : String := "no matching port"

/-- `getPort`: a port that is a non-zero number, or the first container port of that name. The
    container ports are never nil: `rewriteProbe` is handed the address of the container's
    slice. -/
def getPort (namedPort : IntOrString) (containerPorts : List ContainerPort) : Except String Int :=
  let intPort := int32Of namedPort.IntValue
  if intPort ≠ 0 then .ok intPort
  else
    let portName := namedPort.asString
    match containerPorts.find? (fun p => p.Name ≠ "" ∧ p.Name = portName) with
    | some p => .ok p.ContainerPort
    | none => .error errNoMatchingPort

/-- The end of `rewriteProbe`, common to HTTP and TCP probes: the original port is looked up (0
    when it cannot be), the headers that carry it are appended, and the probe's port becomes
    `port`. -/
def rewriteGet (get : HTTPGetAction) (original : HealthProbe) (isHTTPS : Bool) (port : Int)
    (containerPorts : List ContainerPort) (timeoutSeconds : Int) :
    HTTPGetAction × HealthProbe :=
  let originalPort := match getPort get.Port containerPorts with
    | .ok p => p
    | .error _ => 0
  let original := { original with Port := originalPort }
  let headers :=
    if original.IsTCPSocket then
      let probePort := if originalPort = 0 ∧ isHTTPS then 443 else originalPort
      get.HTTPHeaders ++ [⟨"Original-Tcp-Port", toString probePort⟩]
    else if original.IsHTTP then
      let probePort := if originalPort = 0 then 80 else originalPort
      get.HTTPHeaders ++ [⟨"Original-Http-Port", toString probePort⟩,
        ⟨"Original-Http-Path", original.Path⟩]
    else get.HTTPHeaders
  ({ get with HTTPHeaders := headers, Port := .int port },
    { original with Timeout := timeoutSeconds * 1000000000 })

/-- `rewriteProbe`: the probe as the webhook leaves it, and the original it records. -/
def rewriteProbe (probe : Option Probe) (_path : String) (port : Int)
    (containerPorts : List ContainerPort) : Option Probe × Option HealthProbe :=
  match probe with
  | none => (none, none)
  | some probe =>
    match probe.HTTPGet, probe.TCPSocket with
    | some get, _ =>
      let IsHTTP := get.Scheme = none ∨ get.Scheme = some .HTTP
      let IsTCPSocket := get.Scheme = some .HTTPS
      let original : HealthProbe :=
        { Path := get.Path, Port := 0, Timeout := 0, IsHTTP := IsHTTP, IsTCPSocket := IsTCPSocket }
      -- an `HTTPS` probe is sent as plain HTTP
      let isHTTPS := !IsHTTP && IsTCPSocket
      let get := { get with Path := HealthcheckPath
                            Scheme := if isHTTPS then some .HTTP else get.Scheme }
      let (get, original) := rewriteGet get original isHTTPS port containerPorts probe.TimeoutSeconds
      (some { probe with HTTPGet := some get }, some original)
    | none, some tcp =>
      -- the TCP probe becomes an HTTP probe of `osm-healthcheck`
      let original : HealthProbe :=
        { Path := "", Port := 0, Timeout := 0, IsHTTP := false, IsTCPSocket := true }
      let get : HTTPGetAction :=
        { Path := HealthcheckPath, Port := tcp.Port, Scheme := none, HTTPHeaders := [] }
      let (get, original) :=
        rewriteGet get original false HealthcheckPort containerPorts probe.TimeoutSeconds
      (some { probe with HTTPGet := some get, TCPSocket := none }, some original)
    | none, none => (some probe, none)

/-- `rewriteLiveness`, `rewriteReadiness` and `rewriteStartup`: `rewriteProbe` on the
    container's probe of the kind, with the kind's path and port. -/
def rewriteKind (kind : ProbeKind) (path : String) (port : Nat) (c : Container) :
    Container × Option HealthProbe :=
  let (probe, original) := rewriteProbe (c.probe kind) path port c.Ports
  (c.setProbe kind probe, original)

/-- `rewriteLiveness`. -/
def rewriteLiveness (c : Container) : Container × Option HealthProbe :=
  rewriteKind .liveness LivenessProbePath LivenessProbePort c

/-- `rewriteReadiness`. -/
def rewriteReadiness (c : Container) : Container × Option HealthProbe :=
  rewriteKind .readiness ReadinessProbePath ReadinessProbePort c

/-- `rewriteStartup`. -/
def rewriteStartup (c : Container) : Container × Option HealthProbe :=
  rewriteKind .startup StartupProbePath StartupProbePort c

/-- One turn of the loop of `RewriteHealthProbes`: the container's three probes are rewritten,
    and each original found replaces the one recorded before. -/
def rewriteContainer (probes : HealthProbes) (c : Container) : Container × HealthProbes :=
  let (c, liveness) := rewriteLiveness c
  let (c, readiness) := rewriteReadiness c
  let (c, startup) := rewriteStartup c
  (c, { Liveness := liveness.or probes.Liveness, Readiness := readiness.or probes.Readiness
        Startup := startup.or probes.Startup })

/-- The loop of `RewriteHealthProbes` over the containers. -/
def rewriteContainers : HealthProbes → List Container → List Container × HealthProbes
  | probes, [] => ([], probes)
  | probes, c :: cs =>
    let (c, probes) := rewriteContainer probes c
    let (cs, probes) := rewriteContainers probes cs
    (c :: cs, probes)

/-- `RewriteHealthProbes`: the pod's spec with its probes rewritten (the source rewrites
    `pod.Spec.Containers` in place), and the recorded originals. -/
def RewriteHealthProbes (pod : PodSpec) : PodSpec × HealthProbes :=
  let (cs, probes) := rewriteContainers {} pod.Containers
  ({ pod with Containers := cs }, probes)

/-! ## Running a rewritten probe -/

/-- The API server's defaulting of an HTTP probe (`SetDefaults_HTTPGetAction`): an empty
    scheme is `HTTP`. -/
def defaultGet (get : HTTPGetAction) : HTTPGetAction :=
  { get with Scheme := some (get.Scheme.getD .HTTP) }

/-- A probe as the API server stores it. -/
def defaultProbe (p : Probe) : Probe := { p with HTTPGet := p.HTTPGet.map defaultGet }

/-- What the kubelet sends for a probe: a GET to the pod's IP at the probe's port and path,
    with its headers. -/
structure ProbeRequest where
  Port : Int
  Path : String
  Scheme : URIScheme
  Headers : List HTTPHeader
  deriving DecidableEq, Repr

/-- The request of an HTTP probe whose port is a number, as every rewritten probe's is. -/
def kubeletRequest (p : Probe) : Option ProbeRequest :=
  match p.HTTPGet with
  | some { Path := path, Port := .int port, Scheme := scheme, HTTPHeaders := headers } =>
    some { Port := port, Path := path, Scheme := scheme.getD .HTTP, Headers := headers }
  | _ => none

/-- `127.0.0.1:port`. -/
def localAddress (port : String) : String := LocalhostIPAddress ++ ":" ++ port

/-- What reaches the pod's containers when a probe runs. -/
inductive Delivery
  /-- An HTTP GET of `path` arrives at `address`, over TLS or not. -/
  | http (address : String) (path : String) (overTLS : Bool)
  /-- `osm-healthcheck` opens a TCP connection to `address`. -/
  | tcpConnect (address : String)
  /-- The request is answered with this status before reaching any container. -/
  | status (code : Nat)
  /-- Nothing listens on the port. -/
  | refused
  /-- The connection is reset. -/
  | reset
  deriving DecidableEq, Repr

/-- `req.Header.Get(name)`: the first value of the header, or `""`. -/
def headerGet (headers : List HTTPHeader) (name : String) : String :=
  ((headers.find? (·.Name = name)).map (·.Value)).getD ""

/-- `healthcheckHandler` of `osm-healthcheck`, behind its mux, which serves only
    `HealthcheckPath`: a connection to the port of `Original-Tcp-Port`. -/
def healthcheckHandler (req : ProbeRequest) : Delivery :=
  if req.Scheme ≠ .HTTP then .reset
  else if req.Path ≠ HealthcheckPath then .status 404
  else
    let port := headerGet req.Headers "Original-Tcp-Port"
    if port = "" then .status 400 else .tcpConnect (localAddress port)

/-- What happens to a request of the kubelet: the sidecar answers the probe ports of the three
    kinds, `osm-healthcheck` its port when it was injected. -/
def deliver (sidecar : ProbeRequest → Delivery) (healthcheck : Bool) (req : ProbeRequest) :
    Delivery :=
  if req.Port = HealthcheckPort then
    if healthcheck then healthcheckHandler req else .refused
  else sidecar req

/-- What the rewriting should keep of an original probe: its port and path with its scheme, and
    for a TCP probe a connection to its port. -/
def intendedDelivery (probe : Probe) (port : Int) : Option Delivery :=
  match probe.HTTPGet, probe.TCPSocket with
  | some get, _ => some (.http (localAddress (toString port)) get.Path (get.Scheme = some .HTTPS))
  | none, some _ => some (.tcpConnect (localAddress (toString port)))
  | none, none => none

/-! ## What the rewriting leaves -/

@[simp] theorem probe_setProbe_self (c : Container) (kind : ProbeKind) (p : Option Probe) :
    (c.setProbe kind p).probe kind = p := by
  cases kind <;> rfl

@[simp] theorem probe_setProbe_ne (c : Container) {kind kind' : ProbeKind} (h : kind' ≠ kind)
    (p : Option Probe) : (c.setProbe kind p).probe kind' = c.probe kind' := by
  cases kind <;> cases kind' <;> first | rfl | exact absurd rfl h

@[simp] theorem Ports_setProbe (c : Container) (kind : ProbeKind) (p : Option Probe) :
    (c.setProbe kind p).Ports = c.Ports := by
  cases kind <;> rfl

/-- A container as the webhook leaves it. -/
def rewrittenContainer (c : Container) : Container := (rewriteContainer {} c).1

/-- Each probe of a rewritten container is its original probe rewritten with its kind's path
    and port. -/
theorem probe_rewrittenContainer (c : Container) (kind : ProbeKind) :
    (rewrittenContainer c).probe kind = (rewriteProbe (c.probe kind) kind.path kind.port c.Ports).1 := by
  cases kind <;>
    simp [rewrittenContainer, rewriteContainer, rewriteLiveness, rewriteReadiness, rewriteStartup,
      rewriteKind, ProbeKind.path, ProbeKind.port]

/-- The containers the webhook returns are the pod's, each rewritten on its own. -/
theorem rewriteContainers_fst (probes : HealthProbes) :
    ∀ cs : List Container, (rewriteContainers probes cs).1 = cs.map rewrittenContainer := by
  intro cs
  induction cs generalizing probes with
  | nil => rfl
  | cons c cs ih =>
    simp only [rewriteContainers, List.map_cons, ih]
    rfl

theorem mem_RewriteHealthProbes {pod : PodSpec} {c : Container} (hc : c ∈ pod.Containers) :
    rewrittenContainer c ∈ (RewriteHealthProbes pod).1.Containers := by
  simp only [RewriteHealthProbes, rewriteContainers_fst]
  exact List.mem_map_of_mem hc

/-! ## What the webhook records -/

/-- A recorded probe is an HTTP probe or a TCP probe, and not both. -/
def HealthProbe.WellFormed (o : HealthProbe) : Prop := o.IsHTTP = !o.IsTCPSocket

/-- Every probe recorded is well formed. -/
def HealthProbes.WellFormed (probes : HealthProbes) : Prop :=
  ∀ kind o, probes.probe kind = some o → o.WellFormed

@[simp] theorem IsHTTP_rewriteGet (get : HTTPGetAction) (original : HealthProbe) (isHTTPS : Bool)
    (port : Int) (containerPorts : List ContainerPort) (timeoutSeconds : Int) :
    (rewriteGet get original isHTTPS port containerPorts timeoutSeconds).2.IsHTTP =
      original.IsHTTP := rfl

@[simp] theorem IsTCPSocket_rewriteGet (get : HTTPGetAction) (original : HealthProbe)
    (isHTTPS : Bool) (port : Int) (containerPorts : List ContainerPort) (timeoutSeconds : Int) :
    (rewriteGet get original isHTTPS port containerPorts timeoutSeconds).2.IsTCPSocket =
      original.IsTCPSocket := rfl

/-- What `rewriteProbe` records is well formed: the three schemes an HTTP probe may have are
    one kind each, and a TCP probe is a TCP probe. -/
theorem wellFormed_rewriteProbe {probe : Option Probe} {path : String} {port : Int}
    {containerPorts : List ContainerPort} {o : HealthProbe}
    (h : (rewriteProbe probe path port containerPorts).2 = some o) : o.WellFormed := by
  unfold rewriteProbe at h
  split at h
  · cases h
  · split at h
    · rename_i get _
      obtain rfl := Option.some.inj h
      simp only [HealthProbe.WellFormed, IsHTTP_rewriteGet, IsTCPSocket_rewriteGet]
      rcases get.Scheme with _ | _ | _ <;> decide
    · obtain rfl := Option.some.inj h
      rfl
    · cases h

theorem wellFormed_rewriteKind {kind : ProbeKind} {path : String} {port : Nat} {c : Container}
    {o : HealthProbe} (h : (rewriteKind kind path port c).2 = some o) : o.WellFormed :=
  @wellFormed_rewriteProbe _ path _ _ _ h

/-- One container keeps the records well formed: each record is the container's own or the one
    before. -/
theorem wellFormed_rewriteContainer {probes : HealthProbes} (hwf : probes.WellFormed)
    (c : Container) : (rewriteContainer probes c).2.WellFormed := by
  intro kind o h
  have hbefore := hwf kind o
  cases kind <;>
    simp only [rewriteContainer, HealthProbes.probe, Option.or_eq_some_iff] at h hbefore <;>
    rcases h with h | ⟨_, h⟩
  all_goals first | exact wellFormed_rewriteKind h | exact hbefore h

theorem wellFormed_rewriteContainers {probes : HealthProbes} (hwf : probes.WellFormed) :
    ∀ cs : List Container, (rewriteContainers probes cs).2.WellFormed := by
  intro cs
  -- the records are carried through the loop, one container at a time
  induction cs generalizing probes with
  | nil => exact hwf
  | cons c cs ih => exact ih (wellFormed_rewriteContainer hwf c)

/-- Every probe `RewriteHealthProbes` records is an HTTP probe or a TCP probe. -/
theorem wellFormed_RewriteHealthProbes (pod : PodSpec) : (RewriteHealthProbes pod).2.WellFormed :=
  wellFormed_rewriteContainers (fun kind _ h => by cases kind <;> cases h) pod.Containers

/-- The request the kubelet sends for a rewritten HTTP probe, of any scheme, once the API server
    has defaulted it: a plain GET of `HealthcheckPath` on the kind's port. -/
theorem kubeletRequest_rewriteProbe_get {p : Probe} {get : HTTPGetAction} (hget : p.HTTPGet = some get)
    (path : String) (port : Int) (containerPorts : List ContainerPort) :
    ∃ p' req, (rewriteProbe (some p) path port containerPorts).1 = some p' ∧
      kubeletRequest (defaultProbe p') = some req ∧
      req.Port = port ∧ req.Path = HealthcheckPath ∧ req.Scheme = .HTTP := by
  simp only [rewriteProbe, hget]
  refine ⟨_, _, rfl, rfl, rfl, rfl, ?_⟩
  -- every scheme comes out as `HTTP`: `HTTPS` is rewritten, an empty one defaulted
  rcases hs : get.Scheme with _ | _ | _ <;> simp_all [rewriteGet]

/-! ## What the API server stores and `osm-healthcheck` reads -/

section stored

variable {p : Probe} {get : HTTPGetAction} {path : String} {port port₀ : Int}
  {containerPorts : List ContainerPort}

/-- A plain HTTP probe as the API server stores it once rewritten: a GET of `HealthcheckPath`
    on `port`, with the probe's headers and then its original port (80 when it is 0) and
    path. -/
theorem defaultProbe_rewriteProbe_http (hget : p.HTTPGet = some get)
    (hscheme : get.Scheme ≠ some .HTTPS) (hport : getPort get.Port containerPorts = .ok port₀) :
    (rewriteProbe (some p) path port containerPorts).1.map defaultProbe =
      some { p with
        HTTPGet := some
          { Path := HealthcheckPath, Port := .int port, Scheme := some .HTTP
            HTTPHeaders := get.HTTPHeaders ++
              [⟨"Original-Http-Port", toString (if port₀ = 0 then 80 else port₀)⟩,
                ⟨"Original-Http-Path", get.Path⟩] } } := by
  have hhttp : get.Scheme = none ∨ get.Scheme = some .HTTP := by
    rcases hs : get.Scheme with _ | _ | _ <;> simp_all
  simp only [rewriteProbe, hget, rewriteGet, hport]
  rcases hhttp with hs | hs <;> simp [hs, defaultProbe, defaultGet]

/-- An `HTTPS` probe as the API server stores it once rewritten: a plain GET of
    `HealthcheckPath` on `port`, with the probe's headers and then its original port (443 when
    it is 0) as a TCP port. -/
theorem defaultProbe_rewriteProbe_https (hget : p.HTTPGet = some get)
    (hscheme : get.Scheme = some .HTTPS) (hport : getPort get.Port containerPorts = .ok port₀) :
    (rewriteProbe (some p) path port containerPorts).1.map defaultProbe =
      some { p with
        HTTPGet := some
          { Path := HealthcheckPath, Port := .int port, Scheme := some .HTTP
            HTTPHeaders := get.HTTPHeaders ++
              [⟨"Original-Tcp-Port", toString (if port₀ = 0 then 443 else port₀)⟩] } } := by
  simp only [rewriteProbe, hget, rewriteGet, hport, hscheme]
  simp [defaultProbe, defaultGet]

end stored

theorem localAddress_eq (port : String) : localAddress port = "127.0.0.1:" ++ port :=
  congrArg (· ++ port) (by decide : LocalhostIPAddress ++ ":" = "127.0.0.1:")

/-- A header appended after headers of other names is the one `Get` finds. -/
theorem headerGet_append_of_forall_ne {headers : List HTTPHeader} {name : String}
    (h : ∀ hd ∈ headers, hd.Name ≠ name) (value : String) (rest : List HTTPHeader) :
    headerGet (headers ++ ⟨name, value⟩ :: rest) name = value := by
  have hnone : headers.find? (·.Name = name) = none := List.find?_eq_none.mpr (by simpa using h)
  simp [headerGet, List.find?_append, hnone]

/-- `osm-healthcheck` connects to the port a GET of `HealthcheckPath` names. -/
theorem healthcheckHandler_of_header {req : ProbeRequest} (hscheme : req.Scheme = .HTTP)
    (hpath : req.Path = HealthcheckPath) {port : String}
    (hheader : headerGet req.Headers "Original-Tcp-Port" = port) (hne : port ≠ "") :
    healthcheckHandler req = .tcpConnect (localAddress port) := by
  simp [healthcheckHandler, hscheme, hpath, hheader, hne]

end OsmEdge.Injector
