import Mathlib
import OsmEdge.Injector.HealthProbes
import OsmEdge.Pipy.Conf

/-
  The health probes of a pod under the Pipy sidecar: the probes the controller records of the
  pod (`UpdateProxy` of `repo/inform.go`, copied into `Spec.Probes` by `probes` of
  `repo/jobs.go`), the probe listeners of `main.js` and the `liveness`, `readiness` and
  `startup` pipelines of `probes.js`.

  The controller records, kind by kind, the probes of the pod's containers in the order of the
  containers, as the API server stores them: rewritten by the webhook and defaulted. `main.js`
  listens on a kind's probe port when the first of them is a GET on that port, and `probes.js`
  parses that first probe only. The headers the webhook appended to it give the pipeline of the
  kind: `Original-Http-Port` and `Original-Http-Path` a plain HTTP proxy to the original port
  with the original path, `Original-Tcp-Port` a raw connection to `osm-healthcheck`. Every
  probe of the kind is sent down that pipeline, whichever container it belongs to.

  Proved: when the first container with a probe of a kind has a plain HTTP probe, every HTTP
  probe of that kind in the pod reaches the first container's original port and path
  (`pipy_http_probes_follow_first`); when it has an `HTTPS` probe, that probe becomes a TCP
  check of its original port through `osm-healthcheck`, refused when `osm-healthcheck` was not
  injected (`pipy_https_probe_tcp_check`).
-/

namespace OsmEdge.Pipy

open OsmEdge.Constants OsmEdge.Injector

/-! ## The recorded probes -/

/-- `Spec.Probes` of the sidecar's configuration. -/
structure Probes where
  ReadinessProbes : List Probe := []
  LivenessProbes : List Probe := []
  StartupProbes : List Probe := []
  deriving DecidableEq, Repr

/-- The recorded probes of a kind. -/
def Probes.probes (probes : Probes) : ProbeKind → List Probe
  | .liveness => probes.LivenessProbes
  | .readiness => probes.ReadinessProbes
  | .startup => probes.StartupProbes

/-- One turn of the loop of `UpdateProxy` over the pod's containers: each probe the container
    has is appended to the list of its kind. -/
def recordContainer (probes : Probes) (c : Container) : Probes :=
  { ReadinessProbes := probes.ReadinessProbes ++ c.ReadinessProbe.toList
    LivenessProbes := probes.LivenessProbes ++ c.LivenessProbe.toList
    StartupProbes := probes.StartupProbes ++ c.StartupProbe.toList }

/-- The probes `UpdateProxy` records of the pod's containers; `probes` copies them into
    `Spec.Probes` as they are. -/
def recordProbes (containers : List Container) : Probes :=
  containers.foldl recordContainer {}

/-- A container as the API server stores it: its HTTP probes defaulted. -/
def defaultContainer (c : Container) : Container :=
  { c with LivenessProbe := c.LivenessProbe.map defaultProbe
           ReadinessProbe := c.ReadinessProbe.map defaultProbe
           StartupProbe := c.StartupProbe.map defaultProbe }

/-- The containers of the pod the informer sees: the webhook's, defaulted. The containers the
    Pipy driver appends (`osm-healthcheck` and the sidecar) have no probes. -/
def storedContainers (pod : PodSpec) : List Container :=
  (RewriteHealthProbes pod).1.Containers.map defaultContainer

/-! ## `probes.js` -/

/-- JavaScript's `!x` on a string that may be `undefined`. -/
def falsy : Option String → Bool
  | none => true
  | some s => s == ""

/-- The traffic matches of the inbound policy as `Object.entries` lists them: by ascending
    port. -/
def trafficMatchEntries : Option InboundTrafficPolicy → List (UInt16 × InboundTrafficMatch)
  | some policy =>
    (policy.TrafficMatches.entries.map fun e => (e.1, e.2)).mergeSort fun a b => a.1 ≤ b.1
  | none => []

/-- `inboundTarget`: the address of the last `http` traffic match that comes first or has no
    source ranges. A match's `SourceIPRanges` is nil until a range is added, so it is falsy
    exactly when it is empty. -/
def inboundTarget (trafficMatches : List (UInt16 × InboundTrafficMatch)) : Option String :=
  trafficMatches.foldl (fun target e =>
    if e.2.Protocol = "http" ∧ (falsy target ∨ e.2.SourceIPRanges.entries = []) then
      some ("127.0.0.1:" ++ toString e.1)
    else target) none

/-- The values `scheme` takes in `probes.js`: the probe's `scheme`, or `'TCP'`. -/
inductive ProbeScheme
  | HTTP
  | HTTPS
  | TCP
  deriving DecidableEq, Repr

/-- The scheme of a probe, as its JSON spells it. -/
def ProbeScheme.ofURIScheme : URIScheme → ProbeScheme
  | .HTTP => .HTTP
  | .HTTPS => .HTTPS

/-- What `parseProbe` returns: `{ path, target, scheme }`, each possibly `undefined`. -/
structure ParsedProbe where
  path : Option String
  target : Option String
  scheme : Option ProbeScheme
  deriving DecidableEq, Repr

/-- One header of the `forEach` of `parseProbe`. -/
def readHeader (probe : ParsedProbe) (h : HTTPHeader) : ParsedProbe :=
  let probe :=
    if h.Name = "Original-Http-Port" then { probe with target := some ("127.0.0.1:" ++ h.Value) }
    else probe
  let probe :=
    if h.Name = "Original-Tcp-Port" then
      { probe with target := some "127.0.0.1:15904", scheme := some .TCP }
    else probe
  if h.Name = "Original-Http-Path" then { probe with path := some h.Value } else probe

/-- The end of `parseProbe`: a missing target is the scheme's default port, a missing path
    `/`. -/
def parseDefaults (probe : ParsedProbe) : ParsedProbe :=
  let probe :=
    if falsy probe.target then
      if probe.scheme = some .HTTP then { probe with target := some "127.0.0.1:80" }
      else if probe.scheme = some .HTTPS then { probe with target := some "127.0.0.1:443" }
      else probe
    else probe
  if falsy probe.path then { probe with path := some "/" } else probe

/-- `parseProbe(config, port)`: the inner function runs at once, with `path` and `scheme`
    undefined and `target` the inbound target. Only a GET on `port` is read. -/
def parseProbe (inboundTarget : Option String) (config : Option Probe) (port : Int) :
    ParsedProbe :=
  let probe : ParsedProbe := { path := none, target := inboundTarget, scheme := none }
  match config.bind (·.HTTPGet) with
  | some get =>
    if get.Port = .int port then
      parseDefaults (get.HTTPHeaders.foldl readHeader
        { probe with scheme := get.Scheme.map .ofURIScheme })
    else probe
  | none => probe

/-- `livenessProbe`, `readinessProbe` and `startupProbe`: the first recorded probe of the kind,
    parsed for the kind's port. -/
def kindProbe (inbound : Option InboundTrafficPolicy) (probes : Probes) (kind : ProbeKind) :
    ParsedProbe :=
  parseProbe (inboundTarget (trafficMatchEntries inbound)) (probes.probes kind).head? kind.port

/-- `connect(target)`: the request goes to `target`, which on the port of `osm-healthcheck` is
    `osm-healthcheck` when it was injected. -/
def connectTarget (healthcheck : Bool) (target : String) (req : ProbeRequest) : Delivery :=
  if target = localAddress (toString HealthcheckPort) then
    if healthcheck then healthcheckHandler req else .refused
  else .http target req.Path (req.Scheme = .HTTPS)

/-- The pipeline of a kind: for an `HTTP` probe the requests are read as plain HTTP and sent on
    with the probe's path; otherwise the connection goes to the target as it is, and is reset
    without one. The path and the target of an `HTTP` probe are always set, `parseDefaults`
    having run. -/
def probePipeline (healthcheck : Bool) (probe : ParsedProbe) (req : ProbeRequest) : Delivery :=
  if probe.scheme = some .HTTP then
    match probe.path, probe.target with
    | some path, some target =>
      if req.Scheme ≠ .HTTP then .reset
      else connectTarget healthcheck target { req with Path := path }
    | _, _ => .reset
  else
    match probe.target with
    | some target => if target = "" then .reset else connectTarget healthcheck target req
    | none => .reset

/-- `main.js` listens on a kind's probe port when the first recorded probe of the kind is a
    GET on that port. -/
def listensOn (probes : Probes) (kind : ProbeKind) : Bool :=
  match (probes.probes kind).head?.bind (·.HTTPGet) with
  | some get => get.Port = .int kind.port
  | none => false

/-- What the sidecar does with a request of the kubelet: the pipeline of the kind whose port it
    listens on, or a refused connection. -/
def pipyServe (inbound : Option InboundTrafficPolicy) (probes : Probes) (healthcheck : Bool)
    (req : ProbeRequest) : Delivery :=
  match [ProbeKind.liveness, .readiness, .startup].find?
      (fun kind => listensOn probes kind && (kind.port : Int) = req.Port) with
  | some kind => probePipeline healthcheck (kindProbe inbound probes kind) req
  | none => .refused

/-- What reaches the containers of a pod under the Pipy sidecar for a request of the kubelet:
    the webhook's pod is stored and its probes recorded, and `osm-healthcheck` is injected when
    a recorded original uses TCP. -/
def pipyDeliver (inbound : Option InboundTrafficPolicy) (pod : PodSpec) (req : ProbeRequest) :
    Delivery :=
  let healthcheck := (RewriteHealthProbes pod).2.UsesTCP
  deliver (pipyServe inbound (recordProbes (storedContainers pod)) healthcheck) healthcheck req

/-! ## The first recorded probe of a kind -/

@[simp] theorem probes_recordContainer (probes : Probes) (c : Container) (kind : ProbeKind) :
    (recordContainer probes c).probes kind = probes.probes kind ++ (c.probe kind).toList := by
  cases kind <;> rfl

/-- The loop of `UpdateProxy` appends the containers' probes of a kind, in their order. -/
theorem probes_foldl_recordContainer (kind : ProbeKind) :
    ∀ (cs : List Container) (probes : Probes),
      (cs.foldl recordContainer probes).probes kind =
        probes.probes kind ++ cs.filterMap (·.probe kind) := by
  intro cs
  induction cs with
  | nil => intro probes; simp
  | cons c cs ih =>
    intro probes
    rw [List.foldl_cons, ih, probes_recordContainer, List.filterMap_cons]
    cases c.probe kind <;> simp

theorem probes_recordProbes (cs : List Container) (kind : ProbeKind) :
    (recordProbes cs).probes kind = cs.filterMap (·.probe kind) := by
  rw [recordProbes, probes_foldl_recordContainer]
  cases kind <;> rfl

@[simp] theorem probe_defaultContainer (c : Container) (kind : ProbeKind) :
    (defaultContainer c).probe kind = (c.probe kind).map defaultProbe := by
  cases kind <;> rfl

/-- The containers the informer sees are the pod's, each rewritten and defaulted. -/
theorem storedContainers_eq (pod : PodSpec) :
    storedContainers pod = pod.Containers.map (defaultContainer ∘ rewrittenContainer) := by
  simp only [storedContainers, RewriteHealthProbes, rewriteContainers_fst, List.map_map]

/-- The first probe of a kind the controller records is the one of the first container that
    has one, rewritten and defaulted. -/
theorem head?_recordProbes {pod : PodSpec} {pre post : List Container} {c : Container}
    (hpod : pod.Containers = pre ++ c :: post) {kind : ProbeKind}
    (hpre : ∀ c' ∈ pre, c'.probe kind = none) {q : Probe}
    (hc : ((rewrittenContainer c).probe kind).map defaultProbe = some q) :
    ((recordProbes (storedContainers pod)).probes kind).head? = some q := by
  -- the containers before hold no probe of the kind, neither rewritten nor defaulted
  have hnone : pre.filterMap ((·.probe kind) ∘ defaultContainer ∘ rewrittenContainer) = [] := by
    refine List.filterMap_eq_nil_iff.mpr fun c' hc' => ?_
    rw [Function.comp_apply, Function.comp_apply, probe_defaultContainer,
      probe_rewrittenContainer, hpre c' hc']
    rfl
  rw [probes_recordProbes, storedContainers_eq, hpod, List.filterMap_map, List.filterMap_append,
    hnone, List.nil_append, List.filterMap_cons_some (by simpa using hc)]
  rfl

/-- A kind whose first recorded probe is a GET on its port is listened on. -/
theorem listensOn_of_head? {probes : Probes} {kind : ProbeKind} {q : Probe}
    (hq : (probes.probes kind).head? = some q) {get : HTTPGetAction} (hget : q.HTTPGet = some get)
    (hport : get.Port = .int kind.port) : listensOn probes kind = true := by
  simp [listensOn, hq, hget, hport]

/-! ## Parsing the first probe -/

section parse

variable (probe : ParsedProbe) (v : String)

theorem readHeader_eq (h : HTTPHeader) :
    readHeader probe h =
      let probe :=
        if h.Name = "Original-Http-Port" then
          { probe with target := some ("127.0.0.1:" ++ h.Value) }
        else probe
      let probe :=
        if h.Name = "Original-Tcp-Port" then
          { probe with target := some "127.0.0.1:15904", scheme := some .TCP }
        else probe
      if h.Name = "Original-Http-Path" then { probe with path := some h.Value } else probe :=
  rfl

@[simp] theorem readHeader_httpPort :
    readHeader probe ⟨"Original-Http-Port", v⟩ =
      { probe with target := some ("127.0.0.1:" ++ v) } := by
  rw [readHeader_eq]
  simp

@[simp] theorem readHeader_tcpPort :
    readHeader probe ⟨"Original-Tcp-Port", v⟩ =
      { probe with target := some "127.0.0.1:15904", scheme := some .TCP } := by
  rw [readHeader_eq]
  simp

@[simp] theorem readHeader_httpPath :
    readHeader probe ⟨"Original-Http-Path", v⟩ = { probe with path := some v } := by
  rw [readHeader_eq]
  simp

/-- Only an `Original-Tcp-Port` header changes the scheme. -/
theorem scheme_readHeader {h : HTTPHeader} (hname : h.Name ≠ "Original-Tcp-Port") :
    (readHeader probe h).scheme = probe.scheme := by
  rw [readHeader_eq]
  by_cases hport : h.Name = "Original-Http-Port" <;>
    by_cases hpath : h.Name = "Original-Http-Path" <;>
    simp [hport, hpath, hname]

end parse

/-- Headers none of which is `Original-Tcp-Port` keep the scheme. -/
theorem scheme_foldl_readHeader :
    ∀ (headers : List HTTPHeader) (probe : ParsedProbe),
      (∀ h ∈ headers, h.Name ≠ "Original-Tcp-Port") →
        (headers.foldl readHeader probe).scheme = probe.scheme := by
  intro headers
  induction headers with
  | nil => intro probe _; rfl
  | cons h hs ih =>
    intro probe hnames
    rw [List.foldl_cons, ih _ fun h' hh' => hnames h' (List.mem_cons_of_mem h hh'),
      scheme_readHeader probe (hnames h List.mem_cons_self)]

theorem falsy_eq_false {s : String} (h : s ≠ "") : falsy (some s) = false := by
  simpa [falsy] using h

theorem local_ne_empty (v : String) : "127.0.0.1:" ++ v ≠ "" := by
  simp [String.append_eq_empty_iff]

/-- The defaults leave a probe whose target and path are set as it is. -/
theorem parseDefaults_of_set {probe : ParsedProbe} {path target : String}
    (hpath : probe.path = some path) (hpath' : path ≠ "") (htarget : probe.target = some target)
    (htarget' : target ≠ "") : parseDefaults probe = probe := by
  simp [parseDefaults, hpath, htarget, falsy_eq_false hpath', falsy_eq_false htarget']

/-- The defaults keep the scheme, and a target that is set. -/
theorem parseDefaults_target {probe : ParsedProbe} {target : String}
    (htarget : probe.target = some target) (htarget' : target ≠ "") :
    (parseDefaults probe).target = some target ∧ (parseDefaults probe).scheme = probe.scheme := by
  simp only [parseDefaults, htarget, falsy_eq_false htarget', Bool.false_eq_true, if_false]
  split <;> simp [htarget]

/-- `parseProbe` on a GET on its port: the headers read in order from the probe's scheme, then
    the defaults. -/
theorem parseProbe_get (inboundTarget : Option String) {p : Probe} {get : HTTPGetAction}
    (hget : p.HTTPGet = some get) {port : Int} (hport : get.Port = .int port) :
    parseProbe inboundTarget (some p) port =
      parseDefaults (get.HTTPHeaders.foldl readHeader
        { path := none, target := inboundTarget, scheme := get.Scheme.map .ofURIScheme }) := by
  simp [parseProbe, hget, hport]

theorem toString_int_ne_empty (x : Int) : toString x ≠ "" := by
  cases x with
  | ofNat n => exact Nat.repr_ne_empty
  | negSucc n => simp [toString, Int.repr, String.append_eq_empty_iff]

section stored

variable (inboundTarget : Option String) {p : Probe} {get : HTTPGetAction} {port : Int}
  (hget : p.HTTPGet = some get) (hport : get.Port = .int port)
include hget hport

/-- A rewritten plain HTTP probe gives an `HTTP` pipeline to the port and the path of its
    `Original-Http-Port` and `Original-Http-Path` headers. -/
theorem parseProbe_http (hscheme : get.Scheme = some .HTTP) {headers : List HTTPHeader}
    {v path : String}
    (hheaders : get.HTTPHeaders =
      headers ++ [⟨"Original-Http-Port", v⟩, ⟨"Original-Http-Path", path⟩])
    (hnames : ∀ h ∈ headers, h.Name ≠ "Original-Tcp-Port") (hpath : path ≠ "") :
    parseProbe inboundTarget (some p) port =
      { path := some path, target := some ("127.0.0.1:" ++ v), scheme := some .HTTP } := by
  rw [parseProbe_get inboundTarget hget hport, hheaders, List.foldl_append, List.foldl_cons,
    List.foldl_cons, List.foldl_nil, readHeader_httpPort, readHeader_httpPath,
    parseDefaults_of_set rfl hpath rfl (local_ne_empty v)]
  -- the headers before the two the webhook appended leave the scheme `HTTP`
  have hscheme' := scheme_foldl_readHeader headers
    { path := none, target := inboundTarget, scheme := get.Scheme.map .ofURIScheme } hnames
  dsimp only
  rw [hscheme', hscheme]
  rfl

/-- A rewritten `HTTPS` probe is read as a TCP probe of `osm-healthcheck`. -/
theorem parseProbe_tcp {headers : List HTTPHeader} {v : String}
    (hheaders : get.HTTPHeaders = headers ++ [⟨"Original-Tcp-Port", v⟩]) :
    (parseProbe inboundTarget (some p) port).target = some "127.0.0.1:15904" ∧
      (parseProbe inboundTarget (some p) port).scheme = some .TCP := by
  rw [parseProbe_get inboundTarget hget hport, hheaders, List.foldl_append, List.foldl_cons,
    List.foldl_nil, readHeader_tcpPort]
  exact parseDefaults_target rfl (by decide)

end stored

/-! ## The pipelines -/

theorem connectTarget_healthcheck (healthcheck : Bool) (req : ProbeRequest) :
    connectTarget healthcheck "127.0.0.1:15904" req =
      if healthcheck then healthcheckHandler req else .refused := by
  rw [connectTarget, if_pos (by decide)]

/-- A target on a port other than that of `osm-healthcheck` gets the request as it is sent. -/
theorem connectTarget_local {port : Int} (hport : port ≠ HealthcheckPort) (healthcheck : Bool)
    (req : ProbeRequest) :
    connectTarget healthcheck ("127.0.0.1:" ++ toString port) req =
      .http (localAddress (toString port)) req.Path (req.Scheme = .HTTPS) := by
  have hne : "127.0.0.1:" ++ toString port ≠ localAddress (toString HealthcheckPort) := by
    rw [localAddress_eq]
    intro h
    have hrepr : toString port = toString (HealthcheckPort : Int) :=
      (String.append_right_inj _).mp h
    exact hport (Int.repr_inj.mp hrepr)
  rw [connectTarget, if_neg hne, localAddress_eq]

theorem probePipeline_http (healthcheck : Bool) (path target : String) {req : ProbeRequest}
    (hreq : req.Scheme = .HTTP) :
    probePipeline healthcheck { path := some path, target := some target, scheme := some .HTTP }
      req = connectTarget healthcheck target { req with Path := path } := by
  simp [probePipeline, hreq]

theorem probePipeline_raw (healthcheck : Bool) {probe : ParsedProbe}
    (hscheme : probe.scheme ≠ some .HTTP) {target : String} (htarget : probe.target = some target)
    (hne : target ≠ "") (req : ProbeRequest) :
    probePipeline healthcheck probe req = connectTarget healthcheck target req := by
  simp [probePipeline, hscheme, htarget, hne]

/-- On the port of a kind it listens on, the sidecar runs the kind's pipeline. -/
theorem pipyServe_of_listensOn {probes : Probes} {kind : ProbeKind}
    (hl : listensOn probes kind = true) {req : ProbeRequest} (hport : req.Port = kind.port)
    (inbound : Option InboundTrafficPolicy) (healthcheck : Bool) :
    pipyServe inbound probes healthcheck req =
      probePipeline healthcheck (kindProbe inbound probes kind) req := by
  rw [pipyServe, hport]
  -- the kinds' ports differ, so the kind is the one `find?` stops at
  cases kind <;> simp [hl, ProbeKind.port, LivenessProbePort, ReadinessProbePort, StartupProbePort]

/-- The kubelet's requests on a kind's probe port go to the sidecar. -/
theorem pipyDeliver_of_port (inbound : Option InboundTrafficPolicy) (pod : PodSpec)
    (kind : ProbeKind) {req : ProbeRequest} (hport : req.Port = kind.port) :
    pipyDeliver inbound pod req =
      pipyServe inbound (recordProbes (storedContainers pod)) (RewriteHealthProbes pod).2.UsesTCP
        req := by
  have hne : req.Port ≠ HealthcheckPort := by
    rw [hport]
    cases kind <;> decide
  rw [pipyDeliver, deliver, if_neg hne]

/-! ## Every probe of a kind follows the first -/

section first

variable (inbound : Option InboundTrafficPolicy) {pod : PodSpec} {pre post : List Container}
  {c₁ : Container} (hpod : pod.Containers = pre ++ c₁ :: post) (kind : ProbeKind)
  (hpre : ∀ c ∈ pre, c.probe kind = none) {p₁ : Probe} {get₁ : HTTPGetAction}
  (hp₁ : c₁.probe kind = some p₁) (hget₁ : p₁.HTTPGet = some get₁) {port₁ : Int}
  (hport₁ : getPort get₁.Port c₁.Ports = .ok port₁) (hport₁0 : port₁ ≠ 0)
  (hheaders₁ : ∀ h ∈ get₁.HTTPHeaders, h.Name ≠ "Original-Tcp-Port")

/-- A container whose liveness probe is a plain HTTP GET of `/healthz` on 14001. -/
def webContainer : Container :=
  { Ports := [⟨"web", 14001⟩]
    LivenessProbe := some
      { HTTPGet := some
          { Path := "/healthz", Port := .int 14001, Scheme := none, HTTPHeaders := [] }
        TCPSocket := none, TimeoutSeconds := 1 }
    ReadinessProbe := none, StartupProbe := none }

/-- A container whose liveness probe is a plain HTTP GET of `/ready` on its port `admin`. -/
def adminContainer : Container :=
  { Ports := [⟨"admin", 8080⟩]
    LivenessProbe := some
      { HTTPGet := some
          { Path := "/ready", Port := .string "admin", Scheme := none, HTTPHeaders := [] }
        TCPSocket := none, TimeoutSeconds := 1 }
    ReadinessProbe := none, StartupProbe := none }

/-- A pod of the two containers, `webContainer` first. -/
def twoContainerPod : PodSpec := { Containers := [webContainer, adminContainer] }

include hpod hpre hp₁ hget₁ hport₁ hport₁0 hheaders₁ in
/-- Under the Pipy sidecar every HTTP probe of a kind goes where the first probe of the kind
    goes. Let the first container with a probe of the kind have a plain HTTP probe whose port
    resolves, to a port other than that of `osm-healthcheck`, whose path is not empty and none
    of whose headers is named `Original-Tcp-Port`. Then the kubelet's request for the rewritten
    HTTP probe of the kind of any container of the pod, of any scheme and port, reaches the
    first container's original port with its original path. -/
theorem pipy_http_probes_follow_first (hscheme₁ : get₁.Scheme ≠ some .HTTPS)
    (hport₁hc : port₁ ≠ HealthcheckPort) (hpath₁ : get₁.Path ≠ "") {c : Container}
    (hc : c ∈ pod.Containers) {p : Probe} {get : HTTPGetAction} (hp : c.probe kind = some p)
    (hget : p.HTTPGet = some get) :
    ∃ p' req, rewrittenContainer c ∈ (RewriteHealthProbes pod).1.Containers ∧
      (rewrittenContainer c).probe kind = some p' ∧ kubeletRequest (defaultProbe p') = some req ∧
      pipyDeliver inbound pod req = .http (localAddress (toString port₁)) get₁.Path false := by
  -- the first recorded probe of the kind is the first container's, and is listened on
  have hq₁ := @defaultProbe_rewriteProbe_http _ _ kind.path kind.port _ _ hget₁ hscheme₁ hport₁
  rw [← hp₁, ← probe_rewrittenContainer] at hq₁
  have hhead := head?_recordProbes hpod hpre hq₁
  have hlisten := listensOn_of_head? hhead rfl rfl
  -- `probes.js` reads its two appended headers
  have hparse : kindProbe inbound (recordProbes (storedContainers pod)) kind =
      { path := some get₁.Path, target := some ("127.0.0.1:" ++ toString port₁)
        scheme := some .HTTP } := by
    rw [kindProbe, hhead]
    exact parseProbe_http _ rfl rfl rfl (by rw [if_neg hport₁0]) hheaders₁ hpath₁
  -- the request of the container's own probe is a plain GET on the kind's port
  obtain ⟨p', req, hp', hreq, hreqPort, -, hreqScheme⟩ :=
    kubeletRequest_rewriteProbe_get hget kind.path kind.port c.Ports
  refine ⟨p', req, mem_RewriteHealthProbes hc, by rw [probe_rewrittenContainer, hp, hp'], hreq, ?_⟩
  rw [pipyDeliver_of_port inbound pod kind hreqPort, pipyServe_of_listensOn hlisten hreqPort,
    hparse, probePipeline_http _ _ _ hreqScheme, connectTarget_local hport₁hc]
  simp [hreqScheme]

/-- The liveness probe of `adminContainer` reaches the port and the path of `webContainer`'s. -/
theorem pipy_http_probes_follow_first_admin :
    ∃ p' req,
      rewrittenContainer adminContainer ∈ (RewriteHealthProbes twoContainerPod).1.Containers ∧
      (rewrittenContainer adminContainer).probe .liveness = some p' ∧
      kubeletRequest (defaultProbe p') = some req ∧
      pipyDeliver none twoContainerPod req =
        .http (localAddress (toString (14001 : Int))) "/healthz" false :=
  pipy_http_probes_follow_first none
    (show twoContainerPod.Containers = [] ++ webContainer :: [adminContainer] from rfl) .liveness
    (by simp) rfl rfl rfl (by decide) (by simp) (by simp) (by decide) (by decide)
    (by simp [twoContainerPod]) rfl rfl

/-- A container whose liveness probe is an `HTTPS` GET of `/healthz` on its port `https`. -/
def secureContainer : Container :=
  { Ports := [⟨"https", 8443⟩]
    LivenessProbe := some
      { HTTPGet := some
          { Path := "/healthz", Port := .string "https", Scheme := some .HTTPS, HTTPHeaders := [] }
        TCPSocket := none, TimeoutSeconds := 1 }
    ReadinessProbe := none, StartupProbe := none }

/-- A pod of `secureContainer` and then `webContainer`. -/
def mixedSchemePod : PodSpec := { Containers := [secureContainer, webContainer] }

include hpod hpre hp₁ hget₁ hport₁ hport₁0 hheaders₁ in
/-- Under the Pipy sidecar an `HTTPS` probe that is the first of its kind becomes a TCP check
    of its original port through `osm-healthcheck`, and is refused when `osm-healthcheck` was
    not injected, that is when no recorded original (the last container's of each kind) uses
    TCP. -/
theorem pipy_https_probe_tcp_check (hscheme₁ : get₁.Scheme = some .HTTPS) :
    ∃ p' req, (rewrittenContainer c₁).probe kind = some p' ∧
      kubeletRequest (defaultProbe p') = some req ∧
      pipyDeliver inbound pod req =
        if (RewriteHealthProbes pod).2.UsesTCP then .tcpConnect (localAddress (toString port₁))
        else .refused := by
  have hq₁ := @defaultProbe_rewriteProbe_https _ _ kind.path kind.port _ _ hget₁ hscheme₁ hport₁
  rw [← hp₁, ← probe_rewrittenContainer, if_neg hport₁0] at hq₁
  have hhead := head?_recordProbes hpod hpre hq₁
  have hlisten := listensOn_of_head? hhead rfl rfl
  -- `probes.js` reads the first probe as a TCP probe of `osm-healthcheck`
  obtain ⟨htarget, hscheme⟩ :
      (kindProbe inbound (recordProbes (storedContainers pod)) kind).target =
          some "127.0.0.1:15904" ∧
        (kindProbe inbound (recordProbes (storedContainers pod)) kind).scheme = some .TCP := by
    rw [kindProbe, hhead]
    exact parseProbe_tcp _ rfl rfl rfl
  obtain ⟨p', hp', hdefault⟩ := Option.map_eq_some_iff.mp hq₁
  refine ⟨p', _, hp', by rw [hdefault]; rfl, ?_⟩
  -- the request passes as it is to `osm-healthcheck`, which reads the appended header
  rw [pipyDeliver_of_port inbound pod kind rfl, pipyServe_of_listensOn hlisten rfl,
    probePipeline_raw _ (by rw [hscheme]; decide) htarget (by decide), connectTarget_healthcheck,
    healthcheckHandler_of_header rfl rfl (headerGet_append_of_forall_ne hheaders₁ _ [])
      (toString_int_ne_empty port₁)]

/-- The `HTTPS` liveness probe of `secureContainer` is refused: the last liveness probe of the
    pod, `webContainer`'s, is plain HTTP, so `osm-healthcheck` is not injected. -/
theorem pipy_https_probe_tcp_check_refused :
    ∃ p' req, (rewrittenContainer secureContainer).probe .liveness = some p' ∧
      kubeletRequest (defaultProbe p') = some req ∧
      pipyDeliver none mixedSchemePod req = .refused := by
  obtain ⟨p', req, hp', hreq, hdeliver⟩ := pipy_https_probe_tcp_check none
    (show mixedSchemePod.Containers = [] ++ secureContainer :: [webContainer] from rfl) .liveness
    (by simp) rfl rfl rfl (by decide) (by simp) rfl
  refine ⟨p', req, hp', hreq, ?_⟩
  rw [hdeliver, if_neg (by decide)]

end first

end OsmEdge.Pipy
