import OsmEdge.Pipy.Mesh
import OsmEdge.Lib.GoJson
import OsmEdge.Lib.GoSort
import OsmEdge.Lib.GoMap

/-
  Publishing a proxy's Pipy configuration (`PipyConfGeneratorJob.Run`, `reorder` and
  `publishSidecarConf`, `pkg/sidecar/providers/pipy/repo/jobs.go`).

  Each run builds the configuration afresh, sorts the route rules of each inbound rule name
  (`reorder`), marshals the configuration to JSON and hashes the text followed by the plugin
  set version (FNV-1, `utils.HashFromString`). When the hash differs from the proxy's `ETag`
  it derives a codebase for the proxy in the repository and writes the configuration into
  it; when both calls succeed the hash becomes the new ETag, else the codebase is deleted.

  The JSON text is modelled for the `Inbound` member, the part the inbound generators build:
  a run's document is that member with whatever text the other members give before and
  after it.

  Proved:
  * `inbound_text_depends_on_principal_order`: one mesh state, with two orders the Go set
    can hand out a rule's principals in, gives two inbound configurations whose texts differ
    at the same place, after `reorder` and whatever the rest of the document is: the route
    rule's `AllowedServices` follow the set's order (`AllowedServices_addMeshRule`), and
    `reorder` only permutes route rules (`InboundHTTPRouteRules.perm_sort`).
  * `reorder_catch_all_in_place`: the comparator puts the catch-all path `.*` before no
    rule, and no path at or above `.*` (none that begins with `/`) before it, so on up to
    twelve rules insertion sort never moves a rule past it: the catch-all keeps its place
    and shadows the rules after it.
-/

namespace OsmEdge.Utils

/-- The offset basis of 64-bit FNV. -/
def offset64 : UInt64 := 14695981039346656037

/-- The 64-bit FNV prime. -/
def prime64 : UInt64 := 1099511628211

/-- `fnv.New64` written the bytes and summed: FNV-1, multiply then xor each byte. -/
def fnv64 (bytes : List UInt8) : UInt64 :=
  bytes.foldl (fun hash b => (hash * prime64) ^^^ b.toUInt64) offset64

/-- `HashFromString`: the hash of the string's bytes; writing to the hash never fails. -/
def HashFromString (s : String) : Except String UInt64 :=
  .ok (fnv64 s.toUTF8.toList)

end OsmEdge.Utils

namespace OsmEdge.Pipy

open GoJson OsmEdge.Constants OsmEdge.Trafficpolicy OsmEdge.Service OsmEdge.Catalog

/-! ## The JSON text of the inbound configuration -/

/-- A slice of strings, `null` when the generators left it nil. -/
def strsJson (xs : List String) : Value :=
  (Value.arr (xs.map .str)).orNull xs.isEmpty

/-- A Go map the generators create on its first entry: keys written by `key`, values by
    `v`, `null` when there is no entry. -/
def mapJson {κ ν : Type} (key : κ → String) (v : ν → Value) (m : AList fun _ : κ => ν) : Value :=
  (Value.ofMap (m.entries.map fun e => (key e.1, v e.2))).orNull m.entries.isEmpty

/-- The text of the `URIMatchType` constants. -/
def URIMatchType.text : URIMatchType → String
  | .PathMatchRegex => "Regex"
  | .PathMatchExact => "Exact"
  | .PathMatchPrefix => "Prefix"

/-- `HTTPMatchRule.Headers`, a Go map. -/
def headersJson (headers : Finset (String × String)) : Value :=
  let entries := Rds.ascendingOrder.headers.enum headers
  (Value.ofMap (entries.map fun h => (h.1, .str h.2))).orNull entries.isEmpty

/-- `InboundHTTPRouteRule`: the fields of the embedded match rule and route rule, then the
    rate limit. -/
def InboundHTTPRouteRule.toJson (r : InboundHTTPRouteRule) : Value :=
  .obj [("Path", .str r.HTTPMatchRule.Path), ("Type", .str r.HTTPMatchRule.MatchType.text),
    ("Headers", headersJson r.HTTPMatchRule.Headers), ("Methods", strsJson r.HTTPMatchRule.Methods),
    ("TargetClusters", mapJson id (fun w => .num w.toNat) r.TargetClusters),
    ("AllowedServices", strsJson r.AllowedServices), ("RateLimit", .null)]

/-- `InboundHTTPRouteRules`: the plugin configurations are raw JSON. -/
def InboundHTTPRouteRules.toJson (hrrs : InboundHTTPRouteRules) : Value :=
  .obj [("RouteRules", (Value.arr (hrrs.RouteRules.map InboundHTTPRouteRule.toJson)).orNull
      hrrs.RouteRules.isEmpty),
    ("Plugins", mapJson id .raw hrrs.Plugins), ("RateLimit", .null),
    ("AllowedEndpoints", mapJson id .str hrrs.AllowedEndpoints)]

/-- `SourceSecuritySpec`. -/
def SourceSecuritySpec.toJson (spec : SourceSecuritySpec) : Value :=
  .obj [("mTLS", .bool spec.MTLS), ("SkipClientCertValidation", .bool spec.SkipClientCertValidation),
    ("AuthenticatedPrincipals", strsJson spec.AuthenticatedPrincipals)]

/-- `InboundTCPServiceRouteRules`. -/
def InboundTCPServiceRouteRules.toJson (tsrr : InboundTCPServiceRouteRules) : Value :=
  .obj [("TargetClusters", mapJson id (fun w => .num w.toNat) tsrr.TargetClusters),
    ("Plugins", mapJson id .raw tsrr.Plugins)]

/-- `InboundTrafficMatch`. -/
def InboundTrafficMatch.toJson (tm : InboundTrafficMatch) : Value :=
  .obj [("Port", .num tm.Port.toNat), ("Protocol", .str tm.Protocol),
    ("SourceIPRanges", mapJson id (fun spec => (spec.map SourceSecuritySpec.toJson).getD .null)
      tm.SourceIPRanges),
    ("HttpHostPort2Service", mapJson id .str tm.HTTPHostPort2Service),
    ("HttpServiceRouteRules", mapJson id InboundHTTPRouteRules.toJson tm.HTTPServiceRouteRules),
    ("TcpServiceRouteRules", (tm.TCPServiceRouteRules.map InboundTCPServiceRouteRules.toJson).getD .null),
    ("RateLimit", .null)]

/-- `InboundTrafficPolicy`: the traffic matches by port number; the endpoints of a cluster
    are a map made before its first entry. -/
def InboundTrafficPolicy.toJson (itp : InboundTrafficPolicy) : Value :=
  .obj [("TrafficMatches", mapJson toString InboundTrafficMatch.toJson itp.TrafficMatches),
    ("ClustersConfigs", mapJson id (fun we => Value.ofMap (we.entries.map fun e => (e.1, .num e.2.toNat)))
      itp.ClustersConfigs)]

/-- The `Inbound` member of the marshalled `PipyConf`. -/
def marshalInbound (pipyConf : PipyConf) : List Char :=
  quote "Inbound" ++ ':' :: render ((pipyConf.Inbound.map InboundTrafficPolicy.toJson).getD .null)

/-! ## `reorder` -/

/-- `InboundHTTPRouteRuleSlice.Less`: by path, the match-all path before nothing. -/
def InboundHTTPRouteRuleLess (a b : InboundHTTPRouteRule) : Bool :=
  if a.HTTPMatchRule.Path = RegexMatchAll then false
  else decide (a.HTTPMatchRule.Path < b.HTTPMatchRule.Path)

section reorder

variable (pdqsort : List InboundHTTPRouteRule → List InboundHTTPRouteRule)

/-- `InboundHTTPRouteRules.sort`: the route rules sorted by `sort.Sort` when there are at
    least two; `pdqsort` is `sort.Sort` on more than twelve. -/
def InboundHTTPRouteRules.sort (hrrs : InboundHTTPRouteRules) : InboundHTTPRouteRules :=
  if 1 < hrrs.RouteRules.length then
    { hrrs with RouteRules := GoSort.sort InboundHTTPRouteRuleLess pdqsort hrrs.RouteRules }
  else hrrs

/-- The loop of `reorder` over the rule names of a traffic match. -/
def InboundTrafficMatch.sortRouteRules (tm : InboundTrafficMatch) : InboundTrafficMatch :=
  { tm with
    HTTPServiceRouteRules := GoMap.mapVal (InboundHTTPRouteRules.sort pdqsort) tm.HTTPServiceRouteRules }

/-- The inbound part of `reorder`: the route rules of every rule name of every port sorted. -/
def reorder (pipyConf : PipyConf) : PipyConf :=
  { pipyConf with
    Inbound := pipyConf.Inbound.map fun itp =>
      { itp with TrafficMatches := GoMap.mapVal (InboundTrafficMatch.sortRouteRules pdqsort) itp.TrafficMatches } }

/-- Sorting only permutes the route rules, so each keeps the services it allows. -/
theorem InboundHTTPRouteRules.perm_sort (hpdq : ∀ xs, (pdqsort xs).Perm xs)
    (hrrs : InboundHTTPRouteRules) : (hrrs.sort pdqsort).RouteRules.Perm hrrs.RouteRules := by
  unfold InboundHTTPRouteRules.sort
  split
  · exact GoSort.perm_sort InboundHTTPRouteRuleLess hpdq hrrs.RouteRules
  · exact .refl _

/-- Every inbound rule name has at most one route rule. -/
def SingleRouteRules (pipyConf : PipyConf) : Prop :=
  ∀ itp ∈ pipyConf.Inbound, ∀ tm ∈ itp.TrafficMatches.entries,
    ∀ hrrs ∈ tm.2.HTTPServiceRouteRules.entries, hrrs.2.RouteRules.length ≤ 1

instance (pipyConf : PipyConf) : Decidable (SingleRouteRules pipyConf) := by
  unfold SingleRouteRules
  infer_instance

/-- With at most one route rule per rule name there is nothing to sort. -/
theorem reorder_of_single (pipyConf : PipyConf) (h : SingleRouteRules pipyConf) :
    reorder pdqsort pipyConf = pipyConf := by
  obtain ⟨inbound, permissive, plugins⟩ := pipyConf
  cases inbound with
  | none => rfl
  | some itp =>
    have hitp := h itp rfl
    -- each rule name keeps its one route rule, so each traffic match stays
    have htm : ∀ tm ∈ itp.TrafficMatches.entries,
        GoMap.mapVal (InboundHTTPRouteRules.sort pdqsort) tm.2.HTTPServiceRouteRules =
          tm.2.HTTPServiceRouteRules := by
      intro tm hmem
      apply GoMap.mapVal_eq_self
      intro hrrs hrrsmem
      unfold InboundHTTPRouteRules.sort
      rw [if_neg (Nat.not_lt.mpr (hitp tm hmem hrrs hrrsmem))]
    have hmatches : GoMap.mapVal (InboundTrafficMatch.sortRouteRules pdqsort) itp.TrafficMatches =
        itp.TrafficMatches := by
      apply GoMap.mapVal_eq_self
      intro tm hmem
      rw [InboundTrafficMatch.sortRouteRules, htm tm hmem]
    simp only [reorder, Option.map_some, hmatches]

/-- `reorder` sorts the route rules of every rule name of every port. -/
theorem mem_reorder {pipyConf : PipyConf} {itp : InboundTrafficPolicy}
    (hitp : pipyConf.Inbound = some itp) {tm : Sigma fun _ : UInt16 => InboundTrafficMatch}
    (htm : tm ∈ itp.TrafficMatches.entries) {hrrs : Sigma fun _ : String => InboundHTTPRouteRules}
    (hh : hrrs ∈ tm.2.HTTPServiceRouteRules.entries) :
    ∃ itp', (reorder pdqsort pipyConf).Inbound = some itp' ∧
      ∃ tm' ∈ itp'.TrafficMatches.entries, tm'.1 = tm.1 ∧
        (⟨hrrs.1, hrrs.2.sort pdqsort⟩ : Sigma fun _ : String => InboundHTTPRouteRules) ∈
          tm'.2.HTTPServiceRouteRules.entries := by
  refine ⟨_, by rw [reorder, hitp]; rfl, ⟨tm.1, tm.2.sortRouteRules pdqsort⟩, ?_, rfl, ?_⟩
  · rw [GoMap.entries_mapVal]
    exact List.mem_map_of_mem htm
  · rw [InboundTrafficMatch.sortRouteRules, GoMap.entries_mapVal]
    exact List.mem_map_of_mem hh

/-- A catch-all rule is less than no rule. -/
theorem InboundHTTPRouteRuleLess_of_catch_all {c : InboundHTTPRouteRule}
    (hc : c.HTTPMatchRule.Path = RegexMatchAll) (r : InboundHTTPRouteRule) :
    InboundHTTPRouteRuleLess c r = false := by
  rw [InboundHTTPRouteRuleLess, if_pos hc]

/-- No rule whose path compares at or above `.*` is less than a catch-all rule. -/
theorem InboundHTTPRouteRuleLess_catch_all {c r : InboundHTTPRouteRule}
    (hc : c.HTTPMatchRule.Path = RegexMatchAll) (hr : ¬ r.HTTPMatchRule.Path < RegexMatchAll) :
    InboundHTTPRouteRuleLess r c = false := by
  unfold InboundHTTPRouteRuleLess
  split
  · rfl
  · rw [hc]
    exact decide_eq_false hr

/-- Every path that begins with `/` compares above `.*`, since `/` comes after `.`. -/
theorem not_lt_RegexMatchAll_of_slash {p : String} {rest : List Char} (hp : p.toList = '/' :: rest) :
    ¬ p < RegexMatchAll := by
  have hmatchAll : RegexMatchAll.toList = ['.', '*'] := rfl
  rw [String.lt_iff_toList_lt, hp, hmatchAll, List.cons_lt_cons_iff]
  have hlt : ¬ ('/' : Char) < '.' := by decide
  have hne : ('/' : Char) ≠ '.' := by decide
  exact fun h => h.elim hlt fun h => hne h.1

/-- Sorting leaves a catch-all rule in its place when no rule after it compares below `.*`:
    the rules before it and the rules after it are sorted apart. -/
theorem InboundHTTPRouteRules.sort_of_catch_all (hrrs : InboundHTTPRouteRules)
    {xs ys : List InboundHTTPRouteRule} {c : InboundHTTPRouteRule}
    (hrules : hrrs.RouteRules = xs ++ c :: ys) (hlen : hrrs.RouteRules.length ≤ 12)
    (hc : c.HTTPMatchRule.Path = RegexMatchAll)
    (hys : ∀ y ∈ ys, ¬ y.HTTPMatchRule.Path < RegexMatchAll) :
    (hrrs.sort pdqsort).RouteRules =
      GoSort.insertionSort InboundHTTPRouteRuleLess xs ++
        c :: GoSort.insertionSort InboundHTTPRouteRuleLess ys := by
  have hsorted : GoSort.insertionSort InboundHTTPRouteRuleLess (xs ++ c :: ys) =
      GoSort.insertionSort InboundHTTPRouteRuleLess xs ++
        c :: GoSort.insertionSort InboundHTTPRouteRuleLess ys :=
    GoSort.insertionSort_append_cons_of_incomparable InboundHTTPRouteRuleLess
      (fun x _ => InboundHTTPRouteRuleLess_of_catch_all hc x)
      (fun y hy => InboundHTTPRouteRuleLess_catch_all hc (hys y hy))
  unfold InboundHTTPRouteRules.sort
  split
  · rw [GoSort.sort, if_pos hlen, hrules, hsorted]
  · -- a single rule is the catch-all itself, and is left alone
    rename_i hone
    rw [hrules, List.length_append, List.length_cons] at hone
    have hxs : xs = [] := List.eq_nil_of_length_eq_zero (by omega)
    have hys' : ys = [] := List.eq_nil_of_length_eq_zero (by omega)
    subst hxs hys'
    exact hrules

/-- After `reorder`, a catch-all rule stays where it stood among the route rules of its rule
    name, whenever no rule after it compares below `.*` (as no path beginning with `/` does):
    the rules before it and the rules after it are sorted apart, so it comes last only if it
    came last. -/
theorem reorder_catch_all_in_place {pipyConf : PipyConf} {itp : InboundTrafficPolicy}
    (hitp : pipyConf.Inbound = some itp) {tm : Sigma fun _ : UInt16 => InboundTrafficMatch}
    (htm : tm ∈ itp.TrafficMatches.entries) {hrrs : Sigma fun _ : String => InboundHTTPRouteRules}
    (hh : hrrs ∈ tm.2.HTTPServiceRouteRules.entries) {xs ys : List InboundHTTPRouteRule}
    {c : InboundHTTPRouteRule} (hrules : hrrs.2.RouteRules = xs ++ c :: ys)
    (hlen : hrrs.2.RouteRules.length ≤ 12) (hc : c.HTTPMatchRule.Path = RegexMatchAll)
    (hys : ∀ y ∈ ys, ¬ y.HTTPMatchRule.Path < RegexMatchAll) :
    ∃ itp', (reorder pdqsort pipyConf).Inbound = some itp' ∧
      ∃ tm' ∈ itp'.TrafficMatches.entries, tm'.1 = tm.1 ∧
        ∃ hrrs' ∈ tm'.2.HTTPServiceRouteRules.entries, hrrs'.1 = hrrs.1 ∧
          hrrs'.2.RouteRules = GoSort.insertionSort InboundHTTPRouteRuleLess xs ++
            c :: GoSort.insertionSort InboundHTTPRouteRuleLess ys := by
  obtain ⟨itp', hitp', tm', htm', hkey, hmem⟩ := mem_reorder pdqsort hitp htm hh
  exact ⟨itp', hitp', tm', htm', hkey, _, hmem, rfl,
    InboundHTTPRouteRules.sort_of_catch_all pdqsort hrrs.2 hrules hlen hc hys⟩

end reorder

/-- A route rule on a path, with nothing else set. -/
def pathRule (path : String) : InboundHTTPRouteRule :=
  { HTTPMatchRule := { Path := path, MatchType := .PathMatchRegex, Headers := ∅, Methods := []
                       allowedAnyService := true, allowedAnyMethod := true }
    TargetClusters := ∅, AllowedServices := [] }

/-- The route rules of one rule name: the catch-all, then `/a`. -/
def catchAllFirstRules : InboundHTTPRouteRules :=
  { RouteRules := [pathRule RegexMatchAll, pathRule "/a"], Plugins := ∅, AllowedEndpoints := ∅ }

/-- A port with the one rule name. -/
def catchAllFirstMatch : InboundTrafficMatch :=
  { Port := 80, Protocol := "http", SourceIPRanges := ∅, HTTPHostPort2Service := ∅
    HTTPServiceRouteRules := AList.singleton "rule" catchAllFirstRules
    TCPServiceRouteRules := none }

/-- The inbound policy of the one port. -/
def catchAllFirstPolicy : InboundTrafficPolicy :=
  { TrafficMatches := AList.singleton 80 catchAllFirstMatch, ClustersConfigs := ∅ }

/-- A configuration with the one port. -/
def catchAllFirstConf : PipyConf :=
  { Inbound := some catchAllFirstPolicy, enablePermissiveTrafficPolicyMode := false
    pluginPolicies := ∅ }

theorem reorder_catch_all_in_place_catchAllFirst :
    ∃ itp', (reorder id catchAllFirstConf).Inbound = some itp' ∧
      ∃ tm' ∈ itp'.TrafficMatches.entries, tm'.1 = 80 ∧
        ∃ hrrs' ∈ tm'.2.HTTPServiceRouteRules.entries, hrrs'.1 = "rule" ∧
          hrrs'.2.RouteRules = [pathRule RegexMatchAll, pathRule "/a"] := by
  have htm : (⟨80, catchAllFirstMatch⟩ : Sigma fun _ : UInt16 => InboundTrafficMatch) ∈
      catchAllFirstPolicy.TrafficMatches.entries := List.mem_singleton_self _
  have hh : (⟨"rule", catchAllFirstRules⟩ : Sigma fun _ : String => InboundHTTPRouteRules) ∈
      catchAllFirstMatch.HTTPServiceRouteRules.entries := List.mem_singleton_self _
  have hrules : catchAllFirstRules.RouteRules = [] ++ pathRule RegexMatchAll :: [pathRule "/a"] := rfl
  have hlen : catchAllFirstRules.RouteRules.length ≤ 12 := by decide
  have hys : ∀ y ∈ [pathRule "/a"], ¬ y.HTTPMatchRule.Path < RegexMatchAll := by
    intro y hy
    rw [List.mem_singleton.mp hy]
    exact not_lt_RegexMatchAll_of_slash (by decide : ("/a" : String).toList = ['/', 'a'])
  have hc : (pathRule RegexMatchAll).HTTPMatchRule.Path = RegexMatchAll := rfl
  exact @reorder_catch_all_in_place id catchAllFirstConf catchAllFirstPolicy rfl _ htm _ hh [] _ _
    hrules hlen hc hys

/-! ## The hash and the repository -/

/-- `hash`: the hash of the bytes, or the nanoseconds of the clock if hashing fails. -/
def hash (nanosecond : UInt64) (bytes : String) : UInt64 :=
  match Utils.HashFromString bytes with
  | .ok hashCode => hashCode
  | .error _ => nanosecond

/-- A call the job makes to the repository. -/
inductive RepoCall where
  | DeriveCodebase (codebase : String) (version : UInt64)
  | Batch (version : String) (codebase : String)
  | Delete (codebase : String)
  deriving DecidableEq, Repr

/-- What the repository answers: whether `DeriveCodebase` reports success, and whether
    `Batch` returns no error. -/
structure RepoAnswers where
  deriveSuccess : Bool
  batchOk : Bool
  deriving DecidableEq, Repr

/-- `publishSidecarConf` on the marshalled configuration: the proxy's new ETag and the calls
    made to the repository, for the proxy's codebase `<osmSidecarCodebase>/<CN prefix>`. The
    text written by `Batch` (indented, with a time stamp and the version) is left out. -/
def publishSidecarConf (answers : RepoAnswers) (nanosecond : UInt64) (codebase : String)
    (ETag : UInt64) (conf : List Char) (pluginSetV : String) : UInt64 × List RepoCall :=
  let codebasePreV := ETag
  let codebaseCurV := hash nanosecond (String.ofList conf ++ pluginSetV)
  if codebaseCurV = codebasePreV then (ETag, [])
  else
    let derive := RepoCall.DeriveCodebase codebase (codebaseCurV - 2)
    if answers.deriveSuccess then
      let batch := RepoCall.Batch (toString (codebaseCurV - 1)) codebase
      if answers.batchOk then (codebaseCurV, [derive, batch])
      else (ETag, [derive, batch, .Delete codebase])
    else (ETag, [derive, .Delete codebase])

/-! ## The text depends on the order of a set -/

/-- The service `demo/api`, HTTP on target port 8080. -/
def demoService : MeshService :=
  { Namespace := "demo", Name := "api", Port := 80, TargetPort := 8080, Protocol := "http" }

/-- The catalog's inbound mesh policy for the service: its traffic match, its route
    configuration on port 8080 with that rule, and its local cluster. -/
def demoInboundPolicy : InboundMeshTrafficPolicy :=
  { TrafficMatches := [{ Name := "inbound_demo/api_8080_http", DestinationPort := 8080
                         DestinationProtocol := "http" }]
    HTTPRouteConfigsPerPort := (∅ : AList fun _ : Int => List Trafficpolicy.InboundTrafficPolicy).insert 8080
      [{ Name := "api.demo.svc.cluster.local", Hostnames := ["api.demo.svc.cluster.local"]
         Rules := [demoRule] }]
    ClustersConfigs := [{ Name := "demo/api|8080|local", Service := demoService
                          Address := "127.0.0.1", Port := 8080 }] }

/-- A catalog with no AccessControl, IngressBackend or exported service. -/
def demoCatalog : BackendCatalog :=
  { EnableAccessControlPolicy := false, EnableIngressBackendPolicy := false
    GetAccessControlPolicy := fun _ => none, GetIngressBackendPolicy := fun _ => none
    listEndpointsForService := fun _ => [], GetExportedRule := fun _ => .ok none
    GetIngressControllerServices := [] }

/-- The endpoints of the two clients. -/
def demoEndpoints (si : Identity.ServiceIdentity) : List String :=
  if si = "alpha.demo" then ["10.0.0.7"] else if si = "bravo.demo" then ["10.0.0.8"] else []

/-- The configuration a run starts from, in the fields the generators read. -/
def demoConf : PipyConf :=
  { Inbound := none, enablePermissiveTrafficPolicyMode := false, pluginPolicies := ∅ }

/-- The principals of a set in descending order, everything else in ascending order. -/
def descendingPrincipals : Rds.MapOrder :=
  { Rds.ascendingOrder with
    principals := GoSet.Enumerator.sortedBy (fun s : String => OrderDual.toDual s) OrderDual.toDual.injective }

theorem inbound_text_depends_on_principal_order :
    ∃ conf₁ conf₂,
      inbound Rds.ascendingOrder "cluster.local" demoEndpoints demoCatalog demoConf demoInboundPolicy
          [demoService] = .ok conf₁ ∧
      inbound descendingPrincipals "cluster.local" demoEndpoints demoCatalog demoConf
          demoInboundPolicy [demoService] = .ok conf₂ ∧
      ∀ (pdqsort : List InboundHTTPRouteRule → List InboundHTTPRouteRule) (pre suf₁ suf₂ : List Char),
        pre ++ marshalInbound (reorder pdqsort conf₁) ++ suf₁ ≠
          pre ++ marshalInbound (reorder pdqsort conf₂) ++ suf₂ := by
  refine ⟨_, _, rfl, rfl, fun pdqsort pre suf₁ suf₂ => ?_⟩
  -- one route rule per rule name: `reorder` leaves both configurations as they are
  rw [reorder_of_single pdqsort _ (by decide +kernel), reorder_of_single pdqsort _ (by decide +kernel)]
  -- the texts part at the route rule's `AllowedServices`
  exact GoJson.append_ne_of_differAt pre suf₁ suf₂ (by decide +kernel)

end OsmEdge.Pipy
