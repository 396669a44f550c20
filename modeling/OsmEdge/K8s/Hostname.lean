import OsmEdge.Service

/-
  The hostnames of a service (`GetHostnamesForService`, `pkg/k8s/util.go`) read back by the
  decoder the TrafficSplit apex resolution uses (`GetServiceFromHostname` and
  `GetSubdomainFromHostname`, through `splitHostName`).

  The decoder goes by the number of dot-separated labels before the port. For the default
  trust domain `cluster.local` the encoder emits, after the service's name, the labels `ns`,
  `ns.svc`, `ns.svc.cluster` and `ns.svc.cluster.local`; the decoder reads a name of four
  labels as `subdomain.service.namespace.svc` and one of five as
  `service.namespace.svc.cluster.local`, so the `ns.svc.cluster` names are read with every
  label one place off.

  Proved:
  * `hostname_decoding_misreads_svc_cluster`: for every service whose name is
    `[subdomain.]service` and a namespace cache that knows its namespace and no namespace
    named like its labels or `svc`, a hostname of the service decodes to the service's
    provider key and subdomain exactly when it is not `name.ns.svc.cluster[:port]`.
-/

namespace OsmEdge.K8s

open OsmEdge.Service

/-- `strings.Split(host, ".")`: the labels of a host. -/
def labels (host : String) : List String :=
  (GoText.split '.' host.toList).map String.ofList

/-- The labels `splitHostName` switches on: those of the host with the port cut off. -/
def hostLabels (host : String) : List String :=
  (GoText.split '.' ((GoText.split ':' host.toList).headD [])).map String.ofList

/-! ## Labels of a hostname -/

theorem labels_append_dot (x y : String) : labels (x ++ "." ++ y) = labels x ++ labels y := by
  have h : (x ++ "." ++ y).toList = x.toList ++ '.' :: y.toList := by simp
  rw [labels, h, GoText.split_append_cons, List.map_append]
  rfl

theorem labels_of_not_mem {x : String} (h : '.' ∉ x.toList) : labels x = [x] := by
  simp [labels, GoText.split_of_not_mem '.' x.toList h]

theorem labels_append_svc (x : String) : labels (x ++ ".svc") = labels x ++ ["svc"] := by
  rw [show x ++ ".svc" = x ++ "." ++ "svc" by simp [String.append_assoc], labels_append_dot]
  rfl

theorem hostLabels_of_not_mem {x : String} (h : ':' ∉ x.toList) : hostLabels x = labels x := by
  simp [hostLabels, labels, GoText.split_of_not_mem ':' x.toList h]

theorem hostLabels_append_port {x : String} (p : String) (h : ':' ∉ x.toList) :
    hostLabels (x ++ ":" ++ p) = labels x := by
  have hx : (x ++ ":" ++ p).toList = x.toList ++ ':' :: p.toList := by simp
  rw [hostLabels, hx, GoText.headD_split_append_cons ':' _ h]
  rfl

/-! ## The decoder, by the number of labels -/

/-- `splitHostName` switches on the labels of the host with the port cut off. -/
theorem splitHostName_eq_match (c : Option (String → Bool)) (host : String) :
    splitHostName c host =
      match hostLabels host with
      | [svc] => (svc, "")
      | [p1, p2] =>
        match c with
        | none => (p1, "")
        | some GetNamespace => if GetNamespace p2 then (p1, "") else (p2, p1)
      | [c0, c1, tld] =>
        match c with
        | none => if tld = "svc" then (c0, "") else (c1, c0)
        | some GetNamespace => if GetNamespace tld then (c1, c0) else (c0, "")
      | [c0, c1, _, _] => (c1, c0)
      | [c0, _, _, _, _] => (c0, "")
      | [c0, c1, _, _, _, _] => (c1, c0)
      | serviceComponents => (serviceComponents.headD "", "") :=
  rfl

section decoder

variable (GetNamespace : String → Bool) (host : String)

theorem splitHostName_one {a : String} (h : hostLabels host = [a]) (c : Option (String → Bool)) :
    splitHostName c host = (a, "") := by
  rw [splitHostName_eq_match, h]

theorem splitHostName_two {p1 p2 : String} (h : hostLabels host = [p1, p2]) :
    splitHostName (some GetNamespace) host = if GetNamespace p2 then (p1, "") else (p2, p1) := by
  rw [splitHostName_eq_match, h]

theorem splitHostName_three {c0 c1 tld : String} (h : hostLabels host = [c0, c1, tld]) :
    splitHostName (some GetNamespace) host = if GetNamespace tld then (c1, c0) else (c0, "") := by
  rw [splitHostName_eq_match, h]

theorem splitHostName_four {c0 c1 c2 c3 : String} (h : hostLabels host = [c0, c1, c2, c3])
    (c : Option (String → Bool)) : splitHostName c host = (c1, c0) := by
  rw [splitHostName_eq_match, h]

theorem splitHostName_five {c0 c1 c2 c3 c4 : String} (h : hostLabels host = [c0, c1, c2, c3, c4])
    (c : Option (String → Bool)) : splitHostName c host = (c0, "") := by
  rw [splitHostName_eq_match, h]

theorem splitHostName_six {c0 c1 c2 c3 c4 c5 : String} (h : hostLabels host = [c0, c1, c2, c3, c4, c5])
    (c : Option (String → Bool)) : splitHostName c host = (c1, c0) := by
  rw [splitHostName_eq_match, h]

end decoder

/-! ## Names of the form `[subdomain.]service` -/

section name

variable {ms : MeshService} {sub : Option String} {s : String}

theorem ProviderKey_of_labels (h : labels ms.Name = sub.toList ++ [s]) : ms.ProviderKey = s := by
  have hlast : ((GoText.split '.' ms.Name.toList).map String.ofList).getLast? = some s := by
    rw [← labels, h, List.getLast?_append, List.getLast?_singleton]
    simp
  rw [List.getLast?_map] at hlast
  obtain ⟨piece, hpiece, rfl⟩ := Option.map_eq_some_iff.mp hlast
  simp [MeshService.ProviderKey, hpiece]

theorem Subdomain_of_labels (h : labels ms.Name = sub.toList ++ [s]) : ms.Subdomain = sub.getD "" := by
  simp only [labels] at h
  cases sub with
  | none =>
    obtain ⟨piece, hpiece, -⟩ := List.map_eq_singleton_iff.mp h
    simp [MeshService.Subdomain, hpiece]
  | some d =>
    obtain ⟨l₁, l₂, hsplit, h₁, h₂⟩ := List.map_eq_append_iff.mp h
    obtain ⟨p, rfl, rfl⟩ := List.map_eq_singleton_iff.mp h₁
    obtain ⟨q, rfl, -⟩ := List.map_eq_singleton_iff.mp h₂
    simp [MeshService.Subdomain, hsplit]

end name

/-! ## The hostnames for `cluster.local` -/

/-- The hostnames of a service for the trust domain `cluster.local`, without their port: its
    name for a caller in its namespace, then the name followed by `ns`, `ns.svc`,
    `ns.svc.cluster` and `ns.svc.cluster.local`. -/
def clusterLocalHosts (svc : MeshService) (localNamespace : Bool) : List String :=
  (if localNamespace then [svc.Name] else []) ++
    [svc.Name ++ "." ++ svc.Namespace, svc.Name ++ "." ++ svc.Namespace ++ ".svc",
     svc.Name ++ "." ++ svc.Namespace ++ ".svc" ++ "." ++ "cluster",
     svc.Name ++ "." ++ svc.Namespace ++ ".svc" ++ "." ++ "cluster" ++ "." ++ "local"]

/-- The labels that follow the service's name in those hostnames. -/
def clusterLocalSuffixes (ns : String) : List (List String) :=
  [[], [ns], [ns, "svc"], [ns, "svc", "cluster"], [ns, "svc", "cluster", "local"]]

/-- Each hostname comes without and with the port. -/
theorem GetHostnamesForService_clusterLocal (svc : MeshService) (localNamespace : Bool) :
    GetHostnamesForService "cluster.local" svc localNamespace =
      (clusterLocalHosts svc localNamespace).flatMap fun x => [x, x ++ ":" ++ toString svc.Port] := by
  have hsegs : (GoText.split '.' "cluster.local".toList).map String.ofList = ["cluster", "local"] := by
    decide
  simp only [GetHostnamesForService, hsegs, List.foldl_cons, List.foldl_nil]
  cases localNamespace <;> simp [clusterLocalHosts]

section hosts

variable {svc : MeshService} {localNamespace : Bool}

theorem colon_not_mem_clusterLocalHosts (hname : ':' ∉ svc.Name.toList) (hns : ':' ∉ svc.Namespace.toList) :
    ∀ x ∈ clusterLocalHosts svc localNamespace, ':' ∉ x.toList := by
  intro x hx
  cases localNamespace <;> simp [clusterLocalHosts] at hx <;> rcases hx with rfl | rfl | rfl | rfl | rfl <;>
    simp [hname, hns]

/-- The labels of `name.ns.svc.cluster`. -/
theorem labels_svcCluster (hns : '.' ∉ svc.Namespace.toList) :
    labels (svc.Name ++ "." ++ svc.Namespace ++ ".svc" ++ "." ++ "cluster") =
      labels svc.Name ++ [svc.Namespace, "svc", "cluster"] := by
  have hcluster : labels "cluster" = ["cluster"] := by decide
  rw [labels_append_dot, labels_append_svc, labels_append_dot, labels_of_not_mem hns, hcluster]
  simp

/-- The labels of each hostname are the name's, then one of the suffixes; only
    `name.ns.svc.cluster` has the suffix `ns.svc.cluster`. -/
theorem labels_of_mem_clusterLocalHosts (hns : '.' ∉ svc.Namespace.toList) :
    ∀ x ∈ clusterLocalHosts svc localNamespace, ∃ sfx ∈ clusterLocalSuffixes svc.Namespace,
      labels x = labels svc.Name ++ sfx ∧
      (sfx = [svc.Namespace, "svc", "cluster"] → x = svc.Name ++ "." ++ svc.Namespace ++ ".svc" ++ "." ++ "cluster") := by
  have hnsLabels := labels_of_not_mem hns
  have hlocal : labels "local" = ["local"] := by decide
  intro x hx
  simp only [clusterLocalHosts, List.mem_append, List.mem_cons, List.not_mem_nil, or_false] at hx
  rcases hx with hx | rfl | rfl | rfl | rfl
  · -- the bare name, for a caller in the namespace
    have hx : x = svc.Name := by cases localNamespace <;> simp_all
    exact ⟨[], by simp [clusterLocalSuffixes], by simp [hx], by simp⟩
  · exact ⟨[svc.Namespace], by simp [clusterLocalSuffixes], by rw [labels_append_dot, hnsLabels], by simp⟩
  · exact ⟨[svc.Namespace, "svc"], by simp [clusterLocalSuffixes],
      by rw [labels_append_svc, labels_append_dot, hnsLabels]; simp, by simp⟩
  · exact ⟨[svc.Namespace, "svc", "cluster"], by simp [clusterLocalSuffixes], labels_svcCluster hns,
      fun _ => rfl⟩
  · exact ⟨[svc.Namespace, "svc", "cluster", "local"], by simp [clusterLocalSuffixes],
      by rw [labels_append_dot, labels_svcCluster hns, hlocal]; simp, by simp⟩

end hosts

/-! ## Decoding the hostnames -/

section decode

variable {GetNamespace : String → Bool} {ns s : String} {sub : Option String}

/-- A hostname of labels `[subdomain.]service` then a suffix decodes to the service and the
    subdomain unless the suffix is `ns.svc.cluster`: four labels are read as
    `subdomain.service.namespace.svc`, five as `service.namespace.svc.cluster.local`. -/
theorem splitHostName_clusterLocal (hexists : GetNamespace ns = true) (hsvcName : GetNamespace s = false)
    (hsvc : GetNamespace "svc" = false) (hs : s ≠ "") (hsub : ∀ d ∈ sub, d ≠ "" ∧ GetNamespace d = false)
    {host : String} {sfx : List String} (hsfx : sfx ∈ clusterLocalSuffixes ns)
    (h : hostLabels host = sub.toList ++ [s] ++ sfx) :
    splitHostName (some GetNamespace) host = (s, sub.getD "") ↔ sfx ≠ [ns, "svc", "cluster"] := by
  simp only [clusterLocalSuffixes, List.mem_cons, List.not_mem_nil, or_false] at hsfx
  cases sub with
  | none =>
    simp only [Option.toList_none, List.nil_append, List.singleton_append] at h
    rcases hsfx with rfl | rfl | rfl | rfl | rfl
    · simp [splitHostName_one host h]
    · simp [splitHostName_two GetNamespace host h, hexists]
    · simp [splitHostName_three GetNamespace host h, hsvc]
    · -- `service.ns.svc.cluster` is read as subdomain `service` of service `ns`
      simp [splitHostName_four host h, hs]
    · simp [splitHostName_five host h]
  | some d =>
    obtain ⟨hd, hdName⟩ := hsub d rfl
    simp only [Option.toList_some, List.cons_append, List.nil_append] at h
    rcases hsfx with rfl | rfl | rfl | rfl | rfl
    · simp [splitHostName_two GetNamespace host h, hsvcName]
    · simp [splitHostName_three GetNamespace host h, hexists]
    · simp [splitHostName_four host h]
    · -- `subdomain.service.ns.svc.cluster` is read as service `subdomain`
      simp [splitHostName_five host h, hd]
    · simp [splitHostName_six host h]

end decode

/-- For every service whose name is `[subdomain.]service`, with a namespace and labels free of
    `.` and `:`, and a namespace cache that knows the service's namespace and no namespace named
    like its labels or `svc`, a hostname that `GetHostnamesForService` gives for the trust domain
    `cluster.local` decodes to the service's provider key and subdomain exactly when it is not
    `name.ns.svc.cluster`, with or without the port. -/
theorem hostname_decoding_misreads_svc_cluster (svc : MeshService) (localNamespace : Bool)
    (GetNamespace : String → Bool) (sub : Option String) (s : String)
    (hname : labels svc.Name = sub.toList ++ [s]) (hcolon : ':' ∉ svc.Name.toList)
    (hns : '.' ∉ svc.Namespace.toList ∧ ':' ∉ svc.Namespace.toList)
    (hs : s ≠ "") (hsub : ∀ d ∈ sub, d ≠ "" ∧ GetNamespace d = false)
    (hexists : GetNamespace svc.Namespace = true) (hsvcName : GetNamespace s = false)
    (hsvc : GetNamespace "svc" = false) :
    ∀ h ∈ GetHostnamesForService "cluster.local" svc localNamespace,
      (GetServiceFromHostname (some GetNamespace) h = svc.ProviderKey ∧
        GetSubdomainFromHostname (some GetNamespace) h = svc.Subdomain) ↔
      ¬ (h = svc.Name ++ "." ++ svc.Namespace ++ ".svc" ++ "." ++ "cluster" ∨
        h = svc.Name ++ "." ++ svc.Namespace ++ ".svc" ++ "." ++ "cluster" ++ ":" ++ toString svc.Port) := by
  intro h hmem
  rw [GetHostnamesForService_clusterLocal, List.mem_flatMap] at hmem
  obtain ⟨x, hx, hh⟩ := hmem
  -- the host part of the hostname is `x`, with or without the port
  have hxColon := colon_not_mem_clusterLocalHosts hcolon hns.2 x hx
  have hhost : hostLabels h = labels x := by
    rcases List.mem_pair.mp hh with rfl | rfl
    · exact hostLabels_of_not_mem hxColon
    · exact hostLabels_append_port _ hxColon
  obtain ⟨sfx, hsfx, hlabels, hbase⟩ := labels_of_mem_clusterLocalHosts hns.1 x hx
  rw [hname] at hlabels
  have hdecode := splitHostName_clusterLocal hexists hsvcName hsvc hs hsub hsfx (hhost.trans hlabels)
  -- the base hostname is the one with the suffix `ns.svc.cluster`
  have hbaseIff : (h = svc.Name ++ "." ++ svc.Namespace ++ ".svc" ++ "." ++ "cluster" ∨
      h = svc.Name ++ "." ++ svc.Namespace ++ ".svc" ++ "." ++ "cluster" ++ ":" ++ toString svc.Port) ↔
      sfx = [svc.Namespace, "svc", "cluster"] := by
    constructor
    · -- the base hostname has the labels of the name, then `ns.svc.cluster`
      intro hbaseHost
      have hbaseMem : svc.Name ++ "." ++ svc.Namespace ++ ".svc" ++ "." ++ "cluster" ∈
          clusterLocalHosts svc localNamespace := by
        simp [clusterLocalHosts]
      have hbaseColon := colon_not_mem_clusterLocalHosts hcolon hns.2 _ hbaseMem
      have hbaseLabels : hostLabels h = sub.toList ++ [s] ++ [svc.Namespace, "svc", "cluster"] := by
        rcases hbaseHost with rfl | rfl
        · rw [hostLabels_of_not_mem hbaseColon, labels_svcCluster hns.1, hname]
        · rw [hostLabels_append_port _ hbaseColon, labels_svcCluster hns.1, hname]
      rw [hhost, hlabels] at hbaseLabels
      exact List.append_cancel_left hbaseLabels
    · intro hsfxBase
      rw [hbase hsfxBase] at hh
      exact List.mem_pair.mp hh
  rw [ProviderKey_of_labels hname, Subdomain_of_labels hname, GetServiceFromHostname,
    GetSubdomainFromHostname, hbaseIff]
  exact Prod.ext_iff.symm.trans hdecode

/-- The service `demo/bookstore` on port 8080, for a caller in `demo`, with a cache that knows
    only the namespace `demo`, at its hostname `bookstore.demo.svc.cluster`. -/
theorem hostname_decoding_misreads_bookstore :
    (GetServiceFromHostname (some fun ns => ns == "demo") "bookstore.demo.svc.cluster" =
          "bookstore" ∧
        GetSubdomainFromHostname (some fun ns => ns == "demo") "bookstore.demo.svc.cluster" = "") ↔
      ¬ ("bookstore.demo.svc.cluster" = "bookstore" ++ "." ++ "demo" ++ ".svc" ++ "." ++ "cluster" ∨
        "bookstore.demo.svc.cluster" =
          "bookstore" ++ "." ++ "demo" ++ ".svc" ++ "." ++ "cluster" ++ ":" ++ toString (8080 : UInt16)) :=
  hostname_decoding_misreads_svc_cluster
    { Namespace := "demo", Name := "bookstore", Port := 8080, TargetPort := 8080, Protocol := "http" } true
    (fun ns => ns == "demo") none "bookstore" (by decide) (by decide) ⟨by decide, by decide⟩ (by decide)
    (by simp) rfl rfl rfl "bookstore.demo.svc.cluster" (by decide)

example : GetServiceFromHostname (some fun ns => ns == "demo") "bookstore.demo.svc.cluster" = "demo" := by
  decide

end OsmEdge.K8s
