import Mathlib.Data.List.AList
import OsmEdge.Lib.GoText
import OsmEdge.Lib.GoSet
import OsmEdge.Lib.Ipv4

/-
  The pod annotations that exclude traffic from interception, as the sidecar injector reads
  them (`pkg/injector/exclusions.go`).

  An annotation value is a comma-separated list; each entry is trimmed of white space and
  must be a positive integer (a port) or an IPv4 CIDR (an IP range), or the whole annotation
  is refused with an error that names the entry and the annotation. The lists of a pod are
  merged with the mesh-wide lists without duplicates (`GoSet.collectNew`); the port lists put
  the mesh-wide ports first, the IP range lists the pod's ranges first.
-/

namespace OsmEdge.Injector

open GoText

/-- A pod's annotations. -/
abbrev Annotations := AList fun _ : String => String

/-- `OutboundPortExclusionListAnnotation`. -/
def OutboundPortExclusionListAnnotation : String :=
  "openservicemesh.io/outbound-port-exclusion-list"

/-- `InboundPortExclusionListAnnotation`. -/
def InboundPortExclusionListAnnotation : String :=
  "openservicemesh.io/inbound-port-exclusion-list"

/-- `OutboundIPRangeExclusionListAnnotation`. -/
def OutboundIPRangeExclusionListAnnotation : String :=
  "openservicemesh.io/outbound-ip-range-exclusion-list"

/-- `OutboundIPRangeInclusionListAnnotation`. -/
def OutboundIPRangeInclusionListAnnotation : String :=
  "openservicemesh.io/outbound-ip-range-inclusion-list"

/-! ## Ports -/

/-- The loop of `GetPortExclusionListForPod` over the entries of the annotation value. -/
def parsePortEntries ( annotation : String) : List (List Char) → Except String (List Int)
  | [] => .ok []
  | entry :: entries =>
    let portStr := trimSpace entry
    match atoi portStr with
    | some portVal =>
      if portVal ≤ 0 then
        .error ("Invalid port value '" ++ String.ofList portStr ++ "' specified for annotation '" ++
          annotation ++ "'")
      else (parsePortEntries annotation entries).map (portVal :: ·)
    | none =>
      .error ("Invalid port value '" ++ String.ofList portStr ++ "' specified for annotation '" ++
        annotation ++ "'")

/-- `GetPortExclusionListForPod`: no annotation is no ports. -/
def GetPortExclusionListForPod (annotations : Annotations) ( annotation : String) :
    Except String (List Int) :=
  match annotations.lookup annotation with
  | none => .ok []
  | some portsToExcludeStr => parsePortEntries annotation (split ',' portsToExcludeStr.toList)

/-- `MergePortExclusionLists`: the mesh-wide ports, then the pod's, without duplicates. -/
def MergePortExclusionLists (podSpecificPortExclusionList globalPortExclusionList : List Int) :
    List Int :=
  GoSet.collectNew (globalPortExclusionList ++ podSpecificPortExclusionList)

/-- The ports of an accepted annotation are the values of its trimmed entries, each positive. -/
theorem parsePortEntries_ok { annotation : String} :
    ∀ {entries : List (List Char)} {ports : List Int},
      parsePortEntries annotation entries = .ok ports →
        List.Forall₂ (fun entry port => atoi (trimSpace entry) = some port ∧ 0 < port)
          entries ports := by
  intro entries
  induction entries with
  | nil => intro ports h; cases h; exact List.Forall₂.nil
  | cons entry entries ih =>
    intro ports h
    simp only [parsePortEntries] at h
    -- the entry parsed to a positive port and the rest of the list was accepted
    cases hv : atoi (trimSpace entry) with
    | none => simp [hv] at h
    | some v =>
      rw [hv] at h
      by_cases hpos : v ≤ 0
      · simp [hpos] at h
      · simp only [hpos, if_false] at h
        cases hrest : parsePortEntries annotation entries with
        | error e => rw [hrest] at h; cases h
        | ok rest =>
          rw [hrest] at h
          cases h
          exact List.Forall₂.cons ⟨hv, by omega⟩ (ih hrest)

/-- A refused annotation is refused for one of its entries, and the error names that entry
    and the annotation. -/
theorem parsePortEntries_error { annotation : String} :
    ∀ {entries : List (List Char)} {msg : String},
      parsePortEntries annotation entries = .error msg →
        ∃ entry ∈ entries, msg = "Invalid port value '" ++ String.ofList (trimSpace entry) ++
          "' specified for annotation '" ++ annotation ++ "'" := by
  intro entries
  induction entries with
  | nil => intro msg h; cases h
  | cons entry entries ih =>
    intro msg h
    simp only [parsePortEntries] at h
    cases hv : atoi (trimSpace entry) with
    | none =>
      rw [hv] at h
      cases h
      exact ⟨entry, List.mem_cons_self, rfl⟩
    | some v =>
      rw [hv] at h
      by_cases hpos : v ≤ 0
      · simp only [hpos, if_true] at h
        cases h
        exact ⟨entry, List.mem_cons_self, rfl⟩
      · simp only [hpos, if_false] at h
        cases hrest : parsePortEntries annotation entries with
        | ok rest => rw [hrest] at h; cases h
        | error e =>
          rw [hrest] at h
          cases h
          obtain ⟨entry', hmem, hmsg⟩ := ih hrest
          exact ⟨entry', List.mem_cons_of_mem _ hmem, hmsg⟩

/-- A port is excluded by the merged list iff the pod or the mesh excludes it, and each
    port appears once. -/
theorem mem_MergePortExclusionLists {pod global : List Int} {port : Int} :
    port ∈ MergePortExclusionLists pod global ↔ port ∈ pod ∨ port ∈ global := by
  simp [MergePortExclusionLists, or_comm]

theorem nodup_MergePortExclusionLists (pod global : List Int) :
    (MergePortExclusionLists pod global).Nodup :=
  GoSet.nodup_collectNew _

/-! ## IP ranges -/

/-- The loop of `GetOutboundIPRangeListForPod` over the entries of the annotation value. -/
def parseIPRangeEntries ( annotation : String) : List (List Char) → Except String (List String)
  | [] => .ok []
  | entry :: entries =>
    let ip := trimSpace entry
    match Ipv4.parseCIDR ip with
    | none =>
      .error ("Invalid IP range '" ++ String.ofList ip ++ "' specified for annotation '" ++
        annotation ++ "'")
    | some _ => (parseIPRangeEntries annotation entries).map (String.ofList ip :: ·)

/-- `GetOutboundIPRangeListForPod`: no annotation is no ranges. -/
def GetOutboundIPRangeListForPod (annotations : Annotations) ( annotation : String) :
    Except String (List String) :=
  match annotations.lookup annotation with
  | none => .ok []
  | some ipRangeExclusionsStr => parseIPRangeEntries annotation (split ',' ipRangeExclusionsStr.toList)

/-- `MergeIPRangeLists`: the pod's ranges, then the mesh-wide ones, without duplicates. -/
def MergeIPRangeLists (podSpecific global : List String) : List String :=
  GoSet.collectNew (podSpecific ++ global)

/-- Every range of an accepted annotation is a trimmed entry that `net.ParseCIDR` accepts. -/
theorem parseIPRangeEntries_ok { annotation : String} :
    ∀ {entries : List (List Char)} {ranges : List String},
      parseIPRangeEntries annotation entries = .ok ranges →
        List.Forall₂ (fun entry range => range = String.ofList (trimSpace entry) ∧
          (Ipv4.parseCIDR (trimSpace entry)).isSome) entries ranges := by
  intro entries
  induction entries with
  | nil => intro ranges h; cases h; exact List.Forall₂.nil
  | cons entry entries ih =>
    intro ranges h
    simp only [parseIPRangeEntries] at h
    cases hv : Ipv4.parseCIDR (trimSpace entry) with
    | none => simp [hv] at h
    | some n =>
      rw [hv] at h
      cases hrest : parseIPRangeEntries annotation entries with
      | error e => rw [hrest] at h; cases h
      | ok rest =>
        rw [hrest] at h
        cases h
        exact List.Forall₂.cons ⟨rfl, by rw [hv]; rfl⟩ (ih hrest)

theorem mem_MergeIPRangeLists {pod global : List String} {range : String} :
    range ∈ MergeIPRangeLists pod global ↔ range ∈ pod ∨ range ∈ global := by
  simp [MergeIPRangeLists]

end OsmEdge.Injector
