import Mathlib.Data.Finset.Basic
import Mathlib.Logic.Function.Basic

/-
  The per-proxy xDS bookkeeping of `pkg/sidecar/providers/envoy/proxy.go` and the type URLs
  of `pkg/sidecar/providers/envoy/types.go`.

  `envoy.TypeURI` is a Go string, so type URLs are `String`s here, and every map of the
  proxy is keyed by the raw URL: `GetLastSentNonce` is also called with the URL of a request
  that `ValidURI` does not know. The version maps and the resource-set maps are read through
  accessors that return the zero value (0, the empty set) for a missing key, so they are
  total functions with that default. `lastNonce` is the one map whose missing keys the code
  tells apart (`GetLastSentNonce` stores `""` for them), so it is `String → Option String`.
  `mapset.Set` of resource names is `Finset String`.
-/

namespace OsmEdge.Envoy

/-! ## Type URLs -/

/-- `TypeEmptyURI`. -/
def TypeEmptyURI : String := ""
/-- `TypeSDS`. -/
def TypeSDS : String := "type.googleapis.com/envoy.extensions.transport_sockets.tls.v3.Secret"
/-- `TypeCDS`. -/
def TypeCDS : String := "type.googleapis.com/envoy.config.cluster.v3.Cluster"
/-- `TypeLDS`. -/
def TypeLDS : String := "type.googleapis.com/envoy.config.listener.v3.Listener"
/-- `TypeRDS`. -/
def TypeRDS : String := "type.googleapis.com/envoy.config.route.v3.RouteConfiguration"
/-- `TypeEDS`. -/
def TypeEDS : String := "type.googleapis.com/envoy.config.endpoint.v3.ClusterLoadAssignment"
/-- `TypeUpstreamTLSContext`. -/
def TypeUpstreamTLSContext : String :=
  "type.googleapis.com/envoy.extensions.transport_sockets.tls.v3.UpstreamTlsContext"
/-- `TypeZipkinConfig`. -/
def TypeZipkinConfig : String := "type.googleapis.com/envoy.config.trace.v3.ZipkinConfig"

/-- The keys of `ValidURI`; the map sends each key to the `TypeURI` with the same text. -/
def validURIs : List String :=
  [TypeEmptyURI, TypeSDS, TypeCDS, TypeLDS, TypeRDS, TypeEDS, TypeUpstreamTLSContext,
    TypeZipkinConfig]

/-- `typeURL, ok := ValidURI[url]`. -/
def ValidURI (url : String) : Option String :=
  if url ∈ validURIs then some url else none

/-- `IsWildcardTypeURI`: Envoy subscribes to clusters and listeners in wildcard mode. -/
def IsWildcardTypeURI (t : String) : Bool := t == TypeCDS || t == TypeLDS

theorem ValidURI_eq_some {url t : String} (h : ValidURI url = some t) : t = url := by
  unfold ValidURI at h
  split at h
  · exact (Option.some.inj h).symm
  · cases h

/-! ## The proxy's xDS state -/

/-- The fields of `envoy.Proxy` that the ADS state machine reads and writes. -/
structure Proxy where
  lastSentVersion : String → UInt64
  lastAppliedVersion : String → UInt64
  lastNonce : String → Option String
  lastxDSResourcesSent : String → Finset String
  subscribedResources : String → Finset String

/-- `NewProxy`: every map empty. -/
def NewProxy : Proxy where
  lastSentVersion := fun _ => 0
  lastAppliedVersion := fun _ => 0
  lastNonce := fun _ => none
  lastxDSResourcesSent := fun _ => ∅
  subscribedResources := fun _ => ∅

namespace Proxy

variable (p : Proxy) (t : String)

/-- `SetLastAppliedVersion`. -/
def SetLastAppliedVersion (v : UInt64) : Proxy :=
  { p with lastAppliedVersion := Function.update p.lastAppliedVersion t v }

/-- `SetLastSentVersion`. -/
def SetLastSentVersion (v : UInt64) : Proxy :=
  { p with lastSentVersion := Function.update p.lastSentVersion t v }

/-- `IncrementLastSentVersion`: `lastSentVersion[t]++` (wrapping, as a Go `uint64`), then
    the new value. -/
def IncrementLastSentVersion : UInt64 × Proxy :=
  (p.lastSentVersion t + 1, p.SetLastSentVersion t (p.lastSentVersion t + 1))

/-- `GetLastSentNonce`: the stored nonce, storing `""` first when the key is missing. -/
def GetLastSentNonce : String × Proxy :=
  match p.lastNonce t with
  | some n => (n, p)
  | none => ("", { p with lastNonce := Function.update p.lastNonce t (some "") })

/-- `SetNewNonce`: the nonce is `fmt.Sprintf("%d", time.Now().UnixNano())` for the clock
    reading `now`. -/
def SetNewNonce (now : Int) : String × Proxy :=
  (toString now, { p with lastNonce := Function.update p.lastNonce t (some (toString now)) })

/-- `SetLastResourcesSent`. -/
def SetLastResourcesSent (s : Finset String) : Proxy :=
  { p with lastxDSResourcesSent := Function.update p.lastxDSResourcesSent t s }

/-- `SetSubscribedResources`. -/
def SetSubscribedResources (s : Finset String) : Proxy :=
  { p with subscribedResources := Function.update p.subscribedResources t s }

/-! ### Field lemmas -/

section
variable {p t}

@[simp] theorem SetLastAppliedVersion_lastSentVersion (v : UInt64) :
    (p.SetLastAppliedVersion t v).lastSentVersion = p.lastSentVersion := rfl
@[simp] theorem SetLastAppliedVersion_lastAppliedVersion (v : UInt64) :
    (p.SetLastAppliedVersion t v).lastAppliedVersion =
      Function.update p.lastAppliedVersion t v := rfl
@[simp] theorem SetLastAppliedVersion_lastNonce (v : UInt64) :
    (p.SetLastAppliedVersion t v).lastNonce = p.lastNonce := rfl
@[simp] theorem SetLastAppliedVersion_lastxDSResourcesSent (v : UInt64) :
    (p.SetLastAppliedVersion t v).lastxDSResourcesSent = p.lastxDSResourcesSent := rfl
@[simp] theorem SetLastAppliedVersion_subscribedResources (v : UInt64) :
    (p.SetLastAppliedVersion t v).subscribedResources = p.subscribedResources := rfl

@[simp] theorem SetLastSentVersion_lastSentVersion (v : UInt64) :
    (p.SetLastSentVersion t v).lastSentVersion = Function.update p.lastSentVersion t v := rfl
@[simp] theorem SetLastSentVersion_lastAppliedVersion (v : UInt64) :
    (p.SetLastSentVersion t v).lastAppliedVersion = p.lastAppliedVersion := rfl
@[simp] theorem SetLastSentVersion_lastNonce (v : UInt64) :
    (p.SetLastSentVersion t v).lastNonce = p.lastNonce := rfl
@[simp] theorem SetLastSentVersion_lastxDSResourcesSent (v : UInt64) :
    (p.SetLastSentVersion t v).lastxDSResourcesSent = p.lastxDSResourcesSent := rfl
@[simp] theorem SetLastSentVersion_subscribedResources (v : UInt64) :
    (p.SetLastSentVersion t v).subscribedResources = p.subscribedResources := rfl

@[simp] theorem SetLastResourcesSent_lastSentVersion (s : Finset String) :
    (p.SetLastResourcesSent t s).lastSentVersion = p.lastSentVersion := rfl
@[simp] theorem SetLastResourcesSent_lastAppliedVersion (s : Finset String) :
    (p.SetLastResourcesSent t s).lastAppliedVersion = p.lastAppliedVersion := rfl
@[simp] theorem SetLastResourcesSent_lastNonce (s : Finset String) :
    (p.SetLastResourcesSent t s).lastNonce = p.lastNonce := rfl
@[simp] theorem SetLastResourcesSent_lastxDSResourcesSent (s : Finset String) :
    (p.SetLastResourcesSent t s).lastxDSResourcesSent =
      Function.update p.lastxDSResourcesSent t s := rfl
@[simp] theorem SetLastResourcesSent_subscribedResources (s : Finset String) :
    (p.SetLastResourcesSent t s).subscribedResources = p.subscribedResources := rfl

@[simp] theorem SetSubscribedResources_lastSentVersion (s : Finset String) :
    (p.SetSubscribedResources t s).lastSentVersion = p.lastSentVersion := rfl
@[simp] theorem SetSubscribedResources_lastAppliedVersion (s : Finset String) :
    (p.SetSubscribedResources t s).lastAppliedVersion = p.lastAppliedVersion := rfl
@[simp] theorem SetSubscribedResources_lastNonce (s : Finset String) :
    (p.SetSubscribedResources t s).lastNonce = p.lastNonce := rfl
@[simp] theorem SetSubscribedResources_lastxDSResourcesSent (s : Finset String) :
    (p.SetSubscribedResources t s).lastxDSResourcesSent = p.lastxDSResourcesSent := rfl
@[simp] theorem SetSubscribedResources_subscribedResources (s : Finset String) :
    (p.SetSubscribedResources t s).subscribedResources =
      Function.update p.subscribedResources t s := rfl

end

/-- The nonce `SetNewNonce` stores is never empty: the decimal text of an integer has at
    least one digit. -/
theorem toString_int_ne_empty (n : Int) : toString n ≠ "" := by
  show Int.repr n ≠ ""
  cases n with
  | ofNat m => exact Nat.repr_ne_empty
  | negSucc m =>
    intro h
    have := congrArg String.length h
    simp [Int.repr] at this

@[simp] theorem GetLastSentNonce_snd_lastSentVersion :
    (p.GetLastSentNonce t).2.lastSentVersion = p.lastSentVersion := by
  unfold GetLastSentNonce; split <;> rfl
@[simp] theorem GetLastSentNonce_snd_lastAppliedVersion :
    (p.GetLastSentNonce t).2.lastAppliedVersion = p.lastAppliedVersion := by
  unfold GetLastSentNonce; split <;> rfl
@[simp] theorem GetLastSentNonce_snd_lastxDSResourcesSent :
    (p.GetLastSentNonce t).2.lastxDSResourcesSent = p.lastxDSResourcesSent := by
  unfold GetLastSentNonce; split <;> rfl
@[simp] theorem GetLastSentNonce_snd_subscribedResources :
    (p.GetLastSentNonce t).2.subscribedResources = p.subscribedResources := by
  unfold GetLastSentNonce; split <;> rfl

/-- Reading the nonce changes only a missing entry, and only to `""`. -/
theorem GetLastSentNonce_snd_lastNonce :
    (p.GetLastSentNonce t).2.lastNonce =
      Function.update p.lastNonce t (some ((p.lastNonce t).getD "")) := by
  unfold GetLastSentNonce
  cases h : p.lastNonce t with
  | some n =>
    simp only [Option.getD_some]
    rw [← h, Function.update_eq_self]
  | none => rfl

end Proxy

end OsmEdge.Envoy
