import OsmEdge.Envoy.Proxy
import OsmEdge.Lib.GoText
import OsmEdge.Lib.Trace

/-
  The ADS state machine of `pkg/sidecar/providers/envoy/ads`: `respondToRequest`
  (stream.go), which decides whether a `DiscoveryRequest` is answered, and
  `SendDiscoveryResponse` (response.go), which stamps a response with the next version and
  a fresh nonce and records what was sent.

  Both mutate the proxy, so both return the new `Proxy`. The nonce is the decimal text of
  `time.Now().UnixNano()`; the clock reading is an argument (`now`), as is the outcome of
  the gRPC `Send` (`sendOk`). A resource is its name (`cache.GetResourceName`) and whether
  `anypb.New` accepts it.

  The stream loop calls `SendDiscoveryResponse` after `respondToRequest` answers `true`, and
  also for control-plane pushes and certificate rotations, so the events of one stream are
  requests and sends in any order (`Event`, `step`).
-/

namespace OsmEdge.Ads

open OsmEdge.Envoy

/-- The fields of `xds_discovery.DiscoveryRequest` the server reads. `ErrorDetail` is the
    `google.rpc.Status` of a NACK; `nil` is `none`. -/
structure DiscoveryRequest where
  TypeUrl : String
  VersionInfo : String
  ResponseNonce : String
  ResourceNames : List String
  ErrorDetail : Option String

/-- A resource handed to `SendDiscoveryResponse`. -/
structure Resource where
  name : String
  marshals : Bool

/-- The `DiscoveryResponse` put on the stream; `Resources` are the names of the resources it
    carries. -/
structure DiscoveryResponse where
  TypeUrl : String
  VersionInfo : String
  Nonce : String
  Resources : List String

/-- `parseRequestVersion`: an empty `VersionInfo` is version 0, anything else must be a
    decimal `uint64`. -/
def parseRequestVersion (req : DiscoveryRequest) : Option UInt64 :=
  if req.VersionInfo = "" then some 0
  else (GoText.parseUint req.VersionInfo.toList 64).map UInt64.ofNat

/-- `getRequestedResourceNamesSet`. -/
def getRequestedResourceNamesSet (req : DiscoveryRequest) : Finset String :=
  req.ResourceNames.toFinset

/-- `respondToRequest`. The debug line at the top evaluates
    `proxy.GetLastSentNonce(TypeURI(TypeUrl))` as a `Msgf` argument, which stores `""` for a
    URL the proxy has no nonce for; every later branch starts from that proxy. -/
def respondToRequest (p : Proxy) (req : DiscoveryRequest) : Bool × Proxy :=
  let p := (p.GetLastSentNonce req.TypeUrl).2
  match ValidURI req.TypeUrl with
  | none => (false, p)
  | some typeURL =>
    if typeURL = TypeEmptyURI then (false, p) else
    match parseRequestVersion req with
    | none => (false, p)
    | some requestVersion =>
      -- NACK
      if req.ErrorDetail.isSome then (false, p) else
      -- first request on the stream for this type
      if req.ResponseNonce = "" then
        (true, p.SetSubscribedResources typeURL (getRequestedResourceNamesSet req))
      else
        let lastNonce := (p.GetLastSentNonce typeURL).1
        let p := (p.GetLastSentNonce typeURL).2
        -- reconnection: take over the version the proxy reports
        if lastNonce = "" then
          (true, ((p.SetLastSentVersion typeURL requestVersion).SetLastAppliedVersion typeURL
            requestVersion).SetSubscribedResources typeURL (getRequestedResourceNamesSet req))
        else if req.ResponseNonce ≠ lastNonce then (false, p)
        else
          let p := p.SetLastAppliedVersion typeURL requestVersion
          if IsWildcardTypeURI typeURL then (false, p)
          else
            let resourcesRequested := getRequestedResourceNamesSet req
            let p := p.SetSubscribedResources typeURL resourcesRequested
            (decide (resourcesRequested ≠ p.lastxDSResourcesSent typeURL), p)

/-- What `SendDiscoveryResponse` records as sent: for a non-wildcard type, the names of the
    marshalled resources the proxy is subscribed to. -/
def resourcesSent (typeURI : String) (subscribed : Finset String)
    (resourcesToSend : List Resource) : Finset String :=
  if IsWildcardTypeURI typeURI then ∅
  else ((resourcesToSend.filter (·.marshals)).map (·.name)).toFinset.filter (· ∈ subscribed)

/-- `SendDiscoveryResponse`: the version is incremented and the nonce replaced before the
    send, and the resources sent are recorded only when the send succeeds. Returns the
    response, whether it was sent, and the proxy. -/
def SendDiscoveryResponse (p : Proxy) (req : DiscoveryRequest)
    (resourcesToSend : List Resource) (now : Int) (sendOk : Bool) :
    (DiscoveryResponse × Bool) × Proxy :=
  let typeURI := req.TypeUrl
  let version := (p.IncrementLastSentVersion typeURI).1
  let p := (p.IncrementLastSentVersion typeURI).2
  let nonce := (p.SetNewNonce typeURI now).1
  let p := (p.SetNewNonce typeURI now).2
  let response : DiscoveryResponse :=
    { TypeUrl := req.TypeUrl
      VersionInfo := toString version.toNat
      Nonce := nonce
      Resources := (resourcesToSend.filter (·.marshals)).map (·.name) }
  let sent := resourcesSent typeURI (p.subscribedResources typeURI) resourcesToSend
  if sendOk then ((response, true), p.SetLastResourcesSent typeURI sent)
  else ((response, false), p)

/-! ## The events of one stream -/

/-- What happens on a stream: a request arrives, or a response of the request's type is
    built from `resources` at clock reading `now` and its send succeeds or fails. -/
inductive Event where
  | request (req : DiscoveryRequest)
  | send (req : DiscoveryRequest) (resources : List Resource) (now : Int) (sendOk : Bool)

/-- The observable result of an event: the answer of `respondToRequest`, or the response,
    its version and whether it went out. -/
inductive Output where
  | answer (respond : Bool)
  | response (r : DiscoveryResponse) (version : UInt64) (sent : Bool)

/-- One event. -/
def step (p : Proxy) : Event → Output × Proxy
  | .request req => (.answer (respondToRequest p req).1, (respondToRequest p req).2)
  | .send req resources now sendOk =>
    let r := SendDiscoveryResponse p req resources now sendOk
    (.response r.1.1 (p.lastSentVersion req.TypeUrl + 1) r.1.2, r.2)

/-- The outputs and final proxy of a sequence of events. -/
def run (p : Proxy) (es : List Event) : List Output × Proxy := Trace.run step p es

end OsmEdge.Ads
