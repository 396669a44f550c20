import OsmEdge.Validator.Policy
import OsmEdge.Catalog.Egress
import OsmEdge.Lib.Informer
import OsmEdge.Lib.LabelSelector

/-
  The validating webhook as the API server runs it: the configuration
  `createOrUpdateValidatingWebhook` writes (`pkg/validator/patch.go`), the dispatch of
  `handleValidation` (`server.go`), the validators of `validators.go` that `Validator.Policy`
  leaves out, and the lookup `GetUpstreamTrafficSetting` of the policy client
  (`pkg/policy/client.go`).

  The API server sends the webhook a request only when one of the configuration's rules lists
  its operation and resource and the object's namespace matches the namespace selector: the
  creates and updates of IngressBackends, Egresses, EgressGateways and the three plugin
  resources, and of TrafficTargets when their validation is on (`Sends_iff`). The server has
  validators for AccessCerts, AccessControls and UpstreamTrafficSettings as well; no request
  reaches them, and objects of those kinds are stored unchecked. The failure policy is `Fail`:
  a webhook that panics refuses the request.

  A validator that reads other objects reads them from the policy client's informer cache,
  which the watch fills after the store has taken a write (`Lib.Informer`). The EgressGateway
  validator refuses global egress gateways when another gateway in the cache has some,
  comparing names with `strings.EqualFold`.

  Proved:
  * `egress_gateway_global_unique`: in every run of an API server, EgressGateway informer and
    webhook that behave as documented (`Informer.SyncedLaws`), each check reading a cache that
    has caught up, at most one stored EgressGateway of a namespace the webhook watches has
    global gateways. The model's `Informer.stepSynced` is such a run's step.
  * `upstream_traffic_setting_validator_unreached`: no UpstreamTrafficSetting request is sent
    to the webhook; and its validator, given a host with a dot, panics on every cache whose
    first setting has another host, as the lookup by host reads the mesh service pointer it
    was not given.
-/

namespace OsmEdge.Validator

open OsmEdge.Catalog OsmEdge.Service GoText

/-! ## The webhook configuration and the API server -/

/-- `admissionregv1.OperationType`. -/
inductive OperationType
  | Create
  | Update
  | Delete
  | Connect
  deriving DecidableEq, Repr

/-- `admissionregv1.FailurePolicyType`. -/
inductive FailurePolicyType
  | Ignore
  | Fail
  deriving DecidableEq, Repr

/-- `admissionregv1.Rule`; the scope is left out. -/
structure Rule where
  APIGroups : List String
  APIVersions : List String
  Resources : List String
  deriving DecidableEq, Repr

/-- `admissionregv1.RuleWithOperations`. -/
structure RuleWithOperations where
  Operations : List OperationType
  Rule : Rule
  deriving DecidableEq, Repr

/-- `admissionregv1.ValidatingWebhook`, in the fields that decide which requests it gets and
    what a failed call does. -/
structure ValidatingWebhook where
  FailurePolicy : FailurePolicyType
  NamespaceSelector : LabelSelector
  Rules : List RuleWithOperations

/-- The group, version and resource of a request. -/
structure GroupVersionResource where
  Group : String
  Version : String
  Resource : String
  deriving DecidableEq, Repr

/-- `constants.OSMKubeResourceMonitorAnnotation`. -/
def OSMKubeResourceMonitorAnnotation : String := "openservicemesh.io/monitored-by"

/-- `constants.IgnoreLabel`. -/
def IgnoreLabel : String := "openservicemesh.io/ignore"

/-- The group of the policy API. -/
def policyGroup : String := "policy.openservicemesh.io"

/-- The group of the plugin API. -/
def pluginGroup : String := "plugin.flomesh.io"

/-- The webhook `createOrUpdateValidatingWebhook` creates, or updates the existing one to. -/
def createOrUpdateValidatingWebhook (meshName osmNamespace : String)
    (validateTrafficTarget : Bool) : ValidatingWebhook where
  FailurePolicy := .Fail
  NamespaceSelector :=
    { MatchLabels := [( OSMKubeResourceMonitorAnnotation, meshName)]
      MatchExpressions :=
        [⟨IgnoreLabel, .DoesNotExist, []⟩, ⟨"name", .NotIn, [osmNamespace]⟩,
          ⟨"control-plane", .DoesNotExist, []⟩] }
  Rules :=
    [⟨[.Create, .Update], ⟨[policyGroup], ["v1alpha1"], ["ingressbackends", "egresses", "egressgateways"]⟩⟩,
      ⟨[.Create, .Update], ⟨[pluginGroup], ["v1alpha1"], ["plugins", "pluginchains", "pluginconfigs"]⟩⟩] ++
    if validateTrafficTarget then
      [⟨[.Create, .Update], ⟨["access.smi-spec.io"], ["v1alpha3"], ["traffictargets"]⟩⟩]
    else []

/-- Whether a rule lists the request's operation, group, version and resource; the rules have
    no wildcard, and the match policy is `Exact`. -/
def RuleWithOperations.Matches (r : RuleWithOperations) (op : OperationType)
    (gvr : GroupVersionResource) : Bool :=
  r.Operations.contains op && r.Rule.APIGroups.contains gvr.Group &&
    r.Rule.APIVersions.contains gvr.Version && r.Rule.Resources.contains gvr.Resource

/-- Whether the API server sends the webhook a request: the labels of the object's namespace
    match the selector, and a rule matches. -/
def ValidatingWebhook.Sends (wh : ValidatingWebhook) (nsLabels : List (String × String))
    (op : OperationType) (gvr : GroupVersionResource) : Bool :=
  wh.NamespaceSelector.Matches nsLabels && wh.Rules.any (·.Matches op gvr)

/-- `admissionv1.AdmissionResponse`, in what the API server reads of it. -/
structure AdmissionResponse where
  Allowed : Bool
  Message : String
  deriving DecidableEq, Repr

/-- What the API server does with a write: a request it does not send passes; a sent one
    passes when the webhook allows it, and when the call fails (the handler panicked) as the
    failure policy says. -/
def ValidatingWebhook.Admits (wh : ValidatingWebhook) (nsLabels : List (String × String))
    (op : OperationType) (gvr : GroupVersionResource) (response : Except String AdmissionResponse) :
    Bool :=
  if wh.Sends nsLabels op gvr then
    match response with
    | .ok r => r.Allowed
    | .error _ => wh.FailurePolicy == .Ignore
  else true

/-- The requests the webhook of `createOrUpdateValidatingWebhook` is sent. -/
theorem Sends_iff (meshName osmNamespace : String) (validateTrafficTarget : Bool)
    (nsLabels : List (String × String)) (op : OperationType) (gvr : GroupVersionResource) :
    (createOrUpdateValidatingWebhook meshName osmNamespace validateTrafficTarget).Sends nsLabels
        op gvr = true ↔
      (createOrUpdateValidatingWebhook meshName osmNamespace validateTrafficTarget).NamespaceSelector.Matches
          nsLabels = true ∧
        (op = .Create ∨ op = .Update) ∧
        ((gvr.Group = policyGroup ∧ gvr.Version = "v1alpha1" ∧
            gvr.Resource ∈ ["ingressbackends", "egresses", "egressgateways"]) ∨
          (gvr.Group = pluginGroup ∧ gvr.Version = "v1alpha1" ∧
            gvr.Resource ∈ ["plugins", "pluginchains", "pluginconfigs"]) ∨
          (validateTrafficTarget = true ∧ gvr.Group = "access.smi-spec.io" ∧
            gvr.Version = "v1alpha3" ∧ gvr.Resource = "traffictargets")) := by
  unfold ValidatingWebhook.Sends
  rw [Bool.and_eq_true, List.any_eq_true]
  refine and_congr_right fun _ => ?_
  cases validateTrafficTarget <;>
    simp [createOrUpdateValidatingWebhook, RuleWithOperations.Matches] <;> tauto

/-! ## The webhook server -/

/-- `schema.GroupVersionKind.String()`. -/
def gvkString (group version kind : String) : String :=
  group ++ "/" ++ version ++ ", Kind=" ++ kind

/-- The validators `NewValidatingWebhook` registers. -/
inductive ValidatorName
  | accessCertValidator
  | accessControlValidator
  | ingressBackendValidator
  | egressValidator
  | egressGatewayValidator
  | upstreamTrafficSettingValidator
  | trafficTargetValidator
  | pluginValidator
  | pluginConfigValidator
  | pluginChainValidator
  deriving DecidableEq, Repr

/-- The validator map of `NewValidatingWebhook`, by the text of the kind. -/
def validators : List (String × ValidatorName) :=
  [(gvkString policyGroup "v1alpha1" "AccessCert", .accessCertValidator),
    (gvkString policyGroup "v1alpha1" "AccessControl", .accessControlValidator),
    (gvkString policyGroup "v1alpha1" "IngressBackend", .ingressBackendValidator),
    (gvkString policyGroup "v1alpha1" "Egress", .egressValidator),
    (gvkString policyGroup "v1alpha1" "EgressGateway", .egressGatewayValidator),
    (gvkString policyGroup "v1alpha1" "UpstreamTrafficSetting", .upstreamTrafficSettingValidator),
    (gvkString "access.smi-spec.io" "v1alpha3" "TrafficTarget", .trafficTargetValidator),
    (gvkString pluginGroup "v1alpha1" "Plugin", .pluginValidator),
    (gvkString pluginGroup "v1alpha1" "PluginConfig", .pluginConfigValidator),
    (gvkString pluginGroup "v1alpha1" "PluginChain", .pluginChainValidator)]

/-- `webhook.AdmissionError`. -/
def AdmissionError (err : String) : AdmissionResponse := ⟨false, err⟩

/-- `handleValidation`, where `run` is what each validator makes of the request: a panic, or
    the error it returns. The validator registered for the kind runs; its error denies the
    request with its text, none allows it. -/
def handleValidation (gvk : String) (run : ValidatorName → Except String (Except String Unit)) :
    Except String AdmissionResponse :=
  match validators.lookup gvk with
  | none => .ok (AdmissionError ("unknown gvk: " ++ gvk))
  | some v =>
    (run v).map fun
      | .ok () => ⟨true, ""⟩
      | .error err => AdmissionError err

/-! ## The validators -/

/-- The feature flags of the MeshConfig the validators read. -/
structure FeatureFlags where
  EnableAccessCertPolicy : Bool
  EnablePluginPolicy : Bool
  deriving DecidableEq, Repr

/-- A validator that refuses everything while a feature is off. -/
def featureGate (enabled : Bool) (message : String) : Except String Unit :=
  if !enabled then .error message else .ok ()

/-- `accessCertValidator`. -/
def accessCertValidator (flags : FeatureFlags) : Except String Unit :=
  featureGate flags.EnableAccessCertPolicy "OSM is prohibited to issue certificates for external services"

/-- The message of the plugin validators with the plugin feature off. -/
def pluginPolicyProhibited : String := "OSM is prohibited to apply plugin policy"

/-- `pluginv1alpha1.Plugin`, in the fields the validator reads. -/
structure Plugin where
  Name : String
  Namespace : String
  Script : String
  deriving DecidableEq, Repr

/-- `pluginValidator`: it also refuses a plugin without a script. -/
def pluginValidator (flags : FeatureFlags) (plugin : Plugin) : Except String Unit := do
  featureGate flags.EnablePluginPolicy pluginPolicyProhibited
  if plugin.Script.length = 0 then
    .error ("plugin[" ++ plugin.Name ++ "." ++ plugin.Namespace ++ "] is missing pipy script")
  else .ok ()

/-- `pluginConfigValidator`. -/
def pluginConfigValidator (flags : FeatureFlags) : Except String Unit :=
  featureGate flags.EnablePluginPolicy pluginPolicyProhibited

/-- `pluginChainValidator`. -/
def pluginChainValidator (flags : FeatureFlags) : Except String Unit :=
  featureGate flags.EnablePluginPolicy pluginPolicyProhibited

/-- `trafficTargetValidator`. -/
def trafficTargetValidator (trafficTarget : TrafficTarget) : Except String Unit :=
  if trafficTarget.Spec.Destination.Namespace ≠ trafficTarget.Namespace then
    .error ("The traffic target namespace (" ++ trafficTarget.Namespace ++
      ") must match spec.Destination.Namespace (" ++ trafficTarget.Spec.Destination.Namespace ++ ")")
  else .ok ()

/-- The loop of `egressValidator` over the matches, counting those of UpstreamTrafficSettings:
    a match without an API group is dereferenced and panics; an unknown group or kind returns
    its error. -/
def egressMatchesLoop : List TypedLocalObjectReference → Nat → Except String (Except String Nat)
  | [], count => .ok (.ok count)
  | m :: ms, count =>
    match m.APIGroup with
    | none => .error ExceptLoop.nilDereference
    | some apiGroup =>
      if apiGroup = smiSpecsGroupVersion then
        if m.Kind = "HTTPRouteGroup" then egressMatchesLoop ms count
        else .ok (.error ("Expected 'matches.kind' for match '" ++ m.Name ++
          "' to be 'HTTPRouteGroup', got: " ++ m.Kind))
      else if apiGroup = policyGroupVersion then
        if m.Kind = "UpstreamTrafficSetting" then egressMatchesLoop ms (count + 1)
        else .ok (.error ("Expected 'matches.kind' for match '" ++ m.Name ++
          "' to be 'UpstreamTrafficSetting', got: " ++ m.Kind))
      else .ok (.error ("Expected 'matches.apiGroup' to be one of [" ++ smiSpecsGroupVersion ++
        " " ++ policyGroupVersion ++ "], got: " ++ apiGroup))

/-- `egressValidator`: a panic, or its verdict. -/
def egressValidator (egress : Egress) : Except String (Except String Unit) :=
  (egressMatchesLoop egress.Spec.Matches 0).map fun
    | .ok count =>
      if count > 1 then .error "Cannot have more than 1 UpstreamTrafficSetting match" else .ok ()
    | .error err => .error err

/-- Whether an EgressGateway lists global gateways, `len(Spec.GlobalEgressGateways) > 0`. -/
def hasGlobalEgressGateways (egressGateway : EgressGateway) : Bool :=
  (egressGateway.Spec.GlobalEgressGateways.getD []).length > 0

/-- `egressGatewayValidator`, on the EgressGateways `ListEgressGateways` returns: a gateway with
    global gateways is refused when another gateway, by name and namespace up to case, has
    some. -/
def egressGatewayValidator (existEgressGateways : List EgressGateway)
    (egressGateway : EgressGateway) : Except String Unit :=
  if hasGlobalEgressGateways egressGateway then
    match existEgressGateways.find? (fun p =>
        !(equalFold egressGateway.Name p.Name && equalFold egressGateway.Namespace p.Namespace) &&
          hasGlobalEgressGateways p) with
    | some p =>
      .error ("Redefinition of global egress gateway policy and conflict with " ++ p.Namespace ++
        "." ++ p.Name)
    | none => .ok ()
  else .ok ()

/-! ## UpstreamTrafficSettings and the policy client's lookup -/

/-- `HTTPLocalRateLimitSpec`, in the field the validator reads. -/
structure HTTPLocalRateLimitSpec where
  ResponseStatusCode : UInt32
  deriving DecidableEq, Repr

/-- `LocalRateLimitSpec`; the TCP limit is not read. -/
structure LocalRateLimitSpec where
  HTTP : Option HTTPLocalRateLimitSpec
  deriving DecidableEq, Repr

/-- `RateLimitSpec`. -/
structure RateLimitSpec where
  Local : Option LocalRateLimitSpec
  deriving DecidableEq, Repr

/-- `HTTPPerRouteRateLimitSpec`. -/
structure HTTPPerRouteRateLimitSpec where
  Local : Option HTTPLocalRateLimitSpec
  deriving DecidableEq, Repr

/-- `HTTPRouteSpec`; the path is not read. -/
structure HTTPRouteSpec where
  RateLimit : Option HTTPPerRouteRateLimitSpec
  deriving DecidableEq, Repr

/-- `UpstreamTrafficSettingSpec`; the connection settings are not read. -/
structure UpstreamTrafficSettingSpec where
  Host : String
  RateLimit : Option RateLimitSpec
  HTTPRoutes : List HTTPRouteSpec
  deriving DecidableEq, Repr

/-- `UpstreamTrafficSetting`. -/
structure UpstreamTrafficSetting where
  Namespace : String
  Name : String
  Spec : UpstreamTrafficSettingSpec
  deriving DecidableEq, Repr

/-- `UpstreamTrafficSettingGetOpt`; a namespaced name is `(namespace, name)`. -/
structure UpstreamTrafficSettingGetOpt where
  MeshService : Option MeshService
  NamespacedName : Option (String × String)
  Host : String

/-- The loop of `GetUpstreamTrafficSetting` over the cached settings when no namespaced name
    is given: a setting with the host asked for, else, through the mesh service pointer, one
    in the service's namespace whose host is the service's FQDN. Without a mesh service the
    pointer is `nil`, and the first setting of another host panics. -/
def lookupUpstreamTrafficSetting (options : UpstreamTrafficSettingGetOpt) :
    List UpstreamTrafficSetting → Except String (Option UpstreamTrafficSetting)
  | [] => .ok none
  | upstreamTrafficSetting :: rest =>
    if upstreamTrafficSetting.Spec.Host = options.Host then .ok (some upstreamTrafficSetting)
    else
      match options.MeshService with
      | none => .error ExceptLoop.nilDereference
      | some meshService =>
        if upstreamTrafficSetting.Namespace = meshService.Namespace ∧
            upstreamTrafficSetting.Spec.Host = meshService.FQDN then
          .ok (some upstreamTrafficSetting)
        else lookupUpstreamTrafficSetting options rest

/-- `GetUpstreamTrafficSetting` on the settings the informer lists: none without an option; by
    key for a namespaced name; else the loop. -/
def GetUpstreamTrafficSetting (store : List UpstreamTrafficSetting)
    (options : UpstreamTrafficSettingGetOpt) : Except String (Option UpstreamTrafficSetting) :=
  if options.MeshService.isNone && options.NamespacedName.isNone && options.Host == "" then .ok none
  else
    match options.NamespacedName with
    | some (ns, name) =>
      .ok (store.find? fun s => namespacedKey s.Namespace s.Name = namespacedKey ns name)
    | none => lookupUpstreamTrafficSetting options store

/-- Go's `%q` on text: in double quotes, with `"` and `\` escaped. Go also escapes the
    characters that are not printable, which is left out. -/
def quote (s : String) : String :=
  "\"" ++ String.ofList (s.toList.flatMap fun c => if c = '"' ∨ c = '\\' then ['\\', c] else [c]) ++
    "\""

/-- The text of the error `field.Invalid(path, value, detail)`. -/
def fieldInvalid (path value detail : String) : String :=
  path ++ ": Invalid value: " ++ quote value ++ ": " ++ detail

/-- The check of one response status code against the names of Envoy's `StatusCode` enum,
    by its `int32` value. -/
def checkResponseStatusCode (StatusCode_name : Int32 → Bool) (code : UInt32) : Except String Unit :=
  if StatusCode_name code.toInt32 then .ok ()
  else
    .error ("Invalid responseStatusCode " ++ toString code.toNat ++
      ". See https://www.envoyproxy.io/docs/envoy/latest/api-v3/type/v3/http_status.proto#enum-type-v3-statuscode for allowed values")

/-- The rate limit checks of `upstreamTrafficSettingValidator`: the virtual host's local HTTP
    limit, then each route's. -/
def checkRateLimits (StatusCode_name : Int32 → Bool) (spec : UpstreamTrafficSettingSpec) :
    Except String Unit := do
  match spec.RateLimit.bind (·.Local) |>.bind (·.HTTP) with
  | some http => checkResponseStatusCode StatusCode_name http.ResponseStatusCode
  | none => pure ()
  spec.HTTPRoutes.forM fun route =>
    match route.RateLimit.bind (·.Local) with
    | some rateLimit => checkResponseStatusCode StatusCode_name rateLimit.ResponseStatusCode
    | none => pure ()

/-- `upstreamTrafficSettingValidator`: a panic, or its verdict. The host must have a dot; a
    cached setting with the same host and another name is a conflict, reported in the new
    setting's namespace; the status codes of the rate limits must be Envoy's. -/
def upstreamTrafficSettingValidator (StatusCode_name : Int32 → Bool)
    (store : List UpstreamTrafficSetting) (upstreamTrafficSetting : UpstreamTrafficSetting) :
    Except String (Except String Unit) :=
  let ns := upstreamTrafficSetting.Namespace
  let host := upstreamTrafficSetting.Spec.Host
  if (split '.' host.toList).length < 2 then
    .ok (.error (fieldInvalid "spec.host" host "invalid FQDN specified as host"))
  else
    (GetUpstreamTrafficSetting store ⟨none, none, host⟩).map fun
      | some matching =>
        if matching.Name ≠ upstreamTrafficSetting.Name then
          .error ("UpstreamTrafficSetting " ++ ns ++ "/" ++ upstreamTrafficSetting.Name ++
            " conflicts with " ++ ns ++ "/" ++ matching.Name ++ " since they have the same host " ++
            matching.Spec.Host)
        else checkRateLimits StatusCode_name upstreamTrafficSetting.Spec
      | none => checkRateLimits StatusCode_name upstreamTrafficSetting.Spec

/-- A host with a dot is not empty, so the lookup by host alone is asked something. -/
theorem host_ne_empty_of_split {host : String} (h : ¬ (split '.' host.toList).length < 2) :
    (host == "") = false := by
  by_cases he : host = ""
  · subst he
    simp at h
  · simpa using he

/-- The lookup by host alone reads the first cached setting only: it is the answer when it has
    the host, and a panic when it has another. -/
theorem GetUpstreamTrafficSetting_host {host : String} (hhost : (host == "") = false)
    (store : List UpstreamTrafficSetting) :
    GetUpstreamTrafficSetting store ⟨none, none, host⟩ =
      match store with
      | [] => .ok none
      | s :: _ => if s.Spec.Host = host then .ok (some s) else .error ExceptLoop.nilDereference := by
  cases store with
  | nil => simp [GetUpstreamTrafficSetting, lookupUpstreamTrafficSetting]
  | cons s rest =>
    simp only [GetUpstreamTrafficSetting, hhost, Option.isNone_none, Bool.and_false,
      Bool.false_eq_true, if_false, lookupUpstreamTrafficSetting]

/-- No UpstreamTrafficSetting is sent to the webhook; its validator, given a host with a dot,
    panics exactly when the first cached setting has another host. -/
theorem upstream_traffic_setting_validator_unreached (meshName osmNamespace : String)
    (validateTrafficTarget : Bool) (nsLabels : List (String × String)) (op : OperationType)
    (StatusCode_name : Int32 → Bool) (store : List UpstreamTrafficSetting)
    (upstreamTrafficSetting : UpstreamTrafficSetting) :
    (createOrUpdateValidatingWebhook meshName osmNamespace validateTrafficTarget).Sends nsLabels op
        ⟨policyGroup, "v1alpha1", "upstreamtrafficsettings"⟩ = false ∧
      ((∃ e, upstreamTrafficSettingValidator StatusCode_name store upstreamTrafficSetting = .error e) ↔
        ¬ (split '.' upstreamTrafficSetting.Spec.Host.toList).length < 2 ∧
          ∃ s rest, store = s :: rest ∧ s.Spec.Host ≠ upstreamTrafficSetting.Spec.Host) := by
  constructor
  · rw [← Bool.not_eq_true, Sends_iff]
    simp [policyGroup, pluginGroup]
  · unfold upstreamTrafficSettingValidator
    dsimp only
    split
    · rename_i hsplit
      simp [hsplit]
    · rename_i hsplit
      rw [GetUpstreamTrafficSetting_host (host_ne_empty_of_split hsplit)]
      cases store with
      | nil => simp [hsplit, Except.map]
      | cons s rest =>
        by_cases hs : s.Spec.Host = upstreamTrafficSetting.Spec.Host
        · simp [hsplit, hs, Except.map]
        · simp [hsplit, hs, Except.map]

/-! ## The EgressGateway store under the webhook -/

/-- The key of an EgressGateway in the store and in the informer cache. -/
def egressGatewayKey (egressGateway : EgressGateway) : String × String :=
  (egressGateway.Namespace, egressGateway.Name)

/-- A character a DNS label or subdomain may hold. -/
def isDNS1123Char (c : Char) : Bool := c.isLower || c.isDigit || c = '-' || c = '.'

/-- What the model keeps of the API server's check of an object's namespace and name: both
    are made of the characters of DNS names. The API server checks their shape and length as
    well, so the model's runs include the real ones. -/
def dnsNames (egressGateway : EgressGateway) : Bool :=
  egressGateway.Namespace.toList.all isDNS1123Char && egressGateway.Name.toList.all isDNS1123Char

/-- The operation of a write. -/
def verbOperation : Informer.Verb → OperationType
  | .create => .Create
  | .update => .Update

/-- The resource of EgressGateways. -/
def egressGatewayGVR : GroupVersionResource := ⟨policyGroup, "v1alpha1", "egressgateways"⟩

/-- What the API server admits of a write of an EgressGateway, the webhook `wh` answering with
    `handleValidation` on the policy client's cache. Only the validator that the kind's text
    maps to runs (`lookup_egressGateway`). -/
def admitEgressGateway (wh : ValidatingWebhook) (nsLabels : String → List (String × String))
    (verb : Informer.Verb) (cache : List EgressGateway) (egressGateway : EgressGateway) : Bool :=
  wh.Admits (nsLabels egressGateway.Namespace) (verbOperation verb) egressGatewayGVR
    (handleValidation (gvkString policyGroup "v1alpha1" "EgressGateway") fun v =>
      if v = .egressGatewayValidator then .ok (egressGatewayValidator cache egressGateway)
      else .ok (.ok ()))

theorem lookup_egressGateway :
    validators.lookup (gvkString policyGroup "v1alpha1" "EgressGateway") =
      some .egressGatewayValidator := by
  decide

/-- The webhook's answer to a write of an EgressGateway is the validator's verdict. -/
theorem handleValidation_egressGateway (cache : List EgressGateway)
    (egressGateway : EgressGateway) :
    handleValidation (gvkString policyGroup "v1alpha1" "EgressGateway")
        (fun v => if v = .egressGatewayValidator then .ok (egressGatewayValidator cache egressGateway)
          else .ok (.ok ())) =
      .ok (match egressGatewayValidator cache egressGateway with
        | .ok () => ⟨true, ""⟩
        | .error err => AdmissionError err) := by
  rw [handleValidation, lookup_egressGateway]
  rfl

/-- What the EgressGateway validator lets through: a gateway without global gateways, or one
    whose every cached gateway with global gateways has its name and namespace up to case. -/
theorem egressGatewayValidator_ok_iff (cache : List EgressGateway)
    (egressGateway : EgressGateway) :
    egressGatewayValidator cache egressGateway = .ok () ↔
      (hasGlobalEgressGateways egressGateway = true →
        ∀ p ∈ cache, hasGlobalEgressGateways p = true →
          equalFold egressGateway.Name p.Name = true ∧
            equalFold egressGateway.Namespace p.Namespace = true) := by
  unfold egressGatewayValidator
  split
  · rename_i hglobal
    split
    · rename_i p hp
      obtain ⟨hmem, hfound⟩ := List.mem_of_find?_eq_some hp, List.find?_some hp
      simp only [Bool.and_eq_true, Bool.not_eq_true'] at hfound
      simp only [reduceCtorEq, false_iff, not_forall]
      exact ⟨hglobal, p, hmem, hfound.2, by simpa using hfound.1⟩
    · rename_i hnone
      simp only [true_iff]
      intro _ p hp hpg
      have := List.find?_eq_none.mp hnone p hp
      simpa [hpg] using this
  · rename_i hglobal
    simp [hglobal]

/-- A write of a gateway in a namespace the webhook of `createOrUpdateValidatingWebhook`
    watches is admitted only when the validator lets it through. -/
theorem egressGatewayValidator_of_admits {meshName osmNamespace : String}
    {validateTrafficTarget : Bool} {nsLabels : String → List (String × String)}
    {verb : Informer.Verb} {cache : List EgressGateway} {egressGateway : EgressGateway}
    (hsel : (createOrUpdateValidatingWebhook meshName osmNamespace
      validateTrafficTarget).NamespaceSelector.Matches (nsLabels egressGateway.Namespace) = true)
    (h : admitEgressGateway (createOrUpdateValidatingWebhook meshName osmNamespace
      validateTrafficTarget) nsLabels verb cache egressGateway = true) :
    egressGatewayValidator cache egressGateway = .ok () := by
  have hsends : (createOrUpdateValidatingWebhook meshName osmNamespace validateTrafficTarget).Sends
      (nsLabels egressGateway.Namespace) (verbOperation verb) egressGatewayGVR = true := by
    rw [Sends_iff]
    refine ⟨hsel, ?_, .inl ⟨rfl, rfl, by simp [egressGatewayGVR]⟩⟩
    cases verb <;> simp [verbOperation]
  unfold admitEgressGateway ValidatingWebhook.Admits at h
  rw [hsends, if_pos rfl, handleValidation_egressGateway] at h
  revert h
  cases egressGatewayValidator cache egressGateway with
  | ok u => intro _; rfl
  | error err => simp [AdmissionError]

/-- A character of a DNS name is no ASCII capital. -/
theorem isUpper_eq_false_of_isDNS1123Char {c : Char} (h : isDNS1123Char c = true) :
    c.isUpper = false := by
  simp only [isDNS1123Char, Bool.or_eq_true, decide_eq_true_eq] at h
  apply decide_eq_false
  -- a lower-case letter or a digit lies outside `A`..`Z`, and so do `-` and `.`
  rcases h with ((h | h) | rfl) | rfl
  · have h' : (decide (c.val ≥ 'a'.val) && decide (c.val ≤ 'z'.val)) = true := h
    simp [UInt32.le_iff_toNat_le] at h' ⊢
    omega
  · have h' : (decide (c.val ≥ '0'.val) && decide (c.val ≤ '9'.val)) = true := h
    simp [UInt32.le_iff_toNat_le] at h' ⊢
    omega
  · decide
  · decide

theorem forall_not_isUpper_of_dns {s : String} (h : s.toList.all isDNS1123Char = true) :
    ∀ c ∈ s.toList, c.isUpper = false :=
  fun c hc => isUpper_eq_false_of_isDNS1123Char (List.all_eq_true.mp h c hc)

/-- In every run of an API server, the EgressGateway informer and the webhook of
    `createOrUpdateValidatingWebhook` that behave as documented, each check reading a cache
    that has caught up, at most one stored EgressGateway of a namespace the webhook watches
    has global gateways. -/
theorem egress_gateway_global_unique (meshName osmNamespace : String)
    (validateTrafficTarget : Bool) (nsLabels : String → List (String × String))
    {apiServer : Informer.World EgressGateway (String × String) →
      Informer.Action EgressGateway (String × String) →
        Option (Informer.World EgressGateway (String × String))}
    (hlaws : Informer.SyncedLaws egressGatewayKey dnsNames
      (admitEgressGateway (createOrUpdateValidatingWebhook meshName osmNamespace
        validateTrafficTarget) nsLabels) apiServer)
    {w : Informer.World EgressGateway (String × String)}
    (h : Sched.Reachable apiServer Informer.World.empty w) :
    Informer.AtMostOne (fun egressGateway =>
      (createOrUpdateValidatingWebhook meshName osmNamespace
          validateTrafficTarget).NamespaceSelector.Matches (nsLabels egressGateway.Namespace) = true ∧
        hasGlobalEgressGateways egressGateway = true) w.store := by
  refine Informer.atMostOne_of_reachable hlaws ?_ h
  rintro verb cache g hcache hg hadmits ⟨hsel, hglobal⟩ p hp ⟨-, hpglobal⟩
  -- the gateway passed its validator, so every cached gateway with global gateways has its
  -- name and namespace up to case, and on DNS names that is the same name and namespace
  have hok := egressGatewayValidator_of_admits hsel hadmits
  obtain ⟨hname, hns⟩ := (egressGatewayValidator_ok_iff cache g).mp hok hglobal p hp hpglobal
  have hg' := hg
  have hp' := hcache p hp
  simp only [dnsNames, Bool.and_eq_true] at hg' hp'
  rw [equalFold_iff_eq (forall_not_isUpper_of_dns hg'.2) (forall_not_isUpper_of_dns hp'.2)] at hname
  rw [equalFold_iff_eq (forall_not_isUpper_of_dns hg'.1) (forall_not_isUpper_of_dns hp'.1)] at hns
  simp [egressGatewayKey, hname, hns]

/-- Two gateways of a watched namespace: one with global gateways, one without. -/
def globalGatewayA : EgressGateway := ⟨"bookstore", "global-a", ⟨some ["egress-gateway"], []⟩⟩
def ruleGateway : EgressGateway := ⟨"bookstore", "rules", ⟨none, []⟩⟩

/-- The labels of a namespace the mesh `osm` monitors. -/
def monitoredLabels : String → List (String × String) :=
  fun _ => [( OSMKubeResourceMonitorAnnotation, "osm")]

theorem egress_gateway_global_unique_bookstore :
    Informer.AtMostOne (fun egressGateway =>
      (createOrUpdateValidatingWebhook "osm" "osm-system" false).NamespaceSelector.Matches
          (monitoredLabels egressGateway.Namespace) = true ∧
        hasGlobalEgressGateways egressGateway = true) [globalGatewayA, ruleGateway] :=
  egress_gateway_global_unique "osm" "osm-system" false monitoredLabels
    Informer.stepSynced_laws (w := ⟨[globalGatewayA, ruleGateway], [], [globalGatewayA, ruleGateway]⟩)
    (Sched.reachable_of_runActions [.create globalGatewayA, .deliver, .create ruleGateway, .deliver]
      (by decide))

end OsmEdge.Validator
