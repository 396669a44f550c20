import OsmEdge.Validator.Admission
import OsmEdge.Injector.Exclusions
import OsmEdge.Lib.GoStrconv

/-
  The sidecar injector's admission of pod creations (`pkg/injector/webhook.go`): the
  MutatingWebhookConfiguration `createOrUpdateMutatingWebhook` writes, `mutate`, `mustInject`,
  `isNamespaceInjectable` and `isAnnotatedForInjection`, and the API server that calls the
  webhook.

  The API server sends the webhook every pod creation in a namespace whose labels match the
  configuration's selector; the failure policy is `Fail`. `mutate` then decides with
  `mustInject`: never for a pod on the host network or in a namespace the webhook may not
  inject into (`kube-system`, `kube-public`, the mesh's own, and those the namespace informer
  does not hold: it watches the namespaces labelled for the mesh). Otherwise the pod's
  injection annotation decides, and without one the namespace's; a value other than
  enabled/yes/true and disabled/no/false, in either case, is an error that refuses the pod. A
  pod that is to be injected is patched, and refused when the patch cannot be built.

  The namespace is read from the informer twice, by `IsMonitoredNamespace` and by
  `GetNamespace`; the model reads one cache, `nsCache`, for both, so the `namespace not found`
  error of the second read is never returned (it needs the namespace to leave the cache
  between the two reads).

  Proved:
  * `pod_admission`: what the API server makes of every pod creation: the pod as it is when
    the webhook is not called, the pod is on the host network or the namespace is not
    injectable; otherwise the pod's setting, else the namespace's, else no injection, and a
    refusal when either annotation is invalid, the pod's first. So a pod that opts out of
    injection explicitly is still refused in a namespace whose annotation has a typo.
-/

namespace OsmEdge.Injector

open OsmEdge.Validator GoText GoStrconv

/-! ## The webhook configuration -/

/-- `constants.SidecarInjectionAnnotation`. -/
def SidecarInjectionAnnotation : String := "openservicemesh.io/sidecar-injection"

/-- `admissionregv1.MutatingWebhook`, in the fields that decide which requests it gets and
    what a failed call does. -/
structure MutatingWebhook where
  FailurePolicy : FailurePolicyType
  NamespaceSelector : LabelSelector
  Rules : List RuleWithOperations

/-- The webhook `createOrUpdateMutatingWebhook` creates, or updates the existing one to. -/
def createOrUpdateMutatingWebhook (meshName osmNamespace : String) : MutatingWebhook where
  FailurePolicy := .Fail
  NamespaceSelector :=
    { MatchLabels := [( OSMKubeResourceMonitorAnnotation, meshName)]
      MatchExpressions :=
        [⟨IgnoreLabel, .DoesNotExist, []⟩, ⟨"name", .NotIn, [osmNamespace]⟩,
          ⟨"control-plane", .DoesNotExist, []⟩] }
  Rules := [⟨[.Create], ⟨["*"], ["v1"], ["pods"]⟩⟩]

/-- A list of a rule lists a value when it holds it or `*`. -/
def listed (xs : List String) (x : String) : Bool :=
  xs.contains "*" || xs.contains x

/-- Whether a rule lists the request's operation, group, version and resource (the match
    policy is `Exact`). -/
def ruleLists (r : RuleWithOperations) (op : OperationType) (gvr : GroupVersionResource) : Bool :=
  r.Operations.contains op && listed r.Rule.APIGroups gvr.Group &&
    listed r.Rule.APIVersions gvr.Version && listed r.Rule.Resources gvr.Resource

/-- Whether the API server sends the webhook a request. -/
def MutatingWebhook.Sends (wh : MutatingWebhook) (nsLabels : List (String × String))
    (op : OperationType) (gvr : GroupVersionResource) : Bool :=
  wh.NamespaceSelector.Matches nsLabels && wh.Rules.any (ruleLists · op gvr)

/-- The resource of a pod, in the core group. -/
def podResource : GroupVersionResource := ⟨"", "v1", "pods"⟩

/-- `admissionv1.AdmissionResponse` of a mutating webhook: with its patch. -/
structure MutationResponse (α : Type) extends AdmissionResponse where
  Patch : Option α

/-- What the API server makes of a pod creation: the pod as it was sent (`none`), the pod with
    the webhook's patch, or a refusal with the webhook's message. A creation it does not send
    passes as it is. -/
def MutatingWebhook.admitPod {α : Type} (wh : MutatingWebhook) (nsLabels : List (String × String))
    (response : MutationResponse α) : Except String (Option α) :=
  if wh.Sends nsLabels .Create podResource then
    if response.Allowed then .ok response.Patch else .error response.Message
  else .ok none

/-! ## The webhook -/

/-- A pod, in the fields the webhook reads. -/
structure Pod where
  Annotations : Annotations
  HostNetwork : Bool

/-- `corev1.Namespace`, in its annotations. -/
structure Namespace where
  Annotations : Annotations

/-- `errNamespaceNotFound`. -/
def errNamespaceNotFound : String := "namespace not found"

/-- The values that turn injection on. -/
def injectEnabledValues : List String := ["enabled", "yes", "true"]

/-- The values that turn injection off. -/
def injectDisabledValues : List String := ["disabled", "no", "false"]

/-- `isAnnotatedForInjection`: whether the injection annotation is there and whether it turns
    injection on. The value is lowered as `strings.ToLower` lowers it, so `DİSABLED`, with the
    dotted capital I (U+0130), turns injection off. -/
def isAnnotatedForInjection (annotations : Annotations) : Except String (Bool × Bool) :=
  match annotations.lookup SidecarInjectionAnnotation with
  | none => .ok (false, false)
  | some inject =>
    if toLower inject ∈ injectEnabledValues then .ok (true, true)
    else if toLower inject ∈ injectDisabledValues then .ok (true, false)
    else .error ("Invalid annotation value for key " ++ Quote SidecarInjectionAnnotation ++ ": " ++
      inject)

example : isAnnotatedForInjection ((∅ : Annotations).insert SidecarInjectionAnnotation
    "DİSABLED") = .ok (true, false) := by decide

/-- The namespaces the webhook never injects into. -/
def nonInjectNamespaces (osmNamespace : String) : List String :=
  ["kube-system", "kube-public", osmNamespace]

/-- `isNamespaceInjectable`; `nsCache` is the namespace informer, which holds the namespaces
    labelled for the mesh. -/
def isNamespaceInjectable (osmNamespace : String) (nsCache : String → Option Namespace)
    (reqNamespace : String) : Bool :=
  !(nonInjectNamespaces osmNamespace).contains reqNamespace && (nsCache reqNamespace).isSome

/-- The choice of `mustInject` once both annotations are read: the pod's explicit `true`, or
    the namespace's `true` unless the pod says `false`. -/
def injectChoice (podAnnotated nsAnnotated : Bool × Bool) : Bool :=
  if podAnnotated.1 && podAnnotated.2 then true
  else if nsAnnotated.1 && nsAnnotated.2 then !podAnnotated.1 || podAnnotated.2
  else false

/-- `mustInject`. -/
def mustInject (osmNamespace : String) (nsCache : String → Option Namespace) (pod : Pod)
    (reqNamespace : String) : Except String Bool :=
  if pod.HostNetwork then .ok false
  else if !isNamespaceInjectable osmNamespace nsCache reqNamespace then .ok false
  else
    (isAnnotatedForInjection pod.Annotations).bind fun podAnnotated =>
      match nsCache reqNamespace with
      | none => .error errNamespaceNotFound
      | some ns => (isAnnotatedForInjection ns.Annotations).map (injectChoice podAnnotated)

/-- `mutate` on a request for a pod in `reqNamespace`, whose object decodes to `decoded`;
    `createPatch` builds the patch of a pod to inject (the containers, volumes and bootstrap
    secret it adds are left out). -/
def mutate {α : Type} (osmNamespace : String) (nsCache : String → Option Namespace)
    (createPatch : Pod → Except String α) (decoded : Except String Pod) (reqNamespace : String) :
    MutationResponse α :=
  match decoded with
  | .error err => { AdmissionError err with Patch := none }
  | .ok pod =>
    match mustInject osmNamespace nsCache pod reqNamespace with
    | .error err => { AdmissionError err with Patch := none }
    | .ok false => { Allowed := true, Message := "", Patch := none }
    | .ok true =>
      match createPatch pod with
      | .error err => { AdmissionError err with Patch := none }
      | .ok patch => { Allowed := true, Message := "", Patch := some patch }

/-! ## What the injector decides -/

/-- The setting an annotation gives, as `isAnnotatedForInjection` reads it: none, on or off. -/
def setting (annotated : Bool × Bool) : Option Bool :=
  if annotated.1 then some annotated.2 else none

/-- The more specific setting wins: the pod's, else the namespace's, else no injection. -/
theorem injectChoice_eq (podAnnotated nsAnnotated : Bool × Bool) :
    injectChoice podAnnotated nsAnnotated =
      (setting podAnnotated).getD ((setting nsAnnotated).getD false) := by
  obtain ⟨podExists, podInject⟩ := podAnnotated
  obtain ⟨nsExists, nsInject⟩ := nsAnnotated
  cases podExists <;> cases podInject <;> cases nsExists <;> cases nsInject <;> rfl

/-- `mustInject` reads the namespace from the cache once: a namespace that is not there is not
    injectable, so the second read never fails. -/
theorem mustInject_eq (osmNamespace : String) (nsCache : String → Option Namespace) (pod : Pod)
    (reqNamespace : String) :
    mustInject osmNamespace nsCache pod reqNamespace =
      match nsCache reqNamespace with
      | some ns =>
        if !pod.HostNetwork && !(nonInjectNamespaces osmNamespace).contains reqNamespace then
          (isAnnotatedForInjection pod.Annotations).bind fun podAnnotated =>
            (isAnnotatedForInjection ns.Annotations).map fun nsAnnotated =>
              (setting podAnnotated).getD ((setting nsAnnotated).getD false)
        else .ok false
      | none => .ok false := by
  unfold mustInject isNamespaceInjectable
  cases hns : nsCache reqNamespace with
  | none => cases pod.HostNetwork <;> simp
  | some ns =>
    have hchoice : ∀ podAnnotated, injectChoice podAnnotated = fun nsAnnotated =>
        (setting podAnnotated).getD ((setting nsAnnotated).getD false) :=
      fun podAnnotated => funext (injectChoice_eq podAnnotated)
    cases pod.HostNetwork <;> simp [hchoice]

/-- The API server sends the webhook every pod creation in a namespace its selector matches. -/
theorem Sends_podResource (meshName osmNamespace : String) (nsLabels : List (String × String)) :
    (createOrUpdateMutatingWebhook meshName osmNamespace).Sends nsLabels .Create podResource =
      (createOrUpdateMutatingWebhook meshName osmNamespace).NamespaceSelector.Matches nsLabels := by
  simp [MutatingWebhook.Sends, createOrUpdateMutatingWebhook, ruleLists, listed, podResource]

/-- What the API server makes of a decoded pod: what `mustInject` decides, patched when it
    says so. -/
theorem admitPod_mutate {α : Type} (wh : MutatingWebhook) (nsLabels : List (String × String))
    (osmNamespace : String) (nsCache : String → Option Namespace)
    (createPatch : Pod → Except String α) (pod : Pod) (reqNamespace : String) :
    wh.admitPod nsLabels (mutate osmNamespace nsCache createPatch (.ok pod) reqNamespace) =
      if wh.Sends nsLabels .Create podResource then
        (mustInject osmNamespace nsCache pod reqNamespace).bind fun inject =>
          if inject then (createPatch pod).map some else .ok none
      else .ok none := by
  unfold MutatingWebhook.admitPod
  by_cases hs : wh.Sends nsLabels .Create podResource
  · rw [if_pos hs, if_pos hs]
    cases hinject : mustInject osmNamespace nsCache pod reqNamespace with
    | error err => simp [mutate, hinject, AdmissionError, Except.bind]
    | ok inject =>
      cases inject with
      | false => simp [mutate, hinject, Except.bind]
      | true =>
        cases hpatch : createPatch pod <;>
          simp [mutate, hinject, hpatch, AdmissionError, Except.bind, Except.map]
  · rw [if_neg hs, if_neg hs]

/-- Every pod creation: it passes as it is when the webhook is not called, when the pod is on
    the host network and when its namespace is not injectable; otherwise the pod's injection
    setting decides, else its namespace's, else no injection, and the pod is refused when
    either annotation is invalid (the pod's first) or when its patch cannot be built. -/
theorem pod_admission {α : Type} (meshName osmNamespace : String)
    (nsCache : String → Option Namespace) (nsLabels : List (String × String))
    (createPatch : Pod → Except String α) (pod : Pod) (reqNamespace : String) :
    (createOrUpdateMutatingWebhook meshName osmNamespace).admitPod nsLabels
        (mutate osmNamespace nsCache createPatch (.ok pod) reqNamespace) =
      match nsCache reqNamespace with
      | some ns =>
        if (createOrUpdateMutatingWebhook meshName osmNamespace).NamespaceSelector.Matches nsLabels &&
            !pod.HostNetwork && !(nonInjectNamespaces osmNamespace).contains reqNamespace then
          (isAnnotatedForInjection pod.Annotations).bind fun podAnnotated =>
            (isAnnotatedForInjection ns.Annotations).bind fun nsAnnotated =>
              if (setting podAnnotated).getD ((setting nsAnnotated).getD false) then
                (createPatch pod).map some
              else .ok none
        else .ok none
      | none => .ok none := by
  rw [admitPod_mutate, Sends_podResource, mustInject_eq]
  cases nsCache reqNamespace with
  | none => split_ifs <;> rfl
  | some ns =>
    -- the selector, the host network and the namespace each let the pod pass unpatched
    by_cases hsel : (createOrUpdateMutatingWebhook meshName osmNamespace).NamespaceSelector.Matches
        nsLabels = true
    · by_cases hinj : (!pod.HostNetwork && !(nonInjectNamespaces osmNamespace).contains
          reqNamespace) = true
      · simp only [hsel, hinj, Bool.true_and, if_true]
        cases isAnnotatedForInjection pod.Annotations with
        | error err => rfl
        | ok podAnnotated =>
          cases isAnnotatedForInjection ns.Annotations with
          | error err => rfl
          | ok nsAnnotated => rfl
      · simp only [hsel, hinj, Bool.true_and, if_true, Bool.false_eq_true, if_false]
        rfl
    · simp [hsel]

/-- A namespace whose injection annotation has a typo. -/
def typoNamespace : Namespace := ⟨(∅ : Annotations).insert SidecarInjectionAnnotation "enable"⟩

/-- A pod that opts out of injection. -/
def optOutPod : Pod := ⟨(∅ : Annotations).insert SidecarInjectionAnnotation "disabled", false⟩

example : (createOrUpdateMutatingWebhook "osm" "osm-system").admitPod
    [( OSMKubeResourceMonitorAnnotation, "osm")]
    (mutate "osm-system" (fun _ => some typoNamespace) (fun _ => .ok ()) (.ok optOutPod)
      "bookstore") =
    .error ("Invalid annotation value for key " ++ Quote SidecarInjectionAnnotation ++ ": enable") := by
  rfl

end OsmEdge.Injector
