import OsmEdge.Pipy.MatchNames
import OsmEdge.Lib.LabelSelector
import OsmEdge.Lib.GoPtr

/-
  The plugin policies of a Pipy sidecar (`pkg/sidecar/providers/pipy/repo/plugin.go`, and the
  `plugin` step of the conf job in `jobs.go`).

  A PluginChain mounts plugins at mount points (`inbound-http`, ...) of the pods its selectors
  match; a PluginConfig gives a plugin a configuration for the services it names.
  `walkPluginChain` walks the chains that match the sidecar's pod: for every plugin the repo
  has, it allocates one map from mount points to configurations, held by pointer, and it
  records the plugins of every mount point. `walkPluginConfig` then walks the configurations:
  each writes itself at every mount point of its plugin's map, through the pointer, and hands
  the pointer to every service it names. The conf keeps the pointers, and they are read after
  the loop, when the traffic matches look their plugins up (`getTrafficMatchPluginConfigs`).

  A plugin's map is allocated once and never replaced, so it is kept here in a heap under the
  plugin's name, which serves as its address (`GoPtr`).

  `matchPluginChain` converts each selector with apimachinery's `LabelSelectorAsSelector`, an
  argument here, and returns false on a selector it refuses. The results assume the laws of
  the conversion (`LabelSelector.AsSelectorLaws`): it refuses exactly the invalid selectors,
  such as `NotIn` with no values, which the CRD admits.

  Proved:
  * `walkPluginChain_describes`: the two maps of `walkPluginChain` describe one relation: the
    plugins the repo has that a chain selecting the pod mounts at a mount point.
  * `plugin_config_last_wins`: a traffic match of a service sees a plugin at its mount point
    exactly when a chain selecting the pod mounts the plugin there and some configuration of
    the plugin names the service; what it sees is then the last configuration of the plugin
    in the catalog, whichever services that one names. So one configuration of a plugin
    configures it for every service that any configuration of it names.
  * `plugin_panics_iff`: the step panics exactly when the pod's namespace is not in the cache
    and some chain has a valid namespace selector: `matchPluginChain` reads the labels of a
    nil namespace once the selector is converted.
-/

namespace OsmEdge.Trafficpolicy

/-- `ChainPluginSpec`: the plugins mounted at the mount point `Name`. -/
structure ChainPluginSpec where
  Name : String
  Plugins : List String
  deriving DecidableEq, Repr

/-- `ChainSelectorSpec`; both selectors are pointers. -/
structure ChainSelectorSpec where
  PodSelector : Option LabelSelector
  NamespaceSelector : Option LabelSelector
  deriving DecidableEq, Repr

/-- `PluginChain`, in the fields the walk reads (its name and namespace only reach the log). -/
structure PluginChain where
  Chains : List ChainPluginSpec
  Selectors : ChainSelectorSpec
  deriving DecidableEq, Repr

/-- `corev1.ObjectReference`, in the fields `walkPluginConfig` reads. -/
structure ObjectReference where
  Kind : String
  Namespace : String
  Name : String
  deriving DecidableEq, Repr

/-- `PluginConfig`, in the fields `walkPluginConfig` reads; `Config` is the raw JSON text. -/
structure PluginConfig where
  Plugin : String
  DestinationRefs : List ObjectReference
  Config : String
  deriving DecidableEq, Repr

end OsmEdge.Trafficpolicy

namespace OsmEdge.Pipy

open OsmEdge.Trafficpolicy OsmEdge.Catalog

/-! ## Matching a chain -/

section chains

variable (LabelSelectorAsSelector : LabelSelector → Except String (List (String × String) → Bool))

/-- One selector of a chain as `matchPluginChain` reads it: `none` when
    `LabelSelectorAsSelector` refuses it, on which the function returns false, and otherwise
    whether it matches the labels; a nil selector matches everything. The labels are read
    only once the selector is converted, and reading them from a nil object panics. -/
def selectorMatches (selector : Option LabelSelector) (labels : Option (List (String × String))) :
    Except String (Option Bool) :=
  match selector with
  | none => .ok (some true)
  | some labelSelector =>
    match LabelSelectorAsSelector labelSelector with
    | .error _ => .ok none
    | .ok sel =>
      match labels with
      | some labels => .ok (some (sel labels))
      | none => .error errNilDereference

/-- `matchPluginChain` on the labels of the pod and of its namespace, `none` for a nil
    namespace: the namespace selector first, then the pod selector. -/
def matchPluginChain (pluginChain : PluginChain) (ns : Option (List (String × String)))
    (podLabels : List (String × String)) : Except String Bool :=
  match selectorMatches LabelSelectorAsSelector pluginChain.Selectors.NamespaceSelector ns with
  | .error err => .error err
  | .ok none => .ok false
  | .ok (some matchedNamespace) =>
    match selectorMatches LabelSelectorAsSelector pluginChain.Selectors.PodSelector
        (some podLabels) with
    | .error err => .error err
    | .ok none => .ok false
    | .ok (some matchedPod) => .ok (matchedNamespace && matchedPod)

/-- A selector fails only on nil labels, once it has been converted. -/
theorem selectorMatches_error_iff (selector : Option LabelSelector)
    (labels : Option (List (String × String))) :
    (∃ e, selectorMatches LabelSelectorAsSelector selector labels = .error e) ↔
      labels = none ∧ ∃ sel f, selector = some sel ∧ LabelSelectorAsSelector sel = .ok f := by
  unfold selectorMatches
  cases selector with
  | none => simp
  | some sel =>
    cases hsel : LabelSelectorAsSelector sel with
    | error e => simp [hsel]
    | ok f => cases labels <;> simp [hsel]

/-- The chain fails exactly on a nil namespace, when its namespace selector converts. -/
theorem matchPluginChain_error_iff (pluginChain : PluginChain)
    (ns : Option (List (String × String))) (podLabels : List (String × String)) :
    (∃ e, matchPluginChain LabelSelectorAsSelector pluginChain ns podLabels = .error e) ↔
      ns = none ∧ ∃ sel f, pluginChain.Selectors.NamespaceSelector = some sel ∧
        LabelSelectorAsSelector sel = .ok f := by
  rw [← selectorMatches_error_iff]
  -- the pod's labels are there, so only the namespace selector can fail
  have hpod : ∀ e, selectorMatches LabelSelectorAsSelector pluginChain.Selectors.PodSelector
      (some podLabels) ≠ .error e := by
    intro e he
    simpa using (selectorMatches_error_iff LabelSelectorAsSelector _ _).mp ⟨e, he⟩
  unfold matchPluginChain
  cases selectorMatches LabelSelectorAsSelector pluginChain.Selectors.NamespaceSelector ns with
  | error e => simp
  | ok matchedNamespace =>
    cases matchedNamespace with
    | none => simp
    | some matchedNamespace =>
      cases hp : selectorMatches LabelSelectorAsSelector pluginChain.Selectors.PodSelector
          (some podLabels) with
      | error e => exact absurd hp (hpod e)
      | ok matchedPod => cases matchedPod <;> simp

/-- A selector selects labels: it is nil, or it is valid and the labels are there and meet
    it. -/
def SelectorSelects (validKey validValue : String → Bool) (selector : Option LabelSelector)
    (labels : Option (List (String × String))) : Prop :=
  match selector with
  | none => True
  | some sel => sel.Valid validKey validValue = true ∧ ∃ l, labels = some l ∧ sel.Matches l = true

/-- A chain selects a pod when its namespace selector selects the namespace's labels and its
    pod selector the pod's. -/
def ChainSelects (validKey validValue : String → Bool) (pluginChain : PluginChain)
    (ns : Option (List (String × String))) (podLabels : List (String × String)) : Prop :=
  SelectorSelects validKey validValue pluginChain.Selectors.NamespaceSelector ns ∧
    SelectorSelects validKey validValue pluginChain.Selectors.PodSelector (some podLabels)

section laws

variable {validKey validValue : String → Bool}

/-- With a conversion that keeps its laws, a selector reads `some true` exactly when it
    selects the labels. -/
theorem selectorMatches_eq_some_true_iff
    (hlaws : LabelSelector.AsSelectorLaws validKey validValue LabelSelectorAsSelector)
    (selector : Option LabelSelector)
    (labels : Option (List (String × String))) :
    selectorMatches LabelSelectorAsSelector selector labels = .ok (some true) ↔
      SelectorSelects validKey validValue selector labels := by
  unfold selectorMatches SelectorSelects
  cases selector with
  | none => simp
  | some sel =>
    dsimp only
    cases hvalid : sel.Valid validKey validValue with
    | false =>
      obtain ⟨e, he⟩ := hlaws.eq_error hvalid
      simp [he]
    | true =>
      rw [hlaws.eq_ok hvalid]
      cases labels <;> simp

/-- With a conversion that keeps its laws, a chain matches exactly when it selects the
    pod. -/
theorem matchPluginChain_eq_ok_true_iff
    (hlaws : LabelSelector.AsSelectorLaws validKey validValue LabelSelectorAsSelector)
    (pluginChain : PluginChain)
    (ns : Option (List (String × String))) (podLabels : List (String × String)) :
    matchPluginChain LabelSelectorAsSelector pluginChain ns podLabels = .ok true ↔
      ChainSelects validKey validValue pluginChain ns podLabels := by
  unfold ChainSelects
  rw [← selectorMatches_eq_some_true_iff LabelSelectorAsSelector hlaws,
    ← selectorMatches_eq_some_true_iff LabelSelectorAsSelector hlaws]
  unfold matchPluginChain
  cases selectorMatches LabelSelectorAsSelector pluginChain.Selectors.NamespaceSelector ns with
  | error e => simp
  | ok matchedNamespace =>
    cases matchedNamespace with
    | none => simp
    | some matchedNamespace =>
      cases selectorMatches LabelSelectorAsSelector pluginChain.Selectors.PodSelector
          (some podLabels) with
      | error e => simp
      | ok matchedPod => cases matchedPod <;> cases matchedNamespace <;> simp

end laws

/-! ## Walking the chains -/

/-- A map read from a map, the empty map for a missing key. -/
theorem lookup_getD_empty {ν : Type*} (m : AList fun _ : String => AList fun _ : String => ν)
    (k k' : String) : ((m.lookup k).getD ∅).lookup k' = (m.lookup k).bind (·.lookup k') := by
  cases m.lookup k <;> rfl

/-- The two maps `walkPluginChain` fills: for every plugin the map of its mount points, whose
    configurations are all still nil, and for every mount point the set of its plugins. A
    plugin's map is held by pointer; it is kept here under the plugin's name, its address. -/
structure PluginMounts where
  plugin2MountPoints : AList fun _ : String => AList fun _ : String => Option String
  mountPoint2Plugins : AList fun _ : String => Finset String

namespace PluginMounts

/-- The body of the loop over a chain's plugins, for a plugin the repo has: the plugin's map,
    allocated on first sight, gets the mount point, and the mount point's set the plugin. -/
def mount (st : PluginMounts) (mountPoint pluginName : String) : PluginMounts where
  plugin2MountPoints :=
    let mountPointSet := (st.plugin2MountPoints.lookup pluginName).getD ∅
    st.plugin2MountPoints.insert pluginName
      (if mountPoint ∈ mountPointSet then mountPointSet else mountPointSet.insert mountPoint none)
  mountPoint2Plugins :=
    let mountedPluginSet := (st.mountPoint2Plugins.lookup mountPoint).getD ∅
    st.mountPoint2Plugins.insert mountPoint
      (if pluginName ∈ mountedPluginSet then mountedPluginSet
        else insert pluginName mountedPluginSet)

/-- The loops over the chains of a matching PluginChain and over their plugins; a plugin the
    repo does not have is skipped (the warning and the retry it asks for are left out). -/
def mountChains (pluginSet : Finset String) (st : PluginMounts) (chains : List ChainPluginSpec) :
    PluginMounts :=
  chains.foldl (fun st chain => chain.Plugins.foldl (fun st pluginName =>
    if pluginName ∈ pluginSet then st.mount chain.Name pluginName else st) st) st

end PluginMounts

/-- The body of `walkPluginChain`'s loop: a PluginChain that matches the pod mounts its
    plugins. -/
def walkPluginChainStep (pluginSet : Finset String) (ns : Option (List (String × String)))
    (podLabels : List (String × String)) (st : PluginMounts) (pluginChain : PluginChain) :
    Except String PluginMounts :=
  (matchPluginChain LabelSelectorAsSelector pluginChain ns podLabels).map fun matched =>
    if matched then st.mountChains pluginSet pluginChain.Chains else st

/-- `walkPluginChain`; `pluginSet` is the names of the plugins the repo has. -/
def walkPluginChain (pluginChains : List PluginChain) (ns : Option (List (String × String)))
    (podLabels : List (String × String)) (pluginSet : Finset String) :
    Except String PluginMounts :=
  pluginChains.foldlM (walkPluginChainStep LabelSelectorAsSelector pluginSet ns podLabels) ⟨∅, ∅⟩

/-- A plugin the repo has is mounted at a mount point by a chain of a PluginChain that selects
    the pod. -/
def MountedBy (validKey validValue : String → Bool) (pluginSet : Finset String)
    (ns : Option (List (String × String))) (podLabels : List (String × String))
    (pluginChains : List PluginChain) (pluginName mountPoint : String) : Prop :=
  pluginName ∈ pluginSet ∧ ∃ pluginChain ∈ pluginChains,
    ChainSelects validKey validValue pluginChain ns podLabels ∧
      ∃ chain ∈ pluginChain.Chains, chain.Name = mountPoint ∧ pluginName ∈ chain.Plugins

/-- The maps of `walkPluginChain` describe a relation `R` between plugins and mount points: a
    plugin has a map exactly when it is mounted somewhere, its map holds exactly its mount
    points, each with a nil configuration, and a mount point's set holds exactly its
    plugins. -/
structure PluginMounts.Describes (st : PluginMounts) (R : String → String → Prop) : Prop where
  allocated : ∀ p, p ∈ st.plugin2MountPoints ↔ ∃ mp, R p mp
  mountPoints : ∀ p mp v,
    (st.plugin2MountPoints.lookup p).bind (·.lookup mp) = some v ↔ R p mp ∧ v = none
  plugins : ∀ p mp, p ∈ (st.mountPoint2Plugins.lookup mp).getD ∅ ↔ R p mp

namespace PluginMounts

variable {st : PluginMounts} {R : String → String → Prop}

theorem describes_empty : (⟨∅, ∅⟩ : PluginMounts).Describes fun _ _ => False :=
  ⟨fun _ => by simp, fun _ _ _ => by simp, fun _ _ => by simp⟩

theorem Describes.of_iff {R' : String → String → Prop} (h : st.Describes R)
    (hR : ∀ p mp, R p mp ↔ R' p mp) : st.Describes R' := by
  have hRR' : R = R' := funext fun p => funext fun mp => propext (hR p mp)
  exact hRR' ▸ h

theorem allocated_mount (h : st.Describes R) (mountPoint pluginName : String) (p : String) :
    p ∈ (st.mount mountPoint pluginName).plugin2MountPoints ↔
      ∃ mp, R p mp ∨ p = pluginName ∧ mp = mountPoint := by
  simp only [mount, AList.mem_insert]
  by_cases hp : p = pluginName
  · exact iff_of_true (.inl hp) ⟨mountPoint, .inr ⟨hp, rfl⟩⟩
  · simp [hp, h.allocated p]

theorem mountPoints_mount (h : st.Describes R) (mountPoint pluginName p mp : String)
    (v : Option String) :
    ((st.mount mountPoint pluginName).plugin2MountPoints.lookup p).bind (·.lookup mp) = some v ↔
      (R p mp ∨ p = pluginName ∧ mp = mountPoint) ∧ v = none := by
  by_cases hp : p = pluginName
  · subst hp
    -- the plugin's map, read before the step: exactly its mount points so far
    have hold : ∀ mp' v, ((st.plugin2MountPoints.lookup p).getD ∅).lookup mp' = some v ↔
        R p mp' ∧ v = none := fun mp' v => by
      rw [lookup_getD_empty]
      exact h.mountPoints p mp' v
    simp only [mount, AList.lookup_insert, Option.bind_some, true_and]
    split_ifs with hin
    · -- the mount point was there: then it was related already
      have hR : R p mountPoint := by
        obtain ⟨w, hw⟩ := Option.isSome_iff_exists.mp (AList.lookup_isSome.mpr hin)
        exact ((hold mountPoint w).mp hw).1
      rw [hold]
      by_cases hmp : mp = mountPoint
      · subst hmp
        simp [hR]
      · simp [hmp]
    · by_cases hmp : mp = mountPoint
      · subst hmp
        simp [AList.lookup_insert, eq_comm]
      · rw [AList.lookup_insert_ne hmp, hold]
        simp [hmp]
  · simp only [mount, AList.lookup_insert_ne hp]
    simp [hp, h.mountPoints p mp v]

theorem plugins_mount (h : st.Describes R) (mountPoint pluginName p mp : String) :
    p ∈ ((st.mount mountPoint pluginName).mountPoint2Plugins.lookup mp).getD ∅ ↔
      R p mp ∨ p = pluginName ∧ mp = mountPoint := by
  by_cases hmp : mp = mountPoint
  · subst hmp
    simp only [mount, AList.lookup_insert, Option.getD_some, and_true]
    split_ifs with hin
    · -- the plugin was in the set: then it was related already
      rw [h.plugins]
      by_cases hp : p = pluginName
      · subst hp
        simp [(h.plugins p mp).mp hin]
      · simp [hp]
    · rw [Finset.mem_insert, h.plugins, or_comm]
  · simp only [mount, AList.lookup_insert_ne hmp]
    simp [hmp, h.plugins p mp]

/-- Mounting a plugin the repo has adds the pair to the relation the maps describe. -/
theorem Describes.mount (h : st.Describes R) (mountPoint pluginName : String) :
    (st.mount mountPoint pluginName).Describes
      fun p mp => R p mp ∨ p = pluginName ∧ mp = mountPoint :=
  ⟨allocated_mount h mountPoint pluginName, mountPoints_mount h mountPoint pluginName,
    plugins_mount h mountPoint pluginName⟩

/-- The chains of a matching PluginChain add their plugins the repo has, at their mount
    points. -/
theorem Describes.mountChains (h : st.Describes R) (pluginSet : Finset String)
    (chains : List ChainPluginSpec) :
    (st.mountChains pluginSet chains).Describes fun p mp =>
      R p mp ∨ p ∈ pluginSet ∧ ∃ chain ∈ chains, chain.Name = mp ∧ p ∈ chain.Plugins := by
  -- the loop over one chain's plugins, then the loop over the chains, each extends the
  -- relation the maps describe, read as a relation on pairs
  let D : PluginMounts → (String × String → Prop) → Prop :=
    fun st R => st.Describes fun p mp => R (p, mp)
  have hplugins : ∀ st (chain : ChainPluginSpec) R, D st R →
      D (chain.Plugins.foldl (fun st pluginName =>
        if pluginName ∈ pluginSet then st.mount chain.Name pluginName else st) st)
        fun r => R r ∨ r.1 ∈ pluginSet ∧ chain.Name = r.2 ∧ r.1 ∈ chain.Plugins := by
    intro st chain R hst
    have hrun := ExceptLoop.foldl_extends D (fun pluginName r => pluginName ∈ pluginSet ∧
      r = (pluginName, chain.Name)) (fun st pluginName =>
        if pluginName ∈ pluginSet then st.mount chain.Name pluginName else st)
      (fun st pluginName R hst => by
        by_cases hset : pluginName ∈ pluginSet
        · rw [if_pos hset]
          refine (hst.mount chain.Name pluginName).of_iff fun p mp => ?_
          simp [hset]
        · rw [if_neg hset]
          exact hst.of_iff fun p mp => by simp [hset]) chain.Plugins st R hst
    refine hrun.of_iff fun p mp => ?_
    constructor
    · rintro (hR | ⟨q, hq, hset, hqp⟩)
      · exact .inl hR
      · obtain ⟨rfl, rfl⟩ := Prod.mk.inj hqp
        exact .inr ⟨hset, rfl, hq⟩
    · rintro (hR | ⟨hset, rfl, hp⟩)
      · exact .inl hR
      · exact .inr ⟨p, hp, hset, rfl⟩
  have hrun := ExceptLoop.foldl_extends D (fun chain r => r.1 ∈ pluginSet ∧ chain.Name = r.2 ∧
    r.1 ∈ chain.Plugins) _ hplugins chains st (fun r => R r.1 r.2) h
  unfold PluginMounts.mountChains
  refine hrun.of_iff fun p mp => ?_
  simp only
  constructor
  · rintro (hR | ⟨chain, hchain, hset, hname, hp⟩)
    · exact .inl hR
    · exact .inr ⟨hset, chain, hchain, hname, hp⟩
  · rintro (hR | ⟨hset, chain, hchain, hname, hp⟩)
    · exact .inl hR
    · exact .inr ⟨chain, hchain, hset, hname, hp⟩

end PluginMounts

/-- The two maps of `walkPluginChain` describe one relation: the plugins the repo has that a
    chain of a PluginChain selecting the pod mounts at a mount point. -/
theorem walkPluginChain_describes {validKey validValue : String → Bool}
    (hlaws : LabelSelector.AsSelectorLaws validKey validValue LabelSelectorAsSelector)
    {pluginChains : List PluginChain}
    {ns : Option (List (String × String))} {podLabels : List (String × String)}
    {pluginSet : Finset String} {mounts : PluginMounts}
    (h : walkPluginChain LabelSelectorAsSelector pluginChains ns podLabels pluginSet = .ok mounts) :
    mounts.Describes (MountedBy validKey validValue pluginSet ns podLabels pluginChains) := by
  let D : PluginMounts → (String × String → Prop) → Prop :=
    fun st R => st.Describes fun p mp => R (p, mp)
  have hstep : ∀ st pluginChain st' R,
      walkPluginChainStep LabelSelectorAsSelector pluginSet ns podLabels st pluginChain = .ok st' →
        D st R → D st' fun r => R r ∨
          matchPluginChain LabelSelectorAsSelector pluginChain ns podLabels = .ok true ∧
            r.1 ∈ pluginSet ∧ ∃ chain ∈ pluginChain.Chains, chain.Name = r.2 ∧
              r.1 ∈ chain.Plugins := by
    intro st pluginChain st' R hst hD
    obtain ⟨matched, hmatch, rfl⟩ := (ExceptLoop.map_eq_ok_iff _ _ _).mp hst
    cases matched with
    | true =>
      refine (hD.mountChains pluginSet pluginChain.Chains).of_iff fun p mp => ?_
      simp [hmatch]
    | false =>
      exact hD.of_iff fun p mp => by simp [hmatch]
  have hrun := ExceptLoop.foldlM_extends D (fun pluginChain r =>
    matchPluginChain LabelSelectorAsSelector pluginChain ns podLabels = .ok true ∧
      r.1 ∈ pluginSet ∧ ∃ chain ∈ pluginChain.Chains, chain.Name = r.2 ∧ r.1 ∈ chain.Plugins)
    _ hstep pluginChains _ mounts (fun _ => False) h PluginMounts.describes_empty
  refine hrun.of_iff fun p mp => ?_
  simp only [false_or, MountedBy, matchPluginChain_eq_ok_true_iff LabelSelectorAsSelector hlaws]
  constructor
  · rintro ⟨pluginChain, hpc, hmatch, hset, hchain⟩
    exact ⟨hset, pluginChain, hpc, hmatch, hchain⟩
  · rintro ⟨hset, pluginChain, hpc, hmatch, hchain⟩
    exact ⟨pluginChain, hpc, hmatch, hset, hchain⟩

/-- The walk panics exactly when the namespace is nil and some chain has a namespace
    selector that converts; which chains match does not matter. -/
theorem walkPluginChain_error_iff (pluginChains : List PluginChain)
    (ns : Option (List (String × String))) (podLabels : List (String × String))
    (pluginSet : Finset String) :
    (∃ e, walkPluginChain LabelSelectorAsSelector pluginChains ns podLabels pluginSet = .error e) ↔
      ns = none ∧ ∃ pluginChain ∈ pluginChains, ∃ sel f,
        pluginChain.Selectors.NamespaceSelector = some sel ∧ LabelSelectorAsSelector sel = .ok f := by
  unfold walkPluginChain
  rw [ExceptLoop.foldlM_error_iff _ (fun pluginChain => ns = none ∧ ∃ sel f,
    pluginChain.Selectors.NamespaceSelector = some sel ∧ LabelSelectorAsSelector sel = .ok f)
    (fun st pluginChain => by
      unfold walkPluginChainStep
      rw [ExceptLoop.map_error_iff, matchPluginChain_error_iff])]
  constructor
  · rintro ⟨pluginChain, hpc, hns, hsel⟩
    exact ⟨hns, pluginChain, hpc, hsel⟩
  · rintro ⟨hns, pluginChain, hpc, hsel⟩
    exact ⟨pluginChain, hpc, hns, hsel⟩

end chains

/-! ## Walking the configurations -/

/-- What `walkPluginConfig` works on: the heap of the plugins' maps, which its writes change,
    and the map it builds from services to the pointers of their plugins' maps, by plugin. -/
structure PluginPolicies where
  plugin2MountPoint2Config : AList fun _ : String => AList fun _ : String => Option String
  meshSvc2Plugin2MountPoint2Config : AList fun _ : String => AList fun _ : String => String

/-- The range loop that writes `&pluginConfig.Config` at every mount point of a map. -/
def setConfig (config : String) (mountPoint2Config : AList fun _ : String => Option String) :
    AList fun _ : String => Option String :=
  GoMap.mapVal (fun _ => some config) mountPoint2Config

/-- `plugin2MountPoint2ConfigItem[pluginConfig.Plugin] = mountPoint2ConfigItem` in the map of a
    service, made on first sight: the service gets the pointer to the plugin's map. -/
def addPluginRef (meshSvc2Plugin2MountPoint2Config : AList fun _ : String => AList fun _ : String => String)
    (meshSvc pluginName : String) : AList fun _ : String => AList fun _ : String => String :=
  meshSvc2Plugin2MountPoint2Config.insert meshSvc
    (((meshSvc2Plugin2MountPoint2Config.lookup meshSvc).getD ∅).insert pluginName pluginName)

/-- The body of `walkPluginConfig`'s loop: a configuration of a plugin that no chain mounted is
    skipped; any other is written through its plugin's pointer, and the pointer is handed to
    every service the configuration names. -/
def walkPluginConfigStep (st : PluginPolicies) (pluginConfig : PluginConfig) : PluginPolicies :=
  match st.plugin2MountPoint2Config.lookup pluginConfig.Plugin with
  | none => st
  | some _ =>
    { plugin2MountPoint2Config := GoPtr.store st.plugin2MountPoint2Config pluginConfig.Plugin
        (setConfig pluginConfig.Config)
      meshSvc2Plugin2MountPoint2Config :=
        pluginConfig.DestinationRefs.foldl (fun m destinationRef =>
          -- the key is `MeshService.String()` of the service the reference names
          if destinationRef.Kind = KindService then
            addPluginRef m (destinationRef.Namespace ++ "/" ++ destinationRef.Name)
              pluginConfig.Plugin
          else m) st.meshSvc2Plugin2MountPoint2Config }

/-- `walkPluginConfig`, from the plugins' maps of `walkPluginChain`. -/
def walkPluginConfig (pluginConfigs : List PluginConfig)
    (plugin2MountPoint2Config : AList fun _ : String => AList fun _ : String => Option String) :
    PluginPolicies :=
  pluginConfigs.foldl walkPluginConfigStep ⟨plugin2MountPoint2Config, ∅⟩

/-- The JSON text of a `*runtime.RawExtension`: `null` for a nil pointer. -/
def rawExtensionText (config : Option String) : String :=
  config.getD "null"

/-- The plugin policies as the conf holds them once the loop is over: the pointers of every
    service read through the heap. -/
def PluginPolicies.deref (st : PluginPolicies) :
    AList fun _ : String => AList fun _ : String => AList fun _ : String => String :=
  GoMap.mapVal
    (GoPtr.deref (GoMap.mapVal (GoMap.mapVal rawExtensionText) st.plugin2MountPoint2Config) ∅)
    st.meshSvc2Plugin2MountPoint2Config

/-- The `plugin` step of the conf job, in the plugin policies it gives the conf; the sidecar
    chains of `setSidecarChain`, the upload of the plugins' scripts and the version the step
    returns are left out. `plugins` is the names of the catalog's plugins, the plugin set of
    `updatePlugins`; `pod` is the labels of the proxy's pod, `none` when it is not found, and
    `ns` those of its namespace, `none` when the namespace is not in the cache, which the step
    logs and goes on with. `LabelSelectorAsSelector` is apimachinery's conversion of a label
    selector, given by the `Matches` of the selector it returns. -/
def plugin (LabelSelectorAsSelector : LabelSelector → Except String (List (String × String) → Bool))
    (EnablePluginPolicy : Bool) (pluginChains : List PluginChain) (plugins : List String)
    (pluginConfigs : List PluginConfig) (pod ns : Option (List (String × String)))
    (pipyConf : PipyConf) : Except String PipyConf :=
  if !EnablePluginPolicy then .ok pipyConf
  else if pluginChains.isEmpty then .ok pipyConf
  else match pod with
    | none => .ok pipyConf
    | some podLabels =>
      (walkPluginChain LabelSelectorAsSelector pluginChains ns podLabels plugins.toFinset).map
        fun mounts =>
        { pipyConf with
          pluginPolicies := (walkPluginConfig pluginConfigs mounts.plugin2MountPoints).deref }

/-! ## The heap: the last configuration of a plugin wins -/

theorem heap_walkPluginConfigStep (st : PluginPolicies) (pluginConfig : PluginConfig) :
    (walkPluginConfigStep st pluginConfig).plugin2MountPoint2Config =
      GoPtr.store st.plugin2MountPoint2Config pluginConfig.Plugin
        (setConfig pluginConfig.Config) := by
  unfold walkPluginConfigStep
  cases h : st.plugin2MountPoint2Config.lookup pluginConfig.Plugin with
  | none => exact (GoPtr.store_of_lookup_eq_none h _).symm
  | some _ => rfl

/-- Writing a configuration overwrites what an earlier one wrote. -/
theorem setConfig_setConfig (config config' : String)
    (m : AList fun _ : String => Option String) :
    setConfig config (setConfig config' m) = setConfig config m :=
  GoMap.mapVal_mapVal _ _ m

/-- Every plugin's map ends with the plugin's last configuration written at all its mount
    points. -/
theorem lookup_heap_walkPluginConfig (pluginConfigs : List PluginConfig)
    (plugin2MountPoint2Config : AList fun _ : String => AList fun _ : String => Option String)
    (pluginName : String) :
    (walkPluginConfig pluginConfigs plugin2MountPoint2Config).plugin2MountPoint2Config.lookup
        pluginName =
      (plugin2MountPoint2Config.lookup pluginName).map
        (GoPtr.lastWrite (·.Plugin) (fun pc => setConfig pc.Config) pluginConfigs pluginName) := by
  -- the heap part of the loop is a loop of writes through the plugins' pointers
  have hheap : (walkPluginConfig pluginConfigs plugin2MountPoint2Config).plugin2MountPoint2Config =
      pluginConfigs.foldl (fun heap pc => GoPtr.store heap pc.Plugin (setConfig pc.Config))
        plugin2MountPoint2Config :=
    (List.foldl_hom PluginPolicies.plugin2MountPoint2Config
      fun st pc => (heap_walkPluginConfigStep st pc).symm).symm
  rw [hheap]
  exact GoPtr.lookup_foldl_store (fun pc : PluginConfig => pc.Plugin) (fun pc => setConfig pc.Config)
    (fun _ _ _ _ => setConfig_setConfig _ _ _) _ _ _

/-- A map after the configurations' writes: at every mount point the last configuration of
    the plugin, where there is one. -/
theorem lookup_lastWrite_setConfig (pluginConfigs : List PluginConfig) (pluginName : String)
    (m : AList fun _ : String => Option String) (mountPoint : String) :
    (GoPtr.lastWrite (·.Plugin) (fun pc => setConfig pc.Config) pluginConfigs pluginName
        m).lookup mountPoint =
      (m.lookup mountPoint).map fun v =>
        ((pluginConfigs.reverse.find? (·.Plugin = pluginName)).map (·.Config)).or v := by
  unfold GoPtr.lastWrite
  beta_reduce
  cases pluginConfigs.reverse.find? (·.Plugin = pluginName) with
  | none => simp
  | some pc => simp [setConfig]

/-! ## The services' pointers -/

/-- A configuration names a service among its destinations. -/
def NamesService (pluginConfig : PluginConfig) (meshSvc : String) : Prop :=
  ∃ destinationRef ∈ pluginConfig.DestinationRefs, destinationRef.Kind = KindService ∧
    destinationRef.Namespace ++ "/" ++ destinationRef.Name = meshSvc

/-- The services' maps describe a relation `R` between services and plugins: a service holds a
    plugin exactly when they are related, and then the pointer to the plugin's map. -/
def RefsDescribe (m : AList fun _ : String => AList fun _ : String => String)
    (R : String → String → Prop) : Prop :=
  ∀ svc p a, (m.lookup svc).bind (·.lookup p) = some a ↔ R svc p ∧ a = p

section refs

variable {m : AList fun _ : String => AList fun _ : String => String} {R : String → String → Prop}

theorem RefsDescribe.of_iff {R' : String → String → Prop} (h : RefsDescribe m R)
    (hR : ∀ svc p, R svc p ↔ R' svc p) : RefsDescribe m R' := by
  have hRR' : R = R' := funext fun svc => funext fun p => propext (hR svc p)
  exact hRR' ▸ h

theorem RefsDescribe.addPluginRef (h : RefsDescribe m R) (meshSvc pluginName : String) :
    RefsDescribe (addPluginRef m meshSvc pluginName)
      fun svc p => R svc p ∨ svc = meshSvc ∧ p = pluginName := by
  intro svc p a
  unfold OsmEdge.Pipy.addPluginRef
  by_cases hsvc : svc = meshSvc
  · subst hsvc
    rw [AList.lookup_insert, Option.bind_some]
    by_cases hp : p = pluginName
    · subst hp
      simp [AList.lookup_insert, eq_comm]
    · rw [AList.lookup_insert_ne hp, lookup_getD_empty, h svc p a]
      simp [hp]
  · rw [AList.lookup_insert_ne hsvc, h svc p a]
    simp [hsvc]

end refs

/-- The services' maps after the loop: a service holds the pointer of a plugin that a chain
    mounted exactly when some configuration of the plugin names the service. -/
theorem refs_walkPluginConfig (pluginConfigs : List PluginConfig)
    (plugin2MountPoint2Config : AList fun _ : String => AList fun _ : String => Option String) :
    RefsDescribe (walkPluginConfig pluginConfigs plugin2MountPoint2Config).meshSvc2Plugin2MountPoint2Config
      fun svc p => p ∈ plugin2MountPoint2Config ∧
        ∃ pluginConfig ∈ pluginConfigs, pluginConfig.Plugin = p ∧ NamesService pluginConfig svc := by
  -- the loop keeps the plugins that have a map, and extends the relation the services' maps
  -- describe by the services each configuration names
  let D : PluginPolicies → (String × String → Prop) → Prop := fun st R =>
    (∀ q, q ∈ st.plugin2MountPoint2Config ↔ q ∈ plugin2MountPoint2Config) ∧
      RefsDescribe st.meshSvc2Plugin2MountPoint2Config fun svc p => R (svc, p)
  have hstep : ∀ st pluginConfig R, D st R → D (walkPluginConfigStep st pluginConfig) fun r =>
      R r ∨ pluginConfig.Plugin ∈ plugin2MountPoint2Config ∧ r.2 = pluginConfig.Plugin ∧
        NamesService pluginConfig r.1 := by
    rintro st pluginConfig R ⟨hmem, hrefs⟩
    unfold walkPluginConfigStep
    cases hl : st.plugin2MountPoint2Config.lookup pluginConfig.Plugin with
    | none =>
      have hout : pluginConfig.Plugin ∉ plugin2MountPoint2Config := by
        rw [← hmem]
        exact AList.lookup_eq_none.mp hl
      exact ⟨hmem, hrefs.of_iff fun svc p => by simp [hout]⟩
    | some _ =>
      have hin : pluginConfig.Plugin ∈ plugin2MountPoint2Config := by
        rw [← hmem, ← AList.lookup_isSome, hl]
        rfl
      refine ⟨fun q => by simp [hmem q], ?_⟩
      have hrun := ExceptLoop.foldl_extends (fun m R => RefsDescribe m fun svc p => R (svc, p))
        (fun destinationRef r => destinationRef.Kind = KindService ∧
          r = (destinationRef.Namespace ++ "/" ++ destinationRef.Name, pluginConfig.Plugin))
        (fun m destinationRef => if destinationRef.Kind = KindService then
            addPluginRef m (destinationRef.Namespace ++ "/" ++ destinationRef.Name)
              pluginConfig.Plugin
          else m)
        (fun m destinationRef R hm => by
          by_cases hkind : destinationRef.Kind = KindService
          · rw [if_pos hkind]
            exact (hm.addPluginRef _ _).of_iff fun svc p => by simp [hkind]
          · rw [if_neg hkind]
            exact hm.of_iff fun svc p => by simp [hkind])
        pluginConfig.DestinationRefs _ R hrefs
      refine hrun.of_iff fun svc p => or_congr_right ?_
      simp only [NamesService, Prod.mk.injEq, hin, true_and]
      constructor
      · rintro ⟨destinationRef, hd, hkind, rfl, rfl⟩
        exact ⟨rfl, destinationRef, hd, hkind, rfl⟩
      · rintro ⟨rfl, destinationRef, hd, hkind, rfl⟩
        exact ⟨destinationRef, hd, hkind, rfl, rfl⟩
  have hrun := ExceptLoop.foldl_extends D (fun pluginConfig r =>
    pluginConfig.Plugin ∈ plugin2MountPoint2Config ∧ r.2 = pluginConfig.Plugin ∧
      NamesService pluginConfig r.1) walkPluginConfigStep hstep pluginConfigs
    ⟨plugin2MountPoint2Config, ∅⟩ (fun _ => False) ⟨fun _ => Iff.rfl, fun svc p a => by simp⟩
  refine hrun.2.of_iff fun svc p => ?_
  simp only [false_or]
  constructor
  · rintro ⟨pluginConfig, hpc, hin, rfl, hnames⟩
    exact ⟨hin, pluginConfig, hpc, rfl, hnames⟩
  · rintro ⟨hin, pluginConfig, hpc, rfl, hnames⟩
    exact ⟨pluginConfig, hpc, hin, rfl, hnames⟩

/-! ## Reading the conf -/

/-- A range loop over a map that copies some of its entries into a map with the same keys:
    every key ends with what its entry gave, or with what it held before. -/
theorem lookup_foldl_copy {ν β : Type*} (k : String) (read : ν → Option β)
    (f : (AList fun _ : String => β) → (Σ _ : String, ν) → AList fun _ : String => β)
    (hf : ∀ acc e, (f acc e).lookup k =
      if e.1 = k then (read e.2).or (acc.lookup k) else acc.lookup k) :
    ∀ (l : List (Σ _ : String, ν)) (acc : AList fun _ : String => β), l.NodupKeys →
      (l.foldl f acc).lookup k = ((l.dlookup k).bind read).or (acc.lookup k)
  | [], acc, _ => by simp
  | ⟨a, v⟩ :: l, acc, hnd => by
    obtain ⟨hnotin, hnd⟩ := List.nodupKeys_cons.mp hnd
    rw [List.foldl_cons, lookup_foldl_copy k read f hf l _ hnd, hf]
    by_cases ha : a = k
    · -- the key's only entry: the rest of the loop leaves the key alone
      subst ha
      have hrest : l.dlookup a = none := List.dlookup_eq_none.mpr hnotin
      simp [hrest, List.dlookup_cons_eq]
    · simp [ha, List.dlookup_cons_ne l ⟨a, v⟩ (Ne.symm ha)]

/-- A traffic match reads, for every plugin of its service, the configuration of its mount
    point. -/
theorem lookup_pluginConfigsAt (p : PipyConf) (meshSvc mountPoint pluginName : String) :
    (pluginConfigsAt p meshSvc mountPoint).lookup pluginName =
      ((p.pluginPolicies.lookup meshSvc).bind (·.lookup pluginName)).bind
        (·.lookup mountPoint) := by
  unfold pluginConfigsAt
  cases p.pluginPolicies.lookup meshSvc with
  | none => rfl
  | some plugin2MountPoint2Config =>
    rw [lookup_foldl_copy pluginName (·.lookup mountPoint) _ ?_ _ _
      plugin2MountPoint2Config.nodupKeys]
    · simp [AList.lookup]
    · intro acc e
      split
      · next config hc =>
        by_cases he : e.1 = pluginName
        · simp [he, hc, AList.lookup_insert]
        · simp [he, AList.lookup_insert_ne (Ne.symm he)]
      · next hnone =>
        by_cases he : e.1 = pluginName <;> simp [he, hnone]

/-- What a service reads at a plugin and a mount point: its pointer to the plugin's map, read
    through the heap. -/
theorem PluginPolicies.lookup_deref (st : PluginPolicies) (svc pluginName mountPoint : String) :
    ((st.deref.lookup svc).bind (·.lookup pluginName)).bind (·.lookup mountPoint) =
      ((st.meshSvc2Plugin2MountPoint2Config.lookup svc).bind (·.lookup pluginName)).bind
        fun a => ((st.plugin2MountPoint2Config.lookup a).bind (·.lookup mountPoint)).map
          rawExtensionText := by
  unfold PluginPolicies.deref
  rw [GoMap.lookup_mapVal]
  cases st.meshSvc2Plugin2MountPoint2Config.lookup svc with
  | none => rfl
  | some plugin2Ref =>
    simp only [Option.map_some, Option.bind_some, GoPtr.lookup_deref]
    cases plugin2Ref.lookup pluginName with
    | none => rfl
    | some a =>
      simp only [Option.map_some, Option.bind_some, GoMap.lookup_mapVal]
      cases st.plugin2MountPoint2Config.lookup a <;> simp

/-- Once both walks are over, a service reads a configuration at a plugin and a mount point
    exactly when the chains mount the plugin there and a configuration of the plugin names the
    service; it reads the plugin's last configuration. -/
theorem lookup_deref_walkPluginConfig {mounts : PluginMounts} {R : String → String → Prop}
    (hmounts : mounts.Describes R) (pluginConfigs : List PluginConfig)
    (svc pluginName mountPoint config : String) :
    (((walkPluginConfig pluginConfigs mounts.plugin2MountPoints).deref.lookup svc).bind
        (·.lookup pluginName)).bind (·.lookup mountPoint) = some config ↔
      R pluginName mountPoint ∧
        (∃ pluginConfig ∈ pluginConfigs, pluginConfig.Plugin = pluginName ∧
          NamesService pluginConfig svc) ∧
        (pluginConfigs.reverse.find? (·.Plugin = pluginName)).map (·.Config) = some config := by
  rw [PluginPolicies.lookup_deref]
  have hrefs := refs_walkPluginConfig pluginConfigs mounts.plugin2MountPoints svc pluginName
  cases ha : ((walkPluginConfig pluginConfigs mounts.plugin2MountPoints
      ).meshSvc2Plugin2MountPoint2Config.lookup svc).bind (·.lookup pluginName) with
  | none =>
    -- no pointer: a mounted plugin would have one as soon as a configuration names the service
    refine iff_of_false (by simp) ?_
    rintro ⟨hR, hnames, -⟩
    have hin := (hmounts.allocated pluginName).mpr ⟨mountPoint, hR⟩
    have hsome := (hrefs pluginName).mpr ⟨⟨hin, hnames⟩, rfl⟩
    rw [ha] at hsome
    cases hsome
  | some a =>
    obtain ⟨⟨hin, hnames⟩, rfl⟩ := (hrefs a).mp ha
    -- the pointer leads to the plugin's map, written last by the plugin's last configuration
    obtain ⟨pc, hpc⟩ : ∃ pc, pluginConfigs.reverse.find? (·.Plugin = a) = some pc := by
      obtain ⟨pc', hpc', hplugin, -⟩ := hnames
      exact Option.isSome_iff_exists.mp (List.find?_isSome.mpr ⟨pc', List.mem_reverse.mpr hpc',
        by simp [hplugin]⟩)
    obtain ⟨m₀, hm₀⟩ := Option.isSome_iff_exists.mp (AList.lookup_isSome.mpr hin)
    have hmp : ∀ v, m₀.lookup mountPoint = some v ↔ R a mountPoint ∧ v = none := fun v => by
      simpa [hm₀] using hmounts.mountPoints a mountPoint v
    rw [Option.bind_some, lookup_heap_walkPluginConfig, hm₀, Option.map_some, Option.bind_some,
      lookup_lastWrite_setConfig, hpc]
    cases hv : m₀.lookup mountPoint with
    | none =>
      refine iff_of_false (by simp) ?_
      rintro ⟨hR, -⟩
      have := (hmp none).mpr ⟨hR, rfl⟩
      rw [hv] at this
      cases this
    | some v =>
      have hR := ((hmp v).mp hv).1
      simp [rawExtensionText, hR, hnames]

theorem plugin_of_enabled
    (LabelSelectorAsSelector : LabelSelector → Except String (List (String × String) → Bool))
    {EnablePluginPolicy : Bool} {pluginChains : List PluginChain}
    (hflag : EnablePluginPolicy = true) (hchains : pluginChains ≠ []) (plugins : List String)
    (pluginConfigs : List PluginConfig) (podLabels : List (String × String))
    (ns : Option (List (String × String))) (pipyConf : PipyConf) :
    plugin LabelSelectorAsSelector EnablePluginPolicy pluginChains plugins pluginConfigs
        (some podLabels) ns pipyConf =
      (walkPluginChain LabelSelectorAsSelector pluginChains ns podLabels plugins.toFinset).map
        fun mounts =>
        { pipyConf with
          pluginPolicies := (walkPluginConfig pluginConfigs mounts.plugin2MountPoints).deref } := by
  subst hflag
  simp [plugin, List.isEmpty_iff, hchains]

/-- After the plugin step, a traffic match of a service sees a plugin at its mount point
    exactly when a chain that selects the pod mounts a plugin the repo has there and some
    configuration of the plugin names the service; what it sees is the last configuration of
    the plugin in the catalog, whichever services that configuration names. A chain selects
    the pod when each of its selectors is nil, or valid and met by the labels: a chain with
    an invalid selector mounts nothing. -/
theorem plugin_config_last_wins
    {LabelSelectorAsSelector : LabelSelector → Except String (List (String × String) → Bool)}
    {validKey validValue : String → Bool}
    (hlaws : LabelSelector.AsSelectorLaws validKey validValue LabelSelectorAsSelector)
    {EnablePluginPolicy : Bool} {pluginChains : List PluginChain}
    {plugins : List String} {pluginConfigs : List PluginConfig}
    {podLabels : List (String × String)} {ns : Option (List (String × String))}
    {pipyConf pipyConf' : PipyConf}
    (h : plugin LabelSelectorAsSelector EnablePluginPolicy pluginChains plugins pluginConfigs
      (some podLabels) ns pipyConf = .ok pipyConf')
    (hflag : EnablePluginPolicy = true) (hchains : pluginChains ≠ [])
    {direct svc port protocol : String} (hdirect : '_' ∉ direct.toList)
    (hsvc : '_' ∉ svc.toList) (hport : '_' ∉ port.toList) (hprotocol : '_' ∉ protocol.toList) :
    ∃ configs, pipyConf'.getTrafficMatchPluginConfigs
        (trafficMatchName direct svc port protocol) = .ok configs ∧
      ∀ pluginName config, configs.lookup pluginName = some config ↔
        MountedBy validKey validValue plugins.toFinset ns podLabels pluginChains pluginName
            ((if direct = "exp" then "inbound" else direct) ++ "-" ++ protocol) ∧
          (∃ pluginConfig ∈ pluginConfigs, pluginConfig.Plugin = pluginName ∧
            NamesService pluginConfig svc) ∧
          (pluginConfigs.reverse.find? (·.Plugin = pluginName)).map (·.Config) = some config := by
  rw [plugin_of_enabled LabelSelectorAsSelector hflag hchains] at h
  obtain ⟨mounts, hwalk, rfl⟩ := (ExceptLoop.map_eq_ok_iff _ _ _).mp h
  refine ⟨_, getTrafficMatchPluginConfigs_trafficMatchName _ hdirect hsvc hport hprotocol,
    fun pluginName config => ?_⟩
  rw [lookup_pluginConfigsAt]
  exact lookup_deref_walkPluginConfig (walkPluginChain_describes LabelSelectorAsSelector hlaws hwalk)
    pluginConfigs svc pluginName _ config

/-- The key check of the examples: a key is not empty. Every value passes. -/
def keyNonEmpty (key : String) : Bool := !key.isEmpty

/-- The value check of the examples: every value passes. -/
def anyValue (_ : String) : Bool := true

/-- The conversion of the examples. -/
def exampleAsSelector : LabelSelector → Except String (List (String × String) → Bool) :=
  LabelSelector.asSelector keyNonEmpty anyValue

/-- A chain that mounts the `logger` plugin at the inbound HTTP mount point of every pod. -/
def loggerChain : PluginChain := ⟨[⟨"inbound-http", ["logger"]⟩], ⟨none, none⟩⟩

/-- Two configurations of `logger`: one for bookstore, then one for bookbuyer. -/
def loggerConfigs : List PluginConfig :=
  [⟨"logger", [⟨"Service", "bookstore", "bookstore"⟩], "level-debug"⟩,
    ⟨"logger", [⟨"Service", "bookbuyer", "bookbuyer"⟩], "level-info"⟩]

/-- A conf with no plugin policies yet. -/
def noPlugins : PipyConf := ⟨none, false, ∅⟩

/-- The conf of a bookstore sidecar after the plugin step. -/
def bookstorePluginConf : PipyConf :=
  match plugin exampleAsSelector true [loggerChain] ["logger"] loggerConfigs
      (some [("app", "bookstore")]) (some []) noPlugins with
  | .ok pipyConf => pipyConf
  | .error _ => noPlugins

/-- Bookstore's inbound HTTP traffic match sees `logger` configured by the configuration written
    for bookbuyer. -/
theorem plugin_config_last_wins_bookstore :
    LabelSelector.AsSelectorLaws keyNonEmpty anyValue exampleAsSelector ∧
      (bookstorePluginConf.getTrafficMatchPluginConfigs
        (trafficMatchName "inbound" "bookstore/bookstore" "14001" "http")).map
          (·.lookup "logger") = .ok (some "level-info") := by
  have hlaws := LabelSelector.asSelector_laws keyNonEmpty anyValue
  obtain ⟨configs, hconfigs, hlookup⟩ := plugin_config_last_wins hlaws
    (show plugin exampleAsSelector true [loggerChain] ["logger"] loggerConfigs
      (some [("app", "bookstore")]) (some []) noPlugins = .ok bookstorePluginConf from rfl)
    rfl (List.cons_ne_nil _ _)
    (show '_' ∉ "inbound".toList by decide) (show '_' ∉ "bookstore/bookstore".toList by decide)
    (show '_' ∉ "14001".toList by decide) (show '_' ∉ "http".toList by decide)
  have hlogger : configs.lookup "logger" = some "level-info" := by
    refine (hlookup "logger" "level-info").mpr ⟨?_, ?_, by decide⟩
    · -- the chain has no selector, so it selects every pod, and mounts `logger` at
      -- `inbound-http`
      exact ⟨by decide, loggerChain, List.mem_singleton_self _, ⟨trivial, trivial⟩,
        ⟨"inbound-http", ["logger"]⟩, List.mem_singleton_self _, rfl, List.mem_singleton_self _⟩
    · -- the first configuration names bookstore
      exact ⟨_, List.mem_cons_self, rfl, ⟨"Service", "bookstore", "bookstore"⟩,
        List.mem_singleton_self _, rfl, rfl⟩
  exact ⟨hlaws, by rw [hconfigs, ExceptLoop.map_ok, hlogger]⟩

/-- The plugin step panics exactly when the feature is on, the pod is found, its namespace is
    not in the cache and some chain has a valid namespace selector. A chain with an invalid
    one returns false before the namespace is read. -/
theorem plugin_panics_iff
    {LabelSelectorAsSelector : LabelSelector → Except String (List (String × String) → Bool)}
    {validKey validValue : String → Bool}
    (hlaws : LabelSelector.AsSelectorLaws validKey validValue LabelSelectorAsSelector)
    (EnablePluginPolicy : Bool) (pluginChains : List PluginChain)
    (plugins : List String) (pluginConfigs : List PluginConfig)
    (pod ns : Option (List (String × String))) (pipyConf : PipyConf) :
    (∃ e, plugin LabelSelectorAsSelector EnablePluginPolicy pluginChains plugins pluginConfigs pod
        ns pipyConf = .error e) ↔
      EnablePluginPolicy = true ∧ pod.isSome ∧ ns = none ∧
        ∃ pluginChain ∈ pluginChains, ∃ sel, pluginChain.Selectors.NamespaceSelector = some sel ∧
          sel.Valid validKey validValue = true := by
  cases EnablePluginPolicy with
  | false => simp [plugin]
  | true =>
    cases pluginChains with
    | nil => simp [plugin]
    | cons pluginChain pluginChains =>
      cases pod with
      | none => simp [plugin]
      | some podLabels =>
        rw [plugin_of_enabled LabelSelectorAsSelector rfl (List.cons_ne_nil _ _),
          ExceptLoop.map_error_iff, walkPluginChain_error_iff]
        -- a namespace selector converts exactly when it is valid
        simp [← hlaws.ok_iff]

/-- A chain for the pods of the namespaces the mesh monitors. -/
def monitoredChain : PluginChain :=
  ⟨[⟨"inbound-http", ["logger"]⟩], ⟨none, some ⟨[("openservicemesh.io/monitored-by", "osm")], []⟩⟩⟩

/-- A bookstore pod whose namespace is not in the cache panics the step under
    `monitoredChain`. -/
theorem plugin_panics_iff_monitored :
    LabelSelector.AsSelectorLaws keyNonEmpty anyValue exampleAsSelector ∧
      ∃ e, plugin exampleAsSelector true [monitoredChain] ["logger"] loggerConfigs
        (some [("app", "bookstore")]) none noPlugins = .error e := by
  have hlaws := LabelSelector.asSelector_laws keyNonEmpty anyValue
  refine ⟨hlaws, (plugin_panics_iff hlaws true [monitoredChain] ["logger"] loggerConfigs
    (some [("app", "bookstore")]) none noPlugins).mpr ⟨rfl, rfl, rfl, monitoredChain,
      List.mem_singleton_self _, _, rfl, by decide⟩⟩

/-- A chain whose namespace selector asks for a key outside an empty list of values, which the
    conversion refuses. -/
def emptyNotInChain : PluginChain :=
  ⟨[⟨"inbound-http", ["logger"]⟩],
    ⟨none, some ⟨[], [⟨"openservicemesh.io/monitored-by", .NotIn, []⟩]⟩⟩⟩

example : (plugin exampleAsSelector true [emptyNotInChain] ["logger"] loggerConfigs
    (some [("app", "bookstore")]) none noPlugins).toBool = true := by decide

end OsmEdge.Pipy
