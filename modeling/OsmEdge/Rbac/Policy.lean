import OsmEdge.Xds.Rbac
import OsmEdge.Identity

/-
  `PolicyBuilder` (`pkg/sidecar/providers/envoy/rbac/policy.go`), which every RBAC policy of
  the sidecar goes through.

  Two conventions of `Build` decide what a policy lets through: an empty principal list
  becomes the single principal `any`, and an empty port list becomes the single permission
  `any`. `AddPrincipal` with the wildcard clears the list and switches to "allow all", after
  which further principals are dropped. So a policy built from a list of principals `ps`
  and ports `qs` matches a downstream exactly when (`ps` is empty, holds the wildcard, or
  holds the downstream's principal) and (`qs` is empty or holds its port):
  `Build_addPrincipals_matches`.
-/

namespace OsmEdge.Rbac

open OsmEdge.Xds OsmEdge.Identity

/-- `PolicyBuilder`; its zero value is the empty builder. -/
structure PolicyBuilder where
  allowedPorts : List UInt32 := []
  allowedPrincipals : List String := []
  allowAllPrincipals : Bool := false
  applyPermissionsAsAnd : Bool := false

/-- `GetAuthenticatedPrincipal`: an exact match on the principal name. -/
def GetAuthenticatedPrincipal (principalName : String) : Principal :=
  .authenticated principalName

/-- `getAnyPrincipal`. -/
def getAnyPrincipal : Principal := .any

/-- `getAnyPermission`. -/
def getAnyPermission : Permission := .any

/-- `andPermission`. -/
def andPermission (permissions : List Permission) : Permission := .andRules permissions

/-- `GetDestinationPortPermission`. -/
def GetDestinationPortPermission (port : UInt32) : Permission := .destinationPort port

namespace PolicyBuilder

/-- `Build`. -/
def Build (p : PolicyBuilder) : Policy :=
  let prinicipals := p.allowedPrincipals.map GetAuthenticatedPrincipal
  -- no principals: allow any
  let prinicipals := if prinicipals.length = 0 then [getAnyPrincipal] else prinicipals
  let permissions := p.allowedPorts.map GetDestinationPortPermission
  -- no ports: allow any
  let permissions := if permissions.length = 0 then [getAnyPermission] else permissions
  { principals := prinicipals
    permissions := if p.applyPermissionsAsAnd then [andPermission permissions] else permissions }

/-- `UseANDForPermissions`. -/
def UseANDForPermissions (p : PolicyBuilder) (val : Bool) : PolicyBuilder :=
  { p with applyPermissionsAsAnd := val }

/-- `AllowAnyPrincipal`. -/
def AllowAnyPrincipal (p : PolicyBuilder) : PolicyBuilder :=
  { p with allowedPrincipals := [], allowAllPrincipals := true }

/-- `AddPrincipal`. -/
def AddPrincipal (p : PolicyBuilder) (principal : String) : PolicyBuilder :=
  let p := if principal = WildcardPrincipal then p.AllowAnyPrincipal else p
  if !p.allowAllPrincipals then { p with allowedPrincipals := p.allowedPrincipals ++ [principal] }
  else p

/-- `AddAllowedDestinationPort`: Envoy takes ports as `uint32`. -/
def AddAllowedDestinationPort (p : PolicyBuilder) (port : UInt16) : PolicyBuilder :=
  { p with allowedPorts := p.allowedPorts ++ [port.toUInt32] }

/-! ## Adding principals and ports -/

/-- A builder whose "allow all" switch is on holds no principal; every builder the methods
    produce from the empty one is such. -/
def Coherent (p : PolicyBuilder) : Prop := p.allowAllPrincipals = true → p.allowedPrincipals = []

theorem AddPrincipal_allowedPrincipals (p : PolicyBuilder) (h : p.Coherent) (principal : String) :
    (p.AddPrincipal principal).allowedPrincipals =
      if p.allowAllPrincipals = true ∨ principal = WildcardPrincipal then []
      else p.allowedPrincipals ++ [principal] := by
  unfold AddPrincipal AllowAnyPrincipal
  by_cases hw : principal = WildcardPrincipal
  · simp [hw]
  · by_cases ha : p.allowAllPrincipals = true
    · simp [hw, ha, h ha]
    · simp [hw, ha]

theorem AddPrincipal_allowAllPrincipals (p : PolicyBuilder) (principal : String) :
    (p.AddPrincipal principal).allowAllPrincipals =
      (p.allowAllPrincipals || decide (principal = WildcardPrincipal)) := by
  unfold AddPrincipal AllowAnyPrincipal
  by_cases hw : principal = WildcardPrincipal
  · simp [hw]
  · by_cases ha : p.allowAllPrincipals = true <;> simp [hw, ha]

theorem AddPrincipal_coherent {p : PolicyBuilder} (h : p.Coherent) (principal : String) :
    (p.AddPrincipal principal).Coherent := by
  intro ha
  rw [AddPrincipal_allowedPrincipals p h, if_pos]
  rw [AddPrincipal_allowAllPrincipals] at ha
  simpa using ha

@[simp] theorem AddPrincipal_allowedPorts (p : PolicyBuilder) (principal : String) :
    (p.AddPrincipal principal).allowedPorts = p.allowedPorts := by
  unfold AddPrincipal AllowAnyPrincipal
  by_cases hw : principal = WildcardPrincipal <;> by_cases ha : p.allowAllPrincipals = true <;>
    simp [hw, ha]

@[simp] theorem AddPrincipal_applyPermissionsAsAnd (p : PolicyBuilder) (principal : String) :
    (p.AddPrincipal principal).applyPermissionsAsAnd = p.applyPermissionsAsAnd := by
  unfold AddPrincipal AllowAnyPrincipal
  by_cases hw : principal = WildcardPrincipal <;> by_cases ha : p.allowAllPrincipals = true <;>
    simp [hw, ha]

/-- The loop `for principal := range ps { pb.AddPrincipal(principal) }`: the wildcard, or an
    "allow all" switch already on, empties the list; otherwise the principals are appended. -/
theorem addPrincipals_allowedPrincipals :
    ∀ (ps : List String) (p : PolicyBuilder), p.Coherent →
      (ps.foldl AddPrincipal p).allowedPrincipals =
        if p.allowAllPrincipals = true ∨ WildcardPrincipal ∈ ps then []
        else p.allowedPrincipals ++ ps
  | [], p, h => by
    rw [List.foldl_nil]
    split_ifs with hc
    · exact h (by simpa using hc)
    · simp
  | q :: qs, p, h => by
    rw [List.foldl_cons, addPrincipals_allowedPrincipals qs _ (AddPrincipal_coherent h q),
      AddPrincipal_allowedPrincipals p h, AddPrincipal_allowAllPrincipals]
    by_cases hq : q = WildcardPrincipal
    · simp [hq]
    · by_cases ha : p.allowAllPrincipals = true
      · simp [ha]
      · simp [hq, ha, Ne.symm hq]

theorem addPrincipals_allowedPorts (ps : List String) (p : PolicyBuilder) :
    (ps.foldl AddPrincipal p).allowedPorts = p.allowedPorts := by
  induction ps generalizing p with
  | nil => rfl
  | cons q qs ih => rw [List.foldl_cons, ih, AddPrincipal_allowedPorts]

theorem addPrincipals_applyPermissionsAsAnd (ps : List String) (p : PolicyBuilder) :
    (ps.foldl AddPrincipal p).applyPermissionsAsAnd = p.applyPermissionsAsAnd := by
  induction ps generalizing p with
  | nil => rfl
  | cons q qs ih => rw [List.foldl_cons, ih, AddPrincipal_applyPermissionsAsAnd]

/-- The loop over ports appends them, converted to `uint32`, and touches nothing else. -/
theorem addPorts_allowedPorts (qs : List UInt16) (p : PolicyBuilder) :
    (qs.foldl AddAllowedDestinationPort p).allowedPorts =
      p.allowedPorts ++ qs.map UInt16.toUInt32 := by
  induction qs generalizing p with
  | nil => simp
  | cons q qs ih => simp [ih, AddAllowedDestinationPort]

theorem addPorts_allowedPrincipals (qs : List UInt16) (p : PolicyBuilder) :
    (qs.foldl AddAllowedDestinationPort p).allowedPrincipals = p.allowedPrincipals := by
  induction qs generalizing p with
  | nil => rfl
  | cons q qs ih => rw [List.foldl_cons, ih]; rfl

theorem addPorts_applyPermissionsAsAnd (qs : List UInt16) (p : PolicyBuilder) :
    (qs.foldl AddAllowedDestinationPort p).applyPermissionsAsAnd = p.applyPermissionsAsAnd := by
  induction qs generalizing p with
  | nil => rfl
  | cons q qs ih => rw [List.foldl_cons, ih]; rfl

/-! ## What a built policy matches -/

/-- The principals of a built policy match exactly the downstreams whose principal is
    listed, or every downstream when none is listed. -/
theorem Build_principals_match (p : PolicyBuilder) (d : Downstream) :
    p.Build.principals.any (·.matches d) = true ↔
      p.allowedPrincipals = [] ∨ ∃ n ∈ p.allowedPrincipals, d.principal = some n := by
  unfold Build
  cases hps : p.allowedPrincipals with
  | nil => simp [getAnyPrincipal]
  | cons n ns => simp [GetAuthenticatedPrincipal]

/-- With OR semantics, the permissions of a built policy match exactly the connections to a
    listed port, or every connection when no port is listed. -/
theorem Build_permissions_match (p : PolicyBuilder) (h : p.applyPermissionsAsAnd = false)
    (d : Downstream) :
    p.Build.permissions.any (·.matches d) = true ↔
      p.allowedPorts = [] ∨ ∃ q ∈ p.allowedPorts, q.toNat = d.destinationPort := by
  unfold Build
  simp only [h, Bool.false_eq_true, if_false]
  cases hqs : p.allowedPorts with
  | nil => simp [getAnyPermission]
  | cons q qs => simp [GetDestinationPortPermission]

/-- What a policy built from the empty builder by the principal loop and the port loop
    matches: the wildcard or an empty principal list admits every downstream, an empty
    port list admits every port. -/
theorem Build_addPrincipals_matches (ps : List String) (qs : List UInt16) (d : Downstream) :
    (qs.foldl AddAllowedDestinationPort (ps.foldl AddPrincipal {})).Build.matches d = true ↔
      (ps = [] ∨ WildcardPrincipal ∈ ps ∨ ∃ n ∈ ps, d.principal = some n) ∧
        (qs = [] ∨ ∃ q ∈ qs, q.toNat = d.destinationPort) := by
  set p := qs.foldl AddAllowedDestinationPort (ps.foldl AddPrincipal {})
  have hcoh : Coherent ({} : PolicyBuilder) := fun h => by cases h
  have hprin : p.allowedPrincipals = if WildcardPrincipal ∈ ps then [] else ps := by
    rw [addPorts_allowedPrincipals, addPrincipals_allowedPrincipals ps {} hcoh]
    simp
  have hports : p.allowedPorts = qs.map UInt16.toUInt32 := by
    rw [addPorts_allowedPorts, addPrincipals_allowedPorts]
    rfl
  have hor : p.applyPermissionsAsAnd = false := by
    rw [addPorts_applyPermissionsAsAnd, addPrincipals_applyPermissionsAsAnd]
  rw [Policy.matches, Bool.and_eq_true, Build_permissions_match p hor, Build_principals_match,
    hprin, hports, and_comm]
  -- the principal side: the wildcard empties the list, which admits everyone
  have hside : ((if WildcardPrincipal ∈ ps then [] else ps) = [] ∨
      ∃ n ∈ (if WildcardPrincipal ∈ ps then [] else ps), d.principal = some n) ↔
      (ps = [] ∨ WildcardPrincipal ∈ ps ∨ ∃ n ∈ ps, d.principal = some n) := by
    by_cases hw : WildcardPrincipal ∈ ps <;> simp [hw]
  rw [hside]
  simp
end PolicyBuilder

end OsmEdge.Rbac
