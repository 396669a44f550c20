import Mathlib.Data.List.AList

/-
  Envoy's role-based access control (`envoy.config.rbac.v3`), in the part the mesh
  programs, with the meaning Envoy gives it.

  A policy matches a connection or request when at least one of its permissions matches
  the action and at least one of its principals matches the downstream. An `ALLOW` filter
  lets through exactly what some policy matches, so a filter with no policy refuses
  everything; a `DENY` filter lets through what no policy matches. An `authenticated`
  principal matches a downstream whose peer certificate carries that principal name;
  `any` matches every downstream, with or without a certificate.

  `policies` is a protobuf `map<string, Policy>`: an association list with distinct keys.

  The filter belongs to Envoy, outside the repository. Results about the filters the control
  plane builds take the filter's decision as an argument `allows` with the law Envoy documents
  for an `ALLOW` filter (`AllowsLaw`); `RBAC.allows` is one decision with that law.
-/

namespace OsmEdge.Xds

/-- What an RBAC filter reads of a connection: the principal of the downstream's
    certificate (`none` without one) and the destination port. -/
structure Downstream where
  principal : Option String
  destinationPort : Nat
  deriving DecidableEq, Repr

/-- `rbac.v3.Principal`, in the forms the mesh uses. -/
inductive Principal where
  | any
  | authenticated (principalName : String)
  deriving DecidableEq, Repr

/-- `rbac.v3.Permission`, in the forms the mesh uses. -/
inductive Permission where
  | any
  | destinationPort (port : UInt32)
  | andRules (rules : List Permission)
  deriving Repr

/-- `rbac.v3.Policy`. -/
structure Policy where
  permissions : List Permission
  principals : List Principal

/-- `rbac.v3.RBAC.Action`. -/
inductive Action where
  | ALLOW
  | DENY
  | LOG
  deriving DecidableEq, Repr

/-- `rbac.v3.RBAC`. -/
structure RBAC where
  action : Action
  policies : AList (fun _ : String => Policy)

/-! ## Matching -/

/-- A principal matches a downstream. -/
def Principal.matches : Principal → Downstream → Bool
  | .any, _ => true
  | .authenticated n, d => d.principal == some n

mutual
/-- A permission matches a connection. -/
def Permission.matches : Permission → Downstream → Bool
  | .any, _ => true
  | .destinationPort p, d => p.toNat == d.destinationPort
  | .andRules rs, d => Permission.matchesAll rs d

/-- Every permission of an `and_rules` set matches. -/
def Permission.matchesAll : List Permission → Downstream → Bool
  | [], _ => true
  | r :: rs, d => r.matches d && Permission.matchesAll rs d
end

/-- A policy matches when one of its permissions and one of its principals match. -/
def Policy.matches (pol : Policy) (d : Downstream) : Bool :=
  pol.permissions.any (·.matches d) && pol.principals.any (·.matches d)

/-- Whether the filter lets the downstream through. -/
def RBAC.allows (rbac : RBAC) (d : Downstream) : Bool :=
  match rbac.action with
  | .ALLOW => rbac.policies.entries.any (·.2.matches d)
  | .DENY => !rbac.policies.entries.any (·.2.matches d)
  | .LOG => true

/-- An `ALLOW` filter lets through exactly what one of its policies matches. -/
theorem RBAC.allows_ALLOW {rbac : RBAC} (h : rbac.action = .ALLOW) (d : Downstream) :
    rbac.allows d = true ↔ ∃ e ∈ rbac.policies.entries, e.2.matches d = true := by
  simp [RBAC.allows, h]

/-- What Envoy documents of an RBAC filter with the `ALLOW` action, as a law of a decision
    function: it lets a downstream through exactly when one of the filter's policies matches
    it. -/
def AllowsLaw (allows : RBAC → Downstream → Bool) : Prop :=
  ∀ rbac d, rbac.action = .ALLOW →
    (allows rbac d = true ↔ ∃ e ∈ rbac.policies.entries, e.2.matches d = true)

theorem RBAC.allows_law : AllowsLaw RBAC.allows := fun _ d h => RBAC.allows_ALLOW h d

@[simp] theorem Principal.matches_any (d : Downstream) : Principal.any.matches d = true := rfl

@[simp] theorem Principal.matches_authenticated (n : String) (d : Downstream) :
    (Principal.authenticated n).matches d = true ↔ d.principal = some n := by
  simp [Principal.matches]

@[simp] theorem Permission.matches_any (d : Downstream) : Permission.any.matches d = true := rfl

@[simp] theorem Permission.matches_destinationPort (p : UInt32) (d : Downstream) :
    (Permission.destinationPort p).matches d = true ↔ p.toNat = d.destinationPort := by
  simp [Permission.matches]

end OsmEdge.Xds
