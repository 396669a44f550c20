import Mathlib.Data.List.Basic

/-
  Kubernetes label selectors (`metav1.LabelSelector`) and what an object's labels must hold to
  match one, as `labels.Selector.Matches` decides after `metav1.LabelSelectorAsSelector`
  turned the selector into requirements: a `matchLabels` entry asks for the key with that
  value, and an expression with `In`, `NotIn`, `Exists` or `DoesNotExist` asks for the key with
  a value in the list, for the key absent or with a value out of the list, for the key, or for
  its absence. A selector matches labels that meet all of its requirements.

  Labels are a Go map from keys to values: an association list, looked up with
  `List.lookup`.

  `LabelSelectorAsSelector` first checks the selector. It refuses a key that is not a
  qualified name, a value that is not a label value, an `In` or `NotIn` expression without
  values and an `Exists` or `DoesNotExist` expression with some (`Valid`, where the two checks
  of names are the arguments `validKey` and `validValue`). The conversion belongs to
  apimachinery, outside the repository: code that calls it takes it as an argument, with the
  laws above (`AsSelectorLaws`). `asSelector` is one conversion with those laws.
-/

namespace LabelSelector

/-- `metav1.LabelSelectorOperator`. -/
inductive Operator
  | In
  | NotIn
  | Exists
  | DoesNotExist
  deriving DecidableEq, Repr

/-- `metav1.LabelSelectorRequirement`. -/
structure Requirement where
  Key : String
  Operator : Operator
  Values : List String
  deriving DecidableEq, Repr

end LabelSelector

/-- `metav1.LabelSelector`. -/
structure LabelSelector where
  MatchLabels : List (String × String)
  MatchExpressions : List LabelSelector.Requirement
  deriving DecidableEq, Repr

namespace LabelSelector

/-- `labels.Requirement.Matches` on the requirement an expression becomes. -/
def Requirement.Matches (r : Requirement) (labels : List (String × String)) : Bool :=
  match r.Operator, labels.lookup r.Key with
  | .In, some v => r.Values.contains v
  | .In, none => false
  | .NotIn, some v => !r.Values.contains v
  | .NotIn, none => true
  | .Exists, v => v.isSome
  | .DoesNotExist, v => v.isNone

end LabelSelector

/-- `labels.Selector.Matches` on the selector `LabelSelectorAsSelector` builds: every
    `matchLabels` entry and every expression holds. -/
def LabelSelector.Matches (sel : LabelSelector) (labels : List (String × String)) : Bool :=
  sel.MatchLabels.all (fun kv => labels.lookup kv.1 == some kv.2) &&
    sel.MatchExpressions.all (·.Matches labels)

namespace LabelSelector

/-- Whether an expression's values suit its operator: `In` and `NotIn` need some, `Exists`
    and `DoesNotExist` take none. -/
def Requirement.ValuesFit (r : Requirement) : Bool :=
  match r.Operator with
  | .In | .NotIn => !r.Values.isEmpty
  | .Exists | .DoesNotExist => r.Values.isEmpty

/-- The selectors `LabelSelectorAsSelector` accepts: every key passes `validKey`, every value
    `validValue`, and every expression's values suit its operator. -/
def Valid (validKey validValue : String → Bool) (sel : LabelSelector) : Bool :=
  sel.MatchLabels.all (fun kv => validKey kv.1 && validValue kv.2) &&
    sel.MatchExpressions.all fun r => validKey r.Key && r.Values.all validValue && r.ValuesFit

/-- `LabelSelectorAsSelector` and the `Matches` of the selector it returns, as apimachinery
    documents them; the selector is given by its `Matches`. The conversion fails exactly on a
    selector that is not `Valid`, and the selector it returns matches the labels that meet
    every requirement. -/
structure AsSelectorLaws (validKey validValue : String → Bool)
    (asSelector : LabelSelector → Except String (List (String × String) → Bool)) : Prop where
  ok_iff : ∀ sel, (∃ f, asSelector sel = .ok f) ↔ sel.Valid validKey validValue = true
  matches_of_ok : ∀ sel f, asSelector sel = .ok f → f = sel.Matches

section laws

variable {validKey validValue : String → Bool}
  {asSelector : LabelSelector → Except String (List (String × String) → Bool)}

theorem AsSelectorLaws.eq_ok (h : AsSelectorLaws validKey validValue asSelector)
    {sel : LabelSelector} (hvalid : sel.Valid validKey validValue = true) :
    asSelector sel = .ok sel.Matches := by
  obtain ⟨f, hf⟩ := (h.ok_iff sel).mpr hvalid
  rw [hf, h.matches_of_ok sel f hf]

theorem AsSelectorLaws.eq_error (h : AsSelectorLaws validKey validValue asSelector)
    {sel : LabelSelector} (hinvalid : sel.Valid validKey validValue = false) :
    ∃ e, asSelector sel = .error e := by
  cases hsel : asSelector sel with
  | error e => exact ⟨e, rfl⟩
  | ok f =>
    have := (h.ok_iff sel).mp ⟨f, hsel⟩
    rw [hinvalid] at this
    cases this

end laws

/-- A conversion with the laws: the requirements' own `Matches`, or an error. -/
def asSelector (validKey validValue : String → Bool) (sel : LabelSelector) :
    Except String (List (String × String) → Bool) :=
  if sel.Valid validKey validValue then .ok sel.Matches else .error "invalid label selector"

theorem asSelector_laws (validKey validValue : String → Bool) :
    AsSelectorLaws validKey validValue (asSelector validKey validValue) where
  ok_iff sel := by
    unfold asSelector
    split_ifs with hvalid
    · exact ⟨fun _ => hvalid, fun _ => ⟨_, rfl⟩⟩
    · simpa using hvalid
  matches_of_ok sel f h := by
    unfold asSelector at h
    split_ifs at h
    · cases h
      rfl

end LabelSelector
