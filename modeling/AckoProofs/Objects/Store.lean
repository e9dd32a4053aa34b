/-
The PodDisruptionBudgets and Services of one namespace as the API server holds them, and the requests that
the operator sends for them.
-/
import AckoProofs.Lib.Keyed
import AckoProofs.Lib.Plan
import AckoProofs.Pod.Spec

namespace Acko

/-! ## Objects -/

/-- `client.MatchingLabels` on the labels of an object. -/
def carries (selector : Labels) (labels : StringMap) : Bool :=
  selector.all fun (key, value) => labels.lookup key = some value

theorem carries_eq_true {selector : Labels} {labels : StringMap} :
    carries selector labels = true ↔ ∀ key value, (key, value) ∈ selector → labels.lookup key = some value := by
  simp [carries]

/-- A PodDisruptionBudget. `owner` is the UID of its controller. -/
structure PodDisruptionBudget where
  labels : StringMap
  owner : Option String
  minAvailable : Option IntOrString
  maxUnavailable : Option IntOrString
  selector : Option LabelSelector
  deriving DecidableEq

/-- A label selector requirement: a key, an operator and its values. -/
def requirementHolds (podLabels : StringMap) (requirement : String × String × List String) : Prop :=
  let (key, operator, values) := requirement
  match operator with
  | "In" => ∃ value ∈ values, podLabels.lookup key = some value
  | "NotIn" => ∀ value ∈ values, podLabels.lookup key ≠ some value
  | "Exists" => podLabels.lookup key ≠ none
  | "DoesNotExist" => podLabels.lookup key = none
  | _ => False

/-- The budget counts the pods with these labels; one without a selector counts none. -/
def PodDisruptionBudget.Selects (pdb : PodDisruptionBudget) (podLabels : StringMap) : Prop :=
  ∃ selector, pdb.selector = some selector ∧
    (∀ key value, selector.matchLabels.lookup key = some value → podLabels.lookup key = some value) ∧
    ∀ requirement ∈ selector.matchExpressions, requirementHolds podLabels requirement

structure ServicePort where
  name : String
  port : Int
  targetPort : IntOrString
  protocol : String
  deriving DecidableEq

/-- A Service. An empty type is `none`. -/
structure Service where
  labels : StringMap
  annotations : StringMap
  owner : Option String
  clusterIP : String
  type : Option ServiceType
  selector : StringMap
  publishNotReadyAddresses : Bool
  ports : List ServicePort
  externalTrafficPolicy : String
  loadBalancerSourceRanges : List String
  deriving DecidableEq

/-- The objects of the namespace, by name. -/
structure Objects where
  pdbs : AList fun _ : String => PodDisruptionBudget
  services : AList fun _ : String => Service

def Objects.empty : Objects := ⟨∅, ∅⟩

/-! ## Requests -/

inductive Request
  | pdb (name : String) (change : Keyed.Change PodDisruptionBudget)
  | service (name : String) (change : Keyed.Change Service)

def Objects.apply (objects : Objects) : Request → Objects
  | .pdb name change => { objects with pdbs := Keyed.write name change objects.pdbs }
  | .service name change => { objects with services := Keyed.write name change objects.services }

/-- An error of a call, with the text that the operator puts around it. -/
inductive ApiError
  | notFound (text : String)
  | other (text : String)
  deriving DecidableEq

def ApiError.wrap (context : String) : ApiError → ApiError
  | .notFound text => .notFound (context ++ ": " ++ text)
  | .other text => .other (context ++ ": " ++ text)

def orFail (context : String) (e : ApiError) : Option ApiError := some (e.wrap context)

/-- `err != nil && !errors.IsNotFound(err)`: what is gone already need not be deleted. -/
def unlessNotFound (context : String) : ApiError → Option ApiError
  | .notFound _ => none
  | e => some (e.wrap context)

/-- `err != nil && !errors.IsNotFound(err)`, with nothing put around the error. -/
def unlessGone : ApiError → Option ApiError
  | .notFound _ => none
  | e => some e

abbrev ObjectPlan := Plan Objects Request ApiError

/-! ## Budgets after a request -/

theorem lookup_pdb_self (objects : Objects) (name : String) (change : Keyed.Change PodDisruptionBudget) :
    (objects.apply (.pdb name change)).pdbs.lookup name = change.on (objects.pdbs.lookup name) :=
  Keyed.lookup_write_self name change objects.pdbs

theorem lookup_pdb_of_ne {name other : String} (h : other ≠ name) (objects : Objects)
    (change : Keyed.Change PodDisruptionBudget) :
    (objects.apply (.pdb name change)).pdbs.lookup other = objects.pdbs.lookup other :=
  Keyed.lookup_write_of_ne h change objects.pdbs

end Acko
