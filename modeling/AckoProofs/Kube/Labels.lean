/-
Labels of the operator's objects and the equality selectors that lists use.
-/
import AckoProofs.Kube.Names
import Mathlib.Data.Finmap

namespace Acko

/-- Labels or annotations of an object, by key. -/
abbrev Labels := List (String × String)

/-- `map[string]string` where maps are compared: two maps with the same entries are the same map. -/
abbrev StringMap := Finmap fun _ : String => String

def Labels.toMap (labels : Labels) : StringMap := (labels.map fun (key, value) => ⟨key, value⟩).toFinmap

theorem lookup_toMap (key : String) : ∀ labels : Labels, labels.toMap.lookup key = labels.lookup key
  | [] => rfl
  | (k, v) :: rest => by
    have ih := lookup_toMap key rest
    unfold Labels.toMap at ih ⊢
    rw [Finmap.dlookup_list_toFinmap] at ih ⊢
    by_cases h : key = k
    · subst h
      simp
    · rw [List.map_cons, List.dlookup_cons_ne _ _ h, ih, List.lookup_cons, beq_false_of_ne h]

/-- `maps.Copy(dst, src)`: the entries of `src` replace those of `dst`. -/
def mapsCopy (dst src : StringMap) : StringMap := src ∪ dst

def appLabel : String := "app.kubernetes.io/name"
def instanceLabel : String := "app.kubernetes.io/instance"
def componentLabel : String := "app.kubernetes.io/component"
def managedByLabel : String := "app.kubernetes.io/managed-by"
def rackLabel : String := "acko.io/rack"

def appName : String := "aerospike-cluster"
def managerName : String := "aerospike-ce-kubernetes-operator"

def labelsForCluster (clusterName : String) : Labels :=
  [(appLabel, appName), (instanceLabel, clusterName), (componentLabel, "database"), (managedByLabel, managerName)]

def selectorLabelsForCluster (clusterName : String) : Labels :=
  [(appLabel, appName), (instanceLabel, clusterName)]

def labelsForRack (clusterName : String) (rackID : Int) : Labels :=
  labelsForCluster clusterName ++ [(rackLabel, toString rackID)]

/-- `client.MatchingLabels`: every pair of the selector is a label of the object. -/
def matchingLabels (selector labels : Labels) : Bool :=
  selector.all fun (key, value) => labels.lookup key = some value

theorem matchingLabels_eq_true {selector labels : Labels} :
    matchingLabels selector labels = true ↔ ∀ key value, (key, value) ∈ selector → labels.lookup key = some value := by
  simp [matchingLabels]

theorem instance_of_matchingLabels {clusterName : String} {labels : Labels}
    (h : matchingLabels (selectorLabelsForCluster clusterName) labels = true) :
    labels.lookup instanceLabel = some clusterName :=
  matchingLabels_eq_true.1 h instanceLabel clusterName (by simp [selectorLabelsForCluster])

end Acko
