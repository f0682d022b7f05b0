import Mathlib.Data.Bool.Basic
import OpenSearchOperator.Helpers.VersionGates
import OpenSearchOperator.Reconcilers.Cluster
import OpenSearchOperator.Reconcilers.Scaler

/-! The labels of the StatefulSet that is built for a pool. The selector has the labels of
the operator only; the labels that a user gives to the pool replace them elsewhere. -/

namespace OpenSearchOperator.Reconcilers.Cluster

open Api Helpers Reconcilers.Scaler

structure BuiltSet extends StatefulSet where
  annotations : Labels
  templateLabels : Labels
  templateAnnotations : Labels

def configChecksumKey : String := "opensearch.org/config"

def availableRoles : List String :=
  ["master", "data", "data_content", "data_hot", "data_warm", "data_cold", "data_frozen",
    "ingest", "ml", "remote_cluster_client", "transform", "cluster_manager", "search", "warm"]

def selectedRoles (roles : List String) (ver : String) : List String :=
  mapClusterRoles Data.hashicorp (roles.filter availableRoles.contains) ver

def roleLabels (selected : List String) : Labels :=
  if selected.contains "cluster_manager" then [("opensearch.role", "cluster_manager")]
  else if selected.contains "master" then [("opensearch.role", "master")]
  else []

def poolLabels (cr : OpenSearchCluster) (node : NodePool) (userLabels : Labels) : Labels :=
  userLabels.merge (nodePoolLabels cr node ++
    roleLabels (selectedRoles node.roles cr.spec.general.version))

/-- `builders.NewSTSForNodePool` with the labels and annotations of the pool. -/
def newLabelledSTS (cr : OpenSearchCluster) (node : NodePool)
    (userLabels userAnnotations : Labels) (configChecksum : String) : BuiltSet :=
  let labels := poolLabels cr node userLabels
  let annotations := userAnnotations.merge [(configChecksumKey, configChecksum)]
  { newSTSForNodePool cr node configChecksum with
    labels, annotations, templateLabels := labels, templateAnnotations := annotations }

/-- The StatefulSet selects its own pods, the cleanup lists it, finds it among the pools and
passes over it. -/
structure Recognised (cr : OpenSearchCluster) (built : BuiltSet) : Prop where
  selects : built.templateLabels.Matches built.selector = true
  listed : built.labels.Matches [(clusterLabel, cr.name)] = true
  found : stsInNodePools built.toStatefulSet cr.spec.nodePools = true
  kept : ∀ rest results,
    removeUnlisted cr (built.toStatefulSet :: rest) results = removeUnlisted cr rest results

theorem get_merge (base other : Labels) (key : String) :
    (base.merge other).get key = (base.get key).or (other.get key) := by
  cases set : base.find? (fun entry => entry.1 == key) with
  | some entry => simp [Labels.merge, Labels.get, set]
  | none =>
    -- the entries for the key are those that the filter keeps
    simp only [Labels.merge, Labels.get, List.find?_append, set, List.find?_filter]
    induction other with
    | nil => rfl
    | cons entry rest ih => grind

variable {cr : OpenSearchCluster} {node : NodePool} {userLabels : Labels}

theorem get_clusterLabel : (poolLabels cr node userLabels).get clusterLabel =
    some ((userLabels.get clusterLabel).getD cr.name) := by
  rw [poolLabels, get_merge]
  cases userLabels.get clusterLabel <;> simp [nodePoolLabels, Labels.get]

theorem get_nodePoolLabel : (poolLabels cr node userLabels).get nodePoolLabel =
    some ((userLabels.get nodePoolLabel).getD node.component) := by
  rw [poolLabels, get_merge]
  cases userLabels.get nodePoolLabel <;>
    simp [nodePoolLabels, Labels.get, clusterLabel, nodePoolLabel]

theorem getD_eq_iff {label : Option String} {text : String} :
    label.getD text = text ↔ ∀ value, label = some value → value = text := by
  cases label <;> simp

/-- The operator recognises what it builds exactly if the labels of the pool do not change
the labels by which it does. -/
theorem built_recognised_iff (cr : OpenSearchCluster) (node : NodePool)
    (userLabels userAnnotations : Labels) (configChecksum : String)
    (inSpec : node ∈ cr.spec.nodePools) :
    Recognised cr (newLabelledSTS cr node userLabels userAnnotations configChecksum) ↔
      (∀ value, userLabels.get clusterLabel = some value → value = cr.name) ∧
        ∀ value, userLabels.get nodePoolLabel = some value → value = node.component := by
  rw [← getD_eq_iff, ← getD_eq_iff]
  have selects : (poolLabels cr node userLabels).Matches (nodePoolLabels cr node) = true ↔
      (userLabels.get clusterLabel).getD cr.name = cr.name ∧
        (userLabels.get nodePoolLabel).getD node.component = node.component := by
    simp [Labels.Matches, nodePoolLabels, get_clusterLabel, get_nodePoolLabel]
  refine ⟨fun recognised => selects.mp recognised.selects, fun kept => ?_⟩
  have found : stsInNodePools (newLabelledSTS cr node userLabels userAnnotations
      configChecksum).toStatefulSet cr.spec.nodePools = true := by
    simpa [stsInNodePools, newLabelledSTS, get_nodePoolLabel, kept.2] using ⟨node, inSpec, rfl⟩
  exact {
    selects := selects.mpr kept
    listed := by simp [newLabelledSTS, Labels.Matches, get_clusterLabel, kept.1]
    found
    kept := fun rest results => by simp only [removeUnlisted, found, ite_true] }

def logsCluster : OpenSearchCluster where
  name := "logs"
  resourceVersion := 1
  spec := ⟨⟨"2.11.0", false⟩, ⟨false⟩, ⟨false⟩, [⟨"data", 3, ["data"], none, 0, "", ""⟩]⟩
  status := ⟨"", [], "", false, 0, ""⟩

theorem tier_label_recognised :
    Recognised logsCluster (newLabelledSTS logsCluster ⟨"data", 3, ["data"], none, 0, "", ""⟩
      [("tier", "hot")] [] "sum") :=
  (built_recognised_iff logsCluster _ [("tier", "hot")] [] "sum" (by decide)).mpr (by decide)

/-- With the label of another pool the selector does not match the pods, and the cleanup
takes the StatefulSet for one of a pool that was removed. -/
theorem relabelled_pool_cleaned :
    let built := newLabelledSTS logsCluster ⟨"data", 3, ["data"], none, 0, "", ""⟩
      [(nodePoolLabel, "hot")] [] "sum"
    built.templateLabels.Matches built.selector = false ∧
      built.labels.Matches [(clusterLabel, "logs")] = true ∧
      stsInNodePools built.toStatefulSet logsCluster.spec.nodePools = false := by
  decide +kernel

end OpenSearchOperator.Reconcilers.Cluster
