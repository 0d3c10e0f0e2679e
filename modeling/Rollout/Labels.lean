import Rollout.Table

/-! Labels of objects: which one says to which cluster an object belongs, and how objects are
selected by their labels. -/
namespace Rollout

def clusterLabel : String := "cluster.x-k8s.io/cluster-name"

def labelSelector (labels : Dict String) : String :=
  ",".intercalate (labels.entries.map fun e => e.1 ++ "=" ++ e.2)

def clusterLabels (cluster : String) : Dict String :=
  (∅ : Dict String).insert clusterLabel cluster

end Rollout
