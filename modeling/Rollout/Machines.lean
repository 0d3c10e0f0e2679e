import Rollout.ClusterKey
import Rollout.Filter
import Rollout.Store.Call
import Rollout.Store.Place

/-! The machines of a cluster, as far as filters accept them. -/
namespace Rollout.Machines
variable {Label : Type}

def failure (f : Failure) : Failure :=
  .internal "management" ("failed to list machines: " ++ f.message)

def ofCluster (key : ClusterKey) (filters : List (Filter Label Machine)) :
    Plan Place (Except Failure (List Machine × List Label)) :=
  .ask .management (.list .machine key.namespaceName (clusterLabels key.name)) fun
    | .ok machines => .done (.ok (Filter.select filters machines))
    | .error f => .done (.error (failure f))

end Rollout.Machines
