/-! The places where the objects of a cluster are kept. -/
namespace Rollout

inductive Place
  | management
  | secretCache
  | workload
  deriving DecidableEq, Repr

def workloadNamespace : String := "kube-system"

end Rollout
