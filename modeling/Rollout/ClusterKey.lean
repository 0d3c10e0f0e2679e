import Rollout.Table
import Rollout.Trust.Purpose

/-! The identity of a cluster, and the names of the secrets that belong to it. -/
namespace Rollout

/-- Where a cluster is described: a namespace, and the name of the description there. -/
structure ClusterKey where
  namespaceName : String
  name : String
  deriving DecidableEq, Repr, Inhabited

namespace ClusterKey

instance : Ranked ClusterKey :=
  .ofInjective (fun k => (k.namespaceName, k.name)) fun {a b} h => by
    cases a; cases b; simp_all

def shown (k : ClusterKey) : String :=
  k.namespaceName ++ "/" ++ k.name

instance : ToString ClusterKey := ⟨shown⟩

def secretName (k : ClusterKey) (suffix : String) : String :=
  k.name ++ "-" ++ suffix

def secretFor (k : ClusterKey) (p : Purpose) : String :=
  k.secretName p.suffix

def sort (ks : List ClusterKey) : List ClusterKey :=
  (Table.ofList (ks.map fun k => (k, ()))).keys

end ClusterKey
end Rollout
