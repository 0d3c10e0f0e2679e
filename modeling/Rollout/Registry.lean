import Rollout.Failure
import Rollout.Model.Object

/-! Registries: the kinds that a client may touch. Two versions of a kind are two kinds. -/
namespace Rollout

structure Registry where
  kinds : Table (String × String) Unit
  deriving DecidableEq, Repr

namespace Registry

def empty : Registry := ⟨∅⟩

instance : EmptyCollection Registry := ⟨empty⟩

def register (r : Registry) (k : Kind) : Registry :=
  ⟨r.kinds.insert (k.apiVersion, k.name) ()⟩

def contains (r : Registry) (k : Kind) : Bool :=
  r.kinds.contains (k.apiVersion, k.name)

def size (r : Registry) : Nat := r.kinds.size

def isEmpty (r : Registry) : Bool := r.kinds.isEmpty

def workload : Registry :=
  [Kind.secret, .node, .machine, .bootstrapConfig, .controlPlane].foldl register ∅

def ensure (r : Registry) (k : Kind) (cluster : String) : Except Failure Unit :=
  if r.contains k then .ok ()
  else .error (.invalid cluster
    ("kind " ++ k.name ++ " (" ++ k.apiVersion ++ ") is not registered with this client") none)

end Registry
end Rollout
