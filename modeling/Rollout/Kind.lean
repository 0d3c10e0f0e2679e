/-! Kinds of objects: what an interface calls them, and where it keeps them. -/
namespace Rollout

structure Kind where
  group : String
  version : String
  name : String
  plural : String
  deriving DecidableEq, Repr

namespace Kind

def core (name plural : String) : Kind := ⟨"", "v1", name, plural⟩

def secret : Kind := core "Secret" "secrets"
def configMap : Kind := core "ConfigMap" "configmaps"
def node : Kind := core "Node" "nodes"
def pod : Kind := core "Pod" "pods"
def machine : Kind := ⟨"cluster.x-k8s.io", "v1beta1", "Machine", "machines"⟩
def bootstrapConfig : Kind :=
  ⟨"bootstrap.cluster.x-k8s.io", "v1beta1", "RKE2Config", "rke2configs"⟩
def controlPlane : Kind :=
  ⟨"controlplane.cluster.x-k8s.io", "v1beta1", "RKE2ControlPlane", "rke2controlplanes"⟩

def apiVersion (k : Kind) : String :=
  if k.group = "" then k.version else k.group ++ "/" ++ k.version

def path (k : Kind) (namespaceName : String) : String :=
  (if k.group = "" then "/api/" else "/apis/") ++ k.apiVersion ++ "/namespaces/" ++ namespaceName ++
    "/" ++ k.plural

end Kind
end Rollout
