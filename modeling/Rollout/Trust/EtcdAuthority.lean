import Rollout.Store.Call
import Rollout.Store.Place
import Rollout.Trust.Material

/-!
The authority of the etcd members of a cluster, kept in a secret. `cached` never makes one.
`lookUpOrCreate` looks in the workload cluster, then in the managing cluster, and makes an authority
only when there is none at either place; it is stored in the managing cluster for the control plane
that owns it. Whoever creates the secret second fails, and nothing is tried twice.
-/
namespace Rollout.EtcdAuthority
variable {Cert : Type} (r : Readers Cert)

def purpose : Purpose := .etcdAuthority

def failure (key : ClusterKey) (message : String) : Failure :=
  .trustMaterial key.shown (secretId key.namespaceName (key.secretFor purpose))
    purpose.description message

def cached (key : ClusterKey) : Plan Place (Except Failure KeyPair) :=
  .ask .secretCache (.get .secret key.namespaceName (key.secretFor purpose)) fun
    | .ok (some secret) => .done (Secret.keyPair r key purpose secret)
    | .ok none => .done (.error (failure key "not found"))
    | .error f => .done (.error (failure key f.message))

def store (key : ClusterKey) (owner : OwnerReference) (pair : KeyPair) :
    Plan Place (Except Failure KeyPair) :=
  match pair.certificate r with
  | .error e => .done (.error (failure key ("generated certificate is unreadable: " ++ e.message)))
  | .ok _ =>
    .ask .management
      (.create .secret key.namespaceName (Secret.ofKeyPair key purpose pair owner)) fun
      | .ok _ => .done (.ok pair)
      | .error f => .done (.error f)

def create (key : ClusterKey) (owner : ControlPlane) : Plan Place (Except Failure KeyPair) :=
  match ObjectKind.controlPlane.controllerReference owner with
  | .error f => .done (.error f)
  | .ok reference =>
    .generate purpose.commonName fun
      | .ok pair => store r key reference pair
      | .error e => .done (.error (failure key ("failed to generate: " ++ e.message)))

def managedOrCreate (key : ClusterKey) (owner : ControlPlane) :
    Plan Place (Except Failure KeyPair) :=
  .ask .management (.get .secret key.namespaceName (key.secretFor purpose)) fun
    | .ok (some secret) => .done (Secret.keyPair r key purpose secret)
    | .ok none => create r key owner
    | .error f => .done (.error f)

def lookUpOrCreate (key : ClusterKey) (owner : ControlPlane) :
    Plan Place (Except Failure KeyPair) :=
  .ask .workload (.get .secret workloadNamespace (key.secretFor purpose)) fun
    -- the first secret that is found decides, even if it is corrupted
    | .ok (some secret) => .done (Secret.keyPair r key purpose secret)
    | .ok none => managedOrCreate r key owner
    | .error f => .done (.error f)

end Rollout.EtcdAuthority
