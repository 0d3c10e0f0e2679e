import Rollout.ClusterKey
import Rollout.Labels
import Rollout.Model.Object
import Rollout.Trust.KeyPair

/-! Key pairs in secrets: how a secret is made for one, and how it is read back. -/
namespace Rollout
open Text

def certificateEntry : String := "tls.crt"

def privateKeyEntry : String := "tls.key"

def clusterSecretType : String := "cluster.x-k8s.io/secret"

def secretId (namespaceName name : String) : String := namespaceName ++ "/" ++ name

namespace Secret

def entry? (s : Secret) (key : String) : Option (List UInt8) :=
  s.data.bind (·.get? key)

variable {Cert : Type} (r : Readers Cert)

def keyPair (cluster : ClusterKey) (purpose : Purpose) (s : Secret) : Except Failure KeyPair :=
  let fail {α : Type} (message : String) : Except Failure α :=
    .error (.trustMaterial cluster.shown
      (secretId s.metadata.namespaceOrEmpty s.metadata.nameOrEmpty) purpose.description message)
  let missing {α : Type} (key : String) : Except Failure α :=
    fail ("secret has no " ++ quoted key ++ " key")
  match s.entry? certificateEntry, s.entry? privateKeyEntry with
  -- the certificate is looked for first
  | none, _ => missing certificateEntry
  | some _, none => missing privateKeyEntry
  | some cert, some key =>
    match KeyPair.ofBytes r cert key with
    | .ok pair => .ok pair
    | .error e => fail ("corrupted key pair: " ++ e.message)

def ofKeyPair (cluster : ClusterKey) (purpose : Purpose) (pair : KeyPair) (owner : OwnerReference) :
    Secret where
  metadata := {
    name := some (cluster.secretFor purpose)
    namespaceName := some cluster.namespaceName
    labels := some (clusterLabels cluster.name)
    ownerReferences := some [owner] }
  type := some clusterSecretType
  data :=
    some (((∅ : Dict (List UInt8)).insert certificateEntry pair.cert).insert
      privateKeyEntry pair.key)

end Secret
end Rollout
