import Rollout.Net.Client
import Rollout.Net.Kubeconfig
import Rollout.Store.Place
import Rollout.Trust.Material

/-!
Connections to workload clusters. The kubeconfig of a cluster is kept in a secret of the managing
cluster; what it leads to gets the timeout of the settings before a client is built. Every call of a
connection has to be answered in that time. A kubeconfig that cannot be had is an internal failure,
a client that cannot be built a failure of the connection. How kubeconfigs are read and what keeps a
client from being built are parameters, set to what is used where nothing else is said.
-/
namespace Rollout
open Text

def kubeconfigEntry : String := "value"

namespace Endpoint

def unresolved {α : Type} (message : String) : Except Failure α :=
  .error (.internal "resolver" message)

def ofSecret? (key : ClusterKey) (timeout : Nat) (secret : Option Secret)
    (r : KubeconfigReaders := .standard) : Except Failure Endpoint :=
  let id := secretId key.namespaceName (key.secretFor .kubeconfig)
  match secret with
  | none => unresolved ("kubeconfig secret " ++ id ++ " not found")
  | some secret =>
    match secret.entry? kubeconfigEntry with
    | none =>
      unresolved ("kubeconfig secret " ++ id ++ " has no " ++ quoted kubeconfigEntry ++ " key")
    | some bytes =>
      match decodeUtf8 bytes with
      | .error fault =>
        unresolved ("kubeconfig for " ++ key.shown ++ " is not UTF-8: " ++ fault.message)
      | .ok text => ofYaml text timeout r

def resolve (key : ClusterKey) (timeout : Nat) (r : KubeconfigReaders := .standard) :
    Plan Place (Except Failure Endpoint) :=
  .ask .management (.get .secret key.namespaceName (key.secretFor .kubeconfig)) fun
    | .ok secret => .done (ofSecret? key timeout secret r)
    | .error f => .done (.error f)

def proxyFault? (e : Endpoint) : Option ClientFault :=
  e.proxy.map fun proxy =>
    let url := toString proxy
    if proxy.scheme = some "socks5".toList then .disabledProxy url "kube/socks5"
    else if proxy.scheme = some "http".toList then .disabledProxy url "kube/http-proxy"
    else .unknownProxy url

def credentialsFault? (e : Endpoint) : Option ClientFault :=
  let user := e.user
  -- a password or a token in place come before a token in a file
  if (user.username.isSome && user.password.isSome) || user.token.isSome then none
  else user.tokenFile.map fun path =>
    .badCredentials ("failed to read token file '" ++ quoted path ++
      "': No such file or directory (os error 2)")

def trustFault? (e : Endpoint) : Option ClientFault :=
  if (e.rootCertificates.getD []).all fun bytes => (Certificate.parse bytes).toOption.isSome then
    none
  else
    some
      (.badTrustAnchors "failed to add a root certificate: invalid peer certificate: BadEncoding")

def fault? (e : Endpoint) : Option ClientFault :=
  e.proxyFault?.or (e.credentialsFault?.or e.trustFault?)

end Endpoint

structure Connection where
  key : ClusterKey
  endpoint : Endpoint
  client : Client
  /-- How many milliseconds an answer may take. -/
  timeout : Nat

namespace Connection

def ofEndpoint (settings : Settings) (key : ClusterKey) (endpoint : Endpoint)
    (fault? : Endpoint → Option ClientFault := Endpoint.fault?) : Except Failure Connection :=
  let endpoint := endpoint.withTimeout settings.workloadTimeout
  match fault? endpoint with
  | some fault => .error (.connection key.shown fault)
  | none => .ok {
      key, endpoint
      client := { registry := .workload, cluster := key.shown, author := settings.fieldManager }
      timeout := settings.workloadTimeout }

def establish {Place : Type} (settings : Settings) (key : ClusterKey)
    (resolve : Plan Place (Except Failure Endpoint))
    (fault? : Endpoint → Option ClientFault := Endpoint.fault?) :
    Plan Place (Except Failure Connection) :=
  resolve.andThen fun found =>
    .done (found.bind fun endpoint => ofEndpoint settings key endpoint fault?)

def service {σ : Type} (c : Connection) (peer : Peer σ) : Service σ :=
  (c.client.service peer).within c.key.shown c.timeout

end Connection
end Rollout
