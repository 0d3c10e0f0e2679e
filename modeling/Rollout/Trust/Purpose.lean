/-! What key pairs of a cluster are for, and how that shows in names. -/
namespace Rollout

inductive Purpose
  | etcdAuthority
  | clusterAuthority
  | serviceAccount
  | frontProxyAuthority
  | kubeconfig
  deriving DecidableEq, Repr

namespace Purpose

def suffix : Purpose → String
  | etcdAuthority => "etcd"
  | clusterAuthority => "ca"
  | serviceAccount => "sa"
  | frontProxyAuthority => "proxy"
  | kubeconfig => "kubeconfig"

def description : Purpose → String
  | etcdAuthority => "etcd CA bundle"
  | clusterAuthority => "cluster CA bundle"
  | serviceAccount => "service account key pair"
  | frontProxyAuthority => "front proxy CA bundle"
  | kubeconfig => "kubeconfig"

def commonName : Purpose → String
  | etcdAuthority => "etcd-ca"
  | clusterAuthority => "kubernetes"
  | serviceAccount => "service-account"
  | frontProxyAuthority => "front-proxy-ca"
  | kubeconfig => "kubernetes-admin"

instance : ToString Purpose := ⟨description⟩

theorem suffix_injective {p q : Purpose} (h : p.suffix = q.suffix) : p = q := by
  cases p <;> cases q <;> first | rfl | exact absurd h (by decide)

end Purpose
end Rollout
