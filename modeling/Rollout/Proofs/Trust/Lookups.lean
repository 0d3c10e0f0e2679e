import Rollout.Connection
import Rollout.Proofs.Store.Reach
import Rollout.Proofs.Trust.Naming
import Rollout.Trust.EtcdAuthority

/-!
What the searches for authorities and kubeconfigs touch: of everything that the managing cluster and
its copy hold, the secret of one cluster for one purpose. What is kept there of other clusters, or
for other purposes, has no say in what is found.
-/
namespace Rollout

namespace EtcdAuthority
variable {Cert : Type} (r : Readers Cert) (key : ClusterKey)

theorem touchesOnly_cached : (cached r key).TouchesOnly (key.secretPlace purpose) := by
  unfold cached
  refine Plan.touchesOnly_ask (fun _ => Call.isAbout_get _) ?_
  rintro (f | _ | secret) <;> exact Plan.touchesOnly_done _

theorem touchesOnly_store (owner : OwnerReference) (pair : KeyPair) :
    (store r key owner pair).TouchesOnly (key.secretPlace purpose) := by
  unfold store
  split
  · exact Plan.touchesOnly_done _
  · refine Plan.touchesOnly_ask (fun _ => ?_) ?_
    · rw [← Store.newId_ofKeyPair key purpose pair owner]
      exact Call.isAbout_create _
    · rintro (f | secret) <;> exact Plan.touchesOnly_done _

theorem touchesOnly_create (owner : ControlPlane) :
    (create r key owner).TouchesOnly (key.secretPlace purpose) := by
  unfold create
  split
  · exact Plan.touchesOnly_done _
  · refine Plan.touchesOnly_generate ?_
    rintro (e | pair)
    · exact Plan.touchesOnly_done _
    · exact touchesOnly_store r key _ pair

theorem touchesOnly_managedOrCreate (owner : ControlPlane) :
    (managedOrCreate r key owner).TouchesOnly (key.secretPlace purpose) := by
  unfold managedOrCreate
  refine Plan.touchesOnly_ask (fun _ => Call.isAbout_get _) ?_
  rintro (f | _ | secret)
  · exact Plan.touchesOnly_done _
  · exact touchesOnly_create r key owner
  · exact Plan.touchesOnly_done _

theorem touchesOnly_lookUpOrCreate (owner : ControlPlane) :
    (lookUpOrCreate r key owner).TouchesOnly (key.secretPlace purpose) := by
  unfold lookUpOrCreate
  -- the first read is one of the workload cluster, whose secrets are all its own
  refine Plan.touchesOnly_ask (fun hplace => absurd rfl hplace) ?_
  rintro (f | _ | secret)
  · exact Plan.touchesOnly_done _
  · exact touchesOnly_managedOrCreate r key owner
  · exact Plan.touchesOnly_done _

end EtcdAuthority

theorem Endpoint.touchesOnly_resolve (key : ClusterKey) (timeout : Nat) :
    (resolve key timeout).TouchesOnly (key.secretPlace .kubeconfig) := by
  unfold resolve
  refine Plan.touchesOnly_ask (fun _ => Call.isAbout_get _) ?_
  rintro (f | secret) <;> exact Plan.touchesOnly_done _

def Plan.Ignores {α : Type} (t : Plan Place α) (key : ClusterKey) (purpose : Purpose) : Prop :=
  ∀ (make : Nat → String → Except KeyPairError KeyPair) (s : Servers) (place : Place)
    (secret : Secret), place ≠ .workload →
    (t.run (Servers.surroundings make)
      (s.putAt place (key.secretPlace purpose) ⟨.secret, secret⟩)).1 =
      (t.run (Servers.surroundings make) s).1

theorem Plan.TouchesOnly.ignores {α : Type} {t : Plan Place α} {key key' : ClusterKey}
    {purpose purpose' : Purpose} (h : t.TouchesOnly (key.secretPlace purpose))
    (hother : ¬ (key' = key ∧ purpose' = purpose)) : t.Ignores key' purpose' := by
  intro make s place secret hplace
  exact h.run_putAt make s hplace (fun heq => hother (ClusterKey.secretPlace_eq_iff.1 heq)) _

/-- The secrets of clusters are kept apart by their names, whatever the clusters are called: two of
them are in one place only if they belong to one cluster and serve one purpose, a new one goes to
its own place, and each search, whoever answers it, touches the one secret that it is for and
ignores all others. -/
theorem ClusterKey.secrets_kept_apart {Cert : Type} (r : Readers Cert) (k k' : ClusterKey)
    (p p' : Purpose) :
    (k.namespaceName = k'.namespaceName ∧ k.secretName p.suffix = k'.secretName p'.suffix ↔
      k = k' ∧ p = p') ∧
    (∀ pair pair' owner owner',
      (Secret.ofKeyPair k p pair owner).metadata.namespaceName = some k.namespaceName ∧
      Store.newId .secret k.namespaceName (Secret.ofKeyPair k p pair owner) = k.secretPlace p ∧
      ((Secret.ofKeyPair k p pair owner).metadata.namespaceName =
            (Secret.ofKeyPair k' p' pair' owner').metadata.namespaceName ∧
          (Secret.ofKeyPair k p pair owner).metadata.name =
            (Secret.ofKeyPair k' p' pair' owner').metadata.name ↔
        k = k' ∧ p = p')) ∧
    (EtcdAuthority.cached r k).TouchesOnly (k.secretPlace .etcdAuthority) ∧
    (∀ owner, (EtcdAuthority.lookUpOrCreate r k owner).TouchesOnly
      (k.secretPlace .etcdAuthority)) ∧
    (∀ timeout, (Endpoint.resolve k timeout).TouchesOnly (k.secretPlace .kubeconfig)) ∧
    (¬ (k' = k ∧ p' = .etcdAuthority) →
      (EtcdAuthority.cached r k).Ignores k' p' ∧
      ∀ owner, (EtcdAuthority.lookUpOrCreate r k owner).Ignores k' p') ∧
    (¬ (k' = k ∧ p' = .kubeconfig) →
      ∀ timeout, (Endpoint.resolve k timeout).Ignores k' p') := by
  have hplace : k.namespaceName = k'.namespaceName ∧
      k.secretName p.suffix = k'.secretName p'.suffix ↔ k = k' ∧ p = p' := by
    rw [← secretPlace_eq_iff]
    constructor
    · rintro ⟨hnamespace, hname⟩
      exact congrArg₂ (Store.idOf .secret) hnamespace hname
    · intro h
      obtain ⟨hnamespace, hname⟩ := Prod.mk.inj (Prod.mk.inj h).2
      exact ⟨hnamespace, hname⟩
  refine ⟨hplace, ?_, EtcdAuthority.touchesOnly_cached r k,
    EtcdAuthority.touchesOnly_lookUpOrCreate r k, Endpoint.touchesOnly_resolve k, ?_, ?_⟩
  · intro pair pair' owner owner'
    refine ⟨rfl, Store.newId_ofKeyPair k p pair owner, ?_⟩
    rw [← hplace]
    exact and_congr Option.some_inj Option.some_inj
  · intro hother
    exact ⟨(EtcdAuthority.touchesOnly_cached r k).ignores hother,
      fun owner => (EtcdAuthority.touchesOnly_lookUpOrCreate r k owner).ignores hother⟩
  · intro hother timeout
    exact (Endpoint.touchesOnly_resolve k timeout).ignores hother

theorem ClusterKey.secrets_kept_apart_of_alike :
    let short : ClusterKey := ⟨"team", "prod"⟩
    let long : ClusterKey := ⟨"team", "prod-etcd"⟩
    long.name = short.secretFor .etcdAuthority ∧
      short.secretName Purpose.etcdAuthority.suffix ≠
        long.secretName Purpose.kubeconfig.suffix ∧
      (EtcdAuthority.cached .standard short).Ignores long .kubeconfig ∧
      (∀ owner, (EtcdAuthority.lookUpOrCreate .standard short owner).Ignores long .kubeconfig) ∧
      (Endpoint.resolve long 5000).Ignores short .etcdAuthority := by
  intro short long
  have hother : ¬ (long = short ∧ Purpose.kubeconfig = .etcdAuthority) := by decide
  have hother' : ¬ (short = long ∧ Purpose.etcdAuthority = .kubeconfig) := by decide
  obtain ⟨hname, -, -, -, -, hauthority, -⟩ :=
    secrets_kept_apart .standard short long .etcdAuthority .kubeconfig
  obtain ⟨-, -, -, -, -, -, hkubeconfig⟩ :=
    secrets_kept_apart .standard long short .kubeconfig .etcdAuthority
  refine ⟨by decide, ?_, (hauthority hother).1, (hauthority hother).2, hkubeconfig hother' 5000⟩
  intro heq
  exact nomatch (hname.1 ⟨rfl, heq⟩).2

end Rollout
