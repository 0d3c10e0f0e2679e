import Rollout.Proofs.Store.Growth
import Rollout.Proofs.Text.Cutting
import Rollout.Trust.Material

/-!
Where the secrets of clusters stand. A name ends in a dash and a suffix without one, so at its last
dash it comes apart into the cluster and the purpose, whatever the cluster is called.
-/
namespace Rollout
open Text

namespace Purpose

theorem dash_not_mem_suffix (p : Purpose) : '-' ∉ p.suffix.toList := by
  cases p <;> decide +kernel

end Purpose

namespace ClusterKey
variable {k k' : ClusterKey} {p p' : Purpose}

theorem secretName_suffix_eq_iff :
    k.secretName p.suffix = k'.secretName p'.suffix ↔ k.name = k'.name ∧ p = p' := by
  constructor
  · intro h
    unfold secretName at h
    have hdash : "-".toList = ['-'] := rfl
    have hlist :
        k.name.toList ++ '-' :: p.suffix.toList = k'.name.toList ++ '-' :: p'.suffix.toList := by
      simpa only [String.toList_append, hdash, List.append_assoc, List.singleton_append]
        using congrArg String.toList h
    obtain ⟨hname, hsuffix⟩ :=
      eq_of_cut_at_last p.dash_not_mem_suffix p'.dash_not_mem_suffix hlist
    exact ⟨String.toList_injective hname,
      Purpose.suffix_injective (String.toList_injective hsuffix)⟩
  · rintro ⟨hname, rfl⟩
    unfold secretName
    rw [hname]

def secretPlace (k : ClusterKey) (p : Purpose) : ObjectId :=
  Store.idOf .secret k.namespaceName (k.secretFor p)

theorem secretPlace_eq_iff : k.secretPlace p = k'.secretPlace p' ↔ k = k' ∧ p = p' := by
  constructor
  · intro h
    unfold secretPlace Store.idOf at h
    obtain ⟨hnamespace, hname⟩ := Prod.mk.inj (Prod.mk.inj h).2
    obtain ⟨hname, hpurpose⟩ := secretName_suffix_eq_iff.1 hname
    cases k
    cases k'
    cases hnamespace
    cases hname
    exact ⟨rfl, hpurpose⟩
  · rintro ⟨rfl, rfl⟩
    rfl

end ClusterKey

theorem Store.newId_ofKeyPair (k : ClusterKey) (p : Purpose) (pair : KeyPair)
    (owner : OwnerReference) :
    newId .secret k.namespaceName (Secret.ofKeyPair k p pair owner) = k.secretPlace p :=
  rfl

end Rollout
