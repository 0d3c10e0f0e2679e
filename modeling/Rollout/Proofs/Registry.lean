import Mathlib.Data.List.Dedup
import Rollout.Proofs.Tables
import Rollout.Registry

/-!
Registries that are built step by step. A kind is known by the version and the name that it goes by;
what has been registered is what was there at first and what the steps are about, in whatever order
they come and however often.
-/
namespace Rollout

def Kind.id (k : Kind) : String × String := (k.apiVersion, k.name)

namespace Registry
variable {r : Registry} {ks : List Kind}

theorem mem_keys_register {k : Kind} {id : String × String} :
    id ∈ (r.register k).kinds.keys ↔ id = k.id ∨ id ∈ r.kinds.keys := by
  rw [← Table.contains_iff, ← Table.contains_iff, register, Table.contains_insert,
    Bool.or_eq_true, decide_eq_true_eq, eq_comm]
  rfl

theorem mem_keys_foldl_register {id : String × String} :
    id ∈ (ks.foldl register r).kinds.keys ↔ id ∈ r.kinds.keys ∨ id ∈ ks.map Kind.id := by
  induction ks generalizing r with
  | nil => simp
  | cons k ks ih =>
    rw [List.foldl_cons, ih, mem_keys_register, List.map_cons, List.mem_cons, or_assoc,
      or_left_comm]

theorem foldl_register_eq {r : Registry} {ks ks' : List Kind}
    (h : ∀ id, id ∈ ks.map Kind.id ↔ id ∈ ks'.map Kind.id) :
    ks.foldl register r = ks'.foldl register r := by
  have hkinds : (ks.foldl register r).kinds = (ks'.foldl register r).kinds := by
    apply Table.eq_of_mem_keys_iff
    intro id
    rw [mem_keys_foldl_register, mem_keys_foldl_register, h]
  exact congrArg Registry.mk hkinds

theorem contains_foldl_register {k : Kind} :
    (ks.foldl register r).contains k = true ↔
      r.contains k = true ∨ ∃ l ∈ ks, l.id = k.id := by
  have hcontains (r : Registry) : r.contains k = true ↔ k.id ∈ r.kinds.keys :=
    Table.contains_iff
  rw [hcontains, hcontains, mem_keys_foldl_register, List.mem_map]

theorem size_foldl_register :
    (ks.foldl register r).size = (r.kinds.keys ++ ks.map Kind.id).dedup.length := by
  have hsize : (ks.foldl register r).size = (ks.foldl register r).kinds.keys.length :=
    (List.length_map _).symm
  rw [hsize]
  apply List.Perm.length_eq
  rw [List.perm_ext_iff_of_nodup (Table.nodup_keys _) (List.nodup_dedup _)]
  intro id
  rw [mem_keys_foldl_register, List.mem_dedup, List.mem_append]

end Registry
end Rollout
