import Mathlib.Data.List.Perm.Basic
import Mathlib.Data.List.Sort
import Rollout.Table

/-! A table does not depend on the order in which its entries were put in, as long as no two of them
have the same key. -/
namespace Rollout.Table
open Ranked

variable {κ α : Type} [Ranked κ]

theorem mem_of_mem_insertEntry {key : κ} {value : α} {es : List (κ × α)} {e : κ × α}
    (h : e ∈ insertEntry key value es) : e = (key, value) ∨ e ∈ es := by
  induction es with
  | nil => exact .inl (List.mem_singleton.1 h)
  | cons x xs ih =>
    simp only [insertEntry] at h
    split at h
    · exact List.mem_cons.1 h
    split at h
    · rcases List.mem_cons.1 h with rfl | h
      · exact .inr (List.mem_cons_self ..)
      · exact (ih h).imp_right (List.mem_cons_of_mem _)
    · exact (List.mem_cons.1 h).imp_right (List.mem_cons_of_mem _)

theorem insertEntry_perm {key : κ} {value : α} {es : List (κ × α)}
    (h : key ∉ es.map (·.1)) : (insertEntry key value es).Perm ((key, value) :: es) := by
  induction es with
  | nil => exact .rfl
  | cons e es ih =>
    rw [List.map_cons, List.mem_cons, not_or] at h
    simp only [insertEntry]
    split
    · exact .rfl
    next hnot =>
    split
    · exact ((ih h.2).cons e).trans (.swap ..)
    next hnot' =>
    exact absurd (eq_of_not_below (Bool.not_eq_true _ ▸ hnot) (Bool.not_eq_true _ ▸ hnot')) h.1

theorem eq_of_perm {d e : Table κ α} (h : d.entries.Perm e.entries) : d = e := by
  refine ext (List.Perm.eq_of_pairwise ?_ d.sorted e.sorted h)
  intro a b _ _ hab hba
  exact absurd (hba.symm.trans (not_below_of_below hab)) (by decide)

theorem entries_foldl_perm {es : List (κ × α)} {d : Table κ α}
    (h : (d.entries.map (·.1) ++ es.map (·.1)).Nodup) :
    (es.foldl (fun d e => d.insert e.1 e.2) d).entries.Perm (d.entries ++ es) := by
  induction es generalizing d with
  | nil => rw [List.append_nil]; exact .rfl
  | cons e es ih =>
    have hperm : (d.insert e.1 e.2).entries.Perm (e :: d.entries) := by
      apply insertEntry_perm
      intro hmem
      exact (List.nodup_append.1 h).2.2 e.1 hmem e.1 (List.mem_cons_self ..) rfl
    have hnodup : ((d.insert e.1 e.2).entries.map (·.1) ++ es.map (·.1)).Nodup := by
      refine (List.Perm.nodup_iff ?_).1 h
      exact List.perm_middle.trans ((hperm.map _).symm.append_right _)
    exact (ih hnodup).trans ((hperm.append_right es).trans List.perm_middle.symm)

theorem ofList_eq_of_perm {es fs : List (κ × α)} (h : es.Perm fs)
    (hnodup : (es.map (·.1)).Nodup) : ofList es = ofList fs := by
  -- of entries with different keys none gives way to another
  have hes : (ofList es).entries.Perm es := entries_foldl_perm hnodup
  have hfs : (ofList fs).entries.Perm fs := entries_foldl_perm ((h.map _).nodup_iff.1 hnodup)
  exact eq_of_perm (hes.trans (h.trans hfs.symm))

theorem nodup_keys (d : Table κ α) : d.keys.Nodup := by
  refine (d.sorted.imp ?_).map _ fun _ _ h => h
  intro a b hab
  exact ne_of_below hab

theorem contains_iff [DecidableEq κ] {d : Table κ α} {key : κ} :
    d.contains key = true ↔ key ∈ d.keys := by
  simp [contains, get?, keys]

theorem eq_of_mem_keys_iff {d e : Table κ Unit} (h : ∀ key, key ∈ d.keys ↔ key ∈ e.keys) :
    d = e := by
  apply eq_of_perm
  have hkeys : d.keys.Perm e.keys := (List.perm_ext_iff_of_nodup d.nodup_keys e.nodup_keys).2 h
  have hentries (t : Table κ Unit) : t.keys.map (·, ()) = t.entries := by
    unfold keys
    rw [List.map_map]
    exact List.map_id _
  rw [← hentries d, ← hentries e]
  exact hkeys.map _

end Rollout.Table
