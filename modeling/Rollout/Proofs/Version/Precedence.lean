import Rollout.Version.Order

/-! When two versions have the same precedence: they agree in all but their build data. -/
namespace Rollout

theorem Identifier.cmp_eq_iff {i j : Identifier} : i.cmp j = .eq ↔ i = j := by
  cases i <;> cases j <;> simp only [Identifier.cmp, reduceCtorEq, number.injEq, word.injEq]
  · exact Nat.compare_eq_eq
  · constructor
    · exact Ranked.eq_of_cmp_eq
    · intro h
      rw [h, Ranked.cmp_self]

theorem Identifier.cmpAll_eq_iff {is js : List Identifier} : cmpAll is js = .eq ↔ is = js := by
  induction is generalizing js with
  | nil => cases js <;> simp [cmpAll]
  | cons i is ih =>
    cases js with
    | nil => simp [cmpAll]
    | cons j js => rw [cmpAll, Ordering.then_eq_eq, cmp_eq_iff, ih, List.cons.injEq]

namespace Version

theorem cmpPre_eq_iff {is js : List Identifier} : cmpPre is js = .eq ↔ is = js := by
  cases is <;> cases js <;> simp [cmpPre, Identifier.cmpAll_eq_iff]

theorem precedence_eq_iff {v w : Version} :
    v.precedence w = .eq ↔ v.major = w.major ∧ v.minor = w.minor ∧ v.patch = w.patch ∧
      v.pre = w.pre := by
  simp only [precedence, Ordering.then_eq_eq, Nat.compare_eq_eq, cmpPre_eq_iff]

theorem precedence_self (v : Version) : v.precedence v = .eq :=
  precedence_eq_iff.2 ⟨rfl, rfl, rfl, rfl⟩

end Version
end Rollout
