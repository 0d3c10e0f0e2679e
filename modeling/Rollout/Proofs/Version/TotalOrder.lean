import Rollout.Proofs.Version.Precedence

/-!
The laws of the two orders of versions. Each comparison is one of the standard library's, or several
of them one after the other, and the laws pass from the parts to the whole. Main statement: the full
order is linear and refines precedence, and so a list of versions has one ascending arrangement.
-/
namespace Rollout
open Std

namespace Identifier

instance : TransCmp cmp where
  eq_swap := by
    intro i j
    cases i <;> cases j
    case number.number => exact OrientedOrd.eq_swap
    case number.word => rfl
    case word.number => rfl
    case word.word => exact Ranked.cmp_swap _ _
  isLE_trans := by
    intro i j k hij hjk
    -- a number below a word stays below it, and no word is below a number
    cases i <;> cases j <;> cases k
    case number.number.number => exact TransOrd.isLE_trans hij hjk
    case word.word.word r s t =>
      have hrs : (Ranked.cmp r s).isLE = true := hij
      have hst : (Ranked.cmp s t).isLE = true := hjk
      have hrt : (Ranked.cmp r t).isLE = true := TransCmp.isLE_trans hrs hst
      exact hrt
    all_goals first | rfl | contradiction

instance : LawfulEqCmp cmp where
  compare_self := cmp_eq_iff.2 rfl
  eq_of_compare := cmp_eq_iff.1

theorem cmpAll_eq : cmpAll = List.compareLex cmp := by
  funext is js
  induction is generalizing js with
  | nil => cases js <;> rfl
  | cons i is ih =>
    cases js with
    | nil => rfl
    | cons j js => rw [cmpAll, List.compareLex_cons_cons, ih]

instance : TransCmp cmpAll := cmpAll_eq ▸ inferInstance

end Identifier

namespace Version

theorem cmpPre_eq : cmpPre = compareLex (compareOn List.isEmpty) Identifier.cmpAll := by
  funext is js
  cases is <;> cases js <;> rfl

instance : TransCmp cmpPre := cmpPre_eq ▸ inferInstance

instance : TransCmp fun v w : Version => cmpPre v.pre w.pre where
  eq_swap {v w} := OrientedCmp.eq_swap (a := v.pre) (b := w.pre)
  isLE_trans {u v w} := TransCmp.isLE_trans (a := u.pre) (b := v.pre) (c := w.pre)

instance : TransCmp fun v w : Version => Identifier.cmpAll v.build w.build where
  eq_swap {v w} := OrientedCmp.eq_swap (a := v.build) (b := w.build)
  isLE_trans {u v w} := TransCmp.isLE_trans (a := u.build) (b := v.build) (c := w.build)

theorem precedence_eq_compareLex :
    precedence = compareLex (compareOn major)
      (compareLex (compareOn minor) (compareLex (compareOn patch)
        fun v w => cmpPre v.pre w.pre)) := rfl

instance : TransCmp precedence := precedence_eq_compareLex ▸ inferInstance

theorem cmp_eq_compareLex :
    cmp = compareLex precedence fun v w => Identifier.cmpAll v.build w.build := rfl

instance : TransCmp cmp := cmp_eq_compareLex ▸ inferInstance

instance : LawfulEqCmp cmp where
  compare_self := by
    intro v
    rw [cmp, precedence_self, Identifier.cmpAll_eq_iff.2 rfl]
    rfl
  eq_of_compare := by
    intro v w h
    obtain ⟨hprecedence, hbuild⟩ := Ordering.then_eq_eq.1 h
    obtain ⟨hmajor, hminor, hpatch, hpre⟩ := precedence_eq_iff.1 hprecedence
    cases v
    cases w
    simp_all [Identifier.cmpAll_eq_iff]

theorem cmp_eq_precedence {v w : Version} (h : v.precedence w ≠ .eq) : v.cmp w = v.precedence w :=
  Ordering.then.eq_2 _ _ h

theorem sort_perm (vs : List Version) : (sort vs).Perm vs := List.mergeSort_perm vs _

theorem pairwise_sort (vs : List Version) :
    (sort vs).Pairwise fun v w => (v.cmp w).isLE = true := by
  have hle (v w : Version) : (v.cmp w != .gt) = (v.cmp w).isLE := by cases v.cmp w <;> rfl
  unfold sort
  simp only [hle]
  apply List.pairwise_mergeSort
  · intro u v w huv hvw
    exact TransCmp.isLE_trans huv hvw
  · intro v w
    have hswap : w.cmp v = (v.cmp w).swap := OrientedCmp.eq_swap
    rw [hswap]
    cases v.cmp w <;> rfl

/-- No two versions can change places in an ascending list. -/
theorem sort_eq_of_perm {vs ws : List Version} (h : vs.Perm ws) : sort vs = sort ws := by
  have hperm : (sort vs).Perm (sort ws) := (sort_perm vs).trans (h.trans (sort_perm ws).symm)
  refine List.Perm.eq_of_pairwise ?_ (pairwise_sort vs) (pairwise_sort ws) hperm
  intro v w _ _ hvw hwv
  exact LawfulEqCmp.eq_of_compare (OrientedCmp.isLE_antisymm hvw hwv)

/-- The full order is linear. Precedence is total and transitive, versions of the same precedence
are those that agree in all but their build data, and they stand alike to all others; where
precedence decides, the full order decides as it does. So a list of versions has one ascending
arrangement, whatever order it is given in. -/
theorem cmp_linear_refines_precedence (a b c : Version) :
    (cmp a b = (cmp b a).swap ∧ (cmp a b = .eq ↔ a = b) ∧
      ((cmp a b).isLE = true → (cmp b c).isLE = true → (cmp a c).isLE = true)) ∧
    (precedence a b = (precedence b a).swap ∧
      (precedence a b = .eq ↔ a.major = b.major ∧ a.minor = b.minor ∧ a.patch = b.patch ∧
        a.pre = b.pre) ∧
      ((precedence a b).isLE = true → (precedence b c).isLE = true →
        (precedence a c).isLE = true) ∧
      (precedence a b = .eq → precedence a c = precedence b c)) ∧
    (precedence a b ≠ .eq → cmp a b = precedence a b) ∧
    ∀ vs : List Version, (sort vs).Perm vs ∧
      (sort vs).Pairwise (fun v w => (cmp v w).isLE = true) ∧
      ∀ ws, vs.Perm ws → sort vs = sort ws := by
  refine ⟨⟨OrientedCmp.eq_swap, LawfulEqCmp.compare_eq_iff_eq, TransCmp.isLE_trans⟩, ?_,
    cmp_eq_precedence, ?_⟩
  · exact ⟨OrientedCmp.eq_swap, precedence_eq_iff, TransCmp.isLE_trans, TransCmp.congr_left⟩
  · intro vs
    exact ⟨sort_perm vs, pairwise_sort vs, fun ws => sort_eq_of_perm⟩

theorem cmp_linear_refines_precedence_builds :
    let candidate : Version := ⟨1, 28, 0, [.word "rc", .number 1], []⟩
    let plain : Version := ⟨1, 28, 0, [], []⟩
    let built : Version := ⟨1, 28, 0, [], [.word "rke2r1"]⟩
    cmp candidate built = .lt ∧ precedence plain candidate = precedence built candidate ∧
      (cmp candidate built).isLE = true ∧ (precedence candidate built).isLE = true ∧
      sort [built, candidate, plain] = sort [candidate, plain, built] :=
  let candidate : Version := ⟨1, 28, 0, [.word "rc", .number 1], []⟩
  let plain : Version := ⟨1, 28, 0, [], []⟩
  let built : Version := ⟨1, 28, 0, [], [.word "rke2r1"]⟩
  have h := cmp_linear_refines_precedence candidate plain built
  have hplain := cmp_linear_refines_precedence plain built candidate
  have hbuilt := cmp_linear_refines_precedence candidate built plain
  ⟨hbuilt.2.2.1 (by decide), hplain.2.1.2.2.2 (by decide), h.1.2.2 (by decide) (by decide),
    h.2.1.2.2.1 (by decide) (by decide),
    (h.2.2.2 [built, candidate, plain]).2.2 _
      ((List.Perm.swap ..).trans (.cons _ (List.Perm.swap ..)))⟩

end Version
end Rollout
