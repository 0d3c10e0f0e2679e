/-!
Strict linear orders that can be decided. Characters are ranked by their code points; lists and
pairs from left to right; and texts as their characters are.
-/
namespace Rollout

/-- A strict linear order that can be decided. -/
class Ranked (κ : Type) where
  below : κ → κ → Bool
  not_below_self : ∀ k, below k k = false
  below_trans : ∀ {k l m}, below k l = true → below l m = true → below k m = true
  eq_of_not_below : ∀ {k l}, below k l = false → below l k = false → k = l

namespace Ranked
variable {κ ι : Type} [Ranked κ] [Ranked ι]

def cmp (k l : κ) : Ordering :=
  if below k l then .lt else if below l k then .gt else .eq

theorem cmp_self (k : κ) : cmp k k = .eq := by simp [cmp, not_below_self]

theorem eq_of_cmp_eq {k l : κ} (h : cmp k l = .eq) : k = l := by
  unfold cmp at h
  split at h
  · exact absurd h (by decide)
  · next hkl =>
    split at h
    · exact absurd h (by decide)
    · next hlk => exact eq_of_not_below (Bool.not_eq_true _ ▸ hkl) (Bool.not_eq_true _ ▸ hlk)

theorem ne_of_below {k l : κ} (h : below k l = true) : k ≠ l := fun e => by
  rw [e, not_below_self] at h; exact absurd h (by decide)

theorem not_below_of_below {k l : κ} (h : below k l = true) : below l k = false :=
  (Bool.eq_false_or_eq_true (below l k)).resolve_left fun e => ne_of_below (below_trans h e) rfl

theorem cmp_swap (k l : κ) : cmp k l = (cmp l k).swap := by
  unfold cmp
  cases hkl : below k l with
  | true => rw [not_below_of_below hkl]; rfl
  | false => cases below l k <;> rfl

theorem isLE_cmp_iff {k l : κ} : (cmp k l).isLE = true ↔ below l k = false := by
  rw [cmp_swap]
  unfold cmp
  cases below l k with
  | true => simp
  | false => cases below k l <;> simp

theorem not_below_trans {k l m : κ} (h : below l k = false) (h' : below m l = false) :
    below m k = false := by
  rw [← Bool.not_eq_true]
  intro hmk
  rcases Bool.eq_false_or_eq_true (below k l) with hkl | hkl
  · rw [below_trans hmk hkl] at h'
    exact absurd h' (by decide)
  · rw [eq_of_not_below hkl h, h'] at hmk
    exact absurd hmk (by decide)

instance : Std.TransCmp (cmp : κ → κ → Ordering) where
  eq_swap := cmp_swap _ _
  isLE_trans h h' := isLE_cmp_iff.2 (not_below_trans (isLE_cmp_iff.1 h) (isLE_cmp_iff.1 h'))

instance : Std.LawfulEqCmp (cmp : κ → κ → Ordering) where
  compare_self := cmp_self _
  eq_of_compare := eq_of_cmp_eq

@[reducible] def ofInjective {μ : Type} (f : μ → κ) (h : ∀ {a b}, f a = f b → a = b) :
    Ranked μ where
  below a b := below (f a) (f b)
  not_below_self a := not_below_self (f a)
  below_trans := below_trans
  eq_of_not_below k l := h (eq_of_not_below k l)

def belowPairs (p q : κ × ι) : Bool :=
  below p.1 q.1 || (!below q.1 p.1 && below p.2 q.2)

theorem belowPairs_eq_true {p q : κ × ι} :
    belowPairs p q = true ↔ below p.1 q.1 = true ∨ p.1 = q.1 ∧ below p.2 q.2 = true := by
  simp only [belowPairs, Bool.or_eq_true, Bool.and_eq_true, Bool.not_eq_true']
  constructor
  · rintro (h | ⟨h, k⟩)
    · exact .inl h
    · rcases Bool.eq_false_or_eq_true (below p.1 q.1) with e | e
      · exact .inl e
      · exact .inr ⟨eq_of_not_below e h, k⟩
  · rintro (h | ⟨h, k⟩)
    · exact .inl h
    · exact .inr ⟨h ▸ not_below_self p.1, k⟩

instance : Ranked (κ × ι) where
  below := belowPairs
  not_below_self p := by simp [belowPairs, not_below_self]
  below_trans {p q r} h h' := by
    rw [belowPairs_eq_true] at h h' ⊢
    rcases h with h | ⟨h, k⟩ <;> rcases h' with h' | ⟨h', k'⟩
    · exact .inl (below_trans h h')
    · exact .inl (h' ▸ h)
    · exact .inl (h ▸ h')
    · exact .inr ⟨h.trans h', below_trans k k'⟩
  eq_of_not_below {p q} h h' := by
    simp only [belowPairs, Bool.or_eq_false_iff] at h h'
    have e : p.1 = q.1 := eq_of_not_below h.1 h'.1
    have hs : below p.2 q.2 = false := by simpa [h'.1] using h.2
    have hs' : below q.2 p.2 = false := by simpa [h.1] using h'.2
    exact Prod.ext e (eq_of_not_below hs hs')

def belowLists : List κ → List κ → Bool
  | [], [] => false
  | [], _ :: _ => true
  | _ :: _, [] => false
  | x :: xs, y :: ys => below x y || (!below y x && belowLists xs ys)

theorem belowLists_cons {x y : κ} {xs ys : List κ} :
    belowLists (x :: xs) (y :: ys) = true ↔
      below x y = true ∨ x = y ∧ belowLists xs ys = true := by
  simp only [belowLists, Bool.or_eq_true, Bool.and_eq_true, Bool.not_eq_true']
  constructor
  · rintro (h | ⟨h, k⟩)
    · exact .inl h
    · rcases Bool.eq_false_or_eq_true (below x y) with e | e
      · exact .inl e
      · exact .inr ⟨eq_of_not_below e h, k⟩
  · rintro (h | ⟨h, k⟩)
    · exact .inl h
    · exact .inr ⟨h ▸ not_below_self x, k⟩

theorem not_belowLists_self (xs : List κ) : belowLists xs xs = false := by
  induction xs with
  | nil => rfl
  | cons x xs ih => simp [belowLists, not_below_self, ih]

theorem belowLists_trans {xs ys zs : List κ} (h : belowLists xs ys = true)
    (h' : belowLists ys zs = true) : belowLists xs zs = true := by
  induction xs generalizing ys zs with
  | nil => cases ys <;> cases zs <;> simp_all [belowLists]
  | cons x xs ih =>
    cases ys with
    | nil => simp [belowLists] at h
    | cons y ys =>
      cases zs with
      | nil => simp [belowLists] at h'
      | cons z zs =>
        rw [belowLists_cons] at h h' ⊢
        rcases h with h | ⟨h, k⟩ <;> rcases h' with h' | ⟨h', k'⟩
        · exact .inl (below_trans h h')
        · exact .inl (h' ▸ h)
        · exact .inl (h ▸ h')
        · exact .inr ⟨h.trans h', ih k k'⟩

theorem eq_of_not_belowLists {xs ys : List κ} (h : belowLists xs ys = false)
    (h' : belowLists ys xs = false) : xs = ys := by
  induction xs generalizing ys with
  | nil => cases ys <;> simp_all [belowLists]
  | cons x xs ih =>
    cases ys with
    | nil => simp [belowLists] at h'
    | cons y ys =>
      simp only [belowLists, Bool.or_eq_false_iff] at h h'
      have e : x = y := eq_of_not_below h.1 h'.1
      have hs : belowLists xs ys = false := by simpa [h'.1] using h.2
      have hs' : belowLists ys xs = false := by simpa [h.1] using h'.2
      rw [e, ih hs hs']

instance : Ranked (List κ) where
  below := belowLists
  not_below_self := not_belowLists_self
  below_trans := belowLists_trans
  eq_of_not_below := eq_of_not_belowLists

instance : Ranked Nat where
  below m n := decide (m < n)
  not_below_self n := by simp
  below_trans h h' := by simp only [decide_eq_true_eq] at h h' ⊢; omega
  eq_of_not_below h h' := by simp only [decide_eq_false_iff_not] at h h'; omega

instance : Ranked Char :=
  ofInjective Char.toNat fun h => Char.toNat_inj.1 h

instance : Ranked String :=
  ofInjective String.toList fun h => String.toList_inj.1 h

theorem cmp_cons (x y : κ) (xs ys : List κ) :
    cmp (x :: xs) (y :: ys) = (cmp x y).then (cmp xs ys) := by
  have hbelow (x y : κ) (xs ys : List κ) :
      below (x :: xs) (y :: ys) = (below x y || (!below y x && below xs ys)) := rfl
  simp only [cmp, hbelow]
  cases below x y <;> cases below y x <;> simp

theorem cmp_list (xs ys : List κ) : cmp xs ys = List.compareLex cmp xs ys := by
  induction xs generalizing ys with
  | nil => cases ys <;> rfl
  | cons x xs ih =>
    cases ys with
    | nil => rfl
    | cons y ys => rw [cmp_cons, List.compareLex_cons_cons, ih]

theorem cmp_nat (m n : Nat) : cmp m n = compare m n := by
  rcases Nat.lt_trichotomy m n with h | rfl | h
  · rw [Nat.compare_eq_lt.2 h]
    simp [cmp, below, h]
  · rw [cmp_self, Nat.compare_eq_eq.2 rfl]
  · rw [Nat.compare_eq_gt.2 h]
    simp [cmp, below, h, Nat.not_lt_of_lt h]

theorem cmp_string (s t : String) :
    cmp s t = List.compareLex (compareOn Char.toNat) s.toList t.toList := by
  have hchars : (cmp : Char → Char → Ordering) = compareOn Char.toNat := by
    funext c d
    exact cmp_nat c.toNat d.toNat
  rw [← hchars]
  exact cmp_list s.toList t.toList

end Ranked
end Rollout
