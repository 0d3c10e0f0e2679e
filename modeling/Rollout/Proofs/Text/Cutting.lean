import Mathlib.Data.List.TakeWhile
import Rollout.Text.Blank
import Rollout.Text.Cut
import Rollout.Text.Decimal

/-! Cutting a text that was put together from parts, and what is left of it when it is trimmed. -/
namespace Rollout.Text

theorem cutAt?_append {c : Char} {a : List Char} (h : c ∉ a) (b : List Char) :
    cutAt? c (a ++ c :: b) = some (a, b) := by
  induction a with
  | nil => simp [cutAt?]
  | cons x xs ih =>
    rw [List.mem_cons, not_or] at h
    simp [cutAt?, Ne.symm h.1, ih h.2]

theorem eq_of_cut_at_last {c : Char} {a a' b b' : List Char} (hb : c ∉ b) (hb' : c ∉ b')
    (h : a ++ c :: b = a' ++ c :: b') : a = a' ∧ b = b' := by
  have hcut {a b : List Char} (hb : c ∉ b) :
      cutAt? c (a ++ c :: b).reverse = some (b.reverse, a.reverse) := by
    have hreverse : (a ++ c :: b).reverse = b.reverse ++ c :: a.reverse := by simp
    rw [hreverse, cutAt?_append (fun hc => hb (List.mem_reverse.1 hc))]
  have hsame := hcut (a := a) hb
  rw [h, hcut hb'] at hsame
  obtain ⟨hback, hfront⟩ := Prod.mk.inj (Option.some.inj hsame)
  exact ⟨(List.reverse_inj.1 hfront).symm, (List.reverse_inj.1 hback).symm⟩

theorem pieces_of_not_mem {c : Char} {s : List Char} (h : c ∉ s) : pieces c s = [s] := by
  induction s with
  | nil => rfl
  | cons x xs ih =>
    rw [List.mem_cons, not_or] at h
    simp [pieces, Ne.symm h.1, ih h.2]

theorem pieces_append {c : Char} {p : List Char} (h : c ∉ p) (s : List Char) :
    pieces c (p ++ c :: s) = p :: pieces c s := by
  induction p with
  | nil => simp [pieces]
  | cons x xs ih =>
    rw [List.mem_cons, not_or] at h
    simp [pieces, Ne.symm h.1, ih h.2]

theorem pieces_joinWith {c : Char} {ps : List (List Char)} (hne : ps ≠ [])
    (h : ∀ p ∈ ps, c ∉ p) : pieces c (joinWith c ps) = ps := by
  induction ps with
  | nil => exact absurd rfl hne
  | cons p ps ih =>
    have hp : c ∉ p := h p (List.mem_cons_self ..)
    cases ps with
    | nil => exact pieces_of_not_mem hp
    | cons q ps =>
      have hrest : pieces c (joinWith c (q :: ps)) = q :: ps :=
        ih (List.cons_ne_nil q ps) fun r hr => h r (List.mem_cons_of_mem _ hr)
      rw [joinWith, pieces_append hp, hrest]

theorem intercalate_singleton (c : Char) (ps : List (List Char)) :
    [c].intercalate ps = joinWith c ps := by
  induction ps with
  | nil => rfl
  | cons p ps ih =>
    cases ps with
    | nil => exact List.intercalate_singleton
    | cons q ps =>
      rw [List.intercalate_cons_cons, ih, joinWith, List.append_assoc, List.singleton_append]

theorem mem_joinWith {c x : Char} {ps : List (List Char)} (h : x ∈ joinWith c ps) :
    x = c ∨ ∃ p ∈ ps, x ∈ p := by
  induction ps with
  | nil => exact nomatch h
  | cons p ps ih =>
    cases ps with
    | nil => exact .inr ⟨p, List.mem_cons_self .., h⟩
    | cons q ps =>
      rw [joinWith, List.mem_append, List.mem_cons] at h
      rcases h with hp | hc | hrest
      · exact .inr ⟨p, List.mem_cons_self .., hp⟩
      · exact .inl hc
      · refine (ih hrest).imp_right ?_
        rintro ⟨r, hr, hx⟩
        exact ⟨r, List.mem_cons_of_mem _ hr, hx⟩

theorem cutOn?_append {x : Char} {a : List Char} (h : x ∉ a) (mark b : List Char) :
    cutOn? (x :: mark) (a ++ (x :: mark ++ b)) = some (a, b) := by
  induction a with
  | nil => simp [cutOn?]
  | cons y ys ih =>
    rw [List.mem_cons, not_or] at h
    rw [List.cons_append, cutOn?, if_neg (by simp [h.1]), ih h.2]
    rfl

theorem cutOn?_eq_some {mark s a b : List Char} (h : cutOn? mark s = some (a, b)) :
    s = a ++ (mark ++ b) := by
  induction s generalizing a with
  | nil =>
    rw [cutOn?] at h
    split at h
    · next hmark =>
      obtain ⟨rfl, rfl⟩ := Prod.mk.inj (Option.some.inj h)
      simp [hmark]
    · exact nomatch h
  | cons x xs ih =>
    rw [cutOn?] at h
    split at h
    · next hmark =>
      obtain ⟨rfl, rfl⟩ := Prod.mk.inj (Option.some.inj h)
      exact List.prefix_iff_eq_append.1 (List.isPrefixOf_iff_prefix.1 hmark) |>.symm
    · obtain ⟨⟨a', b'⟩, hcut, hpair⟩ := Option.map_eq_some_iff.1 h
      obtain ⟨rfl, rfl⟩ := Prod.mk.inj hpair
      rw [ih hcut, List.cons_append]

theorem isSome_cutOn?_iff {mark s : List Char} : (cutOn? mark s).isSome = true ↔ mark <:+: s := by
  induction s with
  | nil => simp [cutOn?]
  | cons x xs ih =>
    rw [cutOn?, List.infix_cons_iff]
    split
    · next hp => simpa using .inl (List.isPrefixOf_iff_prefix.1 hp)
    · next hp =>
      rw [List.isPrefixOf_iff_prefix] at hp
      simp [ih, hp]

theorem dropWhile_isBlank {s : List Char} (h : ∀ c ∈ s, isBlank c = false) :
    s.dropWhile isBlank = s := by
  cases s with
  | nil => rfl
  | cons c cs =>
    have hc : isBlank c = false := h c (List.mem_cons_self ..)
    simp [hc]

theorem trim_append {before s after : List Char} (hbefore : ∀ c ∈ before, isBlank c = true)
    (hs : ∀ c ∈ s, isBlank c = false) (hafter : ∀ c ∈ after, isBlank c = true) :
    trim (before ++ (s ++ after)) = s := by
  have hreverse : ∀ c ∈ after.reverse, isBlank c = true :=
    fun c hc => hafter c (List.mem_reverse.1 hc)
  unfold trim
  rw [List.dropWhile_append_of_pos hbefore]
  cases s with
  | nil => simp [List.dropWhile_eq_nil_iff.2 hafter]
  | cons c cs =>
    have hc : isBlank c = false := hs c (List.mem_cons_self ..)
    have hstays : (c :: cs ++ after).dropWhile isBlank = c :: cs ++ after := by simp [hc]
    have hback : (c :: cs).reverse.dropWhile isBlank = (c :: cs).reverse :=
      dropWhile_isBlank fun d hd => hs d (List.mem_reverse.1 hd)
    rw [hstays, List.reverse_append, List.dropWhile_append_of_pos hreverse, hback,
      List.reverse_reverse]

theorem exists_eq_append_trim (s : List Char) :
    ∃ before after, (∀ c ∈ before, isBlank c = true) ∧
      (∀ c ∈ after, isBlank c = true) ∧ s = before ++ (trim s ++ after) := by
  have hblank (t : List Char) : ∀ c ∈ t.takeWhile isBlank, isBlank c = true :=
    fun c hc => List.mem_takeWhile_imp hc
  refine ⟨s.takeWhile isBlank, ((s.dropWhile isBlank).reverse.takeWhile isBlank).reverse,
    hblank s, ?_, ?_⟩
  · intro c hc
    exact hblank _ c (List.mem_reverse.1 hc)
  · unfold trim
    rw [← List.reverse_append, List.takeWhile_append_dropWhile, List.reverse_reverse,
      List.takeWhile_append_dropWhile]

theorem not_blank_of_visible {c : Char} (h : 33 ≤ c.toNat) (h' : c.toNat ≤ 126) :
    isBlank c = false := by
  simp only [isBlank, Bool.or_eq_false_iff, Bool.and_eq_false_iff, decide_eq_false_iff_not,
    beq_eq_false_iff_ne]
  omega

theorem not_blank_of_isAlphanum {c : Char} (h : c.isAlphanum = true) : isBlank c = false := by
  have hranges :
      ((decide (65 ≤ c.val ∧ c.val ≤ 90) ||
        decide (97 ≤ c.val) && decide (c.val ≤ 122)) ||
        decide (48 ≤ c.val) && decide (c.val ≤ 57)) = true := h
  simp only [Bool.or_eq_true, Bool.and_eq_true, decide_eq_true_eq, UInt32.le_iff_toNat_le]
    at hranges
  rcases hranges with (⟨h, h'⟩ | ⟨h, h'⟩) | ⟨h, h'⟩
  all_goals exact not_blank_of_visible (Nat.le_trans (by decide) h) (Nat.le_trans h' (by decide))

theorem not_blank_of_isDigit {c : Char} (h : c.isDigit = true) : isBlank c = false :=
  not_blank_of_isAlphanum (by simp [Char.isAlphanum, h])

theorem isDigit_of_mem_numeral {cs : List Char} (h : isNumeral cs = true) {c : Char}
    (hc : c ∈ cs) : c.isDigit = true := by
  rw [isNumeral, Bool.and_eq_true, List.all_eq_true] at h
  exact h.2 c hc

theorem ne_nil_of_isNumeral {cs : List Char} (h : isNumeral cs = true) : cs ≠ [] := by
  rintro rfl
  simp [isNumeral] at h

end Rollout.Text
