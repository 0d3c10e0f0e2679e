/-!
Numbers written in decimal digits: the digits of a number, the number of some digits, and the bound
of a machine word. Main statements: the digits of a number read back as that number, and reading a
machine word digit by digit never wraps around.
-/
namespace Rollout.Text

def digits (n : Nat) : List Char :=
  Nat.toDigits 10 n

def ofDigits (cs : List Char) : Nat :=
  Nat.ofDigitChars 10 cs 0

def isNumeral (cs : List Char) : Bool :=
  !cs.isEmpty && cs.all Char.isDigit

def maxWord : Nat := 0xffffffffffffffff

def pushDigit? (n : UInt64) (c : Char) : Option UInt64 :=
  let d := UInt64.ofNat (c.toNat - '0'.toNat)
  if c.isDigit && n ≤ (UInt64.ofNat maxWord - d) / 10 then some (n * 10 + d) else none

def wordOfDigits? (ds : List Char) : Option Nat :=
  if ds.isEmpty then none else (ds.foldlM pushDigit? 0).map UInt64.toNat

def word? : List Char → Option Nat
  | '+' :: ds => wordOfDigits? ds
  | ds => wordOfDigits? ds

theorem ofDigits_digits (n : Nat) : ofDigits (digits n) = n :=
  Nat.ofDigitChars_toDigits (by decide) (by decide)

theorem isDigit_of_mem_digits {n : Nat} {c : Char} (h : c ∈ digits n) : c.isDigit = true :=
  Nat.isDigit_of_mem_toDigits (by decide) (by decide) h

theorem digits_ne_nil (n : Nat) : digits n ≠ [] := Nat.toDigits_ne_nil

theorem isNumeral_digits (n : Nat) : isNumeral (digits n) = true := by
  simp only [isNumeral, Bool.and_eq_true, Bool.not_eq_true', List.isEmpty_eq_false_iff,
    List.all_eq_true]
  exact ⟨digits_ne_nil n, fun c hc => isDigit_of_mem_digits hc⟩

theorem toNat_le_maxWord (n : UInt64) : n.toNat ≤ maxWord := Nat.le_of_lt_succ n.toNat_lt

section Digit
variable {n m : UInt64} {d : Nat} {c : Char}

theorem sub_le_nine_of_isDigit (h : c.isDigit = true) : c.toNat - '0'.toNat ≤ 9 := by
  simp only [Char.isDigit, Bool.and_eq_true, decide_eq_true_eq, UInt32.le_iff_toNat_le] at h
  exact Nat.sub_le_of_le_add h.2

theorem toNat_digit (h : d ≤ 9) : (UInt64.ofNat d).toNat = d :=
  UInt64.toNat_ofNat_of_lt' (Nat.lt_of_le_of_lt h (by decide))

theorem le_room_iff (h : d ≤ 9) :
    n ≤ (UInt64.ofNat maxWord - UInt64.ofNat d) / 10 ↔ 10 * n.toNat + d ≤ maxWord := by
  have hmax : (UInt64.ofNat maxWord).toNat = maxWord := rfl
  have hle : UInt64.ofNat d ≤ UInt64.ofNat maxWord := by
    rw [UInt64.le_iff_toNat_le, hmax, toNat_digit h]
    exact Nat.le_trans h (by decide)
  rw [UInt64.le_iff_toNat_le, UInt64.toNat_div, UInt64.toNat_sub_of_le _ _ hle, hmax, toNat_digit h]
  show n.toNat ≤ (maxWord - d) / 10 ↔ _
  unfold maxWord
  omega

theorem toNat_mul_ten_add (h : d ≤ 9) (hroom : 10 * n.toNat + d ≤ maxWord) :
    (n * 10 + UInt64.ofNat d).toNat = 10 * n.toNat + d := by
  rw [UInt64.toNat_add, UInt64.toNat_mul, toNat_digit h]
  show (n.toNat * 10 % _ + d) % _ = _
  unfold maxWord at hroom
  omega

/-- One digit more is the number that it should be, or there is no word for that number. -/
theorem pushDigit?_eq_some_iff :
    pushDigit? n c = some m ↔
      c.isDigit = true ∧ 10 * n.toNat + (c.toNat - '0'.toNat) = m.toNat := by
  unfold pushDigit?
  by_cases hc : c.isDigit = true
  · have hnine := sub_le_nine_of_isDigit hc
    generalize c.toNat - '0'.toNat = d at hnine
    simp only [hc, le_room_iff hnine, Bool.true_and, decide_eq_true_eq, true_and]
    by_cases hroom : 10 * n.toNat + d ≤ maxWord
    · rw [if_pos hroom, ← toNat_mul_ten_add hnine hroom, UInt64.toNat_inj, Option.some_inj]
    · rw [if_neg hroom]
      refine ⟨nofun, fun heq => absurd (toNat_le_maxWord m) ?_⟩
      rwa [← heq]
  · simp [hc]

end Digit

theorem foldlM_pushDigit?_eq_some_iff {n m : UInt64} {cs : List Char} :
    cs.foldlM pushDigit? n = some m ↔
      cs.all Char.isDigit = true ∧ Nat.ofDigitChars 10 cs n.toNat = m.toNat := by
  induction cs generalizing n with
  | nil => simp [UInt64.toNat_inj]
  | cons c cs ih =>
    rw [List.foldlM_cons, Option.bind_eq_bind, Option.bind_eq_some_iff, List.all_cons,
      Bool.and_eq_true, Nat.ofDigitChars_cons]
    constructor
    · rintro ⟨k, hpush, hrest⟩
      obtain ⟨hc, hk⟩ := pushDigit?_eq_some_iff.1 hpush
      obtain ⟨hcs, hm⟩ := ih.1 hrest
      exact ⟨⟨hc, hcs⟩, by rw [hk, hm]⟩
    · rintro ⟨⟨hc, hcs⟩, hm⟩
      -- what has outgrown a word stays too large, whatever digits come behind it
      have hle : 10 * n.toNat + (c.toNat - '0'.toNat) ≤ m.toNat := by
        rw [← hm, Nat.ofDigitChars_eq_ofDigitChars_zero]
        exact Nat.le_trans (Nat.le_mul_of_pos_left _ (Nat.pow_pos (by decide)))
          (Nat.le_add_right ..)
      have hlt : 10 * n.toNat + (c.toNat - '0'.toNat) < UInt64.size :=
        Nat.lt_of_le_of_lt hle m.toNat_lt
      have hk := UInt64.toNat_ofNat_of_lt' hlt
      exact ⟨UInt64.ofNat _, pushDigit?_eq_some_iff.2 ⟨hc, hk.symm⟩,
        ih.2 ⟨hcs, by rw [hk, hm]⟩⟩

theorem wordOfDigits?_eq_some_iff {n : Nat} {ds : List Char} :
    wordOfDigits? ds = some n ↔ isNumeral ds = true ∧ ofDigits ds = n ∧ n ≤ maxWord := by
  unfold wordOfDigits? isNumeral
  cases hempty : ds.isEmpty with
  | true => simp
  | false =>
    simp only [Bool.false_eq_true, if_false, Bool.not_false, Bool.true_and, Option.map_eq_some_iff]
    constructor
    · rintro ⟨m, hm, rfl⟩
      obtain ⟨hds, hvalue⟩ := foldlM_pushDigit?_eq_some_iff.1 hm
      exact ⟨hds, hvalue, toNat_le_maxWord m⟩
    · rintro ⟨hds, hvalue, hle⟩
      have hn : (UInt64.ofNat n).toNat = n := UInt64.toNat_ofNat_of_lt' (Nat.lt_succ_of_le hle)
      exact ⟨UInt64.ofNat n, foldlM_pushDigit?_eq_some_iff.2 ⟨hds, hvalue.trans hn.symm⟩,
        hn⟩

theorem word?_eq_some_iff {n : Nat} {cs : List Char} :
    word? cs = some n ↔ ∃ ds, (cs = ds ∨ cs = '+' :: ds) ∧ isNumeral ds = true ∧
      ofDigits ds = n ∧ n ≤ maxWord := by
  unfold word?
  split
  · next ds =>
    rw [wordOfDigits?_eq_some_iff]
    constructor
    · exact fun h => ⟨ds, .inr rfl, h⟩
    · rintro ⟨_, rfl | heq, h⟩
      · -- a plus sign is no digit
        simp [isNumeral] at h
      · rwa [(List.cons.inj heq).2]
  · next hsign =>
    rw [wordOfDigits?_eq_some_iff]
    constructor
    · exact fun h => ⟨cs, .inl rfl, h⟩
    · rintro ⟨ds, rfl | heq, h⟩
      · exact h
      · exact absurd heq (hsign ds)

end Rollout.Text
