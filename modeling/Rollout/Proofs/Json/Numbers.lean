import Mathlib.Data.List.TakeWhile
import Rollout.Json.Printer
import Rollout.Proofs.Json.Grammar

/-!
The reader of numbers takes exactly the numbers of the grammar. Digits are taken for as long as
there are any, so a number is read back where it stands only if nothing behind it could belong to
it. An integer as it is written is such a number.
-/
namespace Rollout
open Text

namespace Text

theorem eq_zero_of_head?_digits {n : Nat} (h : (digits n).head? = some '0') : n = 0 := by
  induction n using Nat.strongRecOn with
  | ind n ih =>
    by_cases hn : n < 10
    · have hsmall : ∀ d < 10, Nat.digitChar d = '0' → d = 0 := by decide
      rw [digits, Nat.toDigits_of_lt_base hn] at h
      exact hsmall n hn (Option.some.inj h)
    · have hsplit : digits n = digits (n / 10) ++ [(n % 10).digitChar] :=
        Nat.toDigits_of_base_le (by decide) (by omega)
      have hhead : (digits (n / 10)).head? = some '0' := by
        obtain ⟨c, cs, hc⟩ := List.exists_cons_of_ne_nil (digits_ne_nil (n / 10))
        simpa [hsplit, hc] using h
      have := ih (n / 10) (by omega) hhead
      omega

end Text

namespace Json

def EndsNumber (rest : List Char) : Prop :=
  ∀ c ∈ rest.head?, c.isDigit = false ∧ c ≠ '.' ∧ c ≠ 'e' ∧ c ≠ 'E'

variable {rest : List Char}

theorem endsNumber_nil : EndsNumber [] := by
  simp [EndsNumber]

theorem endsNumber_cons {c : Char} (h : c.isDigit = false ∧ c ≠ '.' ∧ c ≠ 'e' ∧ c ≠ 'E')
    (cs : List Char) : EndsNumber (c :: cs) := by
  simpa [EndsNumber] using h

theorem readExponent_of_endsNumber (h : EndsNumber rest) : readExponent rest = some ([], rest) := by
  cases rest with
  | nil => rfl
  | cons c cs => rw [readExponent, if_neg (not_or.2 (h c rfl).2.2)]

def EndsDigits (rest : List Char) : Prop := ∀ c ∈ rest.head?, c.isDigit = false

theorem endsDigits_cons {c : Char} (h : c.isDigit = false) (cs : List Char) :
    EndsDigits (c :: cs) := by
  simpa [EndsDigits] using h

theorem EndsNumber.endsDigits {rest : List Char} (h : EndsNumber rest) : EndsDigits rest :=
  fun c hc => (h c hc).1

theorem readDigits_numeral (n : Numeral) {rest : List Char} (h : EndsDigits rest) :
    readDigits (n.chars ++ rest) = (n.chars, rest) := by
  have hdigits : ∀ c ∈ n.chars, c.isDigit = true :=
    fun c hc => isDigit_of_mem_numeral n.isNumeral hc
  rw [readDigits, List.takeWhile_append_of_pos hdigits, List.dropWhile_append_of_pos hdigits]
  cases rest with
  | nil => simp
  | cons c cs => simp [h c rfl]

theorem readDigits_cases {cs ds rest : List Char} (h : readDigits cs = (ds, rest)) :
    ds = [] ∨ ∃ n : Numeral, n.chars = ds ∧ cs = n.chars ++ rest := by
  obtain ⟨rfl, rfl⟩ := Prod.mk.inj h
  by_cases hne : cs.takeWhile Char.isDigit = []
  · exact .inl hne
  · have hnumeral : isNumeral (cs.takeWhile Char.isDigit) = true := by
      simp only [isNumeral, Bool.and_eq_true, Bool.not_eq_true', List.isEmpty_eq_false_iff,
        List.all_eq_true]
      exact ⟨hne, fun c hc => List.mem_takeWhile_imp hc⟩
    exact .inr ⟨⟨_, hnumeral⟩, rfl, List.takeWhile_append_dropWhile.symm⟩

namespace NumberText
variable (n : NumberText) {rest : List Char}

theorem readFraction_fractionChars {tail : List Char} (h : EndsDigits tail)
    (hdot : ∀ cs, tail ≠ '.' :: cs) :
    readFraction (n.fractionChars ++ tail) = some (n.fractionChars, tail) := by
  unfold fractionChars
  cases n.fraction with
  | none => exact readFraction.eq_2 _ hdot
  | some f =>
    obtain ⟨c, cs, hf, -⟩ := f.head_chars
    simp only [Option.elim, List.cons_append, readFraction, readDigits_numeral f h]
    rw [hf]

theorem readSign_sign (e : ExponentText) (tail : List Char) :
    readSign (e.sign ++ (e.digits.chars ++ tail)) = (e.sign, e.digits.chars ++ tail) := by
  obtain ⟨c, cs, hc, hd⟩ := e.digits.head_chars
  rcases e.isSign with h | h | h
  · rw [h, hc]
    have hplus : c ≠ '+' := by rintro rfl; exact absurd hd (by decide)
    have hminus : c ≠ '-' := by rintro rfl; exact absurd hd (by decide)
    exact readSign.eq_3 _ (fun _ e => hplus (List.cons.inj e).1) fun _ e =>
      hminus (List.cons.inj e).1
  · rw [h]; rfl
  · rw [h]; rfl

theorem readExponent_exponentChars (h : EndsNumber rest) :
    readExponent (n.exponentChars ++ rest) = some (n.exponentChars, rest) := by
  unfold exponentChars
  cases n.exponent with
  | none => exact readExponent_of_endsNumber h
  | some e =>
    obtain ⟨c, cs, hc, -⟩ := e.digits.head_chars
    have hsign := readSign_sign e rest
    simp only [Option.elim, ExponentText.chars, List.cons_append, List.append_assoc, readExponent,
      if_pos e.isLetter, hsign, readDigits_numeral e.digits h.endsDigits]
    rw [hc]

theorem endsDigits_exponentChars (h : EndsNumber rest) : EndsDigits (n.exponentChars ++ rest) := by
  unfold exponentChars
  cases n.exponent with
  | none => exact h.endsDigits
  | some e =>
    refine endsDigits_cons ?_ _
    rcases e.isLetter with h | h <;> rw [h] <;> decide

theorem exponentChars_ne_dot (h : EndsNumber rest) (cs : List Char) :
    n.exponentChars ++ rest ≠ '.' :: cs := by
  unfold exponentChars
  cases n.exponent with
  | none =>
    rintro rfl
    exact (h '.' rfl).2.1 rfl
  | some e =>
    intro he
    have hdot : e.letter = '.' := (List.cons.inj he).1
    rcases e.isLetter with hletter | hletter <;> rw [hletter] at hdot <;>
      exact absurd hdot (by decide)

theorem endsDigits_fractionChars {tail : List Char} (h : EndsDigits tail) :
    EndsDigits (n.fractionChars ++ tail) := by
  unfold fractionChars
  cases n.fraction with
  | none => exact h
  | some f => exact endsDigits_cons (by decide) _

theorem isEmpty_fractionChars : n.fractionChars.isEmpty = n.fraction.isNone := by
  unfold fractionChars
  cases n.fraction <;> rfl

theorem isEmpty_exponentChars : n.exponentChars.isEmpty = n.exponent.isNone := by
  unfold exponentChars
  cases n.exponent <;> rfl

theorem not_refused :
    (n.whole.chars.isEmpty || (n.whole.chars.head? == some '0' && n.whole.chars.length != 1)) =
      false := by
  have hempty : n.whole.chars.isEmpty = false :=
    List.isEmpty_eq_false_iff.2 (ne_nil_of_isNumeral n.whole.isNumeral)
  rw [hempty, Bool.false_or, Bool.and_eq_false_imp, beq_iff_eq]
  intro hzero
  simp [n.canonical hzero]

theorem readNumber_eq {cs rest₁ rest₂ : List Char}
    (hdigits : readDigits cs = (n.whole.chars, rest₁))
    (hfraction : readFraction rest₁ = some (n.fractionChars, rest₂))
    (hexponent : readExponent rest₂ = some (n.exponentChars, rest)) :
    readNumber n.negative cs = some (n.value, rest) := by
  have hchars : (if n.negative then ['-'] else []) ++ n.whole.chars ++ n.fractionChars ++
      n.exponentChars = n.chars := by
    unfold chars unsigned
    cases n.negative <;> simp
  simp only [readNumber, hdigits, n.not_refused, Bool.false_eq_true, ↓reduceIte, hfraction,
    hexponent, Option.bind_eq_bind, Option.bind_some, isEmpty_fractionChars,
    isEmpty_exponentChars, hchars]
  unfold value Numeral.value
  by_cases hint :
    (n.fraction.isNone && n.exponent.isNone && !(n.negative && ofDigits n.whole.chars == 0)) = true
  · rw [if_pos hint, if_pos hint]
    rfl
  · rw [if_neg hint, if_neg hint]
    rfl

theorem readNumber_unsigned (h : EndsNumber rest) :
    readNumber n.negative (n.unsigned ++ rest) = some (n.value, rest) := by
  have htail : EndsDigits (n.exponentChars ++ rest) := n.endsDigits_exponentChars h
  have hdigits := readDigits_numeral n.whole (n.endsDigits_fractionChars htail)
  rw [unsigned, List.append_assoc, List.append_assoc]
  exact n.readNumber_eq hdigits (n.readFraction_fractionChars htail (n.exponentChars_ne_dot h))
    (n.readExponent_exponentChars h)

end NumberText

theorem exists_of_readFraction {cs ds rest : List Char} (h : readFraction cs = some (ds, rest)) :
    ∃ f : Option Numeral, (f.elim [] fun f => '.' :: f.chars) = ds ∧ cs = ds ++ rest := by
  unfold readFraction at h
  split at h
  next cs =>
    split at h
    · exact nomatch h
    next ds' rest' _ hread =>
      obtain ⟨rfl, rfl⟩ := Prod.mk.inj (Option.some.inj h)
      rcases readDigits_cases hread with rfl | ⟨f, rfl, rfl⟩
      · contradiction
      · exact ⟨some f, rfl, rfl⟩
  next =>
    obtain ⟨rfl, rfl⟩ := Prod.mk.inj (Option.some.inj h)
    exact ⟨none, rfl, rfl⟩

theorem readSign_cases (cs : List Char) :
    ((readSign cs).1 = [] ∨ (readSign cs).1 = ['+'] ∨ (readSign cs).1 = ['-']) ∧
      cs = (readSign cs).1 ++ (readSign cs).2 := by
  unfold readSign
  split <;> simp

theorem exists_of_readExponent {cs ds rest : List Char} (h : readExponent cs = some (ds, rest)) :
    ∃ e : Option ExponentText, e.elim [] ExponentText.chars = ds ∧ cs = ds ++ rest := by
  unfold readExponent at h
  split at h
  next =>
    obtain ⟨rfl, rfl⟩ := Prod.mk.inj (Option.some.inj h)
    exact ⟨none, rfl, rfl⟩
  next c cs =>
    split at h
    next hletter =>
      split at h
      · exact nomatch h
      next ds' rest' _ hread =>
        obtain ⟨rfl, rfl⟩ := Prod.mk.inj (Option.some.inj h)
        obtain ⟨hsign, hcs⟩ := readSign_cases cs
        rcases readDigits_cases hread with rfl | ⟨digits, rfl, hrest⟩
        · contradiction
        · refine ⟨some ⟨c, hletter, _, hsign, digits⟩, rfl, ?_⟩
          rw [List.cons_append, List.append_assoc, ← hrest, ← hcs]
    next =>
      obtain ⟨rfl, rfl⟩ := Prod.mk.inj (Option.some.inj h)
      exact ⟨none, rfl, rfl⟩

theorem exists_of_readNumber {negative : Bool} {cs rest : List Char} {j : Json}
    (h : readNumber negative cs = some (j, rest)) :
    ∃ n : NumberText, n.negative = negative ∧ cs = n.unsigned ++ rest ∧ n.value = j := by
  have hread := h
  obtain ⟨whole, rest₁, hdigits⟩ :
      ∃ whole rest₁, readDigits cs = (whole, rest₁) := ⟨_, _, rfl⟩
  simp only [readNumber, hdigits, Option.bind_eq_bind] at h
  split at h
  · exact nomatch h
  next hrefused =>
  obtain ⟨⟨fraction, rest₂⟩, hfraction, h⟩ := Option.bind_eq_some_iff.1 h
  obtain ⟨⟨exponent, rest₃⟩, hexponent, -⟩ := Option.bind_eq_some_iff.1 h
  simp only [Bool.or_eq_true, List.isEmpty_iff, not_or, Bool.and_eq_true, beq_iff_eq, bne_iff_ne,
    not_and, not_not] at hrefused
  obtain ⟨whole, rfl, rfl⟩ := (readDigits_cases hdigits).resolve_left hrefused.1
  obtain ⟨f, rfl, rfl⟩ := exists_of_readFraction hfraction
  obtain ⟨e, rfl, rfl⟩ := exists_of_readExponent hexponent
  let n : NumberText := ⟨negative, whole, hrefused.2, f, e⟩
  have hvalue : readNumber negative _ = some (n.value, rest₃) :=
    n.readNumber_eq hdigits hfraction hexponent
  obtain ⟨rfl, rfl⟩ := Prod.mk.inj (Option.some.inj (hvalue.symm.trans hread))
  exact ⟨n, rfl, by simp [n, NumberText.unsigned, NumberText.fractionChars,
    NumberText.exponentChars], rfl⟩

theorem exists_number_writeInt (i : Int) :
    ∃ n : NumberText, n.chars = writeInt i ∧ n.value = .int i := by
  have hcanonical (k : Nat) :
      (Numeral.ofNat k).chars.head? = some '0' → (Numeral.ofNat k).chars.length = 1 := by
    intro h
    obtain rfl : k = 0 := eq_zero_of_head?_digits h
    rfl
  have hvalue (k : Nat) : (Numeral.ofNat k).value = k := ofDigits_digits k
  cases i with
  | ofNat k =>
    refine ⟨⟨false, .ofNat k, hcanonical k, none, none⟩, ?_, ?_⟩
    · simp [NumberText.chars, NumberText.unsigned, NumberText.fractionChars,
        NumberText.exponentChars, writeInt, Numeral.ofNat]
    · simp only [NumberText.value, hvalue]
      rfl
  | negSucc k =>
    refine ⟨⟨true, .ofNat (k + 1), hcanonical (k + 1), none, none⟩, ?_, ?_⟩
    · simp [NumberText.chars, NumberText.unsigned, NumberText.fractionChars,
        NumberText.exponentChars, writeInt, Numeral.ofNat]
    · simp only [NumberText.value, hvalue]
      rfl

end Json
end Rollout
