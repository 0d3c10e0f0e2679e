import Rollout.Proofs.Text.Cutting

/-! Numbers as they are written. -/
namespace Rollout
open Text

structure Numeral where
  chars : List Char
  isNumeral : Text.isNumeral chars = true

namespace Numeral

def value (n : Numeral) : Nat := ofDigits n.chars

def ofNat (n : Nat) : Numeral := ⟨digits n, isNumeral_digits n⟩

theorem not_mem_of_not_digit {n : Numeral} {c : Char} (h : c.isDigit = false) : c ∉ n.chars := by
  intro hc
  have hdigit : c.isDigit = true := isDigit_of_mem_numeral n.isNumeral hc
  rw [h] at hdigit
  exact absurd hdigit (by decide)

theorem head_chars (n : Numeral) : ∃ c cs, n.chars = c :: cs ∧ c.isDigit = true := by
  obtain ⟨c, cs, h⟩ := List.exists_cons_of_ne_nil (ne_nil_of_isNumeral n.isNumeral)
  exact ⟨c, cs, h, isDigit_of_mem_numeral n.isNumeral (by simp [h])⟩

end Numeral

end Rollout
