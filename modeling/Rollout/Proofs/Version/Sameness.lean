import Rollout.Proofs.Version.Precedence
import Rollout.Version.Release

/-! Naming the same release: by precedence where both texts are versions, and always true of a text
and itself. -/
namespace Rollout

theorem Version.ne_empty_of_parse {text : String} {v : Version} (h : parse text = .ok v) :
    text ≠ "" := by
  rintro rfl
  have hnil : parse "" = .error (.malformed "" .nothingThere) := rfl
  rw [hnil] at h
  exact nomatch h

theorem sameVersion_of_parse {a b : String} {v w : Version} (ha : Version.parse a = .ok v)
    (hb : Version.parse b = .ok w) : sameVersion a b = (v.precedence w == .eq) := by
  have hne : ¬(a = "" ∨ b = "") := by
    simp [Version.ne_empty_of_parse ha, Version.ne_empty_of_parse hb]
  rw [sameVersion, if_neg (by simpa using hne), ha, hb]

theorem sameVersion_self (a : String) : sameVersion a a = true := by
  unfold sameVersion
  split
  · exact beq_self_eq_true a
  · cases Version.parse a with
    | ok v =>
      show (v.precedence v == .eq) = true
      rw [v.precedence_self]
      rfl
    | error _ => exact beq_self_eq_true (dropLetters a.toList)

end Rollout
