import Rollout.Proofs.Version.Letters
import Rollout.Proofs.Version.Sameness
import Rollout.Proofs.Version.TotalOrder

/-!
How far naming the same release is an equivalence. Texts that are versions are compared by
precedence and all others by what is left of them without letters; each of the two ways is an
equivalence, and a version that is compared once in each way joins texts that are not the same.
-/
namespace Rollout
open Text

def isVersion (s : String) : Bool := (Version.parse s).isOk

theorem isVersion_iff {s : String} : isVersion s = true ↔ ∃ v, Version.parse s = .ok v := by
  unfold isVersion
  cases Version.parse s with
  | error e => simp [Except.isOk, Except.toBool]
  | ok v => simp [Except.isOk, Except.toBool]

theorem ne_empty_of_isVersion {s : String} (h : isVersion s = true) : s ≠ "" := by
  obtain ⟨v, hv⟩ := isVersion_iff.1 h
  exact Version.ne_empty_of_parse hv

theorem sameVersion_of_empty {a b : String} (h : a = "" ∨ b = "") :
    sameVersion a b = (a == b) := by
  rw [sameVersion, if_pos (by simpa using h)]

theorem sameVersion_of_not_versions {a b : String} (hempty : ¬(a = "" ∨ b = ""))
    (h : ¬(isVersion a = true ∧ isVersion b = true)) :
    sameVersion a b = (dropLetters a.toList == dropLetters b.toList) := by
  rw [sameVersion, if_neg (by simpa using hempty)]
  split
  next v w hv hw => exact absurd ⟨isVersion_iff.2 ⟨v, hv⟩, isVersion_iff.2 ⟨w, hw⟩⟩ h
  next => rfl

theorem sameVersion_comm (a b : String) : sameVersion a b = sameVersion b a := by
  by_cases hempty : a = "" ∨ b = ""
  · rw [sameVersion_of_empty hempty, sameVersion_of_empty hempty.symm]
    exact BEq.comm
  by_cases h : isVersion a = true ∧ isVersion b = true
  · obtain ⟨⟨v, hv⟩, w, hw⟩ := And.intro (isVersion_iff.1 h.1) (isVersion_iff.1 h.2)
    rw [sameVersion_of_parse hv hw, sameVersion_of_parse hw hv, Bool.eq_iff_iff,
      beq_iff_eq, beq_iff_eq]
    exact Std.OrientedCmp.eq_comm
  · rw [sameVersion_of_not_versions hempty h,
      sameVersion_of_not_versions (mt Or.symm hempty) (mt And.symm h)]
    exact BEq.comm

section
variable {a b c : String}

theorem eq_empty_iff_of_sameVersion (h : sameVersion a b = true) : a = "" ↔ b = "" := by
  by_cases hempty : a = "" ∨ b = ""
  · rw [sameVersion_of_empty hempty, beq_iff_eq] at h
    rw [h]
  · rw [not_or] at hempty
    simp [hempty.1, hempty.2]

theorem dropLetters_eq_of_sameVersion (h : sameVersion a b = true)
    (hv : ¬(isVersion a = true ∧ isVersion b = true)) :
    dropLetters a.toList = dropLetters b.toList := by
  by_cases hempty : a = "" ∨ b = ""
  · rw [sameVersion_of_empty hempty, beq_iff_eq] at h
    rw [h]
  · rwa [sameVersion_of_not_versions hempty hv, beq_iff_eq] at h

theorem sameVersion_of_dropLetters_eq (hempty : a = "" ↔ b = "")
    (h : dropLetters a.toList = dropLetters b.toList) : sameVersion a b = true := by
  by_cases ha : a = ""
  · rw [ha, hempty.1 ha]
    exact sameVersion_self ""
  have hb : b ≠ "" := mt hempty.2 ha
  by_cases hv : isVersion a = true ∧ isVersion b = true
  · obtain ⟨⟨v, hv⟩, w, hw⟩ := And.intro (isVersion_iff.1 hv.1) (isVersion_iff.1 hv.2)
    obtain rfl := Version.eq_of_dropLetters_eq hv hw h
    rw [sameVersion_of_parse hv hw, v.precedence_self]
    rfl
  · rw [sameVersion_of_not_versions (by simp [ha, hb]) hv, h]
    exact beq_self_eq_true _

theorem sameVersion_trans_of_versions (ha : isVersion a = true) (hb : isVersion b = true)
    (hc : isVersion c = true) (hab : sameVersion a b = true) (hbc : sameVersion b c = true) :
    sameVersion a c = true := by
  obtain ⟨u, hu⟩ := isVersion_iff.1 ha
  obtain ⟨v, hv⟩ := isVersion_iff.1 hb
  obtain ⟨w, hw⟩ := isVersion_iff.1 hc
  rw [sameVersion_of_parse hu hv, beq_iff_eq] at hab
  rw [sameVersion_of_parse hv hw, beq_iff_eq] at hbc
  rw [sameVersion_of_parse hu hw, beq_iff_eq]
  exact Std.TransCmp.eq_trans hab hbc

end

/-- Naming the same release is reflexive and symmetric. It is passed on by every text in the middle,
but for a version between a version and a text that is none where those two differ without their
letters. -/
theorem sameVersion_trans_iff (a b c : String) :
    sameVersion a a = true ∧ sameVersion a b = sameVersion b a ∧
      (sameVersion a b = true → sameVersion b c = true →
        (sameVersion a c = true ↔
          ¬(isVersion b = true ∧ isVersion a ≠ isVersion c ∧
            dropLetters a.toList ≠ dropLetters c.toList))) := by
  refine ⟨sameVersion_self a, sameVersion_comm a b, ?_⟩
  intro hab hbc
  have hempty : a = "" ↔ c = "" :=
    (eq_empty_iff_of_sameVersion hab).trans (eq_empty_iff_of_sameVersion hbc)
  by_cases hb : isVersion b = true
  · by_cases hac : isVersion a = isVersion c
    · have hsame : sameVersion a c = true := by
        by_cases ha : isVersion a = true
        · exact sameVersion_trans_of_versions ha hb (hac ▸ ha) hab hbc
        · have hletters : dropLetters a.toList = dropLetters c.toList :=
            (dropLetters_eq_of_sameVersion hab fun h => ha h.1).trans
              (dropLetters_eq_of_sameVersion hbc fun h => ha (hac ▸ h.2))
          exact sameVersion_of_dropLetters_eq hempty hletters
      simp [hsame, hac]
    · -- one of the outer texts is no version, so they are compared without their letters
      have hnonempty : ¬(a = "" ∨ c = "") := by
        have ha : a ≠ "" := mt (eq_empty_iff_of_sameVersion hab).1 (ne_empty_of_isVersion hb)
        simp [ha, mt hempty.2 ha]
      have hversions : ¬(isVersion a = true ∧ isVersion c = true) :=
        fun h => hac (h.1.trans h.2.symm)
      rw [sameVersion_of_not_versions hnonempty hversions, beq_iff_eq]
      simp [hb, hac]
  · have hletters : dropLetters a.toList = dropLetters c.toList :=
      (dropLetters_eq_of_sameVersion hab fun h => hb h.2).trans
        (dropLetters_eq_of_sameVersion hbc fun h => hb h.1)
    have hsame : sameVersion a c = true := sameVersion_of_dropLetters_eq hempty hletters
    simp [hsame, hb]

theorem sameVersion_trans_iff_letter_before_blank :
    sameVersion "1.28.5" " 1.28.5" = true ∧ sameVersion " 1.28.5" "v 1.28.5" = true ∧
      sameVersion "1.28.5" "v 1.28.5" = false :=
  have hab : sameVersion "1.28.5" " 1.28.5" = true := by decide +kernel
  have hbc : sameVersion " 1.28.5" "v 1.28.5" = true := by decide +kernel
  have h := (sameVersion_trans_iff "1.28.5" " 1.28.5" "v 1.28.5").2.2 hab hbc
  ⟨hab, hbc, by rw [← Bool.not_eq_true, h]; decide +kernel⟩

theorem not_sameVersion_trans :
    ¬∀ a b c, sameVersion a b = true → sameVersion b c = true → sameVersion a c = true := by
  intro h
  have hac : sameVersion "1.28.5" "v 1.28.5" = true :=
    h "1.28.5" " 1.28.5" "v 1.28.5" (by decide +kernel) (by decide +kernel)
  exact absurd hac (by decide +kernel)

end Rollout
