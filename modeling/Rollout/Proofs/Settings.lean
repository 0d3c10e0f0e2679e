import Rollout.Proofs.Text.Numeral
import Rollout.Settings

/-!
The timeout in the settings. A value of the environment asks for some seconds if it is a numeral,
with a plus sign or without, and with blanks around it or without. Main statement: it gets them if
they are more than none and fit in a machine word, and whatever else there is or is not, the timeout
is the default one.
-/
namespace Rollout
open Text

namespace Settings

/-- The value is a numeral for these seconds, perhaps with a plus sign, between any blanks. -/
def AsksFor (value : String) (seconds : Nat) : Prop :=
  ∃ (before sign after : List Char) (n : Numeral),
    (∀ c ∈ before, isBlank c = true) ∧ (∀ c ∈ after, isBlank c = true) ∧
      (sign = [] ∨ sign = ['+']) ∧
      value.toList = before ++ ((sign ++ n.chars) ++ after) ∧ n.value = seconds

variable {value : String} {seconds : Nat}

theorem not_blank_of_mem_signed {sign : List Char} (hsign : sign = [] ∨ sign = ['+'])
    (n : Numeral) : ∀ c ∈ sign ++ n.chars, isBlank c = false := by
  intro c hc
  rcases List.mem_append.1 hc with hc | hc
  · rcases hsign with rfl | rfl
    · exact nomatch hc
    · rw [List.mem_singleton.1 hc]
      rfl
  · exact not_blank_of_isDigit (isDigit_of_mem_numeral n.isNumeral hc)

theorem dropWhile_signed {sign : List Char} (hsign : sign = [] ∨ sign = ['+']) (n : Numeral) :
    (sign ++ n.chars).dropWhile (· == '+') = n.chars := by
  obtain ⟨c, cs, hchars, hc⟩ := n.head_chars
  have hplus : c ≠ '+' := by
    rintro rfl
    exact absurd hc (by decide)
  rcases hsign with rfl | rfl <;> simp [hchars, hplus]

theorem AsksFor.unique {seconds' : Nat} (h : AsksFor value seconds) (h' : AsksFor value seconds') :
    seconds = seconds' := by
  obtain ⟨before, sign, after, n, hbefore, hafter, hsign, htext, rfl⟩ := h
  obtain ⟨before', sign', after', n', hbefore', hafter', hsign', htext', rfl⟩ := h'
  have hsigned : sign ++ n.chars = sign' ++ n'.chars := by
    rw [← trim_append hbefore (not_blank_of_mem_signed hsign n) hafter, ← htext, htext',
      trim_append hbefore' (not_blank_of_mem_signed hsign' n') hafter']
  have hchars : n.chars = n'.chars := by
    rw [← dropWhile_signed hsign n, hsigned, dropWhile_signed hsign' n']
  exact congrArg ofDigits hchars

theorem word?_trim_eq_some_iff :
    word? (trim value.toList) = some seconds ↔ AsksFor value seconds ∧ seconds ≤ maxWord := by
  rw [word?_eq_some_iff]
  constructor
  · rintro ⟨ds, hsigned, hnumeral, hvalue, hle⟩
    obtain ⟨before, after, hbefore, hafter, htext⟩ := exists_eq_append_trim value.toList
    refine ⟨?_, hle⟩
    rcases hsigned with heq | heq
    · rw [heq] at htext
      exact ⟨before, [], after, ⟨ds, hnumeral⟩, hbefore, hafter, .inl rfl, htext, hvalue⟩
    · rw [heq] at htext
      exact ⟨before, ['+'], after, ⟨ds, hnumeral⟩, hbefore, hafter, .inr rfl, htext, hvalue⟩
  · rintro ⟨⟨before, sign, after, n, hbefore, hafter, hsign, htext, hvalue⟩, hle⟩
    rw [htext, trim_append hbefore (not_blank_of_mem_signed hsign n) hafter]
    refine ⟨n.chars, ?_, n.isNumeral, hvalue, hle⟩
    rcases hsign with rfl | rfl
    · exact .inl rfl
    · exact .inr rfl

theorem timeoutSeconds?_eq_some_iff :
    timeoutSeconds? value = some seconds ↔ AsksFor value seconds ∧ 1 ≤ seconds ∧
      seconds < UInt64.size := by
  unfold timeoutSeconds?
  rw [Option.filter_eq_some_iff, word?_trim_eq_some_iff, decide_eq_true_eq, and_assoc]
  have hfits : seconds ≤ maxWord ↔ seconds < UInt64.size := Nat.lt_succ_iff.symm
  rw [hfits]
  exact and_congr_right fun _ => and_comm

def asked? (environment : Dict String) : Option Nat :=
  (environment.get? "CAPR_WORKLOAD_TIMEOUT_SECS").bind timeoutSeconds?

theorem asked?_eq_some_iff {environment : Dict String} :
    asked? environment = some seconds ↔
      ∃ value, environment.get? "CAPR_WORKLOAD_TIMEOUT_SECS" = some value ∧
        AsksFor value seconds ∧ 1 ≤ seconds ∧ seconds < UInt64.size := by
  unfold asked?
  simp only [Option.bind_eq_some_iff, timeoutSeconds?_eq_some_iff]

theorem workloadTimeout_eq (environment : Dict String) :
    (ofEnvironment environment).workloadTimeout = (asked? environment).getD 30 * 1000 :=
  rfl

/-- Whatever the environment is, the timeout is what it asks for, or else the default; in any case
there is a second for a call. -/
theorem workloadTimeout_ofEnvironment (environment : Dict String) :
    (∀ value seconds, environment.get? "CAPR_WORKLOAD_TIMEOUT_SECS" = some value →
      AsksFor value seconds → 1 ≤ seconds → seconds < UInt64.size →
        (ofEnvironment environment).workloadTimeout = seconds * 1000) ∧
    ((∀ value seconds, environment.get? "CAPR_WORKLOAD_TIMEOUT_SECS" = some value →
      AsksFor value seconds → ¬ (1 ≤ seconds ∧ seconds < UInt64.size)) →
        (ofEnvironment environment).workloadTimeout = 30 * 1000) ∧
    1 * 1000 ≤ (ofEnvironment environment).workloadTimeout := by
  rw [workloadTimeout_eq]
  refine ⟨?_, ?_, ?_⟩
  · intro value seconds hvalue hasks hpositive hfits
    have hasked : asked? environment = some seconds :=
      asked?_eq_some_iff.2 ⟨value, hvalue, hasks, hpositive, hfits⟩
    rw [hasked, Option.getD_some]
  · intro hnever
    have hasked : asked? environment = none := by
      rw [Option.eq_none_iff_forall_ne_some]
      intro seconds hseconds
      obtain ⟨value, hvalue, hasks, hrange⟩ := asked?_eq_some_iff.1 hseconds
      exact hnever value seconds hvalue hasks hrange
    rw [hasked, Option.getD_none]
  · apply Nat.mul_le_mul_right
    cases hasked : asked? environment with
    | none => exact (by decide : 1 ≤ 30)
    | some seconds =>
      obtain ⟨value, -, -, hpositive, -⟩ := asked?_eq_some_iff.1 hasked
      exact hpositive

theorem workloadTimeout_ofEnvironment_largest :
    let largest :=
      (∅ : Dict String).insert "CAPR_WORKLOAD_TIMEOUT_SECS" "\u3000 +00018446744073709551615\t"
    let tooLarge := (∅ : Dict String).insert "CAPR_WORKLOAD_TIMEOUT_SECS" "18446744073709551616"
    (ofEnvironment largest).workloadTimeout = 18446744073709551615 * 1000 ∧
      (ofEnvironment tooLarge).workloadTimeout = 30 * 1000 := by
  intro largest tooLarge
  let padded : Numeral := ⟨"00018446744073709551615".toList, by decide +kernel⟩
  let next : Numeral := ⟨"18446744073709551616".toList, by decide +kernel⟩
  have hlargest : AsksFor "\u3000 +00018446744073709551615\t" 18446744073709551615 :=
    ⟨['\u3000', ' '], ['+'], ['\t'], padded, List.all_eq_true.1 (by decide +kernel),
      List.all_eq_true.1 (by decide +kernel), .inr rfl, by decide +kernel, by decide +kernel⟩
  have htooLarge : AsksFor "18446744073709551616" 18446744073709551616 :=
    ⟨[], [], [], next, nofun, nofun, .inl rfl, by decide +kernel, by decide +kernel⟩
  refine ⟨(workloadTimeout_ofEnvironment largest).1 _ _ rfl hlargest (by decide) (by decide),
    ?_⟩
  apply (workloadTimeout_ofEnvironment tooLarge).2.1
  rintro value seconds hvalue hasks ⟨-, hfits⟩
  obtain rfl : "18446744073709551616" = value := Option.some.inj hvalue
  rw [hasks.unique htooLarge] at hfits
  exact absurd hfits (by decide)

end Settings
end Rollout
