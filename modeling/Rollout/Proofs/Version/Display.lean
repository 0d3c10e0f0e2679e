import Rollout.Proofs.Version.Grammar
import Rollout.Proofs.Version.Sameness

/-!
The written form of a version that was read. It is read as the same version again, so it tells
versions apart, and without build data it tells precedences apart.
-/
namespace Rollout
open Text

theorem Identifier.renderAll_eq (is : List Identifier) :
    renderAll is = joinWith '.' (is.map render) := by
  induction is with
  | nil => rfl
  | cons i is ih =>
    cases is with
    | nil => rfl
    | cons j js => rw [renderAll, ih, List.map_cons, List.map_cons, List.map_cons, joinWith]

namespace IdentifierText

theorem render_value (t : IdentifierText) :
    t.value.render =
      if t.chars.all Char.isDigit = true ∧ ofDigits t.chars ≤ maxWord then
        digits (ofDigits t.chars)
      else t.chars := by
  unfold value
  split
  · rfl
  · exact String.toList_ofList

def displayed (t : IdentifierText) : IdentifierText where
  chars := t.value.render
  ne_nil := by
    rw [t.render_value]
    split
    · exact digits_ne_nil _
    · exact t.ne_nil
  isPart := by
    intro c hc
    rw [t.render_value] at hc
    split at hc
    · simp [Identifier.isPart, Char.isAlphanum, isDigit_of_mem_digits hc]
    · exact t.isPart c hc

theorem value_displayed (t : IdentifierText) : t.displayed.value = t.value := by
  by_cases hnumber : t.chars.all Char.isDigit = true ∧ ofDigits t.chars ≤ maxWord
  · have hchars : t.displayed.chars = digits (ofDigits t.chars) := by
      show t.value.render = _
      rw [t.render_value, if_pos hnumber]
    have hdigits : (digits (ofDigits t.chars)).all Char.isDigit = true :=
      List.all_eq_true.2 fun c hc => isDigit_of_mem_digits hc
    unfold value
    rw [hchars, ofDigits_digits, if_pos hnumber, if_pos ⟨hdigits, hnumber.2⟩]
  · have hsame : t.displayed = t := by
      apply IdentifierText.ext
      show t.value.render = _
      rw [t.render_value, if_neg hnumber]
    rw [hsame]

end IdentifierText

namespace VersionText
variable (w : VersionText)

theorem component_le (place : Nat) : w.component place ≤ maxWord := by
  unfold component
  cases w.components[place]? with
  | none => exact Nat.zero_le _
  | some n => exact n.fits

def displayedComponent (place : Nat) : WordNumeral where
  toNumeral := .ofNat (w.component place)
  fits := by
    show ofDigits (digits (w.component place)) ≤ maxWord
    rw [ofDigits_digits]
    exact w.component_le place

def displayed : VersionText where
  letter := true
  components := [w.displayedComponent 0, w.displayedComponent 1, w.displayedComponent 2]
  pre := w.pre.map (·.displayed)
  build := w.build.map (·.displayed)
  count := by simp

theorem tail_displayed (mark : Char) (ts : List IdentifierText) :
    tail mark (ts.map (·.displayed)) = Version.renderTail mark (ts.map (·.value)) := by
  cases ts with
  | nil => rfl
  | cons t ts =>
    rw [List.map_cons, List.map_cons, tail, Version.renderTail, Identifier.renderAll_eq,
      ← List.map_cons, ← List.map_cons, List.map_map, List.map_map]
    rfl

theorem chars_displayed : w.displayed.chars = w.version.render := by
  have hcore : w.displayed.core = digits (w.component 0) ++ '.' ::
      (digits (w.component 1) ++ '.' :: digits (w.component 2)) :=
    rfl
  have hpre : tail '-' w.displayed.pre = Version.renderTail '-' w.version.pre :=
    tail_displayed '-' w.pre
  have hbuild : tail '+' w.displayed.build = Version.renderTail '+' w.version.build :=
    tail_displayed '+' w.build
  show 'v' :: w.displayed.body = w.version.render
  rw [body, hcore, hpre, hbuild, Version.render]
  simp [version]

theorem version_displayed : w.displayed.version = w.version := by
  have hcomponent (place : Nat) : (w.displayedComponent place).value = w.component place :=
    ofDigits_digits _
  have hvalues (ts : List IdentifierText) :
      (ts.map (·.displayed)).map (·.value) = ts.map (·.value) := by
    rw [List.map_map]
    exact List.map_congr_left fun t _ => t.value_displayed
  show (⟨_, _, _, _, _⟩ : Version) = ⟨_, _, _, _, _⟩
  congr 1
  · exact hcomponent 0
  · exact hcomponent 1
  · exact hcomponent 2
  · exact hvalues w.pre
  · exact hvalues w.build

theorem parse_toString : Version.parse (toString w.version) = .ok w.version := by
  have hparse : Version.parse (String.ofList w.displayed.chars) = .ok w.displayed.version :=
    w.displayed.spells_chars.parse_eq
  rw [w.chars_displayed, w.version_displayed] at hparse
  exact hparse

theorem toString_eq_iff (w w' : VersionText) :
    toString w.version = toString w'.version ↔ w.version = w'.version := by
  constructor
  · intro h
    have hparse : Version.parse (toString w.version) = .ok w'.version := by
      rw [h, w'.parse_toString]
    exact Except.ok.inj (w.parse_toString.symm.trans hparse)
  · intro h
    rw [h]

end VersionText

namespace Version

def withoutBuild (v : Version) : Version := { v with build := [] }

theorem precedence_eq_iff_withoutBuild {v w : Version} :
    v.precedence w = .eq ↔ v.withoutBuild = w.withoutBuild := by
  rw [precedence_eq_iff]
  simp [withoutBuild]

/-- What is read of a version's written form is the version. So two texts are read alike exactly if
they are written alike again, and name the same release exactly if they are without their build
data. -/
theorem toString_canonical {a b : String} {v w : Version} (ha : parse a = .ok v)
    (hb : parse b = .ok w) :
    parse (toString v) = .ok v ∧ (parse a = parse b ↔ toString v = toString w) ∧
      (sameVersion a b = true ↔ toString v.withoutBuild = toString w.withoutBuild) := by
  obtain ⟨t, -, rfl⟩ := VersionText.exists_spells_of_parse ha
  obtain ⟨u, -, rfl⟩ := VersionText.exists_spells_of_parse hb
  refine ⟨t.parse_toString, ?_, ?_⟩
  · rw [ha, hb, VersionText.toString_eq_iff, Except.ok.injEq]
  · -- emptying the build data of a version that was read gives one that could be read
    have hplain : toString t.version.withoutBuild = toString u.version.withoutBuild ↔
        t.version.withoutBuild = u.version.withoutBuild :=
      VersionText.toString_eq_iff { t with build := [] } { u with build := [] }
    rw [sameVersion_of_parse ha hb, beq_iff_eq, precedence_eq_iff_withoutBuild, hplain]

theorem toString_canonical_short :
    let v : Version := ⟨1, 28, 0, [.word "rc", .number 7], [.word "18446744073709551616"]⟩
    parse "01.28-rc.007+18446744073709551616" = .ok v ∧
      parse "v1.28.0-rc.7" = .ok ⟨1, 28, 0, [.word "rc", .number 7], []⟩ ∧
      parse (toString v) = .ok v ∧ toString v = "v1.28.0-rc.7+18446744073709551616" ∧
      sameVersion "01.28-rc.007+18446744073709551616" "v1.28.0-rc.7" = true :=
  have hlong : parse "01.28-rc.007+18446744073709551616" =
    .ok ⟨1, 28, 0, [.word "rc", .number 7], [.word "18446744073709551616"]⟩ := by decide +kernel
  have hplain : parse "v1.28.0-rc.7" = .ok ⟨1, 28, 0, [.word "rc", .number 7], []⟩ := by
    decide +kernel
  have h := toString_canonical hlong hplain
  ⟨hlong, hplain, h.1, by decide +kernel, h.2.2.2 (by decide +kernel)⟩

end Version
end Rollout
