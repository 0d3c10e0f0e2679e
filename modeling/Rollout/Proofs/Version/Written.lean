import Rollout.Proofs.Version.Letters

/-! Releases as they are written, what is read from them, and what they ship. -/
namespace Rollout
open Text

structure CoreText where
  letter : Bool
  major : Numeral
  minor : Numeral
  patch : Numeral
  fits : major.value ≤ maxWord ∧ minor.value ≤ maxWord ∧ patch.value ≤ maxWord

namespace CoreText

def numbers (k : CoreText) : List Char :=
  k.major.chars ++ '.' :: (k.minor.chars ++ '.' :: k.patch.chars)

def chars (k : CoreText) : List Char :=
  if k.letter then 'v' :: k.numbers else k.numbers

def text (letter : Bool) (k : CoreText) : String :=
  String.ofList ({ k with letter } : CoreText).chars

def release (k : CoreText) (revision : Numeral) : String :=
  String.ofList (k.chars ++ (revisionMark.toList ++ revision.chars))

def version (k : CoreText) (build : List Identifier) : Version :=
  ⟨k.major.value, k.minor.value, k.patch.value, [], build⟩

variable (k : CoreText)

theorem mem_numbers {c : Char} (h : c ∈ k.numbers) : c.isDigit = true ∨ c = '.' := by
  simp only [numbers, List.mem_append, List.mem_cons] at h
  rcases h with h | rfl | h | rfl | h
  · exact .inl (isDigit_of_mem_numeral k.major.isNumeral h)
  · exact .inr rfl
  · exact .inl (isDigit_of_mem_numeral k.minor.isNumeral h)
  · exact .inr rfl
  · exact .inl (isDigit_of_mem_numeral k.patch.isNumeral h)

theorem not_mem_numbers {c : Char} (h : c.isDigit = false) (hd : c ≠ '.') : c ∉ k.numbers := by
  intro hc
  rcases k.mem_numbers hc with hdigit | hdot
  · rw [h] at hdigit
    exact absurd hdigit (by decide)
  · exact hd hdot

theorem mem_chars {c : Char} (h : c ∈ k.chars) : c = 'v' ∨ c ∈ k.numbers := by
  unfold chars at h
  split at h
  · exact List.mem_cons.1 h
  · exact .inr h

theorem not_mem_chars {c : Char} (h : c.isDigit = false) (hd : c ≠ '.') (hv : c ≠ 'v') :
    c ∉ k.chars := by
  intro hc
  rcases k.mem_chars hc with hletter | hnumbers
  · exact hv hletter
  · exact k.not_mem_numbers h hd hnumbers

def withBuild (build : List IdentifierText) : VersionText where
  letter := k.letter
  components := [⟨k.major, k.fits.1⟩, ⟨k.minor, k.fits.2.1⟩, ⟨k.patch, k.fits.2.2⟩]
  pre := []
  build := build
  count := by simp

theorem body_withBuild (build : List IdentifierText) :
    (k.withBuild build).body = k.numbers ++ VersionText.tail '+' build := by
  simp [VersionText.body, VersionText.core, withBuild, numbers, joinWith, VersionText.tail]

theorem chars_withBuild (build : List IdentifierText) :
    (k.withBuild build).chars = k.chars ++ VersionText.tail '+' build := by
  unfold VersionText.chars chars
  rw [k.body_withBuild]
  cases hletter : k.letter <;> simp [withBuild, hletter]

theorem dropLetters_chars : dropLetters k.chars = k.numbers := by
  have h := (k.withBuild []).dropLetters_chars_append []
  simpa only [chars_withBuild, body_withBuild, VersionText.tail, List.append_nil] using h

end CoreText

def Numeral.revision (n : Numeral) : IdentifierText where
  chars := 'r' :: 'k' :: 'e' :: '2' :: 'r' :: n.chars
  ne_nil := List.cons_ne_nil _ _
  isPart := by
    simp only [List.forall_mem_cons]
    refine ⟨rfl, rfl, rfl, rfl, rfl, ?_⟩
    intro c hc
    simp [Identifier.isPart, Char.isAlphanum, isDigit_of_mem_numeral n.isNumeral hc]

theorem Numeral.value_revision (n : Numeral) :
    n.revision.value = .word (String.ofList ('r' :: 'k' :: 'e' :: '2' :: 'r' :: n.chars)) := by
  -- the first character is no digit, so this is a word however long the number is
  have hword : n.revision.chars.all Char.isDigit = false := rfl
  unfold IdentifierText.value
  rw [if_neg (by simp [hword])]
  rfl

namespace Version
variable (k : CoreText)

theorem parse_withBuild (build : List IdentifierText) :
    parse (String.ofList (k.chars ++ VersionText.tail '+' build)) =
      .ok (k.version (build.map (·.value))) := by
  rw [← k.chars_withBuild]
  exact (k.withBuild build).spells_chars.parse_eq

theorem parse_chars : parse (String.ofList k.chars) = .ok (k.version []) := by
  have hparse : parse (String.ofList (k.chars ++ [])) = .ok (k.version []) := parse_withBuild k []
  rwa [List.append_nil] at hparse

theorem parse_release (n : Numeral) :
    parse (k.release n) = .ok
      (k.version [.word (String.ofList ('r' :: 'k' :: 'e' :: '2' :: 'r' :: n.chars))]) := by
  rw [← n.value_revision]
  exact parse_withBuild k [n.revision]

end Version

namespace CoreText
variable (k : CoreText)

theorem isRelease_release (n : Numeral) : isRelease (k.release n) = true := by
  rw [isRelease, isSome_cutOn?_iff, release, String.toList_ofList]
  exact ⟨k.chars ++ ['+'], 'r' :: n.chars, by simp [releaseMark, revisionMark]⟩

theorem shippedVersion_release (n : Numeral) :
    shippedVersion (k.release n) = .ok (k.text true) := by
  have hcut : cutOn? revisionMark.toList (k.release n).toList = some (k.chars, n.chars) := by
    rw [release, String.toList_ofList]
    exact cutOn?_append (k.not_mem_chars (c := '+') (by decide) (by decide) (by decide)) _ _
  simp only [shippedVersion, k.isRelease_release, hcut, n.isNumeral, Version.parse_chars k, version,
    k.dropLetters_chars]
  rfl

end CoreText
end Rollout
