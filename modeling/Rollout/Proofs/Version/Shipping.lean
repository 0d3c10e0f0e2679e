import Rollout.Proofs.Version.Equivalence
import Rollout.Proofs.Version.Written

/-!
The version that a release ships, where the release is not written in its usual form. What is
checked may have blank characters around it, and what is written has the letter put in front of
them: so the shipped version can be read again exactly if there is no blank character in front of
the release.
-/
namespace Rollout
open Text

/-- A release taken apart at its first mark: the version that it ships, which has neither
pre-release nor build data, and the revision number. -/
structure ReleaseText (s : String) where
  shipped : List Char
  revision : Numeral
  version : VersionText
  cut : cutOn? revisionMark.toList s.toList = some (shipped, revision.chars)
  spells : version.Spells (String.ofList shipped)
  plain : version.pre = [] ∧ version.build = []

def ReleaseText.written {s : String} (r : ReleaseText s) : String :=
  String.ofList ('v' :: dropLetters r.shipped)

theorem exists_releaseText {s k : String} (hs : isRelease s = true) (h : shippedVersion s = .ok k) :
    ∃ r : ReleaseText s, r.written = k := by
  rw [shippedVersion, if_pos hs] at h
  split at h
  next => cases h
  next shipped revision hcut =>
    split at h
    next major minor patch hrevision hparse =>
      obtain ⟨w, hw, hversion⟩ := VersionText.exists_spells_of_parse hparse
      have hpre : w.pre = [] := List.map_eq_nil_iff.1 (congrArg Version.pre hversion)
      have hbuild : w.build = [] := List.map_eq_nil_iff.1 (congrArg Version.build hversion)
      exact ⟨⟨shipped, ⟨revision, hrevision⟩, w, hcut, hw, hpre, hbuild⟩,
        Except.ok.inj h⟩
    next => cases h

theorem VersionText.chars_withBuild {w : VersionText} (h : w.build = [])
    (build : List IdentifierText) :
    ({ w with build } : VersionText).chars = w.chars ++ tail '+' build := by
  have hbody : ({ w with build } : VersionText).body = w.body ++ tail '+' build := by
    simp only [body, h, tail, List.append_nil]
    rfl
  unfold chars
  rw [hbody]
  cases w.letter <;> rfl

namespace ReleaseText
variable {s : String} (r : ReleaseText s)

theorem text : s.toList = r.shipped ++ (revisionMark.toList ++ r.revision.chars) :=
  cutOn?_eq_some r.cut

theorem parse_shipped : Version.parse (String.ofList r.shipped) = .ok r.version.version :=
  r.spells.parse_eq

theorem shipped_ne_nil : r.shipped ≠ [] := by
  intro h
  exact Version.ne_empty_of_parse r.parse_shipped (by rw [h])

theorem startsBlank_shipped : startsBlank r.shipped = startsBlank s.toList := by
  rw [r.text, startsBlank_append r.shipped_ne_nil]

theorem spells_of_parse {v : Version} (h : Version.parse s = .ok v) :
    ({ r.version with build := [r.revision.revision] } : VersionText).Spells s := by
  obtain ⟨w, hw, -⟩ := VersionText.exists_spells_of_parse h
  obtain ⟨before, after, hbefore, hafter, hshipped⟩ := r.spells
  rw [String.toList_ofList] at hshipped
  -- blank characters behind it would stand before the mark, inside the release
  have hnone : after = [] := by
    cases after with
    | nil => rfl
    | cons c cs =>
      have htext : s.toList =
          (before ++ r.version.chars) ++ c ::
              (cs ++ (revisionMark.toList ++ r.revision.chars)) := by
        rw [r.text, hshipped]
        simp
      rcases hw.blank_outside htext (hafter c (List.mem_cons_self ..)) with hfront | hback
      · obtain ⟨d, hd⟩ := List.exists_mem_of_ne_nil _ r.version.chars_ne_nil
        have hblank : isBlank d = true := hfront d (List.mem_append_right _ hd)
        rw [r.version.not_blank_of_mem_chars hd] at hblank
        exact absurd hblank (by decide)
      · have hblank : isBlank '+' = true := hback '+' (by simp [revisionMark])
        exact absurd hblank (by decide)
  refine ⟨before, [], hbefore, List.forall_mem_nil _, ?_⟩
  rw [VersionText.chars_withBuild r.plain.2, r.text, hshipped, hnone]
  simp [VersionText.tail, joinWith, Numeral.revision, revisionMark]

theorem precedence_eq {v : Version} (h : Version.parse s = .ok v) :
    r.version.version.precedence v = .eq := by
  obtain rfl := Except.ok.inj (h.symm.trans (r.spells_of_parse h).parse_eq)
  exact Version.precedence_eq_iff.2 ⟨rfl, rfl, rfl, rfl⟩

theorem parse_written (hs : startsBlank s.toList = false) :
    Version.parse r.written = .ok r.version.version := by
  have hshipped : startsBlank (String.ofList r.shipped).toList = false := by
    rw [String.toList_ofList, r.startsBlank_shipped, hs]
  have hparse := Version.parse_letter_dropLetters r.parse_shipped hshipped
  rwa [String.toList_ofList] at hparse

theorem not_parse_written (hs : startsBlank s.toList = true) (v : Version) :
    Version.parse r.written ≠ .ok v := by
  have hshipped : startsBlank r.shipped = true := r.startsBlank_shipped.trans hs
  rw [written, dropLetters_of_startsBlank hshipped]
  exact Version.not_parse_letter_of_startsBlank hshipped

theorem dropLetters_written (hs : startsBlank s.toList = true) :
    dropLetters r.written.toList = r.shipped := by
  have hshipped : startsBlank r.shipped = true := r.startsBlank_shipped.trans hs
  rw [written, String.toList_ofList, dropLetters_of_startsBlank hshipped]
  exact dropLetters_of_startsBlank hshipped

theorem sameVersion_written_of_startsBlank {reported : String} {u : Version}
    (hu : Version.parse reported = .ok u) (hs : startsBlank s.toList = true) :
    sameVersion reported r.written = (dropLetters reported.toList == r.shipped) := by
  have hnonempty : ¬(reported = "" ∨ r.written = "") := by
    have hwritten : r.written ≠ "" := by
      intro h
      exact nomatch String.ofList_eq_empty_iff.1 h
    simp [Version.ne_empty_of_parse hu, hwritten]
  have hversion : ¬(isVersion reported = true ∧ isVersion r.written = true) := by
    rintro ⟨-, hwritten⟩
    obtain ⟨v, hv⟩ := isVersion_iff.1 hwritten
    exact r.not_parse_written hs v hv
  rw [sameVersion_of_not_versions hnonempty hversion, r.dropLetters_written hs]

end ReleaseText

end Rollout
