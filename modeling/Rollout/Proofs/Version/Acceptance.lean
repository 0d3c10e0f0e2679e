import Rollout.Proofs.Version.Shipping

/-!
Which of the texts with the mark are releases. A plain version has no plus sign in it, so the first
mark of a revision in a text is the one behind the version, and there is one way at most to read a
text as a release. Main statement: just these texts are accepted, and what they ship is no release
and ships itself.
-/
namespace Rollout
open Text

def IsPlainVersion (text : String) : Prop :=
  ∃ v, Version.parse text = .ok v ∧ v.pre = [] ∧ v.build = []

/-- The text is a plain version, the mark of a revision and the number of the revision. -/
structure IsReleaseOf (s shipped : String) (revision : Numeral) : Prop where
  text : s = shipped ++ revisionMark ++ String.ofList revision.chars
  plain : IsPlainVersion shipped

theorem IsPlainVersion.mem {k : String} (h : IsPlainVersion k) {c : Char} (hc : c ∈ k.toList) :
    isBlank c = true ∨ c = 'v' ∨ c.isDigit = true ∨ c = '.' := by
  obtain ⟨v, hparse, hpre, hbuild⟩ := h
  obtain ⟨w, ⟨before, after, hbefore, hafter, htext⟩, rfl⟩ :=
    VersionText.exists_spells_of_parse hparse
  have hbody : w.body = w.core := by
    have hwpre : w.pre = [] := List.map_eq_nil_iff.1 hpre
    have hwbuild : w.build = [] := List.map_eq_nil_iff.1 hbuild
    simp [VersionText.body, hwpre, hwbuild, VersionText.tail]
  rw [htext, List.mem_append, List.mem_append] at hc
  rcases hc with hc | hc | hc
  · exact .inl (hbefore c hc)
  · unfold VersionText.chars at hc
    rw [hbody] at hc
    split at hc
    · rcases List.mem_cons.1 hc with rfl | hc
      · exact .inr (.inl rfl)
      · exact .inr (.inr (w.mem_core hc))
    · exact .inr (.inr (w.mem_core hc))
  · exact .inl (hafter c hc)

theorem IsPlainVersion.not_mem {k : String} (h : IsPlainVersion k) {c : Char}
    (hblank : isBlank c = false) (hv : c ≠ 'v') (hdigit : c.isDigit = false) (hdot : c ≠ '.') :
    c ∉ k.toList := by
  intro hc
  rcases h.mem hc with h' | h' | h' | h'
  · exact absurd (hblank.symm.trans h') (by decide)
  · exact hv h'
  · exact absurd (hdigit.symm.trans h') (by decide)
  · exact hdot h'

namespace IsReleaseOf
variable {s shipped : String} {revision : Numeral}

theorem cut (h : IsReleaseOf s shipped revision) :
    cutOn? revisionMark.toList s.toList = some (shipped.toList, revision.chars) := by
  have hplus : '+' ∉ shipped.toList :=
    h.plain.not_mem (by decide) (by decide) (by decide) (by decide)
  have htext : s.toList = shipped.toList ++ (revisionMark.toList ++ revision.chars) := by
    rw [h.text]
    simp
  rw [htext]
  exact cutOn?_append hplus _ _

theorem isRelease (h : IsReleaseOf s shipped revision) : isRelease s = true := by
  rw [Rollout.isRelease, isSome_cutOn?_iff, h.text]
  exact ⟨shipped.toList ++ ['+'], 'r' :: revision.chars, by simp [releaseMark, revisionMark]⟩

theorem unique {shipped' : String} {revision' : Numeral} (h : IsReleaseOf s shipped revision)
    (h' : IsReleaseOf s shipped' revision') : shipped = shipped' ∧ revision = revision' := by
  obtain ⟨hshipped, hrevision⟩ := Prod.mk.inj (Option.some.inj (h.cut.symm.trans h'.cut))
  refine ⟨String.toList_injective hshipped, ?_⟩
  cases revision
  cases revision'
  cases hrevision
  rfl

theorem shippedVersion_eq (h : IsReleaseOf s shipped revision) :
    shippedVersion s = .ok (String.ofList ('v' :: dropLetters shipped.toList)) := by
  obtain ⟨⟨major, minor, patch, pre, build⟩, hparse, hpre, hbuild⟩ := h.plain
  obtain rfl : pre = [] := hpre
  obtain rfl : build = [] := hbuild
  simp only [shippedVersion, h.isRelease, h.cut, revision.isNumeral, String.ofList_toList,
    hparse, ↓reduceIte]

end IsReleaseOf

theorem exists_isReleaseOf {s k : String} (hs : isRelease s = true) (h : shippedVersion s = .ok k) :
    ∃ shipped revision, IsReleaseOf s shipped revision := by
  obtain ⟨r, -⟩ := exists_releaseText hs h
  refine ⟨String.ofList r.shipped, r.revision, ?_, r.version.version, r.parse_shipped, ?_, ?_⟩
  · rw [← String.toList_inj, r.text]
    simp
  · exact List.map_eq_nil_iff.2 r.plain.1
  · exact List.map_eq_nil_iff.2 r.plain.2

theorem error_of_shippedVersion {s : String} {e : VersionError} (h : shippedVersion s = .error e) :
    e = .notARelease s := by
  unfold shippedVersion at h
  split at h
  · split at h
    · exact (Except.error.inj h).symm
    · split at h
      · exact nomatch h
      · exact (Except.error.inj h).symm
  · exact nomatch h

theorem shippedVersion_of_not_isRelease {s : String} (h : isRelease s = false) :
    shippedVersion s = .ok s := by
  rw [shippedVersion, h]
  rfl

theorem IsPlainVersion.not_isRelease_lettered {k : String} (h : IsPlainVersion k) :
    isRelease (String.ofList ('v' :: dropLetters k.toList)) = false := by
  have hr : 'r' ∉ 'v' :: dropLetters k.toList := by
    rw [List.mem_cons, not_or]
    refine ⟨by decide, fun hmem => ?_⟩
    exact h.not_mem (by decide) (by decide) (by decide) (by decide)
      ((List.dropWhile_sublist _).mem hmem)
  rw [← Bool.not_eq_true, isRelease, isSome_cutOn?_iff, String.toList_ofList]
  intro hmarked
  exact hr (hmarked.subset (by decide))

theorem not_isRelease_of_shippedVersion {s k : String} (h : shippedVersion s = .ok k) :
    isRelease k = false := by
  cases hs : isRelease s with
  | false =>
    obtain rfl := Except.ok.inj ((shippedVersion_of_not_isRelease hs).symm.trans h)
    exact hs
  | true =>
    obtain ⟨shipped, revision, hrelease⟩ := exists_isReleaseOf hs h
    obtain rfl := Except.ok.inj (hrelease.shippedVersion_eq.symm.trans h)
    exact hrelease.plain.not_isRelease_lettered

/-- Of the texts with the mark just the releases are accepted, each of which can be read as a
release in one way only; all others are refused as they were given. What is accepted, with the mark
or without it, is then a version of its own: shipping it again gives the same text. -/
theorem shippedVersion_accepts_releases :
    (∀ s : String, releaseMark.toList <:+: s.toList →
      ((∃ k, shippedVersion s = .ok k) ↔
          ∃ shipped revision, IsReleaseOf s shipped revision) ∧
        (∀ shipped revision shipped' revision', IsReleaseOf s shipped revision →
          IsReleaseOf s shipped' revision' → shipped = shipped' ∧ revision = revision') ∧
        ((¬∃ shipped revision, IsReleaseOf s shipped revision) →
          shippedVersion s = .error (.notARelease s))) ∧
      ∀ s k : String, shippedVersion s = .ok k →
        isRelease k = false ∧ shippedVersion k = .ok k := by
  refine ⟨?_, ?_⟩
  · intro s hmark
    have hs : isRelease s = true := isSome_cutOn?_iff.2 hmark
    refine ⟨⟨?_, ?_⟩, fun _ _ _ _ => IsReleaseOf.unique, ?_⟩
    · rintro ⟨k, hk⟩
      exact exists_isReleaseOf hs hk
    · rintro ⟨shipped, revision, h⟩
      exact ⟨_, h.shippedVersion_eq⟩
    · intro hnone
      cases h : shippedVersion s with
      | error e => rw [error_of_shippedVersion h]
      | ok k => exact absurd (exists_isReleaseOf hs h) hnone
  · intro s k h
    have hk : isRelease k = false := not_isRelease_of_shippedVersion h
    exact ⟨hk, shippedVersion_of_not_isRelease hk⟩

theorem shippedVersion_accepts_releases_padded :
    (∃ k, shippedVersion "v01.28 +rke2r007" = .ok k ∧ isRelease k = false ∧
      shippedVersion k = .ok k) ∧
      shippedVersion "1.28.5+rke2r1+rke2r2" = .error (.notARelease "1.28.5+rke2r1+rke2r2") := by
  have hmark : releaseMark.toList <:+: "v01.28 +rke2r007".toList := by decide +kernel
  have hmarks : releaseMark.toList <:+: "1.28.5+rke2r1+rke2r2".toList := by decide +kernel
  have hrelease : IsReleaseOf "v01.28 +rke2r007" "v01.28 " ⟨['0', '0', '7'], rfl⟩ :=
    ⟨by decide +kernel, ⟨1, 28, 0, [], []⟩, by decide +kernel, rfl, rfl⟩
  obtain ⟨haccepts, hagain⟩ := shippedVersion_accepts_releases
  obtain ⟨k, hk⟩ := (haccepts _ hmark).1.2 ⟨_, _, hrelease⟩
  refine ⟨⟨k, hk, hagain _ k hk⟩, (haccepts _ hmarks).2.2 ?_⟩
  rintro ⟨shipped, revision, h⟩
  have hcut : cutOn? revisionMark.toList "1.28.5+rke2r1+rke2r2".toList =
      some ("1.28.5".toList, "1+rke2r2".toList) := by
    decide +kernel
  have hrevision : "1+rke2r2".toList = revision.chars :=
    (Prod.mk.inj (Option.some.inj (hcut.symm.trans h.cut))).2
  have hnumeral : isNumeral "1+rke2r2".toList = true := hrevision ▸ revision.isNumeral
  exact absurd hnumeral (by decide)

end Rollout
