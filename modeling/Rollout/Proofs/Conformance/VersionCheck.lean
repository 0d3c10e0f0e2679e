import Rollout.Conformance
import Rollout.Proofs.Version.Shipping

/-!
The version check: both ways of comparing a report with a release come to the precedence of what it
ships, where that can be read.
-/
namespace Rollout.Machine

theorem not_reportsVersion_of_none {m : Machine} (h : m.spec.version = none)
    (desired : Option String) : m.reportsVersion desired = false := by
  unfold reportsVersion
  rw [h]

theorem reportsVersion_of_isRelease {m : Machine} {r d : String} (hr : m.spec.version = some r)
    (h : isRelease r = true) : m.reportsVersion (some d) = sameVersion r d := by
  unfold reportsVersion
  simp only [hr, Option.getD_some, h]
  rfl

theorem reportsVersion_of_shipped {m : Machine} {r d k : String} (hr : m.spec.version = some r)
    (h : isRelease r = false) (hk : shippedVersion d = .ok k) :
    m.reportsVersion (some d) = sameVersion r k := by
  unfold reportsVersion
  simp only [hr, Option.getD_some, h, hk]
  rfl

theorem reportsVersion_self {m : Machine} {d : String} (h : m.spec.version = some d) :
    m.reportsVersion (some d) = true := by
  cases hd : isRelease d with
  | true =>
    rw [reportsVersion_of_isRelease h hd]
    exact sameVersion_self d
  | false =>
    -- what is no release ships itself
    have hshipped : shippedVersion d = .ok d := by simp [shippedVersion, hd]
    rw [reportsVersion_of_shipped h hd hshipped]
    exact sameVersion_self d

theorem reportsVersion_of_parse {m : Machine} {r : String} {v : Version}
    (hr : m.spec.version = some r) (hv : Version.parse r = .ok v) (k : CoreText) (n : Numeral) :
    m.reportsVersion (some (k.release n)) = (v.precedence (k.version []) == .eq) := by
  cases h : isRelease r with
  | true =>
    -- precedence leaves build data out, so the revision number is not seen here
    rw [reportsVersion_of_isRelease hr h, sameVersion_of_parse hv (Version.parse_release k n)]
    rfl
  | false =>
    rw [reportsVersion_of_shipped hr h (k.shippedVersion_release n)]
    exact sameVersion_of_parse hv (Version.parse_chars { k with letter := true })

/-- A release is conformed to by the reports whose numbers are its own and which are no
pre-releases. -/
theorem reportsVersion_release_iff (k : CoreText) (n : Numeral) (m : Machine) :
    (∀ r v, m.spec.version = some r → Version.parse r = .ok v →
      (m.reportsVersion (some (k.release n)) = true ↔
        v.major = k.major.value ∧ v.minor = k.minor.value ∧ v.patch = k.patch.value ∧
          v.pre = [])) ∧
      (m.spec.version = none → m.reportsVersion (some (k.release n)) = false) := by
  constructor
  · intro r v hr hv
    rw [reportsVersion_of_parse hr hv, beq_iff_eq, Version.precedence_eq_iff]
    rfl
  · intro h
    exact not_reportsVersion_of_none h _

theorem reportsVersion_release_padded :
    Version.parse " v01.28.5+k3s1\n" = .ok ⟨1, 28, 5, [], [.word "k3s1"]⟩ ∧
      Machine.reportsVersion { spec := { version := some " v01.28.5+k3s1\n" } }
        (some "1.28.5+rke2r2") = true ∧
      Machine.reportsVersion { spec := { version := none } } (some "1.28.5+rke2r2") = false :=
  let k : CoreText := ⟨false, .ofNat 1, .ofNat 28, .ofNat 5, by decide⟩
  have hparse : Version.parse " v01.28.5+k3s1\n" = .ok ⟨1, 28, 5, [], [.word "k3s1"]⟩ := rfl
  have htext : k.release (.ofNat 2) = "1.28.5+rke2r2" := rfl
  ⟨hparse, htext ▸ ((reportsVersion_release_iff k (.ofNat 2) _).1 _ _ rfl hparse).2 (by decide),
    htext ▸ (reportsVersion_release_iff k (.ofNat 2) _).2 rfl⟩

end Rollout.Machine

namespace Rollout
open Text

/-- What a release ships is read as the version before the mark exactly if the release has no blank
character in front, and then it has the release's precedence and is conformed to by the reports that
have it too. With a blank character in front it is no version, and is conformed to by what stands
before the mark alone. -/
theorem parse_shippedVersion_iff {s k : String} (hs : isRelease s = true)
    (hk : shippedVersion s = .ok k) :
    ∃ (shipped revision : List Char) (v : Version),
      cutOn? revisionMark.toList s.toList = some (shipped, revision) ∧
        Version.parse (String.ofList shipped) = .ok v ∧
        (Version.parse k = .ok v ↔ startsBlank s.toList = false) ∧
        (startsBlank s.toList = true → ∀ u, Version.parse k ≠ .ok u) ∧
        (∀ w, Version.parse s = .ok w → v.precedence w = .eq) ∧
        ∀ (m : Machine) (reported : String) (u : Version), m.spec.version = some reported →
          isRelease reported = false → Version.parse reported = .ok u →
          (startsBlank s.toList = false →
            (m.reportsVersion (some s) = true ↔ u.precedence v = .eq)) ∧
            (startsBlank s.toList = true →
              (m.reportsVersion (some s) = true ↔ dropLetters reported.toList = shipped)) := by
  obtain ⟨r, rfl⟩ := exists_releaseText hs hk
  refine ⟨r.shipped, r.revision.chars, r.version.version, r.cut, r.parse_shipped, ?_,
    r.not_parse_written, fun w => r.precedence_eq, ?_⟩
  · refine ⟨?_, r.parse_written⟩
    intro hparse
    rw [← Bool.not_eq_true]
    intro hblank
    exact r.not_parse_written hblank _ hparse
  · intro m reported u hm hreported hu
    rw [Machine.reportsVersion_of_shipped hm hreported hk]
    constructor
    · intro hfront
      rw [sameVersion_of_parse hu (r.parse_written hfront), beq_iff_eq]
    · intro hfront
      rw [r.sameVersion_written_of_startsBlank hu hfront, beq_iff_eq]

theorem parse_shippedVersion_iff_short :
    isRelease "1.28 +rke2r07" = true ∧ shippedVersion "1.28 +rke2r07" = .ok "v1.28 " ∧
      Version.parse "v1.28 " = .ok ⟨1, 28, 0, [], []⟩ ∧
      Machine.reportsVersion { spec := { version := some "v1.28.0" } } (some "1.28 +rke2r07") =
        true := by
  have hs : isRelease "1.28 +rke2r07" = true := by decide +kernel
  have hk : shippedVersion "1.28 +rke2r07" = .ok "v1.28 " := by decide +kernel
  have hreport : Version.parse "v1.28.0" = .ok ⟨1, 28, 0, [], []⟩ := by decide +kernel
  obtain ⟨shipped, revision, v, hcut, hparse, hiff, -, -, hreports⟩ :=
    parse_shippedVersion_iff hs hk
  obtain ⟨rfl, -⟩ : "1.28 ".toList = shipped ∧ "07".toList = revision := by
    have hfirst :
        cutOn? revisionMark.toList "1.28 +rke2r07".toList = some ("1.28 ".toList, "07".toList) := by
      decide +kernel
    exact Prod.mk.inj (Option.some.inj (hfirst.symm.trans hcut))
  have hv : Version.parse (String.ofList "1.28 ".toList) = .ok ⟨1, 28, 0, [], []⟩ := by
    decide +kernel
  obtain rfl := Except.ok.inj (hv.symm.trans hparse)
  exact ⟨hs, hk, hiff.2 (by decide +kernel),
    ((hreports _ "v1.28.0" _ rfl (by decide +kernel) hreport).1 (by decide +kernel)).2
      (by decide +kernel)⟩

/-- With a blank character in front what is shipped is no version, and a machine that reports the
orchestrator's version does not conform, where one that reports the release does. -/
theorem not_parse_shippedVersion_blank_in_front :
    Version.parse " v1.28.5+rke2r1" = .ok ⟨1, 28, 5, [], [.word "rke2r1"]⟩ ∧
      shippedVersion " v1.28.5+rke2r1" = .ok "v v1.28.5" ∧ isVersion "v v1.28.5" = false ∧
      Machine.reportsVersion { spec := { version := some "v1.28.5" } } (some " v1.28.5+rke2r1") =
        false ∧
      Machine.reportsVersion { spec := { version := some "v1.28.5+rke2r1" } }
        (some " v1.28.5+rke2r1") = true := by
  decide +kernel

end Rollout
