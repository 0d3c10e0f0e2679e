import Rollout.Proofs.Conformance.Verdict
import Rollout.Proofs.Conformance.VersionCheck

/-!
What a machine's verdict owes to the revision number of the release that is asked for. The version
check never sees it. The bootstrap check does where the release stands in the agent's configuration,
because that is compared with the snapshot as it is written.
-/
namespace Rollout

theorem CoreText.release_injective {k : CoreText} {n n' : Numeral}
    (h : k.release n = k.release n') : n.chars = n'.chars := by
  have hlist : (k.release n).toList = (k.release n').toList := congrArg String.toList h
  unfold release at hlist
  rw [String.toList_ofList, String.toList_ofList] at hlist
  exact List.append_cancel_left (List.append_cancel_left hlist)

theorem CoreText.release_ne_empty (k : CoreText) (n : Numeral) : k.release n ≠ "" :=
  Version.ne_empty_of_parse (Version.parse_release k n)

namespace ControlPlaneSpec

def VersionFromAgent (s : ControlPlaneSpec) : Prop := s.version.filter (· ≠ "") = none

instance {s : ControlPlaneSpec} : Decidable s.VersionFromAgent :=
  inferInstanceAs (Decidable (_ = none))

def withVersion (s : ControlPlaneSpec) (text : String) : ControlPlaneSpec :=
  if s.VersionFromAgent then { s with bootstrap.agent.version := some text }
  else { s with version := some text }

theorem desiredVersion_of_agent {s : ControlPlaneSpec} (h : s.VersionFromAgent) :
    s.desiredVersion = s.bootstrap.agent.version := by
  unfold desiredVersion
  rw [h, Option.none_or]

theorem withVersion_of_agent {s : ControlPlaneSpec} (h : s.VersionFromAgent) (text : String) :
    s.withVersion text = { s with bootstrap.agent.version := some text } := if_pos h

theorem withVersion_of_not_agent {s : ControlPlaneSpec} (h : ¬s.VersionFromAgent) (text : String) :
    s.withVersion text = { s with version := some text } := if_neg h

theorem desiredVersion_withVersion (s : ControlPlaneSpec) {text : String} (h : text ≠ "") :
    (s.withVersion text).desiredVersion = some text := by
  by_cases ha : s.VersionFromAgent
  · rw [s.withVersion_of_agent ha]
    exact desiredVersion_of_agent (s := { s with bootstrap.agent.version := some text }) ha
  · rw [s.withVersion_of_not_agent ha]
    unfold desiredVersion
    simp [h]

@[simp] theorem server_withVersion (s : ControlPlaneSpec) (text : String) :
    (s.withVersion text).server = s.server := by
  unfold withVersion
  split <;> rfl

@[simp] theorem machineTemplate_withVersion (s : ControlPlaneSpec) (text : String) :
    (s.withVersion text).machineTemplate = s.machineTemplate := by
  unfold withVersion
  split <;> rfl

theorem bootstrap_withVersion_eq_iff {s : ControlPlaneSpec} {old new : String}
    (h : s.desiredVersion = some old) :
    (s.withVersion new).bootstrap = s.bootstrap ↔ (s.VersionFromAgent → new = old) := by
  by_cases ha : s.VersionFromAgent
  · rw [desiredVersion_of_agent ha] at h
    rw [s.withVersion_of_agent ha]
    constructor
    · intro he _
      have hagent : some new = s.bootstrap.agent.version := congrArg (fun c => c.agent.version) he
      rw [h] at hagent
      exact Option.some.inj hagent
    · intro he
      rw [he ha, ← h]
  · rw [s.withVersion_of_not_agent ha]
    exact iff_of_true rfl fun h => absurd h ha

end ControlPlaneSpec

namespace Conformance

/-- What has to come together for a change of the bootstrap configuration to show in the verdict:
all other checks pass, and a snapshot is compared that fits the old configuration or the new one. -/
structure Turns (desired desired' : ControlPlaneSpec) (known : Snapshots) (m : Machine) : Prop where
  reported : m.reportsVersion desired.desiredVersion = true
  server : m.hasServerConfig desired.server = true
  lineage : m.isFromTemplate desired.machineTemplate.infrastructureRef known.infrastructure = true
  referred : m.spec.bootstrap.configRef ≠ none
  fits : ∃ o, known.bootstrapConfigs.get? m.key = some o ∧
    (BootstrapObject.normalized o = desired.bootstrap ∨
      BootstrapObject.normalized o = desired'.bootstrap)

theorem holds_eq_holds_iff {desired desired' : ControlPlaneSpec} {known : Snapshots} {m : Machine}
    (hversion : m.reportsVersion desired'.desiredVersion = m.reportsVersion desired.desiredVersion)
    (hserver : desired'.server = desired.server)
    (htemplate : desired'.machineTemplate = desired.machineTemplate) :
    holds desired' known m = holds desired known m ↔
      (desired'.bootstrap ≠ desired.bootstrap → ¬Turns desired desired' known m) := by
  constructor
  · intro hsame hne hturns
    obtain ⟨o, ho, hfits⟩ := hturns.fits
    have hold : holds desired known m = true ↔ BootstrapObject.normalized o = desired.bootstrap :=
      holds_iff_of_snapshot hturns.reported hturns.server hturns.lineage hturns.referred ho
    have hnew : holds desired' known m = true ↔
        BootstrapObject.normalized o = desired'.bootstrap :=
      holds_iff_of_snapshot (hversion.trans hturns.reported) (hserver ▸ hturns.server)
        (htemplate ▸ hturns.lineage)
        hturns.referred ho
    rw [hsame, hold] at hnew
    rcases hfits with hfits | hfits
    · exact hne ((hnew.1 hfits).symm.trans hfits)
    · exact hne (hfits.symm.trans (hnew.2 hfits))
  · intro hturns
    rw [Bool.eq_iff_iff, holds_eq_true_iff, holds_eq_true_iff, Machine.isBootstrapped_eq_true_iff,
      Machine.isBootstrapped_eq_true_iff, hversion, hserver, htemplate]
    by_cases hne : desired'.bootstrap = desired.bootstrap
    · rw [hne]
    · apply and_congr_right
      intro hreported
      apply and_congr_left
      intro hlineage
      apply and_congr_right
      intro hserved
      apply forall_congr'
      intro href
      apply forall₂_congr
      intro o ho
      -- the snapshot that is compared fits neither configuration
      have hnone : ¬(BootstrapObject.normalized o = desired.bootstrap ∨
          BootstrapObject.normalized o = desired'.bootstrap) := fun hfits =>
        hturns hne ⟨hreported, hserved, hlineage, href, o, ho, hfits⟩
      rw [not_or] at hnone
      exact iff_of_false hnone.2 hnone.1

/-- Another revision number leaves the verdict as it is, unless it stands in the agent's
configuration and turns the comparison with a snapshot. -/
theorem holds_revision_iff {desired : ControlPlaneSpec} {k : CoreText} {n : Numeral}
    (hdesired : desired.desiredVersion = some (k.release n)) (n' : Numeral) (known : Snapshots)
    {m : Machine} {r : String} {v : Version} (hreport : m.spec.version = some r)
    (hparse : Version.parse r = .ok v) :
    holds (desired.withVersion (k.release n')) known m = holds desired known m ↔
      (desired.VersionFromAgent → n'.chars ≠ n.chars →
        ¬Turns desired (desired.withVersion (k.release n')) known m) := by
  have hversion : m.reportsVersion (desired.withVersion (k.release n')).desiredVersion =
      m.reportsVersion desired.desiredVersion := by
    rw [desired.desiredVersion_withVersion (k.release_ne_empty n'), hdesired,
      Machine.reportsVersion_of_parse hreport hparse,
      Machine.reportsVersion_of_parse hreport hparse]
  have hchange : (desired.withVersion (k.release n')).bootstrap ≠ desired.bootstrap ↔
      desired.VersionFromAgent ∧ n'.chars ≠ n.chars := by
    have htext : k.release n' = k.release n ↔ n'.chars = n.chars := by
      constructor
      · exact CoreText.release_injective
      · intro h
        unfold CoreText.release
        rw [h]
    rw [Ne, ControlPlaneSpec.bootstrap_withVersion_eq_iff hdesired, Classical.not_imp, htext]
  rw [holds_eq_holds_iff hversion (desired.server_withVersion _)
    (desired.machineTemplate_withVersion _), hchange, and_imp]

def askingThroughAgent (version : String) : ControlPlaneSpec where
  bootstrap := { agent := { version := some version } }
  machineTemplate := { infrastructureRef := {} }
  version := some ""

theorem holds_revision_without_snapshot :
    let desired := askingThroughAgent "v1.28.5+rke2r1"
    let m := Machine.reporting "cp-0" "v1.28.5"
    desired.desiredVersion = some "v1.28.5+rke2r1" ∧
      Version.parse "v1.28.5" = .ok ⟨1, 28, 5, [], []⟩ ∧
      holds (desired.withVersion "v1.28.5+rke2r2") {} m = holds desired {} m :=
  let k : CoreText := ⟨true, .ofNat 1, .ofNat 28, .ofNat 5, by decide⟩
  have hnone (h : Turns (askingThroughAgent "v1.28.5+rke2r1")
      ((askingThroughAgent "v1.28.5+rke2r1").withVersion (k.release (.ofNat 2))) {} _) : False :=
    let ⟨_, ho, _⟩ := h.fits
    nomatch ho
  ⟨rfl, rfl, (holds_revision_iff (k := k) (n := .ofNat 1) rfl (.ofNat 2) {} rfl rfl).2
    fun _ _ h => hnone h⟩

/-- In the agent's configuration the new number is compared with the old one in the snapshot. -/
theorem not_holds_revision_through_agent :
    let desired := askingThroughAgent "v1.28.5+rke2r1"
    let m := Machine.reporting "cp-0" "v1.28.5+rke2r1"
    let known := Snapshots.withBootstrap {} m.key { spec := desired.bootstrap }
    holds desired known m = true ∧ holds (desired.withVersion "v1.28.5+rke2r2") known m = false :=
  ⟨rfl, rfl⟩

end Conformance
end Rollout
