import Rollout.Proofs.Conformance.Injection
import Rollout.Proofs.Model.BootstrapConfig

/-!
The bootstrap configuration in a control plane and one of its own. The members are read in the same
way in both places, so what is asked for and what a machine was set up with can be compared.
-/
namespace Rollout

/-- Two texts with the same bootstrap fields; the rest of them may differ, and so may their order
and their layout. -/
def BootstrapConfig.WrittenAlike (text other : String) : Prop :=
  ∃ j k, Json.ofText? text = some j ∧ Json.ofText? other = some k ∧ record.Alike j k

theorem BootstrapConfig.WrittenAlike.ofText?_eq {text other : String}
    (h : WrittenAlike text other) : codec.ofText? text = codec.ofText? other := by
  obtain ⟨j, k, hj, hk, halike⟩ := h
  unfold Codec.ofText?
  rw [hj, hk]
  exact halike.decode_eq record_isLocal

theorem ControlPlaneSpec.ofText?_bootstrap {text : String} {desired : ControlPlaneSpec}
    (h : codec.ofText? text = some desired) :
    BootstrapConfig.codec.ofText? text = some desired.bootstrap := by
  obtain ⟨j, hj, hdecode⟩ := Option.bind_eq_some_iff.1 h
  obtain ⟨⟨own, bootstrap⟩, hbeside, rfl⟩ := Option.map_eq_some_iff.1 hdecode
  have hinner : BootstrapConfig.codec.decode j = some bootstrap :=
    (Record.decode_of_beside hbeside).2
  exact Option.bind_eq_some_iff.2 ⟨j, hj, hinner⟩

theorem BootstrapObject.normalized_eq_spec_iff {o : BootstrapObject} :
    BootstrapObject.normalized o = o.spec ↔ BootstrapObject.isMarked o = false ∨
      o.spec.IsFree := by
  cases hmarked : BootstrapObject.isMarked o with
  | false => exact iff_of_true (normalized_of_not_marked hmarked) (.inl rfl)
  | true =>
    rw [normalized_of_marked hmarked, BootstrapConfig.withoutInjected_eq_self_iff]
    exact (or_iff_right (by decide)).symm

namespace Conformance

/-- The text of a control plane is also the text of a bootstrap configuration, the one in it, and so
are all texts with the same bootstrap fields. An object that holds it compares equal, unless it is
marked and has something in it that looks injected. -/
theorem isBootstrapped_iff_of_written_alike {text : String} {desired : ControlPlaneSpec}
    (h : ControlPlaneSpec.codec.ofText? text = some desired) :
    BootstrapConfig.codec.ofText? text = some desired.bootstrap ∧
      ∀ other, BootstrapConfig.WrittenAlike text other →
        BootstrapConfig.codec.ofText? other = some desired.bootstrap ∧
        ∀ (o : BootstrapObject) (m : Machine) (configs : Dict BootstrapObject),
          BootstrapConfig.codec.ofText? other = some o.spec → configs.get? m.key = some o →
          (m.isBootstrapped desired configs = true ↔ m.hasServerConfig desired.server = true ∧
            (m.spec.bootstrap.configRef = none ∨ BootstrapObject.isMarked o = false ∨
              desired.bootstrap.IsFree)) := by
  have hembedded : BootstrapConfig.codec.ofText? text = some desired.bootstrap :=
    ControlPlaneSpec.ofText?_bootstrap h
  refine ⟨hembedded, ?_⟩
  intro other halike
  have hother : BootstrapConfig.codec.ofText? other = some desired.bootstrap :=
    halike.ofText?_eq.symm.trans hembedded
  refine ⟨hother, ?_⟩
  intro o m configs ho hget
  have hspec : o.spec = desired.bootstrap := Option.some.inj (ho.symm.trans hother)
  rw [Machine.isBootstrapped_eq_true_iff, ← hspec, ← BootstrapObject.normalized_eq_spec_iff]
  apply and_congr_right
  intro _
  constructor
  · intro hcompared
    by_cases href : m.spec.bootstrap.configRef = none
    · exact .inl href
    · exact .inr (hcompared href o hget)
  · rintro hfits href p hp
    obtain rfl := Option.some.inj (hget.symm.trans hp)
    exact hfits.resolve_left href

theorem isBootstrapped_by_place :
    let files : Json := .arr [.object [("path", .text "/etc/motd"), ("content", .text "own")]]
    let text := Json.toText (.object
      [("version", .text "v1.28.5+rke2r1"), ("files", files), ("later", .arr [.int 1]),
        ("machineTemplate", .object [("infrastructureRef", .object [])])])
    let other := Json.toText (.arr [files])
    let o : BootstrapObject := { spec := (askingFor "/etc/motd").bootstrap }
    ControlPlaneSpec.codec.ofText? text = some (askingFor "/etc/motd") ∧
      BootstrapConfig.WrittenAlike text other ∧
      BootstrapConfig.codec.ofText? other = some o.spec ∧
      Machine.isBootstrapped (.reporting "cp-0" "v1.28.5+rke2r1") (askingFor "/etc/motd")
        ((∅ : Dict BootstrapObject).insert "cp-0" o) = true := by
  intro files text other o
  have hread : ControlPlaneSpec.codec.ofText? text = some (askingFor "/etc/motd") := by
    unfold Codec.ofText?
    rw [Json.ofText?_toText rfl]
    decide +kernel
  have halike : BootstrapConfig.WrittenAlike text other :=
    ⟨_, _, Json.ofText?_toText rfl, Json.ofText?_toText rfl, _, _, rfl, rfl, rfl, rfl, rfl, rfl,
      rfl, rfl, trivial⟩
  have hother : BootstrapConfig.codec.ofText? other = some o.spec :=
    ((isBootstrapped_iff_of_written_alike hread).2 other halike).1
  exact ⟨hread, halike, hother,
    (((isBootstrapped_iff_of_written_alike hread).2 other halike).2 o _ _ hother (by rfl)).2
      ⟨by rfl, .inr (.inl rfl)⟩⟩

/-- One text read as both. The file in it is dropped from the marked object and not from what is
asked for. -/
theorem not_isBootstrapped_marked_own_file :
    let desired := askingFor "/etc/rancher/agent/config.yaml"
    let text := Json.toText (.object
      [("version", .text "v1.28.5+rke2r1"),
        ("files", .arr [.object
          [("path", .text "/etc/rancher/agent/config.yaml"), ("content", .text "own")]]),
        ("machineTemplate", .object [("infrastructureRef", .object [])])])
    let o : BootstrapObject :=
      { metadata.annotations := some ((∅ : Dict String).insert injectionMarker "true"),
        spec := desired.bootstrap }
    let m := Machine.reporting "cp-0" "v1.28.5+rke2r1"
    ControlPlaneSpec.codec.ofText? text = some desired ∧
      BootstrapConfig.codec.ofText? text = some o.spec ∧
      m.hasServerConfig desired.server = true ∧
      m.isBootstrapped desired ((∅ : Dict BootstrapObject).insert m.key o) = false := by
  intro desired text o m
  have hread : ControlPlaneSpec.codec.ofText? text = some desired := by
    unfold Codec.ofText?
    rw [Json.ofText?_toText rfl]
    decide +kernel
  exact ⟨hread, ControlPlaneSpec.ofText?_bootstrap hread, rfl, rfl⟩

end Conformance
end Rollout
