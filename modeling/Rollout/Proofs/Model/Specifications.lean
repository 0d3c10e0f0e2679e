import Mathlib.Logic.Function.Defs
import Rollout.Model.ControlPlane
import Rollout.Model.Machine
import Rollout.Proofs.Model.BootstrapConfig

/-!
Every specification is read back from the text that is written of it, so no two specifications have
the same text.
-/
namespace Rollout

theorem MachineTemplate.keeps (t : MachineTemplate) : MachineTemplate.codec.Keeps t :=
  Record.Keeps.codec
    (.imap (.and (.required t.infrastructureRef.keeps) <| .one (.optionalString _)) rfl)
    (by decide)

theorem ControlPlaneSpec.ownRecord_keeps (server : ServerConfig) (template : MachineTemplate)
    (replicas : Option Int32) (version registrationMethod : Option String) :
    ownRecord.Keeps (server, template, replicas, version, registrationMethod) :=
  .and (.plainly server.keeps) <|
    .and (.required template.keeps) <|
    .and (.optional fun i _ => .int32 i) <|
    .and (.optionalString _) <|
    .one (.optionalString _)

theorem ControlPlaneSpec.keeps (s : ControlPlaneSpec) : ControlPlaneSpec.codec.Keeps s :=
  have hown := ownRecord_keeps s.server s.machineTemplate s.replicas s.version s.registrationMethod
  .imap (hown.beside s.bootstrap.record_keeps (by decide) (BootstrapConfig.record_nests (n := 0))
    (by decide)) rfl

theorem MachineBootstrap.keeps (b : MachineBootstrap) : MachineBootstrap.codec.Keeps b :=
  Record.Keeps.codec
    (.imap (.and (.optional fun r _ => r.keeps) <| .one (.optionalString _)) rfl)
    (by decide)

theorem MachineSpec.keeps (m : MachineSpec) : MachineSpec.codec.Keeps m :=
  Record.Keeps.codec
    (.imap
      (.and (.plainly (.string _)) <|
        .and (.plainly m.bootstrap.keeps) <|
        .and (.plainly m.infrastructureRef.keeps) <|
        .and (.optionalString _) <|
        .and (.optionalString _) <|
        .one (.optionalString _)) rfl)
    (by decide)

inductive Specification
  | reference
  | component
  | disabledComponents
  | etcdBackup
  | etcd
  | server
  | secretKey
  | fileSource
  | file
  | ntp
  | agent
  | registryEndpoints
  | registryAccess
  | registries
  | bootstrap
  | machineTemplate
  | controlPlane
  | machineBootstrap
  | machine

namespace Specification

@[reducible] def Value : Specification → Type
  | reference => Reference
  | component => ComponentConfig
  | disabledComponents => DisabledComponents
  | etcdBackup => EtcdBackup
  | etcd => EtcdConfig
  | server => ServerConfig
  | secretKey => SecretKey
  | fileSource => FileSource
  | file => File
  | ntp => Ntp
  | agent => AgentConfig
  | registryEndpoints => RegistryEndpoints
  | registryAccess => RegistryAccess
  | registries => Registries
  | bootstrap => BootstrapConfig
  | machineTemplate => MachineTemplate
  | controlPlane => ControlPlaneSpec
  | machineBootstrap => MachineBootstrap
  | machine => MachineSpec

def codec : (s : Specification) → Codec s.Value
  | reference => Reference.codec
  | component => ComponentConfig.codec
  | disabledComponents => DisabledComponents.codec
  | etcdBackup => EtcdBackup.codec
  | etcd => EtcdConfig.codec
  | server => ServerConfig.codec
  | secretKey => SecretKey.codec
  | fileSource => FileSource.codec
  | file => File.codec
  | ntp => Ntp.codec
  | agent => AgentConfig.codec
  | registryEndpoints => RegistryEndpoints.codec
  | registryAccess => RegistryAccess.codec
  | registries => Registries.codec
  | bootstrap => BootstrapConfig.codec
  | machineTemplate => MachineTemplate.codec
  | controlPlane => ControlPlaneSpec.codec
  | machineBootstrap => MachineBootstrap.codec
  | machine => MachineSpec.codec

theorem keeps (s : Specification) (x : s.Value) : s.codec.Keeps x := by
  cases s with
  | reference => exact Reference.keeps x
  | component => exact ComponentConfig.keeps x
  | disabledComponents => exact DisabledComponents.keeps x
  | etcdBackup => exact EtcdBackup.keeps x
  | etcd => exact EtcdConfig.keeps x
  | server => exact ServerConfig.keeps x
  | secretKey => exact SecretKey.keeps x
  | fileSource => exact FileSource.keeps x
  | file => exact File.keeps x
  | ntp => exact Ntp.keeps x
  | agent => exact AgentConfig.keeps x
  | registryEndpoints => exact RegistryEndpoints.keeps x
  | registryAccess => exact RegistryAccess.keeps x
  | registries => exact Registries.keeps x
  | bootstrap => exact BootstrapConfig.keeps x
  | machineTemplate => exact MachineTemplate.keeps x
  | controlPlane => exact ControlPlaneSpec.keeps x
  | machineBootstrap => exact MachineBootstrap.keeps x
  | machine => exact MachineSpec.keeps x

theorem toText_injective (s : Specification) : Function.Injective s.codec.toText := by
  intro x y h
  have hx : s.codec.ofText? (s.codec.toText x) = some x := (s.keeps x).ofText?_toText
  have hy : s.codec.ofText? (s.codec.toText y) = some y := (s.keeps y).ofText?_toText
  rw [h] at hx
  exact Option.some.inj (hx.symm.trans hy)

/-- What is written of a specification says all of it. The text of a server configuration is that of
an empty object only if the configuration is empty. -/
theorem read_back_of_written (s : Specification) :
    (∀ x, s.codec.ofText? (s.codec.toText x) = some x) ∧
      Function.Injective s.codec.toText ∧
      (∀ text x, s.codec.ofText? text = some x →
        s.codec.ofText? (s.codec.toText x) = some x) ∧
      (∀ c, server.codec.toText c = "\x7b\x7d" ↔ ServerConfig.isEmpty c = true) := by
  refine ⟨fun x => (s.keeps x).ofText?_toText, s.toText_injective,
    fun _ x _ => (s.keeps x).ofText?_toText, ?_⟩
  intro c
  have hempty : server.codec.toText {} = "\x7b\x7d" := rfl
  rw [← hempty, (toText_injective server).eq_iff]
  exact beq_iff_eq.symm

theorem read_back_of_written_unordered :
    let text := "\x7b \"replicas\":-3, \"later\":[\x7b\x7d], \"machineTemplate\":" ++
      "\x7b\"infrastructureRef\":\x7b\"kind\":\"\\u00e9\\n\"\x7d\x7d, \"version\":null\x7d"
    let x : ControlPlaneSpec :=
      { machineTemplate := { infrastructureRef := { kind := "é\n" } }, replicas := some (-3) }
    controlPlane.codec.ofText? text = some x ∧
      controlPlane.codec.ofText? (controlPlane.codec.toText x) = some x :=
  have hread : controlPlane.codec.ofText? _ = some _ := by decide +kernel
  ⟨hread, (read_back_of_written controlPlane).2.2.1 _ _ hread⟩

end Specification
end Rollout
