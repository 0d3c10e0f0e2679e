import Rollout.Conformance
import Rollout.Proofs.Filtering

/-! The verdict on a machine and its parts, as conditions on what is known of the machine. -/
namespace Rollout
open Machine

theorem Conformance.holds_eq_true_iff {desired : ControlPlaneSpec} {known : Snapshots}
    {m : Machine} : holds desired known m = true ↔
      m.reportsVersion desired.desiredVersion = true ∧
      m.isBootstrapped desired known.bootstrapConfigs = true ∧
      m.isFromTemplate desired.machineTemplate.infrastructureRef known.infrastructure = true := by
  unfold holds filter
  rw [Filter.accepts_all]
  simp

theorem RecordedConfig.ofMachine_eq {m : Machine} {text : String}
    (h : m.metadata.annotation? serverConfigAnnotation = some text) :
    ofMachine m = ofText text := by
  unfold ofMachine
  rw [h]

theorem Machine.hasServerConfig_eq {m : Machine} {text : String}
    (h : m.metadata.annotation? serverConfigAnnotation = some text) (desired : ServerConfig) :
    m.hasServerConfig desired = (RecordedConfig.ofText text).agrees desired := by
  unfold hasServerConfig
  rw [RecordedConfig.ofMachine_eq h]

/-- The configuration is compared where the machine refers to one and a snapshot of it is known. -/
theorem Machine.isBootstrapped_eq_true_iff {m : Machine} {desired : ControlPlaneSpec}
    {configs : Dict BootstrapObject} : m.isBootstrapped desired configs = true ↔
      m.hasServerConfig desired.server = true ∧
      (m.spec.bootstrap.configRef ≠ none → ∀ o, configs.get? m.key = some o →
        BootstrapObject.normalized o = desired.bootstrap) := by
  unfold isBootstrapped
  rw [Bool.and_eq_true]
  apply and_congr_right
  intro _
  cases m.spec.bootstrap.configRef with
  | none => simp
  | some r => cases configs.get? m.key <;> simp

theorem Machine.isFromTemplate_eq_true_iff {m : Machine} {template : Reference}
    {infrastructure : Dict InfrastructureObject} :
    m.isFromTemplate template infrastructure = true ↔
      ∀ o, infrastructure.get? m.key = some o → o.isClonedFrom template = true := by
  unfold isFromTemplate
  cases infrastructure.get? m.key <;> simp

theorem Conformance.holds_iff_of_snapshot {desired : ControlPlaneSpec} {known : Snapshots}
    {m : Machine} {o : BootstrapObject} (hversion : m.reportsVersion desired.desiredVersion = true)
    (hserver : m.hasServerConfig desired.server = true)
    (hlineage : m.isFromTemplate desired.machineTemplate.infrastructureRef known.infrastructure =
      true) (href : m.spec.bootstrap.configRef ≠ none)
    (ho : known.bootstrapConfigs.get? m.key = some o) :
    holds desired known m = true ↔ BootstrapObject.normalized o = desired.bootstrap := by
  rw [holds_eq_true_iff, isBootstrapped_eq_true_iff]
  constructor
  · rintro ⟨-, ⟨-, hspec⟩, -⟩
    exact hspec href o ho
  · intro hfits
    refine ⟨hversion, ⟨hserver, ?_⟩, hlineage⟩
    intro _ p hp
    obtain rfl := Option.some.inj (ho.symm.trans hp)
    exact hfits

theorem InfrastructureObject.isClonedFrom_of_annotations {o : InfrastructureObject}
    {template : Reference} (hname : o.metadata.annotation? clonedFromName = some template.name)
    (hkind : o.metadata.annotation? clonedFromGroupKind = some template.groupKind) :
    o.isClonedFrom template = true := by
  unfold isClonedFrom
  rw [hname, hkind]
  simp

theorem BootstrapObject.normalized_of_not_marked {o : BootstrapObject}
    (h : BootstrapObject.isMarked o = false) : BootstrapObject.normalized o = o.spec := by
  unfold normalized
  rw [h, if_neg (by decide)]

theorem BootstrapObject.normalized_of_marked {o : BootstrapObject}
    (h : BootstrapObject.isMarked o = true) :
    BootstrapObject.normalized o = o.spec.withoutInjected := by
  unfold normalized
  rw [h, if_pos rfl]

def Snapshots.withBootstrap (known : Snapshots) (name : String) (o : BootstrapObject) : Snapshots :=
  { known with bootstrapConfigs := known.bootstrapConfigs.insert name o }

theorem Snapshots.get?_withBootstrap (known : Snapshots) (name : String) (o p : BootstrapObject) :
    (known.withBootstrap name o).bootstrapConfigs.get? name = some p ↔ o = p := by
  unfold withBootstrap
  rw [Table.get?_insert, if_pos rfl, Option.some.injEq]

def Machine.reporting (name version : String) : Machine :=
  { metadata := { name := some name }
    spec := { version := some version, bootstrap := { configRef := some {} } } }

end Rollout
