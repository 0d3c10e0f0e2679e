import Rollout.Proofs.Conformance.Verdict
import Rollout.Proofs.Conformance.VersionCheck
import Rollout.Proofs.Model.ServerConfig

/-! A machine that was just made as its control plane asks needs no replacement. -/
namespace Rollout

/-- A machine that reports what is asked for, or what it ships, and whose records and snapshots, as
far as there are any, are those of the control plane. -/
structure Machine.IsProvisioned (m : Machine) (desired : ControlPlaneSpec) (known : Snapshots) :
    Prop where
  version : ∃ d, desired.desiredVersion = some d ∧
    (m.spec.version = some d ∨ ∃ (k : CoreText) (n : Numeral) (letter : Bool),
      d = k.release n ∧ m.spec.version = some (k.text letter))
  server :
    m.metadata.annotation? serverConfigAnnotation = some (ServerConfig.codec.toText desired.server)
  bootstrap : ∀ o, known.bootstrapConfigs.get? m.key = some o →
    BootstrapObject.isMarked o = false ∧ o.spec = desired.bootstrap
  infrastructure : ∀ o, known.infrastructure.get? m.key = some o →
    o.metadata.annotation? clonedFromName = some desired.machineTemplate.infrastructureRef.name ∧
      o.metadata.annotation? clonedFromGroupKind =
        some desired.machineTemplate.infrastructureRef.groupKind

def Machine.madeFor (desired : ControlPlaneSpec) (name version : String) : Machine where
  metadata :=
    { name := some name
      annotations :=
        some ((∅ : Dict String).insert serverConfigAnnotation
          (ServerConfig.codec.toText desired.server)) }
  spec := { version := some version, bootstrap := { configRef := some {} } }

def InfrastructureObject.clonedFor (desired : ControlPlaneSpec) : InfrastructureObject where
  metadata.annotations :=
    some (((∅ : Dict String).insert clonedFromName
      desired.machineTemplate.infrastructureRef.name).insert clonedFromGroupKind
        desired.machineTemplate.infrastructureRef.groupKind)

def Snapshots.madeFor (desired : ControlPlaneSpec) (name : String) : Snapshots where
  bootstrapConfigs := (∅ : Dict BootstrapObject).insert name { spec := desired.bootstrap }
  infrastructure := (∅ : Dict InfrastructureObject).insert name (.clonedFor desired)

theorem Machine.isProvisioned_madeFor {desired : ControlPlaneSpec} (name : String)
    {d version : String} (hd : desired.desiredVersion = some d)
    (hversion : version = d ∨ ∃ (k : CoreText) (n : Numeral) (letter : Bool),
      d = k.release n ∧ version = k.text letter) :
    (madeFor desired name version).IsProvisioned desired (.madeFor desired name) where
  version := by
    refine ⟨d, hd, ?_⟩
    rcases hversion with hsame | ⟨k, n, letter, hrelease, hshipped⟩
    · exact .inl (congrArg some hsame)
    · exact .inr ⟨k, n, letter, hrelease, congrArg some hshipped⟩
  server := by simp [madeFor, Metadata.annotation?, Table.get?_insert]
  bootstrap o ho := by
    have hget : (Snapshots.madeFor desired name).bootstrapConfigs.get? name =
        some { spec := desired.bootstrap } := by
      simp [Snapshots.madeFor, Table.get?_insert]
    obtain rfl := Option.some.inj (hget.symm.trans ho)
    exact ⟨rfl, rfl⟩
  infrastructure o ho := by
    have hget :
        (Snapshots.madeFor desired name).infrastructure.get? name = some (.clonedFor desired) := by
      simp [Snapshots.madeFor, Table.get?_insert]
    obtain rfl := Option.some.inj (hget.symm.trans ho)
    simp [InfrastructureObject.clonedFor, Metadata.annotation?, Table.get?_insert, clonedFromName,
      clonedFromGroupKind]

theorem Machine.reportsVersion_text {m : Machine} {k : CoreText} {letter : Bool}
    (h : m.spec.version = some (k.text letter)) (n : Numeral) :
    m.reportsVersion (some (k.release n)) = true := by
  rw [reportsVersion_of_parse h (Version.parse_chars { k with letter }), beq_iff_eq]
  exact Version.precedence_self _

theorem RecordedConfig.ofText_toText (c : ServerConfig) :
    ofText (ServerConfig.codec.toText c) = .present c := by
  have htext : ServerConfig.codec.optional.ofText? (ServerConfig.codec.toText c) = some (some c) :=
    c.keeps.optional.ofText?_toText
  unfold ofText
  rw [htext]
  rfl

theorem Machine.hasServerConfig_of_written {m : Machine} {c : ServerConfig}
    (h : m.metadata.annotation? serverConfigAnnotation = some (ServerConfig.codec.toText c)) :
    m.hasServerConfig c = true := by
  rw [hasServerConfig_eq h, RecordedConfig.ofText_toText]
  exact beq_self_eq_true c

namespace Conformance

theorem holds_of_isProvisioned {desired : ControlPlaneSpec} {known : Snapshots} {m : Machine}
    (h : m.IsProvisioned desired known) : holds desired known m = true := by
  have hversion : m.reportsVersion desired.desiredVersion = true := by
    obtain ⟨d, hd, hreport⟩ := h.version
    rw [hd]
    rcases hreport with hsame | ⟨k, n, letter, hrelease, hshipped⟩
    · exact Machine.reportsVersion_self hsame
    · rw [hrelease]
      exact Machine.reportsVersion_text hshipped n
  have hserver : m.hasServerConfig desired.server = true :=
    Machine.hasServerConfig_of_written h.server
  have hbootstrap : m.isBootstrapped desired known.bootstrapConfigs = true := by
    rw [Machine.isBootstrapped_eq_true_iff]
    refine ⟨hserver, ?_⟩
    intro _ o ho
    obtain ⟨hplain, hspec⟩ := h.bootstrap o ho
    rw [BootstrapObject.normalized_of_not_marked hplain, hspec]
  have hlineage :
      m.isFromTemplate desired.machineTemplate.infrastructureRef known.infrastructure = true := by
    rw [Machine.isFromTemplate_eq_true_iff]
    intro o ho
    obtain ⟨hname, hkind⟩ := h.infrastructure o ho
    exact InfrastructureObject.isClonedFrom_of_annotations hname hkind
  rw [holds_eq_true_iff]
  exact ⟨hversion, hbootstrap, hlineage⟩

theorem holds_of_isProvisioned_escaped :
    let desired : ControlPlaneSpec :=
      { server :=
          { cni := some "a\"\\\n\x01\x7fé😀"
            etcd := some {}
            kubeApiServer := some { extraArgs := ["", "/"] } }
        machineTemplate :=
          { infrastructureRef := { apiVersion := "g/v1", kind := "K", name := "t" } }
        version := some "v1.28.5+rke2r007" }
    (Machine.madeFor desired "cp-0" "1.28.5").IsProvisioned desired (.madeFor desired "cp-0") ∧
      holds desired (.madeFor desired "cp-0") (Machine.madeFor desired "cp-0" "1.28.5") = true :=
  let k : CoreText := ⟨true, .ofNat 1, .ofNat 28, .ofNat 5, by decide⟩
  have h :=
    Machine.isProvisioned_madeFor "cp-0" rfl
      (.inr ⟨k, ⟨['0', '0', '7'], rfl⟩, false, rfl, rfl⟩)
  ⟨h, holds_of_isProvisioned h⟩

end Conformance
end Rollout
