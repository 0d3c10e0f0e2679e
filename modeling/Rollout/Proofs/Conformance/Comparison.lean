import Mathlib.Logic.Relation
import Rollout.Proofs.Conformance.Forgetting

/-!
What a verdict is found from. Each check looks at a few pieces of the control plane, the machine and
its own snapshots, so whatever else is changed, there or with other machines, leaves the verdict as
it is.
-/
namespace Rollout

theorem all_eq_of_map_eq {α β γ : Type} {x : Option α} {y : Option β} {f : α → γ}
    {g : β → γ} {p : α → Bool} {q : β → Bool} (h : x.map f = y.map g)
    (hpq : ∀ a b, f a = g b → p a = q b) : x.all p = y.all q := by
  cases x with
  | none =>
    cases y with
    | none => rfl
    | some b => exact nomatch h
  | some a =>
    cases y with
    | none => exact nomatch h
    | some b => exact hpq a b (Option.some.inj h)

def BootstrapObject.compared (o : BootstrapObject) : BootstrapConfig × Bool :=
  (o.spec, BootstrapObject.isMarked o)

def InfrastructureObject.compared (o : InfrastructureObject) : Option String × Option String :=
  (o.metadata.annotation? clonedFromName, o.metadata.annotation? clonedFromGroupKind)

theorem BootstrapObject.normalized_congr {o o' : BootstrapObject}
    (h : BootstrapObject.compared o = BootstrapObject.compared o') :
    BootstrapObject.normalized o = BootstrapObject.normalized o' := by
  obtain ⟨hspec, hmarked⟩ := Prod.mk.inj h
  unfold normalized
  rw [hspec, hmarked]

theorem Reference.groupKind_congr {r r' : Reference} (hkind : r.kind = r'.kind)
    (hgroup : r.group = r'.group) : r.groupKind = r'.groupKind := by
  unfold groupKind
  rw [hkind, hgroup]

theorem InfrastructureObject.isClonedFrom_congr {o o' : InfrastructureObject}
    {template template' : Reference} (h : o.compared = o'.compared)
    (hname : template.name = template'.name) (hkind : template.groupKind = template'.groupKind) :
    o.isClonedFrom template = o'.isClonedFrom template' := by
  obtain ⟨hnote, hkindNote⟩ := Prod.mk.inj h
  unfold isClonedFrom
  rw [hnote, hkindNote, hname, hkind]

namespace Machine
variable {m m' : Machine}

theorem reportsVersion_congr {asked asked' : Option String} (h : m.spec.version = m'.spec.version)
    (hasked : asked.getD "" = asked'.getD "") :
    m.reportsVersion asked = m'.reportsVersion asked' := by
  unfold reportsVersion
  rw [h, hasked]

theorem hasServerConfig_congr
    (h : m.metadata.annotation? serverConfigAnnotation =
      m'.metadata.annotation? serverConfigAnnotation) (desired : ServerConfig) :
    m.hasServerConfig desired = m'.hasServerConfig desired := by
  unfold hasServerConfig RecordedConfig.ofMachine
  rw [h]

theorem isBootstrapped_eq_all (m : Machine) (desired : ControlPlaneSpec)
    (configs : Dict BootstrapObject) :
    m.isBootstrapped desired configs =
      (m.hasServerConfig desired.server && (m.spec.bootstrap.configRef.isNone ||
        (configs.get? m.key).all fun o => BootstrapObject.normalized o == desired.bootstrap)) := by
  unfold isBootstrapped
  cases configs.get? m.key <;> rfl

theorem isFromTemplate_eq_all (m : Machine) (template : Reference)
    (infrastructure : Dict InfrastructureObject) :
    m.isFromTemplate template infrastructure =
      (infrastructure.get? m.key).all (·.isClonedFrom template) := by
  unfold isFromTemplate
  cases infrastructure.get? m.key <;> rfl

theorem isBootstrapped_congr {desired desired' : ControlPlaneSpec}
    {configs configs' : Dict BootstrapObject}
    (hserver : m.hasServerConfig desired.server = m'.hasServerConfig desired'.server)
    (hbootstrap : desired.bootstrap = desired'.bootstrap)
    (href : m.spec.bootstrap.configRef.isNone = m'.spec.bootstrap.configRef.isNone)
    (h : (configs.get? m.key).map BootstrapObject.compared =
      (configs'.get? m'.key).map BootstrapObject.compared) :
    m.isBootstrapped desired configs = m'.isBootstrapped desired' configs' := by
  have hsnapshot :
      (configs.get? m.key).all (fun o => BootstrapObject.normalized o == desired.bootstrap) =
      (configs'.get? m'.key).all fun o => BootstrapObject.normalized o == desired'.bootstrap := by
    apply all_eq_of_map_eq h
    intro o o' ho
    rw [BootstrapObject.normalized_congr ho, hbootstrap]
  rw [isBootstrapped_eq_all, isBootstrapped_eq_all, hserver, href, hsnapshot]

theorem isFromTemplate_congr {template template' : Reference}
    {infrastructure infrastructure' : Dict InfrastructureObject}
    (hname : template.name = template'.name) (hkind : template.groupKind = template'.groupKind)
    (h : (infrastructure.get? m.key).map InfrastructureObject.compared =
      (infrastructure'.get? m'.key).map InfrastructureObject.compared) :
    m.isFromTemplate template infrastructure = m'.isFromTemplate template' infrastructure' := by
  rw [isFromTemplate_eq_all, isFromTemplate_eq_all]
  exact all_eq_of_map_eq h fun _ _ ho => InfrastructureObject.isClonedFrom_congr ho hname hkind

end Machine

namespace Conformance

/-- All that the checks look at. The name of the machine is not among it: it only says where the
snapshots are. -/
structure Compared where
  asked : String
  server : ServerConfig
  bootstrap : BootstrapConfig
  templateName : String
  templateGroupKind : String
  report : Option String
  record : Option String
  isReferring : Bool
  snapshot : Option (BootstrapConfig × Bool)
  lineage : Option (Option String × Option String)
  deriving DecidableEq

structure Case where
  controlPlane : ControlPlane
  evidence : Evidence

namespace Case

def conforms (c : Case) : Bool := c.evidence.conforms c.controlPlane.spec

def template (c : Case) : Reference := c.controlPlane.spec.machineTemplate.infrastructureRef

def compared (c : Case) : Compared where
  asked := c.controlPlane.spec.desiredVersion.getD ""
  server := c.controlPlane.spec.server
  bootstrap := c.controlPlane.spec.bootstrap
  templateName := c.template.name
  templateGroupKind := c.template.groupKind
  report := c.evidence.machine.spec.version
  record := c.evidence.machine.metadata.annotation? serverConfigAnnotation
  isReferring := c.evidence.machine.spec.bootstrap.configRef.isSome
  snapshot :=
    (c.evidence.known.bootstrapConfigs.get? c.evidence.machine.key).map BootstrapObject.compared
  lineage :=
    (c.evidence.known.infrastructure.get? c.evidence.machine.key).map InfrastructureObject.compared

theorem conforms_eq_of_compared_eq {c c' : Case} (h : c.compared = c'.compared) :
    c.conforms = c'.conforms := by
  obtain ⟨hasked, hserver, hbootstrap, hname, hkind, hreport, hrecord, href, hsnapshot,
    hlineage⟩ := Compared.mk.inj h
  have hversion : c.evidence.machine.reportsVersion c.controlPlane.spec.desiredVersion =
      c'.evidence.machine.reportsVersion c'.controlPlane.spec.desiredVersion :=
    Machine.reportsVersion_congr hreport hasked
  have hconfig : c.evidence.machine.hasServerConfig c.controlPlane.spec.server =
      c'.evidence.machine.hasServerConfig c'.controlPlane.spec.server := by
    rw [hserver]
    exact Machine.hasServerConfig_congr hrecord _
  have hnone : c.evidence.machine.spec.bootstrap.configRef.isNone =
      c'.evidence.machine.spec.bootstrap.configRef.isNone := by
    rw [← Option.not_isSome, ← Option.not_isSome, href]
  have hbootstrapped :
      c.evidence.machine.isBootstrapped c.controlPlane.spec c.evidence.known.bootstrapConfigs =
      c'.evidence.machine.isBootstrapped c'.controlPlane.spec c'.evidence.known.bootstrapConfigs :=
    Machine.isBootstrapped_congr hconfig hbootstrap hnone hsnapshot
  have hfrom : c.evidence.machine.isFromTemplate c.template c.evidence.known.infrastructure =
      c'.evidence.machine.isFromTemplate c'.template c'.evidence.known.infrastructure :=
    Machine.isFromTemplate_congr hname hkind hlineage
  unfold conforms Evidence.conforms
  rw [Bool.eq_iff_iff, holds_eq_true_iff, holds_eq_true_iff, hversion, hbootstrapped]
  unfold template at hfrom
  rw [hfrom]

/-- What may be changed without any check seeing it: snapshots of other machines, all of the
template's interface version but the group, its namespace, how many machines there are to be, the
metadata of the control plane, and an empty version where there was none. -/
inductive Unseen : Case → Case → Prop
  | bootstrapStored {c : Case} (name : String) (o : BootstrapObject) :
      name ≠ c.evidence.machine.key →
      Unseen c { c with evidence.known := c.evidence.known.withBootstrap name o }
  | bootstrapRemoved {c : Case} (name : String) : name ≠ c.evidence.machine.key →
      Unseen c { c with
        evidence.known.bootstrapConfigs := c.evidence.known.bootstrapConfigs.erase name }
  | infrastructureStored {c : Case} (name : String) (o : InfrastructureObject) :
      name ≠ c.evidence.machine.key →
      Unseen c { c with
        evidence.known.infrastructure := c.evidence.known.infrastructure.insert name o }
  | infrastructureRemoved {c : Case} (name : String) : name ≠ c.evidence.machine.key →
      Unseen c { c with
        evidence.known.infrastructure := c.evidence.known.infrastructure.erase name }
  | interfaceVersion {c : Case} (apiVersion : String) :
      (splitApiVersion apiVersion).1 = c.template.group →
      Unseen c { c with
        controlPlane.spec.machineTemplate.infrastructureRef.apiVersion := apiVersion }
  | templateNamespace {c : Case} (name : Option String) :
      Unseen c { c with
        controlPlane.spec.machineTemplate.infrastructureRef.namespaceName := name }
  | replicas {c : Case} (count : Option Int32) :
      Unseen c { c with controlPlane.spec.replicas := count }
  | metadata {c : Case} (metadata : Metadata) :
      Unseen c { c with controlPlane.metadata := metadata }
  | emptyVersion {c : Case} : c.controlPlane.spec.version = none →
      Unseen c { c with controlPlane.spec.version := some "" }

theorem compared_withKnown (c : Case) (known : Snapshots)
    (hconfig : known.bootstrapConfigs.get? c.evidence.machine.key =
      c.evidence.known.bootstrapConfigs.get? c.evidence.machine.key)
    (hinfrastructure : known.infrastructure.get? c.evidence.machine.key =
      c.evidence.known.infrastructure.get? c.evidence.machine.key) :
    compared { c with evidence.known := known } = c.compared := by
  unfold compared
  rw [← hconfig, ← hinfrastructure]
  rfl

theorem Unseen.compared_eq {c c' : Case} (h : Unseen c c') : c.compared = c'.compared := by
  cases h with
  | bootstrapStored name o hname =>
    have hown := Table.get?_insert c.evidence.known.bootstrapConfigs name c.evidence.machine.key o
    rw [if_neg hname] at hown
    exact (compared_withKnown c (c.evidence.known.withBootstrap name o) hown rfl).symm
  | bootstrapRemoved name hname =>
    have hown := Table.get?_erase c.evidence.known.bootstrapConfigs name c.evidence.machine.key
    rw [if_neg hname] at hown
    exact (compared_withKnown c ⟨c.evidence.known.bootstrapConfigs.erase name, _⟩ hown rfl).symm
  | infrastructureStored name o hname =>
    have hown := Table.get?_insert c.evidence.known.infrastructure name c.evidence.machine.key o
    rw [if_neg hname] at hown
    exact (compared_withKnown c ⟨_, c.evidence.known.infrastructure.insert name o⟩ rfl
      hown).symm
  | infrastructureRemoved name hname =>
    have hown := Table.get?_erase c.evidence.known.infrastructure name c.evidence.machine.key
    rw [if_neg hname] at hown
    exact (compared_withKnown c ⟨_, c.evidence.known.infrastructure.erase name⟩ rfl hown).symm
  | interfaceVersion apiVersion hgroup =>
    have hkind : c.template.groupKind = Reference.groupKind { c.template with apiVersion } :=
      Reference.groupKind_congr rfl hgroup.symm
    unfold compared
    rw [hkind]
    rfl
  | templateNamespace name => rfl
  | replicas count => rfl
  | metadata metadata => rfl
  | emptyVersion hnone =>
    have hasked : c.controlPlane.spec.desiredVersion =
        ControlPlaneSpec.desiredVersion { c.controlPlane.spec with version := some "" } := by
      unfold ControlPlaneSpec.desiredVersion
      rw [hnone]
      rfl
    unfold compared
    rw [hasked]
    rfl

theorem compared_eq_of_unseen {c c' : Case} (h : Relation.EqvGen Unseen c c') :
    c.compared = c'.compared := by
  induction h with
  | rel c c' hstep => exact hstep.compared_eq
  | refl c => rfl
  | symm c c' _ ih => exact ih.symm
  | trans c c' c'' _ _ ih ih' => exact ih.trans ih'

end Case

/-- Cases that agree in what is compared have the same verdict, and so have cases that come from
each other by changes that no check sees. -/
theorem conforms_eq_of_same_compared (c c' : Case) :
    (c.compared = c'.compared → c.conforms = c'.conforms) ∧
      (Relation.EqvGen Case.Unseen c c' → c.conforms = c'.conforms) := by
  refine ⟨Case.conforms_eq_of_compared_eq, ?_⟩
  intro h
  exact Case.conforms_eq_of_compared_eq (Case.compared_eq_of_unseen h)

def Case.made (name interfaceVersion : String) : Case where
  controlPlane.spec :=
    { bootstrap := { agent := { version := some "v1.28.5+rke2r1" } }
      machineTemplate :=
        { infrastructureRef := { apiVersion := interfaceVersion, kind := "K", name := "t" } } }
  evidence :=
    { machine := .reporting name "v1.28.5"
      known :=
        Snapshots.withBootstrap {} name
          { spec := { agent := { version := some "v1.28.5+rke2r1" } } } }

theorem conforms_eq_of_other_machine :
    let c := Case.made "cp-0" "g/v1"
    let stored : Case :=
      { c with evidence.known := c.evidence.known.withBootstrap "cp-1" { spec := {} } }
    let c' : Case :=
      { stored with controlPlane.spec.machineTemplate.infrastructureRef.apiVersion := "g/v2" }
    c.conforms = true ∧ c.conforms = c'.conforms ∧
      c.conforms = (Case.made "cp-2" "g/v2").conforms := by
  intro c stored c'
  have hstored : Case.Unseen c stored := .bootstrapStored "cp-1" { spec := {} } (by decide)
  have hgroup : (splitApiVersion "g/v2").1 = (splitApiVersion "g/v1").1 := by decide +kernel
  have hversion : Case.Unseen stored c' := .interfaceVersion "g/v2" hgroup
  exact ⟨by decide +kernel,
    (conforms_eq_of_same_compared c c').2 (.trans _ _ _ (.rel _ _ hstored) (.rel _ _ hversion)),
    (conforms_eq_of_same_compared c (.made "cp-2" "g/v2")).1 (by decide +kernel)⟩

end Conformance
end Rollout
