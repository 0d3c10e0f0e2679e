import Rollout.Proofs.Conformance.Provisioning

/-!
What becomes of a verdict when less is known. Each check takes what is missing for conforming, the
version check excepted, so a machine that conforms goes on conforming whatever is lost; a record
that cannot be read refuses it.
-/
namespace Rollout

def Metadata.withoutAnnotation (m : Metadata) (key : String) : Metadata :=
  { m with annotations := m.annotations.map (·.erase key) }

theorem Metadata.annotation?_withoutAnnotation (m : Metadata) (key other : String) :
    (m.withoutAnnotation key).annotation? other =
      if key = other then none else m.annotation? other := by
  unfold annotation? withoutAnnotation
  cases m.annotations with
  | none => simp
  | some annotations => exact Table.get?_erase annotations key other

theorem Machine.hasServerConfig_of_missing {m : Machine}
    (h : m.metadata.annotation? serverConfigAnnotation = none) (desired : ServerConfig) :
    m.hasServerConfig desired = true := by
  unfold hasServerConfig RecordedConfig.ofMachine
  rw [h]
  rfl

theorem Machine.not_hasServerConfig_of_unreadable {m : Machine} {text : String}
    (h : m.metadata.annotation? serverConfigAnnotation = some text)
    (hread : ServerConfig.codec.optional.ofText? text = none) (desired : ServerConfig) :
    m.hasServerConfig desired = false := by
  have hcorrupted : RecordedConfig.ofText text = .corrupted := by
    unfold RecordedConfig.ofText
    rw [hread]
  rw [hasServerConfig_eq h, hcorrupted]
  rfl

theorem InfrastructureObject.isClonedFrom_withoutAnnotation {o : InfrastructureObject}
    {template : Reference} (h : o.isClonedFrom template = true) (note : String) :
    InfrastructureObject.isClonedFrom { o with metadata := o.metadata.withoutAnnotation note }
      template = true := by
  unfold isClonedFrom at h ⊢
  simp only [Metadata.annotation?_withoutAnnotation]
  by_cases hname : note = clonedFromName
  · rw [if_pos hname]
  · by_cases hkind : note = clonedFromGroupKind
    · rw [if_pos hkind, if_neg hname]
      cases o.metadata.annotation? clonedFromName <;> rfl
    · rw [if_neg hname, if_neg hkind]
      exact h

namespace Conformance

/-- What a verdict is found from. -/
structure Evidence where
  machine : Machine
  known : Snapshots

inductive Loss
  | serverRecord
  | configRef
  | bootstrapSnapshot
  | infrastructureSnapshot
  | templateName
  | templateGroupKind
  deriving DecidableEq, Repr

def Loss.every : List Loss :=
  [serverRecord, configRef, bootstrapSnapshot, infrastructureSnapshot, templateName,
    templateGroupKind]

namespace Evidence

def conforms (e : Evidence) (desired : ControlPlaneSpec) : Bool :=
  holds desired e.known e.machine

def withoutInfrastructureNote (e : Evidence) (note : String) : Evidence :=
  { e with known.infrastructure := e.known.infrastructure.modify e.machine.key fun o =>
      { o with metadata := o.metadata.withoutAnnotation note } }

def lose (e : Evidence) : Loss → Evidence
  | .serverRecord =>
    { e with machine.metadata := e.machine.metadata.withoutAnnotation serverConfigAnnotation }
  | .configRef => { e with machine.spec.bootstrap.configRef := none }
  | .bootstrapSnapshot =>
    { e with known.bootstrapConfigs := e.known.bootstrapConfigs.erase e.machine.key }
  | .infrastructureSnapshot =>
    { e with known.infrastructure := e.known.infrastructure.erase e.machine.key }
  | .templateName => e.withoutInfrastructureNote clonedFromName
  | .templateGroupKind => e.withoutInfrastructureNote clonedFromGroupKind

def loseAll (e : Evidence) (losses : List Loss) : Evidence :=
  losses.foldl lose e

theorem conforms_iff {e : Evidence} {desired : ControlPlaneSpec} :
    e.conforms desired = true ↔
      e.machine.reportsVersion desired.desiredVersion = true ∧
      e.machine.hasServerConfig desired.server = true ∧
      (e.machine.spec.bootstrap.configRef ≠ none →
        ∀ o, e.known.bootstrapConfigs.get? e.machine.key = some o →
        BootstrapObject.normalized o = desired.bootstrap) ∧
      (∀ o, e.known.infrastructure.get? e.machine.key = some o →
        o.isClonedFrom desired.machineTemplate.infrastructureRef = true) := by
  unfold conforms
  rw [holds_eq_true_iff, Machine.isBootstrapped_eq_true_iff,
    Machine.isFromTemplate_eq_true_iff, and_assoc]

/-- One piece less never turns a verdict from conforming to drifted. Of the four conditions of a
verdict each loss meets one, which then asks for less; the others stay as they are. -/
theorem conforms_lose {e : Evidence} {desired : ControlPlaneSpec} (h : e.conforms desired = true)
    (l : Loss) : (e.lose l).conforms desired = true := by
  obtain ⟨hversion, hserver, hbootstrap, hlineage⟩ := conforms_iff.1 h
  have hnote (note : String) : (e.withoutInfrastructureNote note).conforms desired = true := by
    refine conforms_iff.2 ⟨hversion, hserver, hbootstrap, ?_⟩
    intro o' ho'
    have hmodified : ((e.known.infrastructure.get? e.machine.key).map fun o =>
        { o with metadata := o.metadata.withoutAnnotation note }) = some o' := by
      rw [← ho']
      unfold withoutInfrastructureNote
      rw [Table.get?_modify, if_pos rfl]
    obtain ⟨o, ho, rfl⟩ := Option.map_eq_some_iff.1 hmodified
    exact InfrastructureObject.isClonedFrom_withoutAnnotation (hlineage o ho) note
  cases l with
  | serverRecord =>
    have hmissing :
        (e.lose .serverRecord).machine.metadata.annotation? serverConfigAnnotation = none := by
      unfold lose
      rw [Metadata.annotation?_withoutAnnotation, if_pos rfl]
    exact conforms_iff.2 ⟨hversion, Machine.hasServerConfig_of_missing hmissing _,
      hbootstrap, hlineage⟩
  | configRef =>
    refine conforms_iff.2 ⟨hversion, hserver, ?_, hlineage⟩
    intro href
    exact absurd rfl href
  | bootstrapSnapshot =>
    refine conforms_iff.2 ⟨hversion, hserver, ?_, hlineage⟩
    intro _ o ho
    unfold lose at ho
    rw [Table.get?_erase, if_pos rfl] at ho
    exact nomatch ho
  | infrastructureSnapshot =>
    refine conforms_iff.2 ⟨hversion, hserver, hbootstrap, ?_⟩
    intro o ho
    unfold lose at ho
    rw [Table.get?_erase, if_pos rfl] at ho
    exact nomatch ho
  | templateName => exact hnote clonedFromName
  | templateGroupKind => exact hnote clonedFromGroupKind

theorem conforms_loseAll {e : Evidence} {desired : ControlPlaneSpec} (h : e.conforms desired = true)
    (losses : List Loss) : (e.loseAll losses).conforms desired = true := by
  induction losses generalizing e with
  | nil => exact h
  | cons l losses ih => exact ih (conforms_lose h l)

theorem conforms_loseAll_every (e : Evidence) (desired : ControlPlaneSpec) :
    (e.loseAll Loss.every).conforms desired = e.machine.reportsVersion desired.desiredVersion := by
  rw [Bool.eq_iff_iff, conforms_iff]
  constructor
  · rintro ⟨hversion, -⟩
    exact hversion
  · intro hversion
    have hmissing :
        (e.loseAll Loss.every).machine.metadata.annotation? serverConfigAnnotation = none := by
      show (e.machine.metadata.withoutAnnotation serverConfigAnnotation).annotation?
        serverConfigAnnotation = none
      rw [Metadata.annotation?_withoutAnnotation, if_pos rfl]
    refine ⟨hversion, Machine.hasServerConfig_of_missing hmissing _,
      fun href => absurd rfl href, ?_⟩
    -- the losses of annotations come last and find no object any more
    have hnone : (e.loseAll Loss.every).known.infrastructure.get? e.machine.key = none := by
      show (((e.known.infrastructure.erase e.machine.key).modify e.machine.key _).modify
        e.machine.key _).get?
        e.machine.key = none
      rw [Table.get?_modify, if_pos rfl, Table.get?_modify, if_pos rfl,
        Table.get?_erase, if_pos rfl]
      rfl
    intro o ho
    exact nomatch hnone.symm.trans ho

end Evidence

/-- What is missing never refuses a machine, however many pieces are missing, and the report is all
that is needed. A record that cannot be read refuses it whatever else is known, and so does a
missing report. -/
theorem conforms_of_missing_not_of_unreadable (e : Evidence) (desired : ControlPlaneSpec) :
    (e.conforms desired = true → ∀ losses, (e.loseAll losses).conforms desired = true) ∧
      ((e.loseAll Loss.every).conforms desired =
        e.machine.reportsVersion desired.desiredVersion) ∧
      (∀ text, e.machine.metadata.annotation? serverConfigAnnotation = some text →
        ServerConfig.codec.optional.ofText? text = none → e.conforms desired = false) ∧
      (e.machine.spec.version = none → e.conforms desired = false) := by
  refine ⟨Evidence.conforms_loseAll, e.conforms_loseAll_every desired, ?_, ?_⟩
  · intro text htext hread
    rw [← Bool.not_eq_true, Evidence.conforms_iff]
    rintro ⟨-, hserver, -⟩
    rw [Machine.not_hasServerConfig_of_unreadable htext hread] at hserver
    exact Bool.false_ne_true hserver
  · intro hnone
    rw [← Bool.not_eq_true, Evidence.conforms_iff]
    rintro ⟨hversion, -⟩
    rw [Machine.not_reportsVersion_of_none hnone] at hversion
    exact Bool.false_ne_true hversion

def Evidence.recording (desired : ControlPlaneSpec) (record : String) (report : Option String) :
    Evidence where
  machine :=
    { metadata :=
        { name := some "cp-0"
          annotations := some ((∅ : Dict String).insert serverConfigAnnotation record) }
      spec := { version := report, bootstrap := { configRef := some {} } } }
  known := .madeFor desired "cp-0"

theorem conforms_of_missing_cut_off :
    let desired : ControlPlaneSpec :=
      { server := { cni := some "calico" }
        machineTemplate :=
          { infrastructureRef := { apiVersion := "g/v1", kind := "K", name := "t" } }
        version := some "v1.28.5+rke2r1" }
    let e := Evidence.recording desired "\x7b\"cni\":\"calico\"\x7d" (some "v1.28.5")
    e.conforms desired = true ∧
      (e.loseAll [.templateName, .configRef, .serverRecord]).conforms desired = true ∧
      (Evidence.recording desired "\x7b\"cni\":\"cal" (some "v1.28.5")).conforms desired = false ∧
      (Evidence.recording desired "null" none).conforms desired = false :=
  ⟨by decide +kernel, (conforms_of_missing_not_of_unreadable _ _).1 (by decide +kernel) _,
    (conforms_of_missing_not_of_unreadable _ _).2.2.1 "\x7b\"cni\":\"cal" rfl (by decide +kernel),
    (conforms_of_missing_not_of_unreadable _ _).2.2.2 rfl⟩

end Conformance
end Rollout
