import Rollout.Proofs.Conformance.Comparison
import Rollout.Proofs.Text.Cutting

/-!
Which template an infrastructure object was cloned from. Kind and group stand in one text with a dot
between them; a kind has no dot, so the text tells both, and the check accepts exactly the template
of the same name, kind and group.
-/
namespace Rollout
open Text

namespace Reference
variable {r r' : Reference} {group : String}

def IsGroupOf (group apiVersion : String) : Prop :=
  ('/' ∉ group.toList ∧ ∃ version, apiVersion.toList = group.toList ++ '/' :: version) ∨
    ('/' ∉ apiVersion.toList ∧ group = "")

def SameGroup (r r' : Reference) : Prop :=
  ∃ group, IsGroupOf group r.apiVersion ∧ IsGroupOf group r'.apiVersion

theorem isGroupOf_iff : IsGroupOf group r.apiVersion ↔ r.group = group := by
  unfold Reference.group splitApiVersion
  cases hcut : cutAt? '/' r.apiVersion.toList with
  | none =>
    have hslash : '/' ∉ r.apiVersion.toList := cutAt?_eq_none_iff.1 hcut
    constructor
    · rintro (⟨-, version, htext⟩ | ⟨-, rfl⟩)
      · rw [htext] at hslash
        exact absurd (by simp) hslash
      · rfl
    · rintro rfl
      exact .inr ⟨hslash, rfl⟩
  | some parts =>
    obtain ⟨front, rest⟩ := parts
    obtain ⟨htext, hfront⟩ := cutAt?_eq_some hcut
    constructor
    · rintro (⟨hgroup, version, htext'⟩ | ⟨hslash, -⟩)
      · rw [htext', cutAt?_append hgroup] at hcut
        obtain ⟨rfl, -⟩ := Prod.mk.inj (Option.some.inj hcut)
        exact String.ofList_toList
      · rw [htext] at hslash
        exact absurd (by simp) hslash
    · rintro rfl
      refine .inl ⟨?_, rest, ?_⟩
      · rwa [String.toList_ofList]
      · rwa [String.toList_ofList]

theorem sameGroup_iff : SameGroup r r' ↔ r.group = r'.group := by
  unfold SameGroup
  simp only [isGroupOf_iff]
  exact ⟨fun ⟨_, h, h'⟩ => h.trans h'.symm, fun h => ⟨r'.group, h, rfl⟩⟩

theorem cutAt?_groupKind (h : '.' ∉ r.kind.toList) :
    cutAt? '.' r.groupKind.toList =
      if r.group = "" then none else some (r.kind.toList, r.group.toList) := by
  unfold groupKind
  split
  · exact cutAt?_eq_none_iff.2 h
  · rw [String.toList_append, String.toList_append, List.append_assoc]
    exact cutAt?_append h _

theorem groupKind_eq_iff (h : '.' ∉ r.kind.toList) (h' : '.' ∉ r'.kind.toList) :
    r.groupKind = r'.groupKind ↔ r.kind = r'.kind ∧ r.group = r'.group := by
  constructor
  · intro hsame
    have hcut := cutAt?_groupKind h
    rw [hsame, cutAt?_groupKind h'] at hcut
    by_cases hcore : r.group = "" <;> by_cases hcore' : r'.group = ""
    · unfold groupKind at hsame
      rw [if_pos hcore, if_pos hcore'] at hsame
      exact ⟨hsame, hcore.trans hcore'.symm⟩
    · rw [if_pos hcore, if_neg hcore'] at hcut
      exact nomatch hcut
    · rw [if_neg hcore, if_pos hcore'] at hcut
      exact nomatch hcut
    · rw [if_neg hcore, if_neg hcore'] at hcut
      obtain ⟨hkind, hgroup⟩ := Prod.mk.inj (Option.some.inj hcut)
      exact ⟨(String.toList_inj.1 hkind).symm, (String.toList_inj.1 hgroup).symm⟩
  · rintro ⟨hkind, hgroup⟩
    exact groupKind_congr hkind hgroup

example : groupKind ⟨"b.c/v1", "A", "t", none⟩ = groupKind ⟨"c/v1", "A.b", "t", none⟩ := by
  decide +kernel

end Reference

theorem InfrastructureObject.isClonedFrom_iff {o : InfrastructureObject}
    {source desired : Reference} (hname : o.metadata.annotation? clonedFromName = some source.name)
    (hkind : o.metadata.annotation? clonedFromGroupKind = some source.groupKind) :
    o.isClonedFrom desired = true ↔
      desired.name = source.name ∧ desired.groupKind = source.groupKind := by
  unfold isClonedFrom
  rw [hname, hkind]
  dsimp only
  rw [Bool.and_eq_true, beq_iff_eq, beq_iff_eq, eq_comm, @eq_comm _ desired.groupKind]

/-- Where the infrastructure of a machine is known and says that it was cloned from a template, the
check accepts that template and those that differ from it in no more than the namespace and what
stands behind the group in the interface version. -/
theorem Machine.isFromTemplate_iff_same_template {m : Machine} {source desired : Reference}
    {infrastructure : Dict InfrastructureObject} {o : InfrastructureObject}
    (hsource : '.' ∉ source.kind.toList) (hdesired : '.' ∉ desired.kind.toList)
    (ho : infrastructure.get? m.key = some o)
    (hname : o.metadata.annotation? clonedFromName = some source.name)
    (hkind : o.metadata.annotation? clonedFromGroupKind = some source.groupKind) :
    (m.isFromTemplate desired infrastructure = true ↔
      desired.name = source.name ∧ desired.kind = source.kind ∧ desired.SameGroup source) ∧
      ∀ apiVersion namespaceName, desired.SameGroup { desired with apiVersion } →
        m.isFromTemplate { desired with apiVersion, namespaceName } infrastructure =
          m.isFromTemplate desired infrastructure := by
  constructor
  · rw [isFromTemplate_eq_all, ho, Option.all_some,
      InfrastructureObject.isClonedFrom_iff hname hkind,
      Reference.groupKind_eq_iff hdesired hsource, Reference.sameGroup_iff]
  · intro apiVersion namespaceName hgroup
    have hsame :
        Reference.groupKind { desired with apiVersion, namespaceName } = desired.groupKind :=
      Reference.groupKind_congr rfl (Reference.sameGroup_iff.1 hgroup).symm
    exact isFromTemplate_congr rfl hsame rfl

theorem Machine.isFromTemplate_iff_same_template_versions :
    let source : Reference :=
      ⟨"infrastructure.cluster.x-k8s.io/v1beta1", "DockerMachineTemplate", "cp-template", none⟩
    let newer : Reference :=
      { source with
        apiVersion := "infrastructure.cluster.x-k8s.io/v1beta2/x"
        namespaceName := some "ns" }
    let foreign : Reference := { source with apiVersion := "cluster.x-k8s.io/v1beta1" }
    let infrastructure := (∅ : Dict InfrastructureObject).insert "cp-0"
      (.clonedFor { machineTemplate := { infrastructureRef := source } })
    let m := Machine.reporting "cp-0" "v1.28.5"
    m.isFromTemplate newer infrastructure = true ∧
      m.isFromTemplate foreign infrastructure = false := by
  intro source newer foreign infrastructure m
  have ho : infrastructure.get? m.key =
      some (.clonedFor { machineTemplate := { infrastructureRef := source } }) := by
    rw [show m.key = "cp-0" from rfl, Table.get?_insert, if_pos rfl]
  have hname : Metadata.annotation? (InfrastructureObject.clonedFor
      { machineTemplate := { infrastructureRef := source } }).metadata clonedFromName =
        some source.name := by
    simp [InfrastructureObject.clonedFor, Metadata.annotation?, Table.get?_insert, clonedFromName,
      clonedFromGroupKind]
  have hkind : Metadata.annotation? (InfrastructureObject.clonedFor
      { machineTemplate := { infrastructureRef := source } }).metadata clonedFromGroupKind =
        some source.groupKind := by
    simp [InfrastructureObject.clonedFor, Metadata.annotation?, Table.get?_insert, clonedFromName,
      clonedFromGroupKind]
  have hsource : '.' ∉ source.kind.toList := by decide +kernel
  have hnewer := @isFromTemplate_iff_same_template m source newer _ _ hsource hsource ho hname hkind
  have hforeign :=
    @isFromTemplate_iff_same_template m source foreign _ _ hsource hsource ho hname hkind
  constructor
  · rw [hnewer.1]
    exact ⟨rfl, rfl, Reference.sameGroup_iff.2 (by decide +kernel)⟩
  · rw [← Bool.not_eq_true, hforeign.1]
    rintro ⟨-, -, hgroup⟩
    exact absurd (Reference.sameGroup_iff.1 hgroup) (by decide +kernel)

end Rollout
