import Rollout.Proofs.Conformance.Verdict

/-!
What a machine's verdict owes to the webhook that injects an agent. Dropping what was injected gives
back the old configuration only where that had nothing in it that looks injected; the configuration
that is asked for is not searched for such items.
-/
namespace Rollout

/-- The second list is the first with items that satisfy `p` put in anywhere. -/
inductive Insertion {α : Type} (p : α → Bool) : List α → List α → Prop
  | nil : Insertion p [] []
  | keep {a : α} {as bs : List α} : Insertion p as bs → Insertion p (a :: as) (a :: bs)
  | insert {b : α} {as bs : List α} :
      p b = true → Insertion p as bs → Insertion p as (b :: bs)

theorem Insertion.filter_eq {α : Type} {p : α → Bool} {as bs : List α}
    (h : Insertion p as bs) : bs.filter (fun a => !p a) = as.filter fun a => !p a := by
  induction h with
  | nil => rfl
  | keep _ ih => rw [List.filter_cons, List.filter_cons, ih]
  | insert hb _ ih =>
    rw [List.filter_cons, hb]
    exact ih

theorem Insertion.append {α : Type} {p : α → Bool} (as : List α) {bs : List α}
    (h : ∀ b ∈ bs, p b = true) : Insertion p as (as ++ bs) := by
  induction as with
  | cons a as ih => exact .keep ih
  | nil =>
    induction bs with
    | nil => exact .nil
    | cons b bs ih =>
      have hb : p b = true := h b (List.mem_cons_self ..)
      have hbs : ∀ c ∈ bs, p c = true := fun c hc => h c (List.mem_cons_of_mem _ hc)
      exact .insert hb (ih hbs)

namespace BootstrapConfig

def IsFree (c : BootstrapConfig) : Prop :=
  (∀ f ∈ c.files, f.isInjected = false) ∧ injectedCommand ∉ c.postCommands

instance {c : BootstrapConfig} : Decidable c.IsFree := inferInstanceAs (Decidable (_ ∧ _))

theorem withoutInjected_eq_self_iff {c : BootstrapConfig} : c.withoutInjected = c ↔ c.IsFree := by
  have hfiles : c.files.filter (fun f => !f.isInjected) = c.files ↔
      ∀ f ∈ c.files, f.isInjected = false := by
    simp [List.filter_eq_self]
  have hcommands : c.postCommands.filter (· != injectedCommand) = c.postCommands ↔
      injectedCommand ∉ c.postCommands := by
    rw [List.filter_eq_self]
    constructor
    · intro h hmem
      have hne : (injectedCommand != injectedCommand) = true := h _ hmem
      simp at hne
    · intro h a ha
      rw [bne_iff_ne]
      exact ne_of_mem_of_not_mem ha h
  unfold IsFree withoutInjected
  rw [← hfiles, ← hcommands]
  constructor
  · intro h
    exact ⟨congrArg files h, congrArg postCommands h⟩
  · rintro ⟨hf, hc⟩
    rw [hf, hc]

end BootstrapConfig

namespace BootstrapObject

/-- The webhook sets its marker and puts in files and commands of its own, and leaves all else as it
is. -/
structure Injects (o o' : BootstrapObject) : Prop where
  marked : ∃ value, o'.metadata =
    { o.metadata with
      annotations := some ((o.metadata.annotations.getD ∅).insert injectionMarker value) }
  files : Insertion File.isInjected o.spec.files o'.spec.files
  postCommands : Insertion (· == injectedCommand) o.spec.postCommands o'.spec.postCommands
  others : o'.spec = { o.spec with files := o'.spec.files, postCommands := o'.spec.postCommands }

def injected (o : BootstrapObject) : BootstrapObject where
  metadata :=
    { o.metadata with
      annotations := some ((o.metadata.annotations.getD ∅).insert injectionMarker "true") }
  spec :=
    { o.spec with
      files := o.spec.files ++ injectedFiles.map fun path => .inline path "injected"
      postCommands := o.spec.postCommands ++ [injectedCommand] }

theorem injects_injected (o : BootstrapObject) : Injects o (injected o) where
  marked := ⟨"true", rfl⟩
  files := .append _ (by decide)
  postCommands := .append _ (by decide)
  others := rfl

theorem Injects.isMarked {o o' : BootstrapObject} (h : Injects o o') :
    BootstrapObject.isMarked o' = true := by
  obtain ⟨value, hv⟩ := h.marked
  unfold BootstrapObject.isMarked Metadata.annotation?
  rw [hv]
  simp [Table.get?_insert]

theorem Injects.withoutInjected_eq {o o' : BootstrapObject} (h : Injects o o') :
    o'.spec.withoutInjected = o.spec.withoutInjected := by
  have hfiles :
      o'.spec.files.filter (fun f => !f.isInjected) = o.spec.files.filter fun f => !f.isInjected :=
    h.files.filter_eq
  have hcommands : o'.spec.postCommands.filter (· != injectedCommand) =
      o.spec.postCommands.filter (· != injectedCommand) :=
    h.postCommands.filter_eq
  unfold BootstrapConfig.withoutInjected
  rw [hfiles, hcommands, h.others]

theorem Injects.normalized_eq {o o' : BootstrapObject} (h : Injects o o') :
    BootstrapObject.normalized o' = o.spec.withoutInjected := by
  rw [normalized_of_marked h.isMarked, h.withoutInjected_eq]

end BootstrapObject

namespace Conformance

/-- A machine that conforms goes on conforming after the webhook exactly if its configuration is not
compared, or if the one that is asked for has nothing in it that looks injected. -/
theorem holds_injected_iff {desired : ControlPlaneSpec} {known : Snapshots} {m : Machine}
    {o o' : BootstrapObject} (hknown : known.bootstrapConfigs.get? m.key = some o)
    (hplain : BootstrapObject.isMarked o = false) (hinjects : BootstrapObject.Injects o o')
    (hholds : holds desired known m = true) :
    holds desired (known.withBootstrap m.key o') m = true ↔
      m.spec.bootstrap.configRef = none ∨ desired.bootstrap.IsFree := by
  obtain ⟨hversion, hbootstrap, hlineage⟩ := holds_eq_true_iff.1 hholds
  obtain ⟨hserver, hspec⟩ := Machine.isBootstrapped_eq_true_iff.1 hbootstrap
  by_cases href : m.spec.bootstrap.configRef = none
  · have hafter : holds desired (known.withBootstrap m.key o') m = true := by
      rw [holds_eq_true_iff, Machine.isBootstrapped_eq_true_iff]
      exact ⟨hversion, ⟨hserver, fun h => absurd href h⟩, hlineage⟩
    exact iff_of_true hafter (.inl href)
  · -- before the webhook the snapshot itself was compared, so it is what is asked for
    have hsame : o.spec = desired.bootstrap := by
      rw [← BootstrapObject.normalized_of_not_marked hplain]
      exact hspec href o hknown
    have ho' : (known.withBootstrap m.key o').bootstrapConfigs.get? m.key = some o' := by
      rw [Snapshots.get?_withBootstrap]
    have hafter : holds desired (known.withBootstrap m.key o') m = true ↔
        BootstrapObject.normalized o' = desired.bootstrap :=
      holds_iff_of_snapshot hversion hserver hlineage href ho'
    rw [hafter, hinjects.normalized_eq, hsame, BootstrapConfig.withoutInjected_eq_self_iff,
      or_iff_right href]

def askingFor (path : String) : ControlPlaneSpec where
  bootstrap := { files := [.inline path "own"] }
  machineTemplate := { infrastructureRef := {} }
  version := some "v1.28.5+rke2r1"

theorem holds_injected_motd :
    let m := Machine.reporting "cp-0" "v1.28.5+rke2r1"
    let o : BootstrapObject := { spec := (askingFor "/etc/motd").bootstrap }
    let known := Snapshots.withBootstrap {} m.key o
    holds (askingFor "/etc/motd") known m = true ∧
      holds (askingFor "/etc/motd") (known.withBootstrap m.key (BootstrapObject.injected o)) m =
        true :=
  ⟨rfl, (holds_injected_iff (o := { spec := (askingFor "/etc/motd").bootstrap }) rfl rfl
    (BootstrapObject.injects_injected _) rfl).2 (.inr (by decide))⟩

/-- A file of the control plane's own at one of the injected paths is dropped as well, and then it
is missing. -/
theorem not_holds_injected_own_file :
    let m := Machine.reporting "cp-0" "v1.28.5+rke2r1"
    let o : BootstrapObject := { spec := (askingFor "/etc/rancher/agent/config.yaml").bootstrap }
    let known := Snapshots.withBootstrap {} m.key o
    BootstrapObject.isMarked o = false ∧
      BootstrapObject.Injects o (BootstrapObject.injected o) ∧
      holds (askingFor "/etc/rancher/agent/config.yaml") known m = true ∧
      holds (askingFor "/etc/rancher/agent/config.yaml")
        (known.withBootstrap m.key (BootstrapObject.injected o)) m = false :=
  ⟨rfl, BootstrapObject.injects_injected _, rfl, rfl⟩

end Conformance
end Rollout
