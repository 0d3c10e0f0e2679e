import Rollout.Proofs.Conformance.Injection

/-!
What is left of a bootstrap configuration without what was injected. An item is dropped exactly if
it looks injected, so what is left is the one configuration free of such items that the old one can
have been made from by injecting some. Main statement: this holds of every marked object, and
decides whether a machine that was set up from it has what is asked for.
-/
namespace Rollout

/-- What is left of a list without the items that satisfy `p` is the one list free of them that it
can be made from by insertions. -/
theorem Insertion.filter_eq_iff {α : Type} {p : α → Bool} {as bs : List α} :
    bs.filter (fun b => !p b) = as ↔ (∀ a ∈ as, p a = false) ∧ Insertion p as bs := by
  constructor
  · rintro rfl
    refine ⟨fun a ha => by simpa using (List.mem_filter.1 ha).2, ?_⟩
    induction bs with
    | nil => exact .nil
    | cons b bs ih =>
      cases hb : p b with
      | true =>
        rw [List.filter_cons, hb]
        exact .insert hb ih
      | false =>
        rw [List.filter_cons, hb]
        exact .keep ih
  · rintro ⟨hfree, h⟩
    rw [h.filter_eq, List.filter_eq_self]
    intro a ha
    rw [hfree a ha]
    rfl

namespace BootstrapConfig

structure InjectedInto (c c' : BootstrapConfig) : Prop where
  files : Insertion File.isInjected c.files c'.files
  postCommands : Insertion (· == injectedCommand) c.postCommands c'.postCommands
  others : c' = { c with files := c'.files, postCommands := c'.postCommands }

theorem withoutInjected_eq_iff {c c' : BootstrapConfig} :
    c'.withoutInjected = c ↔ c.IsFree ∧ c.InjectedInto c' := by
  have hfiles : c'.files.filter (fun f => !f.isInjected) = c.files ↔
      (∀ f ∈ c.files, f.isInjected = false) ∧ Insertion File.isInjected c.files c'.files :=
        Insertion.filter_eq_iff
  have hcommands : c'.postCommands.filter (· != injectedCommand) = c.postCommands ↔
      (∀ s ∈ c.postCommands, (s == injectedCommand) = false) ∧
        Insertion (· == injectedCommand) c.postCommands c'.postCommands := Insertion.filter_eq_iff
  have hfree : (∀ s ∈ c.postCommands, (s == injectedCommand) = false) ↔
      injectedCommand ∉ c.postCommands := by
    constructor
    · intro h hmem
      exact absurd (h _ hmem) (by simp)
    · intro h s hs
      exact beq_eq_false_iff_ne.2 (ne_of_mem_of_not_mem hs h)
  constructor
  · rintro rfl
    obtain ⟨hf, hinsertf⟩ := hfiles.1 rfl
    obtain ⟨hc, hinsertc⟩ := hcommands.1 rfl
    exact ⟨⟨hf, hfree.1 hc⟩, hinsertf, hinsertc, rfl⟩
  · rintro ⟨⟨hf, hc⟩, hinsertf, hinsertc, hothers⟩
    unfold withoutInjected
    rw [hfiles.2 ⟨hf, hinsertf⟩, hcommands.2 ⟨hfree.2 hc, hinsertc⟩, hothers]

theorem isFree_withoutInjected (c : BootstrapConfig) : c.withoutInjected.IsFree :=
  (withoutInjected_eq_iff.1 rfl).1

end BootstrapConfig

theorem Machine.isBootstrapped_iff_of_snapshot {m : Machine} {desired : ControlPlaneSpec}
    {configs : Dict BootstrapObject} {o : BootstrapObject}
    (hserver : m.hasServerConfig desired.server = true) (href : m.spec.bootstrap.configRef ≠ none)
    (ho : configs.get? m.key = some o) :
    m.isBootstrapped desired configs = true ↔
      BootstrapObject.normalized o = desired.bootstrap := by
  rw [isBootstrapped_eq_true_iff]
  constructor
  · rintro ⟨-, hspec⟩
    exact hspec href o ho
  · intro hfits
    refine ⟨hserver, ?_⟩
    intro _ p hp
    obtain rfl := Option.some.inj (ho.symm.trans hp)
    exact hfits

namespace BootstrapObject

/-- Without the marker nothing is dropped. With it the injected files and commands are, and all else
stays as it is: what is left is the one configuration free of injected items that these were put
into, and to drop them again changes nothing. So a machine with the right server configuration has
what is asked for exactly if that is free of injected items and the snapshot is made from it by
injecting some. -/
theorem normalized_erases_injected (o : BootstrapObject) :
    (isMarked o = false → normalized o = o.spec) ∧
      (isMarked o = true →
        normalized o = { o.spec with
          files := o.spec.files.filter fun f => f.path ∉ injectedFiles
          postCommands := o.spec.postCommands.filter fun s => s ≠ injectedCommand } ∧
        (∀ c : BootstrapConfig, normalized o = c ↔ c.IsFree ∧ c.InjectedInto o.spec) ∧
        normalized { o with spec := normalized o } = normalized o ∧
        ∀ (desired : ControlPlaneSpec) (configs : Dict BootstrapObject) (m : Machine),
          m.hasServerConfig desired.server = true → m.spec.bootstrap.configRef ≠ none →
            configs.get? m.key = some o → (m.isBootstrapped desired configs = true ↔
              desired.bootstrap.IsFree ∧ desired.bootstrap.InjectedInto o.spec)) := by
  refine ⟨normalized_of_not_marked, fun hmarked => ?_⟩
  have hnormalized : normalized o = o.spec.withoutInjected := normalized_of_marked hmarked
  have hiff (c : BootstrapConfig) : normalized o = c ↔ c.IsFree ∧ c.InjectedInto o.spec := by
    rw [hnormalized, BootstrapConfig.withoutInjected_eq_iff]
  refine ⟨?_, hiff, ?_, ?_⟩
  · rw [hnormalized]
    simp only [BootstrapConfig.withoutInjected, File.isInjected, List.contains_eq_mem, decide_not,
      bne, Bool.beq_eq_decide_eq]
  · have hagain : normalized { o with spec := normalized o } = (normalized o).withoutInjected :=
      normalized_of_marked hmarked
    rw [hagain, hnormalized, BootstrapConfig.withoutInjected_eq_self_iff]
    exact BootstrapConfig.isFree_withoutInjected _
  · intro desired configs m hserver href ho
    rw [Machine.isBootstrapped_iff_of_snapshot hserver href ho]
    exact hiff desired.bootstrap

def sampleMarked : BootstrapObject where
  metadata := { annotations := some ((∅ : Dict String).insert injectionMarker "") }
  spec :=
    { files := [.inline "/opt/system-agent-install.sh" "a", .inline "/etc/motd" "own",
        .inline "/opt/system-agent-install.sh" "b"]
      preCommands := [injectedCommand]
      postCommands := ["echo done", injectedCommand, "echo done"] }

theorem normalized_erases_injected_between :
    let m := Machine.reporting "cp-0" "v1.28.5+rke2r1"
    let desired : ControlPlaneSpec :=
      { bootstrap :=
          { files := [.inline "/etc/motd" "own"], preCommands := [injectedCommand],
            postCommands := ["echo done", "echo done"] }
        machineTemplate := { infrastructureRef := {} } }
    isMarked { spec := desired.bootstrap } = false ∧
      normalized { spec := desired.bootstrap } = desired.bootstrap ∧
      isMarked sampleMarked = true ∧ normalized sampleMarked = desired.bootstrap ∧
      m.isBootstrapped desired ((∅ : Dict BootstrapObject).insert m.key sampleMarked) = true := by
  intro m desired
  have hplain := (normalized_erases_injected { spec := desired.bootstrap }).1 rfl
  obtain ⟨-, hiff, -, hmachine⟩ := (normalized_erases_injected sampleMarked).2 rfl
  have hinto : desired.bootstrap.InjectedInto sampleMarked.spec :=
    ⟨.insert rfl (.keep (.insert rfl .nil)), .keep (.insert rfl (.keep .nil)), rfl⟩
  have hfree : desired.bootstrap.IsFree := by decide
  exact ⟨rfl, hplain, rfl, (hiff _).2 ⟨hfree, hinto⟩,
    (hmachine desired _ m rfl nofun rfl).2 ⟨hfree, hinto⟩⟩

end BootstrapObject
end Rollout
