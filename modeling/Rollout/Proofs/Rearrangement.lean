import Mathlib.Logic.Relation
import Rollout.Proofs.Conformance.Verdict

/-!
Filters that are put together differently. Taking a conjunction out of the conjunction around it
changes neither the verdict nor the tests that are made. The order of the filters in a conjunction
shows in the tests, and never in the verdict.
-/
namespace Rollout.Filter
variable {Label α : Type}

inductive Within (r : Filter Label α → Filter Label α → Prop) :
    Filter Label α → Filter Label α → Prop
  | here {f g : Filter Label α} : r f g → Within r f g
  | not {f g : Filter Label α} : Within r f g → Within r (.not f) (.not g)
  | all {f g : Filter Label α} (before after : List (Filter Label α)) :
      Within r f g → Within r (.all (before ++ f :: after)) (.all (before ++ g :: after))

inductive Flattens : Filter Label α → Filter Label α → Prop
  | nested (before fs after : List (Filter Label α)) :
      Flattens (.all (before ++ .all fs :: after)) (.all (before ++ fs ++ after))
  | single (f : Filter Label α) : Flattens (.all [f]) f

inductive Reorders : Filter Label α → Filter Label α → Prop
  | all {fs gs : List (Filter Label α)} : fs.Perm gs → Reorders (.all fs) (.all gs)

theorem eq_of_changes {β : Type} {r : Filter Label α → Filter Label α → Prop}
    {φ : Filter Label α → β} (hhere : ∀ f g, r f g → φ f = φ g)
    (hnot : ∀ f g, φ f = φ g → φ (.not f) = φ (.not g))
    (hall : ∀ before after f g, φ f = φ g →
      φ (.all (before ++ f :: after)) = φ (.all (before ++ g :: after))) {f g : Filter Label α}
    (h : Relation.EqvGen (Within r) f g) : φ f = φ g := by
  have hwithin : ∀ f g, Within r f g → φ f = φ g := by
    intro f g h
    induction h with
    | here h => exact hhere _ _ h
    | not _ ih => exact hnot _ _ ih
    | all before after _ ih => exact hall before after _ _ ih
  induction h with
  | rel f g h => exact hwithin f g h
  | refl f => rfl
  | symm f g _ ih => exact ih.symm
  | trans f g k _ _ ih ih' => exact ih.trans ih'

theorem run_eq_of_flattens (a : α) {f g : Filter Label α} (h : Flattens f g) :
    run a f = run a g := by
  cases h with
  | nested before fs after =>
    rw [run_all, run_all, List.append_assoc, runAll_append, runAll_append, runAll_append,
      runAll_cons, run_all]
  | single f => rw [run_all, runAll_cons, runAll, followedBy_start]

theorem run_eq_of_changes {r : Filter Label α → Filter Label α → Prop} (a : α)
    (hr : ∀ f g, r f g → run a f = run a g) {f g : Filter Label α}
    (h : Relation.EqvGen (Within r) f g) : run a f = run a g := by
  refine eq_of_changes hr ?_ ?_ h
  · intro f g hfg
    rw [run_not, run_not, hfg]
  · intro before after f g hfg
    rw [run_all, run_all, runAll_append, runAll_append, runAll_cons, runAll_cons, hfg]

theorem value_eq_of_reorders (a : α) {f g : Filter Label α} (h : Reorders f g) :
    value a f = value a g := by
  cases h with
  | all hperm => rw [value_all, value_all, hperm.all_eq]

theorem value_eq_of_changes {r : Filter Label α → Filter Label α → Prop} (a : α)
    (hr : ∀ f g, r f g → value a f = value a g) {f g : Filter Label α}
    (h : Relation.EqvGen (Within r) f g) : value a f = value a g := by
  refine eq_of_changes hr ?_ ?_ h
  · intro f g hfg
    rw [value, value, hfg]
  · intro before after f g hfg
    rw [value_all, value_all, List.all_append, List.all_append, List.all_cons, List.all_cons, hfg]

/-- A filter gives the value of its formula by the tests that are reached, and by no other; in a
conjunction these are the tests of its children up to and with the first that does not hold. What is
flattened is run alike, what is reordered has the same value. The filter of what conforms is the
conjunction of the three checks. -/
theorem run_short_circuits (f : Filter Label α) (a : α) :
    (run a f).1 = value a f ∧
      (run a f).2 = (f.occurrences.filter (·.isReached a)).map (·.label) ∧
      (∀ fs, f = all fs →
        (run a f).2 = (fs.take (fs.findIdx (fun g => !value a g) + 1)).flatMap fun g =>
          (run a g).2) ∧
      (∀ g, Relation.EqvGen (Within Flattens) f g → run a f = run a g) ∧
      (∀ g, Relation.EqvGen (Within Reorders) f g → (run a f).1 = (run a g).1) ∧
      ∀ (desired : ControlPlaneSpec) (known : Snapshots) (m : Machine),
        (run m (Conformance.filter desired known)).1 =
            (m.reportsVersion desired.desiredVersion &&
              m.isBootstrapped desired known.bootstrapConfigs &&
              m.isFromTemplate desired.machineTemplate.infrastructureRef known.infrastructure) ∧
          (run m (Conformance.filter desired known)).1 = Conformance.holds desired known m := by
  refine ⟨accepts_eq_value f a, tests_eq_reached f a, ?_, ?_, ?_, ?_⟩
  · rintro fs rfl
    exact tests_all a fs
  · intro g hflat
    exact run_eq_of_changes a (fun _ _ => run_eq_of_flattens a) hflat
  · intro g hperm
    have hvalue : value a f = value a g :=
      value_eq_of_changes a (fun _ _ => value_eq_of_reorders a) hperm
    rw [← accepts_eq_value, ← accepts_eq_value] at hvalue
    exact hvalue
  · intro desired known m
    refine ⟨?_, rfl⟩
    rw [Bool.eq_iff_iff, Bool.and_eq_true, Bool.and_eq_true, and_assoc]
    exact Conformance.holds_eq_true_iff

def above (n : Nat) : Filter Nat Nat :=
  .test n fun k => decide (n < k)

theorem run_short_circuits_nested :
    let inner := all [all [], above 5, not (above 1)]
    let nested := all [above 0, inner, above 2]
    let flat := all [above 0, above 5, not (above 1), above 2]
    let reordered := all [above 2, inner, above 0]
    (Relation.EqvGen (Within Flattens) nested flat ∧ run 3 nested = run 3 flat ∧
      run 3 flat = (false, [0, 5])) ∧
      (Relation.EqvGen (Within Reorders) nested reordered ∧
        (run 3 nested).1 = (run 3 reordered).1 ∧ run 3 reordered = (false, [2, 5])) ∧
      (run 3 nested).2 = [above 0, inner].flatMap fun g => (run 3 g).2 := by
  intro inner nested flat reordered
  have hunit : Within Flattens nested (all [above 0, all [above 5, not (above 1)], above 2]) :=
    .all [above 0] [above 2] (.here (.nested [] [] [above 5, not (above 1)]))
  have hinner : Within Flattens (all [above 0, all [above 5, not (above 1)], above 2]) flat :=
    .here (.nested [above 0] [above 5, not (above 1)] [above 2])
  have hflat : Relation.EqvGen (Within Flattens) nested flat :=
    .trans _ _ _ (.rel _ _ hunit) (.rel _ _ hinner)
  have hperm : [above 0, inner, above 2].Perm [above 2, inner, above 0] :=
    List.reverse_perm [above 2, inner, above 0]
  have hreordered : Relation.EqvGen (Within Reorders) nested reordered :=
    .rel _ _ (.here (.all hperm))
  obtain ⟨-, -, hchildren, hruns, hvalues, -⟩ := run_short_circuits nested 3
  exact ⟨⟨hflat, hruns flat hflat, by decide⟩,
    ⟨hreordered, hvalues reordered hreordered, by decide⟩,
    hchildren [above 0, inner, above 2] rfl⟩

end Rollout.Filter
