import Rollout.Proofs.Store.History
import Rollout.Proofs.Tables

/-!
What stores list. In a store where every object stands under its own namespace and name, a list has
nothing but objects of the namespace, with all of the labels. Stores are filled so that this holds,
and no plan changes it.
-/
namespace Rollout

theorem ObjectKind.metadata_withMetadata (kind : ObjectKind) (o : kind.Object) (m : Metadata) :
    kind.metadata (kind.withMetadata o m) = m := by
  cases kind <;> rfl

structure ObjectKind.IsAskedFor (kind : ObjectKind) (namespaceName : String) (labels : Dict String)
    (o : kind.Object) : Prop where
  namespaceName : (kind.metadata o).namespaceOrEmpty = namespaceName
  labels : ∀ e ∈ labels.entries, (kind.metadata o).labelDict.get? e.1 = some e.2

def Service.IsSelective {σ : Type} (service : Service σ) (s : σ) : Prop :=
  ∀ kind namespaceName labels objects,
    (service (.list kind namespaceName labels) s).answer = .ok objects →
    ∀ o ∈ objects, kind.IsAskedFor namespaceName labels o

namespace Store
variable {s s' : Store} {kind : ObjectKind} {namespaceName : String} {o created : kind.Object}

/-- Every object stands under its own namespace and name. -/
def IsPlaced (s : Store) : Prop :=
  ∀ e ∈ s.objects.entries,
    e.1 = idOf e.2.kind e.2.metadata.namespaceOrEmpty e.2.metadata.nameOrEmpty

theorem isPlaced_empty : (∅ : Store).IsPlaced := by
  intro e he
  exact absurd he List.not_mem_nil

theorem IsPlaced.insert (h : s.IsPlaced) (stored : Stored) :
    IsPlaced
      ⟨s.objects.insert (idOf stored.kind stored.metadata.namespaceOrEmpty
        stored.metadata.nameOrEmpty) stored⟩ := by
  intro e he
  rcases Table.mem_of_mem_insertEntry he with rfl | he
  · rfl
  · exact h e he

theorem IsPlaced.put (h : s.IsPlaced) (o : kind.Object) : (s.put kind o).IsPlaced :=
  h.insert ⟨kind, o⟩

theorem IsPlaced.create? (h : s.IsPlaced)
    (hcreate : s.create? kind namespaceName o = some (created, s')) : s'.IsPlaced := by
  obtain ⟨-, hcreated, rfl⟩ := create?_eq_some_iff.1 hcreate
  have hmetadata : kind.metadata created =
      { kind.metadata o with
        namespaceName := some namespaceName
        uid := some ("uid-" ++ (kind.metadata o).nameOrEmpty) } := by
    rw [hcreated]
    exact kind.metadata_withMetadata ..
  have hid : newId kind namespaceName o =
      idOf kind (kind.metadata created).namespaceOrEmpty (kind.metadata created).nameOrEmpty := by
    rw [hmetadata]
    rfl
  rw [hid]
  exact h.insert ⟨kind, created⟩

theorem isAskedFor_of_mem_list {labels : Dict String} (h : s.IsPlaced)
    (ho : o ∈ s.list kind namespaceName labels) : kind.IsAskedFor namespaceName labels o := by
  obtain ⟨hlisted, hlabels⟩ := List.mem_filter.1 ho
  obtain ⟨⟨id, stored⟩, hmem, hfound⟩ := List.mem_filterMap.1 hlisted
  obtain ⟨⟨-, hnamespace⟩, hkind⟩ := Option.ite_none_right_eq_some.1 hfound
  constructor
  · have hplace :
        id = idOf stored.kind stored.metadata.namespaceOrEmpty stored.metadata.nameOrEmpty :=
      h _ hmem
    unfold Stored.as? at hkind
    obtain ⟨rfl, hobject⟩ := Option.dite_none_right_eq_some.1 hkind
    cases hobject
    rw [hplace] at hnamespace
    exact hnamespace
  · intro e he
    exact beq_iff_eq.1 (List.all_eq_true.1 hlabels e he)

theorem Allows.isPlaced {Place : Type} [DecidableEq Place] {place : Place} {e : Event Place}
    (h : s.Allows place e s') (hs : s.IsPlaced) : s'.IsPlaced := by
  rcases h.eq_or_created with ⟨rfl, -⟩ | ⟨_, _, _, _, -, hcreate⟩
  · exact hs
  · exact hs.create? hcreate

end Store

namespace Surroundings.Keeps
variable {Place σ α : Type} [DecidableEq Place] {env : Surroundings Place σ} {place : Place}
  {view : σ → Store}

theorem isSelective (h : env.Keeps place view) {s : σ} (hs : (view s).IsPlaced) :
    (env.service place).IsSelective s := by
  intro kind namespaceName labels objects hobjects o ho
  have hallows := h s _ _ (.answered place (.list kind namespaceName labels))
  rw [Store.allows_here, hobjects] at hallows
  rw [hallows.1] at ho
  exact Store.isAskedFor_of_mem_list hs ho

theorem isPlaced_run (h : env.Keeps place view) (t : Plan Place α) {s : σ}
    (hs : (view s).IsPlaced) : (view (t.run env s).2).IsPlaced := by
  refine Plan.run_preserves (fun _ s' => (view s').IsPlaced) ?_ t [] s hs
  intro _ s' e s'' hs' he
  exact (h s' e s'' he).isPlaced hs'

end Surroundings.Keeps
end Rollout
