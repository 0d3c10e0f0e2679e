import Rollout.Machines
import Rollout.Proofs.Rearrangement
import Rollout.Proofs.Store.Selection

/-!
The machines of a cluster that filters leave over. Of what the managing cluster lists, filters leave
out machines and do nothing else, and how they are put together does not matter. Where nothing can
be listed, the filters do not matter at all.
-/
namespace Rollout
variable {Label σ : Type}

namespace Filter
variable {α : Type}

theorem fst_select (fs : List (Filter Label α)) (items : List α) :
    (select fs items).1 = items.filter fun a => fs.all (value a) := by
  have haccepts : (all fs).accepts = fun a => fs.all (value a) := by
    funext a
    rw [accepts_eq_value, value_all]
  rw [select, haccepts]

theorem select_congr {fs gs : List (Filter Label α)} (h : ∀ a, run a (all fs) = run a (all gs))
    (items : List α) : select fs items = select gs items := by
  have haccepts : (all fs).accepts = (all gs).accepts := by
    funext a
    rw [accepts, h, accepts]
  unfold select
  rw [haccepts]
  simp only [h]

end Filter

namespace Machines

def reading (env : Surroundings Place σ) (key : ClusterKey) (s : σ) :
    Handling σ (List Machine) :=
  env.service .management (.list .machine key.namespaceName (clusterLabels key.name)) s

def found (env : Surroundings Place σ) (key : ClusterKey) (s : σ)
    (filters : List (Filter Label Machine)) : Except Failure (List Machine) :=
  ((ofCluster key filters).run env s).1.map (·.1)

variable {env : Surroundings Place σ} {key : ClusterKey} {s : σ} {ms : List Machine}

theorem run_of_ok (h : (reading env key s).answer = .ok ms) (fs : List (Filter Label Machine)) :
    (ofCluster key fs).run env s = (.ok (Filter.select fs ms), (reading env key s).finished) := by
  unfold reading at h ⊢
  rw [ofCluster, Plan.run, h]
  rfl

theorem run_of_error {f : Failure} (h : (reading env key s).answer = .error f)
    (fs : List (Filter Label Machine)) :
    (ofCluster key fs).run env s = (.error (failure f), (reading env key s).finished) := by
  unfold reading at h ⊢
  rw [ofCluster, Plan.run, h]
  rfl

theorem found_of_ok (h : (reading env key s).answer = .ok ms) (fs : List (Filter Label Machine)) :
    found env key s fs = .ok (ms.filter fun m => fs.all (Filter.value m)) := by
  unfold found
  rw [run_of_ok h, ← Filter.fst_select]
  rfl

theorem run_all_filters (h : (reading env key s).answer = .ok ms)
    (fs : List (Filter Label Machine)) :
    (ofCluster key [.all fs]).run env s = (ofCluster key fs).run env s := by
  have hselect : Filter.select [.all fs] ms = Filter.select fs ms :=
    Filter.select_congr (fun m => Filter.run_eq_of_flattens m (.single (.all fs))) ms
  rw [run_of_ok h, run_of_ok h, hselect]

theorem found_of_perm (h : (reading env key s).answer = .ok ms)
    {fs gs : List (Filter Label Machine)} (hperm : fs.Perm gs) :
    found env key s gs = found env key s fs := by
  have hall : (fun m => gs.all (Filter.value m)) = fun m => fs.all (Filter.value m) := by
    funext m
    exact hperm.symm.all_eq
  rw [found_of_ok h, found_of_ok h, hall]

theorem found_append (h : (reading env key s).answer = .ok ms)
    (fs gs : List (Filter Label Machine)) :
    found env key s (fs ++ gs) =
      (found env key s fs).map (·.filter fun m => gs.all (Filter.value m)) := by
  have hboth : (ms.filter fun m => (fs ++ gs).all (Filter.value m)) =
      (ms.filter fun m => fs.all (Filter.value m)).filter fun m => gs.all (Filter.value m) := by
    rw [List.filter_filter]
    apply List.filter_congr
    intro m _
    rw [List.all_append, Bool.and_comm]
  rw [found_of_ok h, found_of_ok h, hboth]
  rfl

theorem found_nil (h : (reading env key s).answer = .ok ms) :
    found env key s ([] : List (Filter Label Machine)) = .ok ms := by
  have hall : (ms.filter fun m => ([] : List (Filter Label Machine)).all (Filter.value m)) = ms :=
    List.filter_eq_self.2 fun _ _ => rfl
  rw [found_of_ok h, hall]

theorem found_shared (h : (reading env key s).answer = .ok ms) (f : Filter Label Machine) :
    ∃ yes no, found env key s [f] = .ok yes ∧ found env key s [.not f] = .ok no ∧
      (∀ m ∈ yes, f.value m = true) ∧ (∀ m ∈ no, f.value m = false) ∧
      (yes ++ no).Perm ms := by
  refine ⟨ms.filter (f.value ·), ms.filter (!f.value ·), ?_, ?_, ?_, ?_,
    List.filter_append_perm _ ms⟩
  · simp [found_of_ok h]
  · simp [found_of_ok h, Filter.value]
  · intro m hm
    exact (List.mem_filter.1 hm).2
  · intro m hm
    exact Bool.not_eq_true' _ ▸ (List.mem_filter.1 hm).2

theorem exists_listed {fs : List (Filter Label Machine)} (h : found env key s fs = .ok ms) :
    ∃ listed, (reading env key s).answer = .ok listed ∧ ms.Sublist listed := by
  cases hanswer : (reading env key s).answer with
  | error f =>
    unfold found at h
    rw [run_of_error hanswer] at h
    exact nomatch h
  | ok listed =>
    rw [found_of_ok hanswer] at h
    cases h
    exact ⟨listed, rfl, List.filter_sublist⟩

theorem of_cluster_of_found (h : (env.service .management).IsSelective s)
    {fs : List (Filter Label Machine)} (hfound : found env key s fs = .ok ms) {m : Machine}
    (hm : m ∈ ms) :
    m.metadata.namespaceOrEmpty = key.namespaceName ∧
      m.metadata.labelDict.get? clusterLabel = some key.name := by
  obtain ⟨listed, hlisted, hsublist⟩ := exists_listed hfound
  have hasked : ObjectKind.machine.IsAskedFor key.namespaceName (clusterLabels key.name) m :=
    h .machine key.namespaceName (clusterLabels key.name) listed hlisted m (hsublist.subset hm)
  exact ⟨hasked.namespaceName,
    hasked.labels (clusterLabel, key.name) (List.mem_singleton_self _)⟩

/-- Of what the managing cluster lists, the machines for which every filter holds are found, in
their order and as often as they are listed. One conjunction of the filters does the same work, any
order of them finds the same, more of them narrow what fewer find, and a filter and its negation
share out what is found without filters. A managing cluster that lists nothing else than it is asked
for lets no machine of another namespace or cluster be found. Where it fails, so does the search,
whatever the filters are. -/
theorem found_narrows (env : Surroundings Place σ) (key : ClusterKey) (s : σ) :
    (∀ ms, (reading env key s).answer = .ok ms →
      (∀ fs gs : List (Filter Label Machine),
        found env key s fs = .ok (ms.filter fun m => fs.all (Filter.value m)) ∧
          (ofCluster key [.all fs]).run env s = (ofCluster key fs).run env s ∧
          (fs.Perm gs → found env key s gs = found env key s fs) ∧
          found env key s (fs ++ gs) =
            (found env key s fs).map (·.filter fun m => gs.all (Filter.value m))) ∧
      found env key s ([] : List (Filter Label Machine)) = .ok ms ∧
      ∀ f : Filter Label Machine, ∃ yes no,
        found env key s [f] = .ok yes ∧ found env key s [.not f] = .ok no ∧
          (∀ m ∈ yes, f.value m = true) ∧ (∀ m ∈ no, f.value m = false) ∧
          (yes ++ no).Perm ms) ∧
    ((env.service .management).IsSelective s →
      ∀ (fs : List (Filter Label Machine)) ms, found env key s fs = .ok ms → ∀ m ∈ ms,
        m.metadata.namespaceOrEmpty = key.namespaceName ∧
          m.metadata.labelDict.get? clusterLabel = some key.name) ∧
    ∀ f, (reading env key s).answer = .error f → ∀ fs gs : List (Filter Label Machine),
      ((ofCluster key fs).run env s).1 =
        .error (.internal "management" ("failed to list machines: " ++ f.message)) ∧
        (ofCluster key fs).run env s = (ofCluster key gs).run env s := by
  refine ⟨?_, ?_, ?_⟩
  · intro ms hms
    refine ⟨?_, found_nil hms, found_shared hms⟩
    intro fs gs
    exact ⟨found_of_ok hms fs, run_all_filters hms fs, found_of_perm hms,
      found_append hms fs gs⟩
  · intro hselective fs ms hfound m hm
    exact of_cluster_of_found hselective hfound hm
  · intro f hf fs gs
    rw [run_of_error hf, run_of_error hf]
    exact ⟨rfl, rfl⟩

def sample (cluster name : String) : Machine where
  metadata :=
    { name := some name, namespaceName := some "ns", labels := some (clusterLabels cluster) }
  spec := {}

def isNamed (name : String) : Filter String Machine :=
  .test name fun m => m.metadata.name == some name

def sampleStore : Store :=
  (((∅ : Store).put .machine (sample "prod" "cp-0")).put .machine (sample "prod" "cp-1")).put
    .machine (sample "staging" "cp-2")

theorem found_narrows_of_servers :
    let env := Servers.surroundings fun _ _ => .error .mismatch
    let key : ClusterKey := ⟨"ns", "prod"⟩
    let servers : Servers := { management := { store := sampleStore } }
    let refusing : Servers := { management := { store := sampleStore, readRefusal := some 500 } }
    let refusal : Failure :=
      .client (.refused ⟨"Failure", "InternalError (fake)", "InternalError", 500⟩)
    let filters := [isNamed "cp-1", .not (isNamed "cp-0")]
    ((reading env key servers).answer = .ok [sample "prod" "cp-0", sample "prod" "cp-1"] ∧
        found env key servers filters = .ok [sample "prod" "cp-1"] ∧
        found env key servers filters.reverse = found env key servers filters) ∧
      ((env.service .management).IsSelective servers ∧
        ∀ m ∈ [sample "prod" "cp-1"], m.metadata.labelDict.get? clusterLabel = some "prod") ∧
      (reading env key refusing).answer = .error refusal ∧
      ((ofCluster key filters).run env refusing).1 =
        .error (.internal "management" ("failed to list machines: " ++ refusal.message)) := by
  intro env key servers refusing refusal filters
  have hlisted :
      (reading env key servers).answer = .ok [sample "prod" "cp-0", sample "prod" "cp-1"] := rfl
  have hplaced : sampleStore.IsPlaced := ((Store.isPlaced_empty.put _).put _).put _
  have hselective : (env.service .management).IsSelective servers :=
    (Servers.keeps_surroundings _ .management).isSelective hplaced
  obtain ⟨hfinds, hbelongs, -⟩ := @found_narrows String _ env key servers
  obtain ⟨-, -, hfails⟩ := @found_narrows String _ env key refusing
  have hrefused : (reading env key refusing).answer = .error refusal := rfl
  obtain ⟨hfound, -, hperm, -⟩ := (hfinds _ hlisted).1 filters filters.reverse
  refine ⟨⟨hlisted, hfound, hperm filters.reverse_perm.symm⟩, ⟨hselective, ?_⟩,
    hrefused, ?_⟩
  · intro m hm
    exact (hbelongs hselective filters _ hfound m hm).2
  · exact (hfails _ hrefused filters filters).1

end Machines
end Rollout
