import Rollout.Proofs.Trust.EtcdOrder

/-!
Requests for authorities one after another. What a request has found or stored is what later ones
find, so an authority is made once, and a request that fails leaves every store as it was.
-/
namespace Rollout.EtcdAuthority
variable {Cert σ : Type} {r : Readers Cert} {key : ClusterKey} {owner : ControlPlane}

inductive Request
  | cached (key : ClusterKey)
  | remote (key : ClusterKey) (owner : ControlPlane)

namespace Request
variable (r)

def plan : Request → Plan Place (Except Failure KeyPair)
  | cached key => EtcdAuthority.cached r key
  | remote key owner => lookUpOrCreate r key owner

def Orderly : Request → List (Event Place) → Except Failure KeyPair → Prop
  | cached key => OrderlyCached r key
  | remote key owner => EtcdAuthority.Orderly r key owner

end Request

/-- A request, and where it is made: every one may have a workload cluster and a generator of its
own. -/
structure Visit (σ : Type) where
  surroundings : Surroundings Place σ
  request : Request

namespace Visit
variable (r) (v : Visit σ) (s : σ)

def events : List (Event Place) := (v.request.plan r).events v.surroundings s

def result : Except Failure KeyPair := ((v.request.plan r).run v.surroundings s).1

def after : σ := ((v.request.plan r).run v.surroundings s).2

theorem orderly : v.request.Orderly r (v.events r s) (v.result r s) := by
  unfold events result
  cases v.request with
  | cached key => exact orderlyCached_of_follows (Plan.follows_run ..)
  | remote key owner => exact orderly_of_follows (Plan.follows_run ..)

variable {v s}

theorem orderly_of_remote (h : v.request = .remote key owner) :
    EtcdAuthority.Orderly r key owner (v.events r s) (v.result r s) := by
  have horderly := v.orderly r s
  rw [h] at horderly
  exact horderly

variable {r}

theorem of_run {x : Except Failure KeyPair} {s' : σ}
    (h : (v.request.plan r).run v.surroundings s = (x, s')) :
    v.result r s = x ∧ v.after r s = s' := by
  unfold result after
  rw [h]
  exact ⟨rfl, rfl⟩

theorem not_creates {place : Place}
    (hplace : place ≠ .management ∨ ∃ f, v.result r s = .error f) :
    ∀ e ∈ v.events r s, ∀ id, e.creates place id = false := by
  have horderly := v.orderly r s
  cases hrequest : v.request with
  | cached key =>
    rw [hrequest] at horderly
    obtain ⟨answer, hanswer⟩ := horderly.reads_once
    intro e hmem id
    rw [hanswer] at hmem
    obtain rfl := List.mem_singleton.1 hmem
    rfl
  | remote key owner =>
    rw [hrequest] at horderly
    exact EtcdAuthority.Orderly.not_creates horderly hplace

end Visit

variable (r)

def session : List (Visit σ) → σ → List (Visit σ × σ)
  | [], _ => []
  | v :: vs, s => (v, s) :: session vs (v.after r s)

def sessionEvents (vs : List (Visit σ)) (s : σ) : List (Event Place) :=
  (session r vs s).flatMap fun p => p.1.events r p.2

def afterSession (vs : List (Visit σ)) (s : σ) : σ :=
  vs.foldl (fun s v => v.after r s) s

/-- Of two searches for the same authority, the second gives the pair that the first gave, if the
workload cluster answers both the same, and only reads. Where the managing cluster does not let it
read, it fails with that. -/
def Repeats (a b : Visit σ × σ) : Prop :=
  ∀ key owner owner' pair answer, a.1.request = .remote key owner →
    b.1.request = .remote key owner' →
    a.1.result r a.2 = .ok pair → workloadRead key answer ∈ a.1.events r a.2 →
    workloadRead key answer ∈ b.1.events r b.2 →
    (∀ e ∈ b.1.events r b.2, e.isRead = true) ∧
      (pair.validate r = .ok () →
        b.1.result r b.2 = .ok pair ∨
          ∃ f, managementRead key (.error f) ∈ b.1.events r b.2 ∧ b.1.result r b.2 = .error f)

variable {r} {view : σ → Store} {vs : List (Visit σ)} {s : σ}

theorem evolves_session (hkeeps : ∀ v ∈ vs, v.surroundings.Keeps .management view) :
    (view s).Evolves .management (sessionEvents r vs s) (view (afterSession r vs s)) := by
  induction vs generalizing s with
  | nil => exact .start
  | cons v vs ih =>
    have hv := (hkeeps v (List.mem_cons_self ..)).evolves_run (v.request.plan r) s
    exact hv.append (ih fun w hw => hkeeps w (List.mem_cons_of_mem _ hw))

theorem growsTo_of_mem_session (hkeeps : ∀ v ∈ vs, v.surroundings.Keeps .management view) :
    ∀ p ∈ session r vs s, p.1 ∈ vs ∧ (view s).GrowsTo (view p.2) := by
  induction vs generalizing s with
  | nil => exact fun p hp => absurd hp (by simp [session])
  | cons v vs ih =>
    intro p hp
    rcases List.mem_cons.1 hp with rfl | hp
    · exact ⟨List.mem_cons_self .., .refl _⟩
    · have hv := (hkeeps v (List.mem_cons_self ..)).evolves_run (v.request.plan r) s
      obtain ⟨hmem, hgrows⟩ := ih (fun w hw => hkeeps w (List.mem_cons_of_mem _ hw)) p hp
      exact ⟨List.mem_cons_of_mem _ hmem, hv.growsTo.trans hgrows⟩

theorem repeats_of_growsTo {v w : Visit σ} {s' : σ} (hv : v.surroundings.Keeps .management view)
    (hw : w.surroundings.Keeps .management view) (hgrows : (view (v.after r s)).GrowsTo (view s')) :
    Repeats r (v, s) (w, s') := by
  intro key owner owner' pair answer hrequest hrequest' hok hfirst hsecond
  have hfirstOrderly : Orderly r key owner (v.events r s) (.ok pair) := by
    rw [← hok]
    exact Visit.orderly_of_remote r hrequest
  have hsecondOrderly : Orderly r key owner' (w.events r s') (w.result r s') :=
    Visit.orderly_of_remote r hrequest'
  rcases answer with f | _ | secret
  · exact nomatch hfirstOrderly.eq_of_decides hfirst (.workloadFails f)
  · -- what the first search leaves in the managing cluster is what the second one finds there
    obtain ⟨secret, hsecret, hholds⟩ :=
      hfirstOrderly.exists_secret hfirst (hv.evolves_run (v.request.plan r) s).agreesWith
    have hstart := hgrows.get? hsecret
    have hrun := hw.evolves_run (w.request.plan r) s'
    have hpresent : ∀ found, managementRead key (.ok found) ∈ w.events r s' →
        found = some secret := by
      intro found hmem
      cases found with
      | none => exact nomatch hstart.symm.trans (hrun.get?_eq_none hmem)
      | some found => exact (hrun.agreesWith _ hmem rfl).symm.trans (hrun.growsTo.get? hstart)
    have hreads : ∀ e ∈ w.events r s', e.isRead = true :=
      hsecondOrderly.isRead_of_not_absent fun hmem => nomatch hpresent _ hmem
    refine ⟨hreads, fun hvalid => ?_⟩
    rw [← (hholds hvalid).keyPair key purpose]
    exact hsecondOrderly.eq_keyPair_of_present hsecond hpresent
  · -- the workload cluster decides both times
    have hpair := hfirstOrderly.eq_of_decides hfirst (.workloadDecides secret)
    have hpair' := hsecondOrderly.eq_of_decides hsecond (.workloadDecides secret)
    obtain ⟨rest, hrest⟩ := hsecondOrderly.eq_cons_of_workloadRead hsecond
    obtain ⟨rfl, -⟩ := hsecondOrderly.decided [] _ _ _ hrest (.workloadDecides secret)
    refine ⟨?_, fun _ => .inl (hpair'.trans hpair.symm)⟩
    intro e hmem
    rw [hrest] at hmem
    obtain rfl := List.mem_singleton.1 hmem
    rfl

theorem pairwise_repeats (hkeeps : ∀ v ∈ vs, v.surroundings.Keeps .management view) :
    (session r vs s).Pairwise (Repeats r) := by
  induction vs generalizing s with
  | nil => exact .nil
  | cons v vs ih =>
    have hlater : ∀ w ∈ vs, w.surroundings.Keeps .management view :=
      fun w hw => hkeeps w (List.mem_cons_of_mem _ hw)
    refine .cons ?_ (ih hlater)
    rintro ⟨w, s'⟩ hp
    obtain ⟨hmem, hgrows⟩ := growsTo_of_mem_session hlater _ hp
    exact repeats_of_growsTo (hkeeps v (List.mem_cons_self ..)) (hlater w hmem) hgrows

/-- In every session each search goes in order, one that fails changes no store, only the managing
cluster is ever written to, and there each secret at most once; a search that is repeated only
reads, and gives what the first one gave. -/
theorem session_orderly (r : Readers Cert) (visits : List (Visit σ)) (start : σ) :
    (∀ p ∈ session r visits start,
      p.1.request.Orderly r (p.1.events r p.2) (p.1.result r p.2) ∧
      ∀ place view, p.1.surroundings.Keeps place view →
        place ≠ .management ∨ (∃ f, p.1.result r p.2 = .error f) →
        view (p.1.after r p.2) = view p.2) ∧
    ∀ view, (∀ v ∈ visits, v.surroundings.Keeps .management view) →
      (∀ id, (sessionEvents r visits start).countP (·.creates .management id) ≤ 1) ∧
      (session r visits start).Pairwise (Repeats r) := by
  refine ⟨?_, ?_⟩
  · rintro ⟨v, s⟩ -
    refine ⟨v.orderly r s, ?_⟩
    intro place view hkeeps hplace
    exact hkeeps.run_eq_of_not_creates _ _ (Visit.not_creates hplace)
  · intro view hkeeps
    exact ⟨(evolves_session hkeeps).countP_creates_le, pairwise_repeats hkeeps⟩

theorem run_of_absent {env : Surroundings Place σ} {t u : σ}
    (hworkload : ∃ received delay,
      env.service .workload (.get .secret workloadNamespace (key.secretFor purpose)) s =
        ⟨received, delay, .ok none, t⟩)
    (hmanagement : ∃ received delay,
      env.service .management (.get .secret key.namespaceName (key.secretFor purpose)) t =
        ⟨received, delay, .ok none, u⟩) :
    (lookUpOrCreate r key owner).run env s = (create r key owner).run env u := by
  obtain ⟨_, _, hworkload⟩ := hworkload
  obtain ⟨_, _, hmanagement⟩ := hmanagement
  unfold lookUpOrCreate managedOrCreate
  simp only [Plan.run, hworkload, hmanagement]

def freshVisit : Visit Servers where
  surroundings := Servers.surroundings fun _ _ => .ok .sample
  request := .remote sampleCluster sampleOwner

def servedOnce : Servers :=
  let secret := Secret.ofKeyPair sampleCluster purpose .sample sampleReference
  { management := {
      store :=
        ⟨(∅ : Store).objects.insert (Store.newId .secret sampleCluster.namespaceName secret)
        ⟨.secret, Store.stamped .secret sampleCluster.namespaceName secret⟩⟩
      creates := 1 }
    calls := [(.workload, .get .secret workloadNamespace (sampleCluster.secretFor purpose)),
      (.management, .get .secret sampleCluster.namespaceName (sampleCluster.secretFor purpose)),
      (.management, .create .secret sampleCluster.namespaceName secret)]
    made := [.sample] }

theorem run_freshVisit :
    (freshVisit.request.plan .standard).run freshVisit.surroundings {} =
      (.ok .sample, servedOnce) := by
  obtain ⟨certificate, hcertificate⟩ := KeyPair.certificate_of_validate KeyPair.validate_sample
  let env := freshVisit.surroundings
  let asked : Servers := {
    calls := [(.workload, .get .secret workloadNamespace (sampleCluster.secretFor purpose)),
      (.management, .get .secret sampleCluster.namespaceName (sampleCluster.secretFor purpose))] }
  calc (lookUpOrCreate .standard sampleCluster sampleOwner).run env {}
      = (create .standard sampleCluster sampleOwner).run env asked :=
        run_of_absent ⟨_, _, rfl⟩ ⟨_, _, rfl⟩
    _ = (store .standard sampleCluster sampleReference .sample).run env
        { asked with made := [.sample] } := by
      rw [create_of_owner controllerReference_sampleOwner, Plan.run]
      rfl
    _ = (.ok .sample, servedOnce) := by
      rw [store_of_readable hcertificate]
      rfl

theorem session_orderly_of_servers :
    (∀ v ∈ [freshVisit, freshVisit], v.surroundings.Keeps .management fun s =>
      (s.server .management).store) ∧
      freshVisit.result .standard {} = .ok .sample ∧
      freshVisit.after .standard {} = servedOnce ∧
      (∀ e ∈ freshVisit.events .standard servedOnce, e.isRead = true) ∧
      freshVisit.result .standard servedOnce = .ok .sample := by
  have hkeeps : ∀ v ∈ [freshVisit, freshVisit],
      v.surroundings.Keeps .management fun s => (s.server .management).store := by
    intro v hv
    obtain rfl : v = freshVisit := by simpa using hv
    exact Servers.keeps_surroundings _ _
  obtain ⟨hresult, hafter⟩ := Visit.of_run run_freshVisit
  obtain ⟨-, hpairwise⟩ := (session_orderly .standard [freshVisit, freshVisit] {}).2 _ hkeeps
  have hrepeats : Repeats .standard (freshVisit, {}) (freshVisit, servedOnce) := by
    rw [← hafter]
    exact (List.pairwise_cons.1 hpairwise).1 _ (List.mem_cons_self ..)
  obtain ⟨hreads, hagain⟩ := hrepeats sampleCluster _ _ .sample (.ok none) rfl rfl hresult
    (List.mem_cons_self ..) (List.mem_cons_self ..)
  refine ⟨hkeeps, hresult, hafter, hreads, ?_⟩
  rcases hagain KeyPair.validate_sample with hok | ⟨f, hmem, -⟩
  · exact hok
  · -- the managing cluster does let the second search read
    have horderly := Visit.orderly_of_remote .standard (v := freshVisit) (s := servedOnce) rfl
    obtain ⟨before, after, hsplit⟩ := List.append_of_mem hmem
    have hread : ∃ found, (freshVisit.events .standard servedOnce)[1]? =
        some (managementRead sampleCluster (.ok found)) := ⟨_, rfl⟩
    obtain ⟨found, hfound⟩ := hread
    rw [hsplit] at hfound
    cases horderly.in_turn _ _ _ hsplit with
    | asksManagement => exact nomatch hfound

end Rollout.EtcdAuthority
