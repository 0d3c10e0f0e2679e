import Rollout.Proofs.Store.History
import Rollout.Proofs.Trust.EtcdStages
import Rollout.Proofs.Trust.Material

/-!
The order in which an authority is searched for. Which events come before an event is fixed by what
it is, and so is the result once an event decides; an event that decides is the last one.
-/
namespace Rollout

namespace ObjectKind

theorem controllerReference_cases (k : ObjectKind) (o : k.Object) :
    (∃ name uid, (k.metadata o).name = some name ∧ (k.metadata o).uid = some uid ∧
      k.controllerReference o =
        .ok { apiVersion := k.kind.apiVersion, kind := k.kind.name, name, uid,
              controller := some true }) ∨
      ((k.metadata o).name = none ∨ (k.metadata o).uid = none) ∧
        ∃ message, k.controllerReference o = .error (.invalidAnywhere message) := by
  unfold controllerReference
  dsimp only
  cases (k.metadata o).name with
  | none => exact .inr ⟨.inl rfl, _, rfl⟩
  | some name =>
    cases (k.metadata o).uid with
    | none => exact .inr ⟨.inr rfl, _, rfl⟩
    | some uid => exact .inl ⟨name, uid, rfl, rfl, rfl⟩

theorem controllerReference_of_ok {k : ObjectKind} {o : k.Object} {reference : OwnerReference}
    (h : k.controllerReference o = .ok reference) :
    (k.metadata o).name = some reference.name ∧ (k.metadata o).uid = some reference.uid := by
  rcases k.controllerReference_cases o
    with ⟨name, uid, hname, huid, hok⟩ | ⟨-, message, herror⟩
  · rw [h] at hok
    cases hok
    exact ⟨hname, huid⟩
  · exact nomatch h.symm.trans herror

end ObjectKind

namespace EtcdAuthority
variable {Cert : Type} (r : Readers Cert) (key : ClusterKey) (owner : ControlPlane)

/-- The event may come after these, and after no others. -/
inductive InTurn : List (Event Place) → Event Place → Prop
  | asksWorkload (answer : Except Failure (Option Secret)) : InTurn [] (workloadRead key answer)
  | asksManagement (answer : Except Failure (Option Secret)) :
      InTurn [workloadRead key (.ok none)] (managementRead key answer)
  | generates (hname : owner.metadata.name ≠ none) (huid : owner.metadata.uid ≠ none)
      (outcome : Except KeyPairError KeyPair) : InTurn (absentTwice key) (generated outcome)
  | stores (reference : OwnerReference)
      (howner : ObjectKind.controlPlane.controllerReference owner = .ok reference) (pair : KeyPair)
      (certificate : Cert)
      (hcertificate : pair.certificate r = .ok certificate) (answer : Except Failure Secret) :
      InTurn (absentTwice key ++ [generated (.ok pair)]) (creation key pair reference answer)

inductive Decides : Event Place → Except Failure KeyPair → Prop
  | workloadFails (f : Failure) : Decides (workloadRead key (.error f)) (.error f)
  | workloadDecides (secret : Secret) :
      Decides (workloadRead key (.ok (some secret))) (secret.keyPair r key purpose)
  | managementFails (f : Failure) : Decides (managementRead key (.error f)) (.error f)
  | managementDecides (secret : Secret) :
      Decides (managementRead key (.ok (some secret))) (secret.keyPair r key purpose)
  | notGenerated (e : KeyPairError) :
      Decides (generated (.error e)) (.error (failure key ("failed to generate: " ++ e.message)))
  | unreadable (pair : KeyPair) (e : KeyPairError) (hcertificate : pair.certificate r = .error e) :
      Decides (generated (.ok pair))
        (.error (failure key ("generated certificate is unreadable: " ++ e.message)))
  | notStored (pair : KeyPair) (reference : OwnerReference) (f : Failure) :
      Decides (creation key pair reference (.error f)) (.error f)
  | stored (pair : KeyPair) (reference : OwnerReference) (secret : Secret) :
      Decides (creation key pair reference (.ok secret)) (.ok pair)

/-- How a search goes, told by its events and its result. -/
structure Orderly (events : List (Event Place)) (result : Except Failure KeyPair) : Prop where
  in_turn : ∀ before e after, events = before ++ e :: after → InTurn r key owner before e
  decided : ∀ before e after x, events = before ++ e :: after → Decides r key e x →
    after = [] ∧ result = x
  ends : (∃ e ∈ events, Decides r key e result) ∨
    events = absentTwice key ∧ ∃ message, result = .error (.invalidAnywhere message)
  found : ∀ secret, workloadRead key (.ok (some secret)) ∈ events ∨
    managementRead key (.ok (some secret)) ∈ events →
    (∃ pair, result = .ok pair ∧ secret.Holds r pair) ∨
      ∃ message, result = .error (.trustMaterial key.shown
        (secretId secret.metadata.namespaceOrEmpty secret.metadata.nameOrEmpty)
        purpose.description message)
  unowned : absentTwice key <+: events →
    owner.metadata.name = none ∨ owner.metadata.uid = none →
    events = absentTwice key ∧ ∃ message, result = .error (.invalidAnywhere message)
  generates_once : events.countP Event.isMade ≤ 1
  creates_once : events.countP Event.isCreation ≤ 1

structure OrderlyCached (events : List (Event Place)) (result : Except Failure KeyPair) : Prop where
  reads_once : ∃ answer, events = [cacheRead key answer]
  found : ∀ secret, cacheRead key (.ok (some secret)) ∈ events →
    result = secret.keyPair r key purpose
  absent : cacheRead key (.ok none) ∈ events → result = .error (failure key "not found")
  failed : ∀ f, cacheRead key (.error f) ∈ events → result = .error (failure key f.message)
  failure_of_trust : ∀ f, result = .error f →
    ∃ id message, f = .trustMaterial key.shown id purpose.description message

variable {r key owner} {es : List (Event Place)} {e : Event Place}
  {t u : Plan Place (Except Failure KeyPair)}

theorem Stage.inTurn (h : Stage r key owner es t) (he : t.Takes e u) : InTurn r key owner es e := by
  cases h with
  | asksWorkload =>
    obtain ⟨answer, rfl, -⟩ := Plan.takes_ask he
    exact .asksWorkload answer
  | asksManagement =>
    obtain ⟨answer, rfl, -⟩ := Plan.takes_ask he
    exact .asksManagement answer
  | generates reference howner =>
    rw [create_of_owner howner] at he
    obtain ⟨outcome, rfl, -⟩ := Plan.takes_generate he
    obtain ⟨hname, huid⟩ := ObjectKind.controllerReference_of_ok howner
    refine .generates ?_ ?_ outcome
    · exact fun hnone => nomatch hname.symm.trans hnone
    · exact fun hnone => nomatch huid.symm.trans hnone
  | stores reference howner pair certificate hcertificate =>
    rw [store_of_readable hcertificate] at he
    obtain ⟨answer, rfl, -⟩ := Plan.takes_ask he
    exact .stores reference howner pair certificate hcertificate answer
  | _ => exact absurd he Plan.not_takes_done

theorem Decides.eq_of_creation {pair : KeyPair} {reference : OwnerReference}
    {answer : Except Failure Secret} {x : Except Failure KeyPair}
    (h : Decides r key (creation key pair reference answer) x) : x = answer.map fun _ => pair := by
  generalize he : creation key pair reference answer = e at h
  cases h with
  | notStored pair' reference' f =>
    simp only [Event.answered.injEq, Call.create.injEq, heq_eq_eq, true_and] at he
    rw [he.2]
    rfl
  | stored pair' reference' secret =>
    simp only [Event.answered.injEq, Call.create.injEq, heq_eq_eq, true_and] at he
    -- the pair can be read off the secret that is to be stored
    rw [he.2, Secret.eq_of_ofKeyPair_eq he.1]
    rfl
  | _ => exact nomatch he

theorem InTurn.before_creation {pair : KeyPair} {reference : OwnerReference}
    {answer : Except Failure Secret} {before : List (Event Place)}
    (h : InTurn r key owner before (creation key pair reference answer)) :
    before = absentTwice key ++ [generated (.ok pair)] := by
  generalize he : creation key pair reference answer = e at h
  cases h with
  | stores reference' howner pair' certificate hcertificate answer' =>
    simp only [Event.answered.injEq, Call.create.injEq, heq_eq_eq, true_and] at he
    rw [Secret.eq_of_ofKeyPair_eq he.1]
  | _ => exact nomatch he

theorem Stage.eq_done_of_decides (h : Stage r key owner es t) (he : t.Takes e u)
    {x : Except Failure KeyPair} (hx : Decides r key e x) : u = .done x := by
  cases h with
  | asksWorkload =>
    obtain ⟨answer, rfl, rfl⟩ := Plan.takes_ask he
    cases hx with
    | workloadFails => rfl
    | workloadDecides => rfl
  | asksManagement =>
    obtain ⟨answer, rfl, rfl⟩ := Plan.takes_ask he
    cases hx with
    | managementFails => rfl
    | managementDecides => rfl
  | generates reference howner =>
    rw [create_of_owner howner] at he
    obtain ⟨outcome, rfl, rfl⟩ := Plan.takes_generate he
    cases hx with
    | notGenerated => rfl
    | unreadable pair e hcertificate => exact store_of_not_readable hcertificate
  | stores reference howner pair certificate hcertificate =>
    rw [store_of_readable hcertificate] at he
    obtain ⟨answer, rfl, rfl⟩ := Plan.takes_ask he
    rw [hx.eq_of_creation]
    cases answer <;> rfl
  | _ => exact absurd he Plan.not_takes_done

theorem Stage.ends {x : Except Failure KeyPair} (h : Stage r key owner es (.done x)) :
    (∃ e ∈ es, Decides r key e x) ∨ es = absentTwice key ∧
      ∃ message, x = .error (.invalidAnywhere message) := by
  generalize ht : Plan.done x = t at h
  cases h with
  | asksWorkload => exact nomatch ht
  | workloadFails f =>
    cases ht
    exact .inl ⟨_, List.mem_cons_self .., .workloadFails f⟩
  | workloadDecides secret =>
    cases ht
    exact .inl ⟨_, List.mem_cons_self .., .workloadDecides secret⟩
  | asksManagement => exact nomatch ht
  | managementFails f =>
    cases ht
    exact .inl ⟨_, by simp, .managementFails f⟩
  | managementDecides secret =>
    cases ht
    exact .inl ⟨_, by simp, .managementDecides secret⟩
  | unowned f howner =>
    cases ht
    rcases ObjectKind.controlPlane.controllerReference_cases owner
      with ⟨_, _, -, -, hok⟩ | ⟨-, message, herror⟩
    · exact nomatch howner.symm.trans hok
    · rw [howner] at herror
      cases herror
      exact .inr ⟨rfl, message, rfl⟩
  | generates reference howner =>
    rw [create_of_owner howner] at ht
    exact nomatch ht
  | notGenerated e =>
    cases ht
    exact .inl ⟨_, by simp, .notGenerated e⟩
  | unreadable pair e hcertificate =>
    cases ht
    exact .inl ⟨_, by simp, .unreadable pair e hcertificate⟩
  | stores reference howner pair certificate hcertificate =>
    rw [store_of_readable hcertificate] at ht
    exact nomatch ht
  | notStored reference pair f =>
    cases ht
    exact .inl ⟨creation key pair reference (.error f), by simp, .notStored pair reference f⟩
  | stored reference pair secret =>
    cases ht
    exact .inl
      ⟨creation key pair reference (.ok secret), by simp, .stored pair reference secret⟩

theorem Stage.countP_isMade_le (h : Stage r key owner es t) : es.countP Event.isMade ≤ 1 := by
  cases h <;> simp [List.countP_cons, Event.isMade]

theorem Stage.countP_isCreation_le (h : Stage r key owner es t) :
    es.countP Event.isCreation ≤ 1 := by
  cases h <;> simp [List.countP_cons, Event.isCreation]

variable {result : Except Failure KeyPair}

theorem inTurn_of_follows {before after : List (Event Place)}
    (h : (lookUpOrCreate r key owner).Follows (before ++ e :: after) t) :
    InTurn r key owner before e := by
  obtain ⟨u, u', hbefore, he, -⟩ := h.cut
  exact (stage_of_follows hbefore).inTurn he

theorem eq_of_follows_decides {before after : List (Event Place)} {x : Except Failure KeyPair}
    (h : (lookUpOrCreate r key owner).Follows (before ++ e :: after) (.done result))
    (hx : Decides r key e x) : after = [] ∧ result = x := by
  obtain ⟨u, u', hbefore, he, hafter⟩ := h.cut
  obtain rfl := (stage_of_follows hbefore).eq_done_of_decides he hx
  obtain ⟨rfl, hdone⟩ := hafter.eq_of_done
  cases hdone
  exact ⟨rfl, rfl⟩

theorem orderly_of_follows (h : (lookUpOrCreate r key owner).Follows es (.done result)) :
    Orderly r key owner es result := by
  have hstage := stage_of_follows h
  have hturn : ∀ before e after, es = before ++ e :: after → InTurn r key owner before e := by
    rintro before e after rfl
    exact inTurn_of_follows h
  have hdecided : ∀ before e after x, es = before ++ e :: after → Decides r key e x →
      after = [] ∧ result = x := by
    rintro before e after x rfl hx
    exact eq_of_follows_decides h hx
  refine ⟨hturn, hdecided, hstage.ends, ?_, ?_, hstage.countP_isMade_le,
    hstage.countP_isCreation_le⟩
  · intro secret hmem
    -- a secret decides wherever it is found
    have hresult : result = secret.keyPair r key purpose := by
      rcases hmem with hmem | hmem
      · obtain ⟨before, after, rfl⟩ := List.append_of_mem hmem
        exact (eq_of_follows_decides h (.workloadDecides secret)).2
      · obtain ⟨before, after, rfl⟩ := List.append_of_mem hmem
        exact (eq_of_follows_decides h (.managementDecides secret)).2
    rw [hresult]
    exact Secret.keyPair_cases r key purpose secret
  · rintro ⟨rest, rfl⟩ howner
    cases rest with
    | nil =>
      rcases hstage.ends with ⟨e, hmem, hx⟩ | hunowned
      · simp only [List.append_nil, List.mem_cons, List.not_mem_nil, or_false] at hmem
        rcases hmem with rfl | rfl <;> exact nomatch hx
      · exact hunowned
    | cons e rest =>
      -- something has been generated, so the owner has a name and an identity
      cases inTurn_of_follows h with
      | generates hname huid => exact absurd howner (by simp [hname, huid])

def cachedResult (r : Readers Cert) (key : ClusterKey) :
    Except Failure (Option Secret) → Except Failure KeyPair
  | .ok (some secret) => secret.keyPair r key purpose
  | .ok none => .error (failure key "not found")
  | .error f => .error (failure key f.message)

theorem cached_eq (r : Readers Cert) (key : ClusterKey) :
    cached r key = .ask .secretCache (.get .secret key.namespaceName (key.secretFor purpose))
      fun answer => .done (cachedResult r key answer) := by
  unfold cached
  congr
  funext answer
  rcases answer with f | _ | secret <;> rfl

theorem eq_of_follows_cached (h : (cached r key).Follows es (.done result)) :
    ∃ answer, es = [cacheRead key answer] ∧ result = cachedResult r key answer := by
  rw [cached_eq] at h
  cases es with
  | nil => exact nomatch h.eq_of_nil
  | cons e es =>
    obtain ⟨u, he, hes⟩ := h.takes_of_cons
    obtain ⟨answer, rfl, rfl⟩ := Plan.takes_ask he
    obtain ⟨rfl, hdone⟩ := hes.eq_of_done
    cases hdone
    exact ⟨answer, rfl, rfl⟩

theorem failure_of_cachedResult {answer : Except Failure (Option Secret)} {f : Failure}
    (h : cachedResult r key answer = .error f) :
    ∃ id message, f = .trustMaterial key.shown id purpose.description message := by
  rcases answer with f' | _ | secret
  · cases h
    exact ⟨_, _, rfl⟩
  · cases h
    exact ⟨_, _, rfl⟩
  · rcases Secret.keyPair_cases r key purpose secret
      with ⟨pair, hpair, -⟩ | ⟨message, herror⟩
    · exact nomatch hpair.symm.trans h
    · cases herror.symm.trans h
      exact ⟨_, _, rfl⟩

theorem orderlyCached_of_follows (h : (cached r key).Follows es (.done result)) :
    OrderlyCached r key es result := by
  obtain ⟨answer, rfl, rfl⟩ := eq_of_follows_cached h
  have heq : ∀ answer', cacheRead key answer' ∈ [cacheRead key answer] →
      answer' = answer := by
    simp
  refine ⟨⟨answer, rfl⟩, ?_, ?_, ?_, fun f => failure_of_cachedResult⟩
  · intro secret hmem
    rw [← heq _ hmem]
    rfl
  · intro hmem
    rw [← heq _ hmem]
    rfl
  · intro f hmem
    rw [← heq _ hmem]
    rfl

namespace Orderly

theorem inTurn_of_mem (h : Orderly r key owner es result) (hmem : e ∈ es) :
    ∃ before after, es = before ++ e :: after ∧ InTurn r key owner before e := by
  obtain ⟨before, after, hsplit⟩ := List.append_of_mem hmem
  exact ⟨before, after, hsplit, h.in_turn _ _ _ hsplit⟩

theorem eq_of_decides (h : Orderly r key owner es result) (hmem : e ∈ es)
    {x : Except Failure KeyPair} (hx : Decides r key e x) : result = x := by
  obtain ⟨before, after, hsplit⟩ := List.append_of_mem hmem
  exact (h.decided _ _ _ _ hsplit hx).2

theorem exists_workloadRead (h : Orderly r key owner es result) :
    ∃ answer, workloadRead key answer ∈ es := by
  -- a search does not end before its first event, and only the read in the workload cluster can be
  -- that
  have hfirst : es ≠ [] := by
    rcases h.ends with ⟨e, hmem, -⟩ | ⟨rfl, -⟩
    · exact List.ne_nil_of_mem hmem
    · simp
  obtain ⟨e, rest, rfl⟩ := List.exists_cons_of_ne_nil hfirst
  cases h.in_turn [] e rest rfl with
  | asksWorkload answer => exact ⟨answer, List.mem_cons_self ..⟩

theorem eq_cons_of_workloadRead (h : Orderly r key owner es result)
    {answer : Except Failure (Option Secret)} (hmem : workloadRead key answer ∈ es) :
    ∃ rest, es = workloadRead key answer :: rest := by
  obtain ⟨before, after, hsplit, hturn⟩ := h.inTurn_of_mem hmem
  cases hturn with
  | asksWorkload => exact ⟨after, hsplit⟩

theorem eq_of_workloadRead (h : Orderly r key owner es result)
    {a b : Except Failure (Option Secret)} (ha : workloadRead key a ∈ es)
    (hb : workloadRead key b ∈ es) : a = b := by
  obtain ⟨rest, hrest⟩ := h.eq_cons_of_workloadRead ha
  obtain ⟨rest', hrest'⟩ := h.eq_cons_of_workloadRead hb
  rw [hrest] at hrest'
  simp only [List.cons.injEq, Event.answered.injEq, heq_eq_eq, true_and] at hrest'
  exact hrest'.1

theorem isRead_of_not_absent (h : Orderly r key owner es result)
    (hnot : managementRead key (.ok none) ∉ es) : ∀ e ∈ es, e.isRead = true := by
  intro e hmem
  obtain ⟨before, after, hsplit, hturn⟩ := h.inTurn_of_mem hmem
  cases hturn with
  | asksWorkload => rfl
  | asksManagement => rfl
  | generates => exact absurd (by simp [hsplit]) hnot
  | stores => exact absurd (by simp [hsplit]) hnot

theorem not_creates (h : Orderly r key owner es result) {place : Place}
    (hplace : place ≠ .management ∨ ∃ f, result = .error f) :
    ∀ e ∈ es, ∀ id, e.creates place id = false := by
  intro e hmem id
  obtain ⟨before, after, -, hturn⟩ := h.inTurn_of_mem hmem
  cases hturn with
  | asksWorkload => rfl
  | asksManagement => rfl
  | generates => rfl
  | stores reference howner pair certificate hcertificate answer =>
    cases answer with
    | error f => rfl
    | ok secret =>
      rcases hplace with hne | ⟨f, hf⟩
      · simp [Event.creates, hne.symm]
      · have hok := h.eq_of_decides hmem (.stored pair reference secret)
        rw [hf] at hok
        cases hok

theorem valid_or_generated {pair : KeyPair} (h : Orderly r key owner es (.ok pair)) :
    pair.validate r = .ok () ∨ generated (.ok pair) ∈ es := by
  rcases h.ends with ⟨e, hmem, hx⟩ | ⟨-, message, hmessage⟩
  · generalize hok : Except.ok pair = x at hx
    cases hx with
    | workloadDecides secret => exact .inl (Secret.holds_of_keyPair hok.symm).valid
    | managementDecides secret => exact .inl (Secret.holds_of_keyPair hok.symm).valid
    | stored pair' reference secret =>
      cases hok
      obtain ⟨before, after, hsplit, hturn⟩ := h.inTurn_of_mem hmem
      rw [hsplit, hturn.before_creation]
      exact .inr (by simp)
    | _ => exact nomatch hok
  · exact nomatch hmessage

theorem exists_secret {pair : KeyPair} (h : Orderly r key owner es (.ok pair))
    (hnone : workloadRead key (.ok none) ∈ es) {s : Store}
    (hagrees : ∀ e ∈ es, e.AgreesWith .management s) :
    ∃ secret, s.get? .secret key.namespaceName (key.secretFor purpose) = some secret ∧
      (pair.validate r = .ok () → secret.Holds r pair) := by
  rcases h.ends with ⟨e, hmem, hx⟩ | ⟨-, message, hmessage⟩
  · generalize hok : Except.ok pair = x at hx
    cases hx with
    | workloadDecides => exact nomatch h.eq_of_workloadRead hnone hmem
    | managementDecides secret =>
      exact ⟨secret, hagrees _ hmem rfl, fun _ => Secret.holds_of_keyPair hok.symm⟩
    | stored pair' reference secret =>
      cases hok
      obtain ⟨rfl, hget⟩ := hagrees _ hmem rfl
      refine ⟨_, hget, fun hvalid => ?_⟩
      exact (Secret.holds_ofKeyPair hvalid reference).stamped _
    | _ => exact nomatch hok
  · exact nomatch hmessage

/-- Where the managing cluster has a secret, and the workload cluster none, this secret decides. -/
theorem eq_keyPair_of_present (h : Orderly r key owner es result)
    (hnone : workloadRead key (.ok none) ∈ es) {secret : Secret}
    (hpresent : ∀ found, managementRead key (.ok found) ∈ es → found = some secret) :
    result = secret.keyPair r key purpose ∨ ∃ f, managementRead key (.error f) ∈ es ∧
      result = .error f := by
  have hreads : ∀ e ∈ es, e.isRead = true :=
    h.isRead_of_not_absent fun hmem => nomatch hpresent _ hmem
  rcases h.ends with ⟨e, hmem, hx⟩ | ⟨rfl, -⟩
  · cases hx with
    | workloadFails => exact nomatch h.eq_of_workloadRead hnone hmem
    | workloadDecides => exact nomatch h.eq_of_workloadRead hnone hmem
    | managementFails f => exact .inr ⟨f, hmem, rfl⟩
    | managementDecides found =>
      cases hpresent _ hmem
      exact .inl rfl
    | _ => exact nomatch hreads _ hmem
  · exact nomatch hpresent none (by simp)

end Orderly

end EtcdAuthority
end Rollout
