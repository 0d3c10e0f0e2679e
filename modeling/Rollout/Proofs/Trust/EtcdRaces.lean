import Rollout.Proofs.Store.Pool
import Rollout.Proofs.Trust.EtcdOrder
import Rollout.Proofs.Trust.Naming

/-!
Searches for authorities that race. The reads, the generation and the creation of one search are
separate events, and any number of others may come between them. What keeps the searches together is
that nothing in the managing cluster is ever replaced: a search that succeeds without the workload
cluster has found or created a secret there, and this secret is still there.
-/
namespace Rollout

namespace EtcdAuthority
variable {Cert ι : Type} [DecidableEq ι]

def secretPlace (key : ClusterKey) : ObjectId :=
  Store.idOf .secret key.namespaceName (key.secretFor purpose)

theorem secretPlace_injective {key key' : ClusterKey} (h : secretPlace key = secretPlace key') :
    key = key' := by
  have hplace : key.secretPlace purpose = key'.secretPlace purpose := h
  exact (ClusterKey.secretPlace_eq_iff.1 hplace).1

/-- What searches rely on: a name that is taken is refused as a conflict, and what is generated is
valid. -/
structure Lawful (r : Readers Cert) (s : Store) (e : Event Place) : Prop where
  refuses : ∀ kind namespaceName object f,
    e = .answered .management (.create kind namespaceName object) (.error f) →
    s.objects.contains (Store.newId kind namespaceName object) = true →
    ∃ reply, f = .client (.refused reply) ∧ reply.code = 409
  generates : ∀ commonName pair, e = .made commonName (.ok pair) → pair.validate r = .ok ()

namespace Lawful
variable {r : Readers Cert} {s : Store} {kind : ObjectKind} {namespaceName : String}
  {object : kind.Object}

theorem of_isRead {e : Event Place} (h : e.isRead = true) : Lawful r s e := by
  constructor
  · rintro _ _ _ _ rfl
    exact nomatch h
  · rintro _ _ rfl
    exact nomatch h

theorem of_valid {pair : KeyPair} (h : pair.validate r = .ok ()) (commonName : String) :
    Lawful r s (.made commonName (.ok pair)) := by
  constructor
  · intro _ _ _ _ he
    exact nomatch he
  · intro _ _ he
    cases he
    exact h

theorem of_created {created : kind.Object} :
    Lawful r s (.answered .management (.create kind namespaceName object) (.ok created)) := by
  constructor
  · intro _ _ _ _ he
    exact nomatch he
  · intro _ _ he
    exact nomatch he

theorem of_refused {reply : StatusReply} (h : reply.code = 409) :
    Lawful r s (.answered .management (.create kind namespaceName object)
      (.error (.client (.refused reply)))) := by
  constructor
  · intro _ _ _ _ he
    cases he
    exact fun _ => ⟨reply, rfl, h⟩
  · intro _ _ he
    exact nomatch he

end Lawful

abbrev Searches (ι : Type) := Pool ι Place (Except Failure KeyPair)

namespace Searches

def start (r : Readers Cert) (keys : ι → ClusterKey) (owners : ι → ControlPlane)
    (store : Store) : Searches ι :=
  Pool.start store fun i => lookUpOrCreate r (keys i) (owners i)

abbrev Reaches (r : Readers Cert) (p q : Searches ι) : Prop :=
  Pool.Reaches .management (Lawful r) p q

section Agreement
variable {r : Readers Cert} {keys : ι → ClusterKey} {owners : ι → ControlPlane}
  {store : Store} {p q : Searches ι}
  {i j : ι} {e : Event Place} {pair : KeyPair}

theorem stage_of_reaches (hp : Reaches r (start r keys owners store) p) (i : ι) :
    Stage r (keys i) (owners i) (p.log i) (p.plans i) :=
  stage_of_follows (Pool.follows_of_reaches hp i)

theorem orderly_of_done (hp : Reaches r (start r keys owners store) p) {x : Except Failure KeyPair}
    (hdone : p.plans i = .done x) : Orderly r (keys i) (owners i) (p.log i) x := by
  have hfollows := Pool.follows_of_reaches hp i
  rw [hdone] at hfollows
  exact orderly_of_follows hfollows

theorem stored_of_done (hp : Reaches r (start r keys owners store) p)
    (hdone : p.plans i = .done (.ok pair))
    (hnot : ∀ secret, workloadRead (keys i) (.ok (some secret)) ∉ p.log i) :
    ∃ secret, p.store.get? .secret (keys i).namespaceName ((keys i).secretFor purpose) =
      some secret ∧ secret.keyPair r (keys i) purpose = .ok pair := by
  have horderly := orderly_of_done hp hdone
  -- any other answer of the workload cluster would have failed the search, or would be a secret
  -- found there
  have hnone : workloadRead (keys i) (.ok none) ∈ p.log i := by
    obtain ⟨answer, hmem⟩ := horderly.exists_workloadRead
    rcases answer with f | _ | secret
    · obtain ⟨rest, hrest⟩ := horderly.eq_cons_of_workloadRead hmem
      exact nomatch (horderly.decided [] _ _ _ hrest (.workloadFails f)).2
    · exact hmem
    · exact absurd hmem (hnot secret)
  have hagrees : ∀ e ∈ p.log i, e.AgreesWith .management p.store := fun e hmem =>
    (Pool.evolves_of_reaches hp).agreesWith e (Pool.mem_events_of_mem_log hmem)
  have hvalid : pair.validate r = .ok () := by
    rcases horderly.valid_or_generated with hvalid | hmem
    · exact hvalid
    · obtain ⟨s, hlaw⟩ := Pool.lawful_of_reaches hp _ (Pool.mem_events_of_mem_log hmem)
      exact hlaw.generates _ _ rfl
  obtain ⟨secret, hget, hholds⟩ := horderly.exists_secret hnone hagrees
  exact ⟨secret, hget, (hholds hvalid).keyPair _ _⟩

theorem eq_of_done (hp : Reaches r (start r keys owners store) p) {pair' : KeyPair}
    (hkey : keys i = keys j) (hi : p.plans i = .done (.ok pair))
    (hinot : ∀ secret, workloadRead (keys i) (.ok (some secret)) ∉ p.log i)
    (hj : p.plans j = .done (.ok pair'))
    (hjnot : ∀ secret, workloadRead (keys j) (.ok (some secret)) ∉ p.log j) : pair = pair' := by
  obtain ⟨secret, hget, hpair⟩ := stored_of_done hp hi hinot
  obtain ⟨secret', hget', hpair'⟩ := stored_of_done hp hj hjnot
  rw [hkey, hget'] at hget
  cases hget
  rw [hkey, hpair'] at hpair
  exact (Except.ok.inj hpair).symm

theorem eq_secretPlace_of_creates (hp : Reaches r (start r keys owners store) p) {id : ObjectId}
    (hmem : e ∈ p.log i) (he : e.creates .management id = true) : id = secretPlace (keys i) := by
  obtain ⟨before, after, hsplit⟩ := List.append_of_mem hmem
  have hfollows := Pool.follows_of_reaches hp i
  rw [hsplit] at hfollows
  cases inTurn_of_follows hfollows with
  | asksWorkload => exact nomatch he
  | asksManagement => exact nomatch he
  | generates => exact nomatch he
  | stores reference howner pair certificate hcertificate answer =>
    cases answer with
    | error f => exact nomatch he
    | ok secret =>
      simp only [Event.creates, Bool.and_eq_true, decide_eq_true_eq] at he
      exact he.2.symm

theorem conflict_of_taken (hp : Reaches r (start r keys owners store) p)
    (hmoves : Pool.Moves .management (Lawful r) i e p q) (he : e.isCreation = true)
    (htaken : p.store.objects.contains (secretPlace (keys i)) = true) :
    ∃ f, q.plans i = .done (.error f) ∧ f.isConflict = true := by
  have hstage := stage_of_reaches hp i
  have hturn := hstage.inTurn hmoves.takes
  generalize p.log i = es at hturn
  cases hturn with
  | asksWorkload => exact nomatch he
  | asksManagement => exact nomatch he
  | generates => exact nomatch he
  | stores reference howner pair certificate hcertificate answer =>
    cases answer with
    | ok secret =>
      -- the store creates nothing under a name that is taken
      have hcreate := Store.allows_here.1 hmoves.allows
      have hfree := (Store.create?_eq_some_iff.1 hcreate).1
      exact nomatch htaken.symm.trans hfree
    | error f =>
      refine ⟨f, hstage.eq_done_of_decides hmoves.takes (.notStored pair reference f), ?_⟩
      obtain ⟨reply, rfl, hcode⟩ := hmoves.lawful.refuses _ _ _ _ rfl htaken
      simp [Failure.isConflict, hcode]

/-- However many searches race, over whatever there is at first: each secret is created at most once
and never changes, all that succeed without the workload cluster have the pair that is stored for
their cluster, and whoever is beaten to the creation fails with a conflict that is worth another
try, and does not try again. -/
theorem searches_agree (r : Readers Cert) (keys : ι → ClusterKey) (owners : ι → ControlPlane)
    (store : Store) {p : Searches ι} (hp : Reaches r (start r keys owners store) p) :
    (∀ id, p.events.countP (·.creates .management id) ≤ 1) ∧
    (∀ i e id, e ∈ p.log i → e.creates .management id = true →
      ∀ key, id = secretPlace key ↔ key = keys i) ∧
    store.GrowsTo p.store ∧ (∀ q, Reaches r p q → p.store.GrowsTo q.store) ∧
    (∀ i pair, p.plans i = .done (.ok pair) →
      (∀ secret, workloadRead (keys i) (.ok (some secret)) ∉ p.log i) →
      ∃ secret, p.store.get? .secret (keys i).namespaceName ((keys i).secretFor purpose) =
        some secret ∧ secret.keyPair r (keys i) purpose = .ok pair) ∧
    (∀ i j pair pair', keys i = keys j → p.plans i = .done (.ok pair) →
      p.plans j = .done (.ok pair') →
      (∀ secret, workloadRead (keys i) (.ok (some secret)) ∉ p.log i) →
      (∀ secret, workloadRead (keys j) (.ok (some secret)) ∉ p.log j) → pair = pair') ∧
    (∀ i e q, Pool.Moves .management (Lawful r) i e p q → e.isCreation = true →
      p.store.objects.contains (secretPlace (keys i)) = true →
      ∃ f, f.isConflict = true ∧ f.isRetryable = true ∧
      (q.log i).countP Event.isCreation = 1 ∧
        ∀ q', Reaches r q q' → q'.plans i = .done (.error f) ∧ q'.log i = q.log i) := by
  have hevolves := Pool.evolves_of_reaches hp
  refine ⟨hevolves.countP_creates_le, ?_, hevolves.growsTo, ?_, ?_, ?_, ?_⟩
  · intro i e id hmem he key
    rw [eq_secretPlace_of_creates hp hmem he]
    constructor
    · intro hplace
      exact (secretPlace_injective hplace).symm
    · rintro rfl
      rfl
  · intro q hq
    exact Pool.growsTo_of_reaches hq
  · intro i pair hdone hnot
    exact stored_of_done hp hdone hnot
  · intro i j pair pair' hkey hi hj hinot hjnot
    exact eq_of_done hp hkey hi hinot hj hjnot
  · intro i e q hmoves he htaken
    obtain ⟨f, hdone, hconflict⟩ := conflict_of_taken hp hmoves he htaken
    refine ⟨f, hconflict, Failure.isRetryable_of_isConflict hconflict, ?_, ?_⟩
    · have honce := (stage_of_reaches (hp.tail (.moves i e hmoves)) i).countP_isCreation_le
      rw [hmoves.log_self, List.countP_append, List.countP_singleton, he] at honce ⊢
      simp only [if_true] at honce ⊢
      omega
    · intro q' hq'
      exact Pool.stays_done hq' hdone

end Agreement

section Race
variable {r : Readers Cert} {key : ClusterKey} {owner : ControlPlane} {reference : OwnerReference}
  {pair : KeyPair}

theorem follows_to_store
    (howner : ObjectKind.controlPlane.controllerReference owner = .ok reference) :
    (lookUpOrCreate r key owner).Follows (absentTwice key ++ [generated (.ok pair)])
      (store r key reference pair) := by
  have hworkload :
      (lookUpOrCreate r key owner).Takes (workloadRead key (.ok none))
        (managedOrCreate r key owner) :=
    .answered ..
  have hmanagement :
      (managedOrCreate r key owner).Takes (managementRead key (.ok none)) (create r key owner) :=
    .answered ..
  have hgenerate :
      (create r key owner).Takes (generated (.ok pair)) (store r key reference pair) := by
    rw [create_of_owner howner]
    exact .made ..
  exact .cons hworkload (.cons hmanagement (.cons hgenerate .here))

def racedSecret (key : ClusterKey) (reference : OwnerReference) (pair : KeyPair) : Secret :=
  Store.stamped .secret key.namespaceName (Secret.ofKeyPair key purpose pair reference)

def racedStore (key : ClusterKey) (reference : OwnerReference) (pair : KeyPair) : Store :=
  ⟨(∅ : Store).objects.insert (secretPlace key) ⟨.secret, racedSecret key reference pair⟩⟩

def conflict : Failure :=
  .client (.refused
    { status := "Failure", message := "already there", reason := "AlreadyExists", code := 409 })

theorem create?_racedSecret :
    (∅ : Store).create? .secret key.namespaceName (Secret.ofKeyPair key purpose pair reference) =
      some (racedSecret key reference pair, racedStore key reference pair) :=
  Store.create?_eq_some_iff.2 ⟨rfl, rfl, rfl⟩

def bothReady (r : Readers Cert) (key : ClusterKey) (owner : ControlPlane)
    (reference : OwnerReference) (pair : KeyPair) : Searches Bool :=
  ((start r (fun _ => key) (fun _ => owner) ∅).advance false
    (absentTwice key ++ [generated (.ok pair)])
    (store r key reference pair) ∅).advance true (absentTwice key ++ [generated (.ok pair)])
    (store r key reference pair) ∅

theorem reaches_bothReady
    (howner : ObjectKind.controlPlane.controllerReference owner = .ok reference)
    (hvalid : pair.validate r = .ok ()) :
    Reaches r (start r (fun _ => key) (fun _ => owner) ∅)
      (bothReady r key owner reference pair) := by
  have hquiet : ∀ e ∈ absentTwice key ++ [generated (.ok pair)],
      (∅ : Store).Allows .management e ∅ ∧ Lawful r ∅ e := by
    intro e hmem
    simp only [List.cons_append, List.nil_append, List.mem_cons, List.not_mem_nil, or_false] at hmem
    rcases hmem with rfl | rfl | rfl
    · exact ⟨(Store.allows_elsewhere (by decide)).2 rfl, .of_isRead rfl⟩
    · exact ⟨Store.allows_here.2 ⟨rfl, rfl⟩, .of_isRead rfl⟩
    · exact ⟨rfl, .of_valid hvalid _⟩
  have hfirst :=
    Pool.reaches_advance (p := start r (fun _ : Bool => key) (fun _ => owner) ∅) (i := false)
    (follows_to_store howner) hquiet
  exact hfirst.trans (Pool.reaches_advance (i := true) (follows_to_store howner) hquiet)

def firstStored (r : Readers Cert) (key : ClusterKey) (owner : ControlPlane)
    (reference : OwnerReference) (pair : KeyPair) : Searches Bool :=
  (bothReady r key owner reference pair).advance false
    [creation key pair reference (.ok (racedSecret key reference pair))] (.done (.ok pair))
      (racedStore key reference pair)

theorem moves_firstStored (key : ClusterKey) (owner : ControlPlane) (reference : OwnerReference)
    {certificate : Cert} (hcertificate : pair.certificate r = .ok certificate) :
    Pool.Moves .management (Lawful r) false
      (creation key pair reference (.ok (racedSecret key reference pair)))
      (bothReady r key owner reference pair) (firstStored r key owner reference pair) := by
  refine Pool.moves_advance ?_ (Store.allows_here.2 create?_racedSecret) .of_created
  show (store r key reference pair).Takes _ _
  rw [store_of_readable hcertificate]
  exact .answered ..

def secondRefused (r : Readers Cert) (key : ClusterKey) (owner : ControlPlane)
    (reference : OwnerReference) (pair : KeyPair) : Searches Bool :=
  (firstStored r key owner reference pair).advance true
    [creation key pair reference (.error conflict)]
    (.done (.error conflict)) (racedStore key reference pair)

theorem moves_secondRefused (key : ClusterKey) (owner : ControlPlane) (reference : OwnerReference)
    {certificate : Cert} (hcertificate : pair.certificate r = .ok certificate) :
    Pool.Moves .management (Lawful r) true (creation key pair reference (.error conflict))
      (firstStored r key owner reference pair) (secondRefused r key owner reference pair) := by
  refine Pool.moves_advance ?_ (Store.allows_here.2 rfl) (.of_refused rfl)
  show (store r key reference pair).Takes _ _
  rw [store_of_readable hcertificate]
  exact .answered ..

end Race

theorem searches_agree_of_two :
    ∃ p q : Searches Bool, Reaches .standard
      (start .standard (fun _ => sampleCluster) (fun _ => sampleOwner) ∅) p ∧
      p.plans false = .done (.ok .sample) ∧
      (∃ secret, p.store.get? .secret "default" "prod-etcd" = some secret ∧
        secret.keyPair .standard sampleCluster purpose = .ok .sample) ∧
      Reaches .standard p q ∧
      ∃ f, q.plans true = .done (.error f) ∧ f.isConflict = true ∧ f.isRetryable = true := by
  obtain ⟨certificate, hcertificate⟩ := KeyPair.certificate_of_validate KeyPair.validate_sample
  let first := firstStored .standard sampleCluster sampleOwner sampleReference .sample
  have hfirst := moves_firstStored sampleCluster sampleOwner sampleReference hcertificate
  have hsecond := moves_secondRefused sampleCluster sampleOwner sampleReference hcertificate
  have hready :
      Reaches .standard (start .standard (fun _ => sampleCluster) (fun _ => sampleOwner) ∅)
      (bothReady .standard sampleCluster sampleOwner sampleReference .sample) :=
    reaches_bothReady controllerReference_sampleOwner KeyPair.validate_sample
  have hp := hready.tail (.moves _ _ hfirst)
  have hq :
      Reaches .standard first
        (secondRefused .standard sampleCluster sampleOwner sampleReference .sample) :=
    .single (.moves _ _ hsecond)
  have htaken : first.store.objects.contains (secretPlace sampleCluster) = true := by
    show (racedStore sampleCluster sampleReference .sample).objects.contains
      (secretPlace sampleCluster) = true
    unfold racedStore
    rw [Table.contains_insert, decide_eq_true rfl, Bool.true_or]
  obtain ⟨-, -, -, -, hstored, -, hbeaten⟩ := searches_agree .standard _ _ ∅ hp
  refine ⟨first, _, hp, rfl, hstored false .sample rfl ?_, hq, ?_⟩
  · intro secret hmem
    have hlog : first.log false = absentTwice sampleCluster ++
        [generated (.ok .sample), creation sampleCluster .sample sampleReference
          (.ok (racedSecret sampleCluster sampleReference .sample))] := rfl
    rw [hlog] at hmem
    simp at hmem
  · obtain ⟨f, hconflict, hretryable, -, hdone⟩ := hbeaten true _ _ hsecond rfl htaken
    exact ⟨f, (hdone _ .refl).1, hconflict, hretryable⟩

end Searches

end EtcdAuthority
end Rollout
