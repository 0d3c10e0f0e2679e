import Rollout.Proofs.Store.Events
import Rollout.Trust.EtcdAuthority

/-!
How far a search for the authority of the etcd members can have come, and by way of which events.
There are two reads, then the owner is checked, then an authority is generated, read and stored; at
each of these the search can end.
-/
namespace Rollout.EtcdAuthority

section Events
variable (key : ClusterKey)

abbrev cacheRead (answer : Except Failure (Option Secret)) : Event Place :=
  .answered .secretCache (.get .secret key.namespaceName (key.secretFor purpose)) answer

abbrev workloadRead (answer : Except Failure (Option Secret)) : Event Place :=
  .answered .workload (.get .secret workloadNamespace (key.secretFor purpose)) answer

abbrev managementRead (answer : Except Failure (Option Secret)) : Event Place :=
  .answered .management (.get .secret key.namespaceName (key.secretFor purpose)) answer

abbrev generated (outcome : Except KeyPairError KeyPair) : Event Place :=
  .made purpose.commonName outcome

abbrev creation (pair : KeyPair) (owner : OwnerReference) (answer : Except Failure Secret) :
    Event Place :=
  .answered .management
    (.create .secret key.namespaceName (Secret.ofKeyPair key purpose pair owner)) answer

abbrev absentTwice : List (Event Place) :=
  [workloadRead key (.ok none), managementRead key (.ok none)]

end Events

variable {Cert : Type} (r : Readers Cert) (key : ClusterKey) (owner : ControlPlane)

/-- After these events this is left to do. -/
inductive Stage : List (Event Place) → Plan Place (Except Failure KeyPair) → Prop
  | asksWorkload : Stage [] (lookUpOrCreate r key owner)
  | workloadFails (f : Failure) : Stage [workloadRead key (.error f)] (.done (.error f))
  | workloadDecides (secret : Secret) :
      Stage [workloadRead key (.ok (some secret))] (.done (secret.keyPair r key purpose))
  | asksManagement : Stage [workloadRead key (.ok none)] (managedOrCreate r key owner)
  | managementFails (f : Failure) :
      Stage [workloadRead key (.ok none), managementRead key (.error f)] (.done (.error f))
  | managementDecides (secret : Secret) :
      Stage [workloadRead key (.ok none), managementRead key (.ok (some secret))]
        (.done (secret.keyPair r key purpose))
  | unowned (f : Failure) (howner : ObjectKind.controlPlane.controllerReference owner = .error f) :
      Stage (absentTwice key) (.done (.error f))
  | generates (reference : OwnerReference)
      (howner : ObjectKind.controlPlane.controllerReference owner = .ok reference) :
      Stage (absentTwice key) (create r key owner)
  | notGenerated (e : KeyPairError) :
      Stage (absentTwice key ++ [generated (.error e)])
        (.done (.error (failure key ("failed to generate: " ++ e.message))))
  | unreadable (pair : KeyPair) (e : KeyPairError) (hcertificate : pair.certificate r = .error e) :
      Stage (absentTwice key ++ [generated (.ok pair)])
        (.done (.error (failure key ("generated certificate is unreadable: " ++ e.message))))
  | stores (reference : OwnerReference)
      (howner : ObjectKind.controlPlane.controllerReference owner = .ok reference) (pair : KeyPair)
      (certificate : Cert)
      (hcertificate : pair.certificate r = .ok certificate) :
      Stage (absentTwice key ++ [generated (.ok pair)]) (store r key reference pair)
  | notStored (reference : OwnerReference) (pair : KeyPair) (f : Failure) :
      Stage (absentTwice key ++ [generated (.ok pair), creation key pair reference (.error f)])
        (.done (.error f))
  | stored (reference : OwnerReference) (pair : KeyPair) (secret : Secret) :
      Stage (absentTwice key ++ [generated (.ok pair), creation key pair reference (.ok secret)])
        (.done (.ok pair))

variable {r key owner} {es : List (Event Place)} {e : Event Place}
  {t u : Plan Place (Except Failure KeyPair)}

theorem create_of_owner {reference : OwnerReference}
    (h : ObjectKind.controlPlane.controllerReference owner = .ok reference) :
    create r key owner = .generate purpose.commonName fun
      | .ok pair => store r key reference pair
      | .error e => .done (.error (failure key ("failed to generate: " ++ e.message))) := by
  unfold create
  split
  · next f hf => exact nomatch h.symm.trans hf
  · next reference' hreference =>
    cases h.symm.trans hreference
    rfl

theorem create_of_not_owner {f : Failure}
    (h : ObjectKind.controlPlane.controllerReference owner = .error f) :
    create r key owner = .done (.error f) := by
  unfold create
  rw [h]

theorem store_of_readable {reference : OwnerReference} {pair : KeyPair} {certificate : Cert}
    (h : pair.certificate r = .ok certificate) :
    store r key reference pair =
      .ask .management
        (.create .secret key.namespaceName (Secret.ofKeyPair key purpose pair reference)) fun
        | .ok _ => .done (.ok pair)
        | .error f => .done (.error f) := by
  unfold store
  split
  · next e he => exact nomatch h.symm.trans he
  · rfl

theorem store_of_not_readable {reference : OwnerReference} {pair : KeyPair} {e : KeyPairError}
    (h : pair.certificate r = .error e) :
    store r key reference pair =
      .done (.error (failure key ("generated certificate is unreadable: " ++ e.message))) := by
  unfold store
  rw [h]

theorem Stage.step (h : Stage r key owner es t) (he : t.Takes e u) :
    Stage r key owner (es ++ [e]) u := by
  cases h with
  | asksWorkload =>
    obtain ⟨answer, rfl, rfl⟩ := Plan.takes_ask he
    rcases answer with f | _ | secret
    · exact .workloadFails f
    · exact .asksManagement
    · exact .workloadDecides secret
  | asksManagement =>
    obtain ⟨answer, rfl, rfl⟩ := Plan.takes_ask he
    rcases answer with f | _ | secret
    · exact .managementFails f
    · -- whether an authority is generated depends on the owner alone
      show Stage r key owner (absentTwice key) (create r key owner)
      cases howner : ObjectKind.controlPlane.controllerReference owner with
      | error f =>
        rw [create_of_not_owner howner]
        exact .unowned f howner
      | ok reference => exact .generates reference howner
    · exact .managementDecides secret
  | generates reference howner =>
    rw [create_of_owner howner] at he
    obtain ⟨outcome, rfl, rfl⟩ := Plan.takes_generate he
    cases outcome with
    | error e => exact .notGenerated e
    | ok pair =>
      show Stage r key owner (absentTwice key ++ [generated (.ok pair)])
        (store r key reference pair)
      cases hcertificate : pair.certificate r with
      | error e =>
        rw [store_of_not_readable hcertificate]
        exact .unreadable pair e hcertificate
      | ok certificate => exact .stores reference howner pair certificate hcertificate
  | stores reference howner pair certificate hcertificate =>
    rw [store_of_readable hcertificate] at he
    obtain ⟨answer, rfl, rfl⟩ := Plan.takes_ask he
    cases answer with
    | error f => exact .notStored reference pair f
    | ok secret => exact .stored reference pair secret
  | _ => exact absurd he Plan.not_takes_done

theorem stage_of_follows (h : (lookUpOrCreate r key owner).Follows es t) :
    Stage r key owner es t := by
  induction h with
  | here => exact .asksWorkload
  | on _ he ih => exact ih.step he

def sampleCluster : ClusterKey := ⟨"default", "prod"⟩

def sampleOwner : ControlPlane :=
  { metadata := { name := some "prod", uid := some "rcp-uid" }, spec := default }

def sampleReference : OwnerReference :=
  { apiVersion := Kind.controlPlane.apiVersion, kind := Kind.controlPlane.name, name := "prod",
    uid := "rcp-uid", controller := some true }

theorem controllerReference_sampleOwner :
    ObjectKind.controlPlane.controllerReference sampleOwner = .ok sampleReference := rfl

end Rollout.EtcdAuthority
