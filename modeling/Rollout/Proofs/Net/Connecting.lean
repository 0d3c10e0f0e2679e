import Rollout.Connection
import Rollout.Proofs.Store.Events
import Rollout.Proofs.Text.Utf8
import Rollout.Store.Servers

/-!
Connecting to workload clusters. A resolver says where a cluster is reached, and connecting asks for
nothing more: what the resolver fails with is passed on as it is, and whatever timeouts its endpoint
has, a client is built for that endpoint with the one of the settings. The resolver that is used
reads one secret, and whatever is wrong with the secret is a failure of its own kind.
-/
namespace Rollout
open Text

theorem ClusterKey.secretFor_kubeconfig (k : ClusterKey) :
    k.secretFor .kubeconfig = k.name ++ "-kubeconfig" := by
  unfold secretFor secretName
  rw [String.append_assoc]
  rfl

namespace Endpoint

def shownSecret (key : ClusterKey) : String :=
  "kubeconfig secret " ++ secretId key.namespaceName (key.name ++ "-kubeconfig")

/-- What an answer about the secret of a cluster leads to, where kubeconfigs are read with `r`. Each
answer is of one case. -/
inductive Resolves (r : KubeconfigReaders) (key : ClusterKey) (timeout : Nat) :
    Except Failure (Option Secret) → Except Failure Endpoint → Prop
  | unread (f : Failure) : Resolves r key timeout (.error f) (.error f)
  | absent : Resolves r key timeout (.ok none)
      (.error (.internal "resolver" (shownSecret key ++ " not found")))
  | empty (secret : Secret) (hentry : secret.entry? "value" = none) :
      Resolves r key timeout (.ok (some secret))
        (.error (.internal "resolver" (shownSecret key ++ " has no " ++ quoted "value" ++ " key")))
  | notText (secret : Secret) (bytes : List UInt8) (fault : Utf8Fault)
      (hentry : secret.entry? "value" = some bytes)
      (hbytes : ∀ text, bytes ≠ encodeUtf8 text) (hfault : decodeUtf8 bytes = .error fault) :
      Resolves r key timeout (.ok (some secret))
        (.error (.internal "resolver"
          ("kubeconfig for " ++ key.shown ++ " is not UTF-8: " ++ fault.message)))
  | notParsed (secret : Secret) (text : List Char) (message : String)
      (hentry : secret.entry? "value" = some (encodeUtf8 text))
      (hparse : r.parse text = .error message) :
      Resolves r key timeout (.ok (some secret))
        (.error (.internal "config_from_kubeconfig" ("failed to parse kubeconfig: " ++ message)))
  | notLoaded (secret : Secret) (text : List Char) (k : Kubeconfig) (message : String)
      (hentry : secret.entry? "value" = some (encodeUtf8 text)) (hparse : r.parse text = .ok k)
      (hload : r.load k = .error message) :
      Resolves r key timeout (.ok (some secret))
        (.error (.internal "config_from_kubeconfig" ("failed to load kubeconfig: " ++ message)))
  | loaded (secret : Secret) (text : List Char) (k : Kubeconfig) (endpoint : Endpoint)
      (hentry : secret.entry? "value" = some (encodeUtf8 text)) (hparse : r.parse text = .ok k)
      (hload : r.load k = .ok endpoint) :
      Resolves r key timeout (.ok (some secret))
        (.ok { endpoint with connectTimeout := some timeout, readTimeout := some timeout })

def ofAnswer (r : KubeconfigReaders) (key : ClusterKey) (timeout : Nat) :
    Except Failure (Option Secret) → Except Failure Endpoint
  | .ok secret => ofSecret? key timeout secret r
  | .error f => .error f

def reading {σ : Type} (env : Surroundings Place σ) (key : ClusterKey) (s : σ) :
    Handling σ (Option Secret) :=
  env.service .management (.get .secret key.namespaceName (key.name ++ "-kubeconfig")) s

theorem resolve_eq (r : KubeconfigReaders) (key : ClusterKey) (timeout : Nat) :
    resolve key timeout r =
      .ask .management (.get .secret key.namespaceName (key.name ++ "-kubeconfig"))
        fun answer => .done (ofAnswer r key timeout answer) := by
  unfold resolve
  rw [key.secretFor_kubeconfig]
  congr
  funext answer
  cases answer <;> rfl

section Secrets
variable {r : KubeconfigReaders} {key : ClusterKey} {timeout : Nat} {secret : Secret}
  {text : List Char} {k : Kubeconfig}
  {message : String}

theorem ofYaml_of_not_parsed (hparse : r.parse text = .error message) :
    ofYaml text timeout r = .error
      (.internal "config_from_kubeconfig" ("failed to parse kubeconfig: " ++ message)) := by
  simp only [ofYaml, hparse]

theorem ofYaml_of_not_loaded (hparse : r.parse text = .ok k) (hload : r.load k = .error message) :
    ofYaml text timeout r = .error
      (.internal "config_from_kubeconfig" ("failed to load kubeconfig: " ++ message)) := by
  simp only [ofYaml, hparse, hload]

theorem ofYaml_of_loaded {endpoint : Endpoint} (hparse : r.parse text = .ok k)
    (hload : r.load k = .ok endpoint) :
    ofYaml text timeout r = .ok { endpoint with
      connectTimeout := some timeout, readTimeout := some timeout } := by
  simp only [ofYaml, hparse, hload, withTimeout]

theorem ofSecret?_of_absent (r : KubeconfigReaders) (key : ClusterKey) (timeout : Nat) :
    ofSecret? key timeout none r =
      .error (.internal "resolver" (shownSecret key ++ " not found")) := by
  unfold ofSecret? shownSecret
  rw [key.secretFor_kubeconfig]
  rfl

theorem ofSecret?_of_empty (hentry : secret.entry? "value" = none) :
    ofSecret? key timeout (some secret) r =
      .error
        (.internal "resolver" (shownSecret key ++ " has no " ++ quoted "value" ++ " key")) := by
  unfold ofSecret? shownSecret
  simp only [key.secretFor_kubeconfig, kubeconfigEntry, hentry, unresolved]

theorem ofSecret?_of_not_text {bytes : List UInt8} {fault : Utf8Fault}
    (hentry : secret.entry? "value" = some bytes) (hfault : decodeUtf8 bytes = .error fault) :
    ofSecret? key timeout (some secret) r =
      .error (.internal "resolver"
        ("kubeconfig for " ++ key.shown ++ " is not UTF-8: " ++ fault.message)) := by
  simp only [ofSecret?, kubeconfigEntry, hentry, hfault, unresolved]

theorem ofSecret?_of_text (hentry : secret.entry? "value" = some (encodeUtf8 text)) :
    ofSecret? key timeout (some secret) r = ofYaml text timeout r := by
  simp only [ofSecret?, kubeconfigEntry, hentry, decodeUtf8_encodeUtf8]

theorem resolves_ofYaml (hentry : secret.entry? "value" = some (encodeUtf8 text)) :
    Resolves r key timeout (.ok (some secret)) (ofYaml text timeout r) := by
  cases hparse : r.parse text with
  | error message =>
    rw [ofYaml_of_not_parsed hparse]
    exact .notParsed secret text message hentry hparse
  | ok k =>
    cases hload : r.load k with
    | error message =>
      rw [ofYaml_of_not_loaded hparse hload]
      exact .notLoaded secret text k message hentry hparse hload
    | ok endpoint =>
      rw [ofYaml_of_loaded hparse hload]
      exact .loaded secret text k endpoint hentry hparse hload

theorem resolves_ofSecret? :
    Resolves r key timeout (.ok (some secret)) (ofSecret? key timeout (some secret) r) := by
  cases hentry : secret.entry? "value" with
  | none =>
    rw [ofSecret?_of_empty hentry]
    exact .empty secret hentry
  | some bytes =>
    cases hdecode : decodeUtf8 bytes with
    | error fault =>
      rw [ofSecret?_of_not_text hentry hdecode]
      refine .notText secret bytes fault hentry ?_ hdecode
      rintro text rfl
      exact nomatch hdecode.symm.trans (decodeUtf8_encodeUtf8 text)
    | ok text =>
      obtain rfl := decodeUtf8_eq_ok_iff.1 hdecode
      rw [ofSecret?_of_text hentry]
      exact resolves_ofYaml hentry

end Secrets

section Answers
variable {r : KubeconfigReaders} {key : ClusterKey} {timeout : Nat}
  {answer : Except Failure (Option Secret)}
  {outcome : Except Failure Endpoint}

theorem ofAnswer_eq_iff :
    ofAnswer r key timeout answer = outcome ↔ Resolves r key timeout answer outcome := by
  constructor
  · rintro rfl
    rcases answer with f | _ | secret
    · exact .unread f
    · show Resolves r key timeout (.ok none) (ofSecret? key timeout none r)
      rw [ofSecret?_of_absent]
      exact .absent
    · exact resolves_ofSecret?
  · intro h
    cases h with
    | unread f => rfl
    | absent => exact ofSecret?_of_absent r key timeout
    | empty secret hentry => exact ofSecret?_of_empty hentry
    | notText secret bytes fault hentry hbytes hfault => exact ofSecret?_of_not_text hentry hfault
    | notParsed secret text message hentry hparse =>
      exact (ofSecret?_of_text hentry).trans (ofYaml_of_not_parsed hparse)
    | notLoaded secret text k message hentry hparse hload =>
      exact (ofSecret?_of_text hentry).trans (ofYaml_of_not_loaded hparse hload)
    | loaded secret text k endpoint hentry hparse hload =>
      exact (ofSecret?_of_text hentry).trans (ofYaml_of_loaded hparse hload)

theorem ofAnswer_eq_map (timeout' : Nat) :
    ofAnswer r key timeout' answer = (ofAnswer r key timeout answer).map fun endpoint =>
      endpoint.withTimeout timeout' := by
  generalize h : ofAnswer r key timeout answer = outcome
  rw [ofAnswer_eq_iff] at h ⊢
  cases h with
  | unread f => exact .unread f
  | absent => exact .absent
  | empty secret hentry => exact .empty secret hentry
  | notText secret bytes fault hentry hbytes hfault =>
    exact .notText secret bytes fault hentry hbytes hfault
  | notParsed secret text message hentry hparse =>
    exact .notParsed secret text message hentry hparse
  | notLoaded secret text k message hentry hparse hload =>
    exact .notLoaded secret text k message hentry hparse hload
  | loaded secret text k endpoint hentry hparse hload =>
    exact .loaded secret text k endpoint hentry hparse hload

theorem Resolves.failure {f : Failure} (h : Resolves r key timeout answer (.error f)) :
    answer = .error f ∨ (∃ message, f = .internal "resolver" message) ∨
      ∃ message, f = .internal "config_from_kubeconfig" message := by
  cases h with
  | unread => exact .inl rfl
  | absent | empty | notText => exact .inr (.inl ⟨_, rfl⟩)
  | notParsed | notLoaded => exact .inr (.inr ⟨_, rfl⟩)

end Answers

section Runs
variable {σ : Type} (r : KubeconfigReaders) (key : ClusterKey) (timeout : Nat)
  (env : Surroundings Place σ) (s : σ)

theorem events_resolve :
    (resolve key timeout r).events env s =
      [.answered .management (.get .secret key.namespaceName (key.name ++ "-kubeconfig"))
        (reading env key s).answer] := by
  rw [resolve_eq]
  rfl

theorem run_resolve :
    (resolve key timeout r).run env s =
      (ofAnswer r key timeout (reading env key s).answer, (reading env key s).finished) := by
  rw [resolve_eq]
  rfl

end Runs

end Endpoint

namespace Connection

/-- What connecting makes of what a resolver has found, where `fault?` tells what keeps a client
from being built. It is asked about the endpoint with the timeouts that it gets. -/
inductive Connects (fault? : Endpoint → Option ClientFault) (settings : Settings)
    (key : ClusterKey) : Except Failure Endpoint → Except Failure Connection → Prop
  | unresolved (f : Failure) : Connects fault? settings key (.error f) (.error f)
  | refused (endpoint bounded : Endpoint) (fault : ClientFault)
      (hbounded : bounded = { endpoint with
        connectTimeout := some settings.workloadTimeout
        readTimeout := some settings.workloadTimeout })
      (hfault : fault? bounded = some fault) :
      Connects fault? settings key (.ok endpoint)
        (.error (.connection (key.namespaceName ++ "/" ++ key.name) fault))
  | connected (endpoint bounded : Endpoint)
      (hbounded : bounded = { endpoint with
        connectTimeout := some settings.workloadTimeout
        readTimeout := some settings.workloadTimeout })
      (hfault : fault? bounded = none) :
      Connects fault? settings key (.ok endpoint) (.ok {
        key
        endpoint := bounded
        client := {
          registry := .workload
          cluster := key.namespaceName ++ "/" ++ key.name
          author := settings.fieldManager }
        timeout := settings.workloadTimeout })

variable {fault? : Endpoint → Option ClientFault} {settings : Settings} {key : ClusterKey}
  {endpoint : Endpoint}

theorem ofEndpoint_of_fault {fault : ClientFault}
    (hfault : fault? (endpoint.withTimeout settings.workloadTimeout) = some fault) :
    ofEndpoint settings key endpoint fault? =
      .error (.connection (key.namespaceName ++ "/" ++ key.name) fault) := by
  simp only [ofEndpoint, hfault, ClusterKey.shown]

theorem ofEndpoint_of_no_fault
    (hfault : fault? (endpoint.withTimeout settings.workloadTimeout) = none) :
    ofEndpoint settings key endpoint fault? = .ok {
      key
      endpoint := endpoint.withTimeout settings.workloadTimeout
      client := {
        registry := .workload
        cluster := key.namespaceName ++ "/" ++ key.name
        author := settings.fieldManager }
      timeout := settings.workloadTimeout } := by
  simp only [ofEndpoint, hfault, ClusterKey.shown]

theorem bind_ofEndpoint_eq_iff {found : Except Failure Endpoint}
    {outcome : Except Failure Connection} :
    (found.bind fun endpoint => ofEndpoint settings key endpoint fault?) = outcome ↔
      Connects fault? settings key found outcome := by
  constructor
  · rintro rfl
    cases found with
    | error f => exact .unresolved f
    | ok endpoint =>
      show Connects fault? settings key (.ok endpoint) (ofEndpoint settings key endpoint fault?)
      cases hfault : fault? (endpoint.withTimeout settings.workloadTimeout) with
      | some fault =>
        rw [ofEndpoint_of_fault hfault]
        exact .refused endpoint _ fault rfl hfault
      | none =>
        rw [ofEndpoint_of_no_fault hfault]
        exact .connected endpoint _ rfl hfault
  · intro h
    cases h with
    | unresolved f => rfl
    | refused endpoint bounded fault hbounded hfault =>
      subst hbounded
      exact ofEndpoint_of_fault hfault
    | connected endpoint bounded hbounded hfault =>
      subst hbounded
      exact ofEndpoint_of_no_fault hfault

theorem Connects.failure {found : Except Failure Endpoint} {f : Failure}
    (h : Connects fault? settings key found (.error f)) :
    found = .error f ∨ ∃ fault,
      f = .connection (key.namespaceName ++ "/" ++ key.name) fault := by
  cases h with
  | unresolved => exact .inl rfl
  | refused endpoint bounded fault => exact .inr ⟨fault, rfl⟩

section Runs
variable {Site σ : Type} (resolve : Plan Site (Except Failure Endpoint))
  (env : Surroundings Site σ) (s : σ)

theorem run_establish :
    (establish settings key resolve fault?).run env s =
      ((resolve.run env s).1.bind fun endpoint => ofEndpoint settings key endpoint fault?,
        (resolve.run env s).2) :=
  Plan.run_andThen env resolve _ s

theorem events_establish :
    (establish settings key resolve fault?).events env s = resolve.events env s := by
  rw [establish, Plan.events_andThen]
  exact List.append_nil _

end Runs

theorem run_establish_resolve {σ : Type} (r : KubeconfigReaders) (timeout timeout' : Nat)
    (env : Surroundings Place σ) (s : σ) :
    (establish settings key (Endpoint.resolve key timeout r) fault?).run env s =
      (establish settings key (Endpoint.resolve key timeout' r) fault?).run env s := by
  rw [run_establish, run_establish, Endpoint.run_resolve, Endpoint.run_resolve,
    Endpoint.ofAnswer_eq_map timeout]
  dsimp only
  cases Endpoint.ofAnswer r key timeout' (Endpoint.reading env key s).answer with
  | error f => rfl
  | ok endpoint => rfl

structure LooksUp {σ : Type} (fault? : Endpoint → Option ClientFault) (settings : Settings)
    (key : ClusterKey) (r : KubeconfigReaders) (timeout : Nat) (env : Surroundings Place σ)
    (s : σ) : Prop where
  events : (Endpoint.resolve key timeout r).events env s =
    [.answered .management (.get .secret key.namespaceName (key.name ++ "-kubeconfig"))
      (Endpoint.reading env key s).answer]
  resolves : ∀ outcome, ((Endpoint.resolve key timeout r).run env s).1 = outcome ↔
    Endpoint.Resolves r key timeout (Endpoint.reading env key s).answer outcome
  failure : ∀ f, ((Endpoint.resolve key timeout r).run env s).1 = .error f →
    (Endpoint.reading env key s).answer = .error f ∨
      (∃ message, f = .internal "resolver" message) ∨
        ∃ message, f = .internal "config_from_kubeconfig" message
  timeout : ∀ timeout',
    (establish settings key (Endpoint.resolve key timeout r) fault?).run env s =
      (establish settings key (Endpoint.resolve key timeout' r) fault?).run env s

theorem looksUp {σ : Type} (r : KubeconfigReaders) (timeout : Nat)
    (env : Surroundings Place σ) (s : σ) : LooksUp fault? settings key r timeout env s := by
  have hresolves (outcome : Except Failure Endpoint) :
      ((Endpoint.resolve key timeout r).run env s).1 = outcome ↔
      Endpoint.Resolves r key timeout (Endpoint.reading env key s).answer outcome := by
    rw [Endpoint.run_resolve]
    exact Endpoint.ofAnswer_eq_iff
  constructor
  · exact Endpoint.events_resolve r key timeout env s
  · exact hresolves
  · exact fun f hf => ((hresolves _).1 hf).failure
  · exact fun timeout' => run_establish_resolve r timeout timeout' env s

/-- Connecting passes on what a resolver fails with, and imposes the timeout of the settings on what
it finds before a client is built, whoever builds it. -/
theorem establish_keeps_failures_and_timeout (fault? : Endpoint → Option ClientFault)
    (settings : Settings) (key : ClusterKey) :
    (∀ {Site σ : Type} (resolve : Plan Site (Except Failure Endpoint))
      (env : Surroundings Site σ) (s : σ),
        (establish settings key resolve fault?).events env s = resolve.events env s ∧
        ((establish settings key resolve fault?).run env s).2 = (resolve.run env s).2 ∧
        (∀ outcome, ((establish settings key resolve fault?).run env s).1 = outcome ↔
          Connects fault? settings key (resolve.run env s).1 outcome) ∧
        ∀ f, ((establish settings key resolve fault?).run env s).1 = .error f →
          (resolve.run env s).1 = .error f ∨
            ∃ fault, f = .connection (key.namespaceName ++ "/" ++ key.name) fault) ∧
    ∀ {σ : Type} (r : KubeconfigReaders) (timeout : Nat) (env : Surroundings Place σ) (s : σ),
      LooksUp fault? settings key r timeout env s := by
  refine ⟨?_, fun r timeout env s => looksUp r timeout env s⟩
  intro Site σ resolve env s
  have hconnects (outcome : Except Failure Connection) :
      ((establish settings key resolve fault?).run env s).1 = outcome ↔
        Connects fault? settings key (resolve.run env s).1 outcome := by
    rw [run_establish]
    exact bind_ofEndpoint_eq_iff
  refine ⟨events_establish resolve env s, ?_, hconnects,
    fun f hf => ((hconnects _).1 hf).failure⟩
  rw [run_establish]

def proxiedText : String :=
  "\x7bclusters: [\x7bname: a, cluster: \x7bserver: a, proxy-url: ftp://b\x7d\x7d], " ++
    "contexts: [\x7bname: a, context: \x7bcluster: a\x7d\x7d], current-context: a\x7d"

def proxied : Servers where
  management := { store := Store.put ∅ .secret ({
    metadata := { name := some "prod-kubeconfig", namespaceName := some "default" }
    data :=
      some ((∅ : Dict (List UInt8)).insert "value" (encodeUtf8 proxiedText.toList)) } : Secret) }

theorem establish_keeps_failures_and_timeout_proxied :
    let key : ClusterKey := ⟨"default", "prod"⟩
    let env := Servers.surroundings fun _ _ => .error .mismatch
    let connecting (timeout : Nat) := establish ⟨7000, "lab"⟩ key (Endpoint.resolve key timeout)
    let failure : Failure := .connection "default/prod" (.unknownProxy "ftp://b/")
    ((connecting 30000).run env proxied).1 = .error failure ∧
      (((Endpoint.resolve key 30000).run env proxied).1 = .error failure ∨
        ∃ fault, failure = .connection ("default" ++ "/" ++ "prod") fault) ∧
      (connecting 30000).run env proxied = (connecting 5).run env proxied ∧
      ((Endpoint.resolve key 30000).run env {}).1 =
        .error (.internal "resolver" "kubeconfig secret default/prod-kubeconfig not found") := by
  intro key env connecting failure
  obtain ⟨hevery, hlooks⟩ :=
    establish_keeps_failures_and_timeout Endpoint.fault? ⟨7000, "lab"⟩ key
  have hkernel : (match ((connecting 30000).run env proxied).1 with
      | .error f => some f
      | .ok _ => none) = some failure := by
    decide +kernel
  have hfails : ((connecting 30000).run env proxied).1 = .error failure := by
    split at hkernel
    · next hrun => rw [hrun, Option.some.inj hkernel]
    · exact nomatch hkernel
  obtain ⟨-, -, -, hfailure⟩ := hevery (Endpoint.resolve key 30000) env proxied
  refine ⟨hfails, hfailure failure hfails, (hlooks .standard 30000 env proxied).timeout 5, ?_⟩
  have habsent : (Endpoint.reading env key {}).answer = .ok none := rfl
  rw [(hlooks .standard 30000 env {}).resolves, habsent]
  exact .absent

end Connection
end Rollout
