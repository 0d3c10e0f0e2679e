import Rollout.Connection
import Rollout.Proofs.Net.Replies
import Rollout.Proofs.Net.Requests
import Rollout.Proofs.Registry

/-!
Calls that go through a connection, one after the other. A call is put to the cluster once or not at
all: not if its kind is not registered, and not if there is no request for it. What the cluster
answers in time is passed on; whatever comes later is lost.
-/
namespace Rollout

def Peer.recorded {σ : Type} (peer : Peer σ) : Peer (σ × List Request) := fun request before =>
  let h := peer request before.1
  { received := (h.received, before.2 ++ [request])
    delay := h.delay
    answer := h.answer
    finished := (h.finished, before.2 ++ [request]) }

def Service.after {σ : Type} (service : Service σ) (before : σ) (calls : List Call) : σ :=
  calls.foldl (fun s call => (service call s).finished) before

theorem Request.ofCall_cases (author : String) (call : Call) :
    (∃ request, ofCall author call = .ok request) ∨
      ∃ message, ofCall author call = .error (.badRequest message) := by
  have htarget (method : Method) (target : List Char) (body : Option Json) :
      (∃ request, toTarget method target body = .ok request) ∨
        ∃ message, toTarget method target body = .error (.badRequest message) := by
    unfold toTarget
    split
    · exact .inl ⟨_, rfl⟩
    · exact .inr ⟨_, rfl⟩
  unfold ofCall
  split
  · split
    · exact .inr ⟨_, rfl⟩
    · exact htarget ..
  · exact htarget ..
  · split
    · exact .inr ⟨_, rfl⟩
    · exact htarget ..

namespace Client
variable {σ : Type} {c : Client} {call : Call}

def sends (c : Client) (call : Call) : List Request :=
  if c.registry.contains call.kind.kind then (Request.ofCall c.author call).toOption.toList else []

def unregistered (c : Client) (k : Kind) : Failure :=
  .invalid c.cluster ("kind " ++ k.name ++ " (" ++ k.apiVersion ++
    ") is not registered with this client") none

theorem request_of_not_contains (h : c.registry.contains call.kind.kind = false) :
    c.request call = .error (c.unregistered call.kind.kind) := by
  unfold request Registry.ensure
  rw [h]
  rfl

theorem request_of_contains (h : c.registry.contains call.kind.kind = true) :
    c.request call = (Request.ofCall c.author call).mapError .client := by
  unfold request Registry.ensure
  rw [h]
  rfl

theorem service_of_error {f : Failure} (h : c.request call = .error f) (peer : Peer σ)
    (before : σ) : c.service peer call before = .atOnce before (.error f) := by
  unfold service
  rw [h]

theorem service_of_ok {request : Request} (h : c.request call = .ok request) (peer : Peer σ)
    (before : σ) :
    c.service peer call before = (peer request before).andThen fun reply =>
      (reply.answer call).mapError .client := by
  unfold service
  rw [h]

end Client

namespace Connection
variable {σ : Type} {c : Connection} {peer : Peer σ} {call : Call}

/-- How a connection deals with a call. -/
structure Deals (c : Connection) (peer : Peer σ) (call : Call) (before : σ × List Request) :
    Prop where
  unregistered : c.client.registry.contains call.kind.kind = false →
    c.service peer.recorded call before =
      .atOnce before (.error (c.client.unregistered call.kind.kind))
  unwritten : c.client.registry.contains call.kind.kind = true → ∀ fault,
    Request.ofCall c.client.author call = .error fault →
      (∃ message, fault = .badRequest message) ∧
        c.service peer.recorded call before = .atOnce before (.error (.client fault))
  sent : c.client.registry.contains call.kind.kind = true → ∀ request,
    Request.ofCall c.client.author call = .ok request →
      (c.service peer.recorded call before).finished.2 = before.2 ++ [request]
  in_time : c.client.registry.contains call.kind.kind = true → ∀ request,
    Request.ofCall c.client.author call = .ok request →
    (peer request before.1).delay ≤ c.timeout →
      c.service peer.recorded call before = c.client.service peer.recorded call before ∧
        (c.service peer.recorded call before).answer =
          (peer request before.1).answer.bind fun reply => (reply.answer call).mapError .client
  overdue : c.client.registry.contains call.kind.kind = true → ∀ request,
    Request.ofCall c.client.author call = .ok request →
    c.timeout < (peer request before.1).delay →
      (c.service peer.recorded call before).answer =
          .error (.timeout c.key.shown call.operation (c.timeout / 1000)) ∧
        (c.service peer.recorded call before).finished.1 = (peer request before.1).received

theorem service_of_error {f : Failure} (h : c.client.request call = .error f) (peer : Peer σ)
    (before : σ) : c.service peer call before = .atOnce before (.error f) := by
  -- what fails at once is not overdue, however little time there is
  have hservice := Client.service_of_error h peer before
  unfold service
  rw [Service.within_of_le (by rw [hservice]; exact Nat.zero_le _), hservice]

theorem deals (c : Connection) (peer : Peer σ) (call : Call) (before : σ × List Request) :
    c.Deals peer call before := by
  have hrequest {request : Request} (hcontains : c.client.registry.contains call.kind.kind = true)
      (hok : Request.ofCall c.client.author call = .ok request) :
      c.client.service peer.recorded call before =
        (peer.recorded request before).andThen fun reply =>
          (reply.answer call).mapError .client := by
    refine Client.service_of_ok ?_ peer.recorded before
    rw [Client.request_of_contains hcontains, hok]
    rfl
  constructor
  · exact fun hcontains => service_of_error (Client.request_of_not_contains hcontains) _ _
  · intro hcontains fault herror
    constructor
    · rcases Request.ofCall_cases c.client.author call
        with ⟨request, hok⟩ | ⟨message, hbad⟩
      · exact nomatch herror.symm.trans hok
      · exact ⟨message, Except.error.inj (herror.symm.trans hbad)⟩
    · refine service_of_error ?_ _ _
      rw [Client.request_of_contains hcontains, herror]
      rfl
  · intro hcontains request hok
    have hservice := hrequest hcontains hok
    by_cases hdelay : (c.client.service peer.recorded call before).delay ≤ c.timeout
    · unfold service
      rw [Service.within_of_le hdelay, hservice]
      rfl
    · unfold service
      rw [Service.finished_within_of_lt (Nat.not_le.1 hdelay), hservice]
      rfl
  · intro hcontains request hok hdelay
    have hservice := hrequest hcontains hok
    have hwithin :
        c.service peer.recorded call before = c.client.service peer.recorded call before :=
      Service.within_of_le (by rw [hservice]; exact hdelay)
    refine ⟨hwithin, ?_⟩
    rw [hwithin, hservice]
    rfl
  · intro hcontains request hok hdelay
    have hservice := hrequest hcontains hok
    have hlate : c.timeout < (c.client.service peer.recorded call before).delay := by
      rw [hservice]; exact hdelay
    refine ⟨Service.answer_within_of_lt hlate, ?_⟩
    unfold service
    rw [Service.finished_within_of_lt hlate, hservice]
    rfl

theorem requests_finished (c : Connection) (peer : Peer σ) (call : Call)
    (before : σ × List Request) :
    (c.service peer.recorded call before).finished.2 = before.2 ++ c.client.sends call := by
  have hdeals := c.deals peer call before
  unfold Client.sends
  cases hcontains : c.client.registry.contains call.kind.kind with
  | false =>
    rw [hdeals.unregistered hcontains]
    exact (List.append_nil _).symm
  | true =>
    rcases Request.ofCall_cases c.client.author call with ⟨request, hok⟩ | ⟨message, hbad⟩
    · rw [hdeals.sent hcontains request hok, hok]
      rfl
    · rw [(hdeals.unwritten hcontains _ hbad).2, hbad]
      exact (List.append_nil _).symm

/-- So do any number of calls, and nothing else does. -/
theorem requests_after (c : Connection) (peer : Peer σ) (calls : List Call)
    (before : σ × List Request) :
    ((c.service peer.recorded).after before calls).2 =
      before.2 ++ calls.flatMap c.client.sends := by
  induction calls generalizing before with
  | nil => exact (List.append_nil _).symm
  | cons call calls ih =>
    have hrest := ih (c.service peer.recorded call before).finished
    rw [requests_finished, List.append_assoc] at hrest
    exact hrest

/-- A connection whose client is restricted to what has been registered sends what it may, once, and
says what has come of it: what is registered is what was at first or has been added, in whatever
order and however often; each call of any number of calls is dealt with as it should be; and the
requests that go out are those of the calls, in their order. -/
theorem sends_what_is_registered (start : Registry) (steps : List Kind) (c : Connection)
    (hc : c.client.registry = steps.foldl Registry.register start) (peer : Peer σ) :
    (∀ k, c.client.registry.contains k = true ↔ start.contains k = true ∨
      ∃ l ∈ steps, l.id = k.id) ∧
    c.client.registry.size = (start.kinds.keys ++ steps.map Kind.id).dedup.length ∧
    (∀ steps' : List Kind, (∀ id, id ∈ steps.map Kind.id ↔ id ∈ steps'.map Kind.id) →
      c.client.registry = steps'.foldl Registry.register start) ∧
    (∀ call before, c.Deals peer call before) ∧
    (∀ calls before, ((c.service peer.recorded).after before calls).2 =
      before.2 ++ calls.flatMap c.client.sends) := by
  refine ⟨?_, ?_, ?_, c.deals peer, c.requests_after peer⟩
  · intro k
    rw [hc]
    exact Registry.contains_foldl_register
  · rw [hc]
    exact Registry.size_foldl_register
  · intro steps' hsteps
    rw [hc]
    exact Registry.foldl_register_eq hsteps

def hasty : Connection where
  key := ⟨"default", "prod"⟩
  endpoint := { url := { authority := "prod".toList } }
  client := { registry := .workload, cluster := "lab" }
  timeout := 1500

def storedSecret : Secret where
  metadata :=
    { name := some "prod-etcd", namespaceName := some "kube-system", uid := some "etcd-uid" }

def tiring : Peer Nat := fun request n =>
  { received := n + 1
    delay := n * 2000
    answer :=
      match request.method with
      | .get => .error (.internal "lab" "gone")
      | .post => .ok (.ofText 201 (Secret.codec.toText storedSecret))
    finished := n + 1 }

theorem sends_what_is_registered_hasty :
    let service := hasty.service tiring.recorded
    let read : Call := .get .secret "kube-system" "prod-etcd"
    let nameless : Call := .get .secret "kube-system" ""
    let foreign : Call := .list .configMap "kube-system" ∅
    let write : Call := .create .secret "kube-system" { metadata.name := some "prod-etcd" }
    (service read (0, [])).answer = .error (.internal "lab" "gone") ∧
      (service read (1, [])).answer =
        .error (.timeout "default/prod" "get Secret kube-system/prod-etcd" 1) ∧
      (service foreign (0, [])).answer =
        .error (.invalid "lab" "kind ConfigMap (v1) is not registered with this client" none) ∧
      (service.after (0, []) [read, nameless, foreign, read]).2.length = 2 ∧
      (service write (0, [])).answer = .ok storedSecret := by
  intro service read nameless foreign write
  obtain ⟨hcontains, -, -, hdeals, hafter⟩ := sends_what_is_registered ∅
    [Kind.secret, .node, .machine, .bootstrapConfig, .controlPlane] hasty rfl tiring
  have hregistered : hasty.client.registry.contains Kind.secret = true :=
    (hcontains Kind.secret).2 (.inr ⟨Kind.secret, List.mem_cons_self .., rfl⟩)
  have hforeign : hasty.client.registry.contains Kind.configMap = false := by decide +kernel
  have hread : Request.ofCall controllerName read = .ok (.intended controllerName read) :=
    (Request.ofCall_eq_ok_iff (by decide)).2
      ⟨by decide, ⟨by decide +kernel, by decide +kernel⟩, rfl⟩
  have hwrite : Request.ofCall controllerName write = .ok (.intended controllerName write) :=
    (Request.ofCall_eq_ok_iff (by decide)).2
      ⟨by decide, ⟨by decide +kernel, by decide +kernel⟩, rfl⟩
  have hshown : hasty.key.shown = "default/prod" := by decide +kernel
  have hoperation : read.operation = "get Secret kube-system/prod-etcd" := by decide +kernel
  have hprompt (request : Request) : (tiring request 0).delay ≤ hasty.timeout := Nat.zero_le 1500
  have hslow (request : Request) : hasty.timeout < (tiring request 1).delay :=
    show 1500 < 1 * 2000 by decide
  refine ⟨((hdeals read (0, [])).in_time hregistered _ hread (hprompt _)).2, ?_, ?_, ?_, ?_⟩
  · have hlate := ((hdeals read (1, [])).overdue hregistered _ hread (hslow _)).1
    rwa [hshown, hoperation] at hlate
  · have hanswer := congrArg Handling.answer ((hdeals foreign (0, [])).unregistered hforeign)
    have htext : "kind " ++ Kind.configMap.name ++ " (" ++ Kind.configMap.apiVersion ++
        ") is not registered with this client" =
          "kind ConfigMap (v1) is not registered with this client" := by
      decide +kernel
    rw [← htext]
    exact hanswer
  · rw [hafter]
    decide +kernel
  · have hkept : write.IsKept storedSecret := ⟨nofun, nofun, nofun, nofun, nofun⟩
    have hpeer : (tiring (.intended controllerName write) 0).answer =
        .ok (.ofAnswer write storedSecret) := rfl
    have hanswer := ((hdeals write (0, [])).in_time hregistered _ hwrite (hprompt _)).2
    rw [hpeer, Except.bind, (Reply.answer_of_written write).1 storedSecret hkept] at hanswer
    exact hanswer

end Connection
end Rollout
