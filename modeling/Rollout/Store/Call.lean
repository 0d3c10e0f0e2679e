import Rollout.Labels
import Rollout.Model.Object
import Rollout.Trust.KeyPair

/-!
Calls on stored objects, and plans made of them. A plan is data: it is done, or it makes a call and
goes on with the answer, or it has a key pair made and goes on with that. What a plan does in some
surroundings is what `Plan.run` says.
-/
namespace Rollout

inductive Call
  | get (kind : ObjectKind) (namespaceName name : String)
  | list (kind : ObjectKind) (namespaceName : String) (labels : Dict String)
  | create (kind : ObjectKind) (namespaceName : String) (object : kind.Object)

namespace Call

@[reducible] def Answer : Call → Type
  | get kind .. => Option kind.Object
  | list kind .. => List kind.Object
  | create kind .. => kind.Object

def kind : Call → ObjectKind
  | get kind .. | list kind .. | create kind .. => kind

def operation : Call → String
  | get kind namespaceName name => "get " ++ kind.kind.name ++ " " ++ namespaceName ++ "/" ++ name
  | list kind namespaceName _ => "list " ++ kind.kind.name ++ " in " ++ namespaceName
  | create kind namespaceName object =>
    "create " ++ kind.kind.name ++ " " ++ namespaceName ++ "/" ++ (kind.metadata object).nameOrEmpty

def shown : Call → String
  | list kind namespaceName labels =>
    "list " ++ kind.kind.name ++ " " ++ namespaceName ++ " [" ++ labelSelector labels ++ "]"
  | call => call.operation

end Call

/-- Work that is done by calls on stores at several places. -/
inductive Plan (Place α : Type)
  | done (result : α)
  | ask (place : Place) (call : Call) (next : Except Failure call.Answer → Plan Place α)
  | generate (commonName : String) (next : Except KeyPairError KeyPair → Plan Place α)

namespace Plan
variable {Place α β : Type}

def andThen (t : Plan Place α) (next : α → Plan Place β) : Plan Place β :=
  match t with
  | done result => next result
  | ask place call k => ask place call fun answer => (k answer).andThen next
  | generate commonName k => generate commonName fun made => (k made).andThen next

def call (place : Place) (c : Call) : Plan Place (Except Failure c.Answer) :=
  ask place c done

end Plan

/-- How a call is dealt with: what has changed once it has come in, how many milliseconds the answer
takes, what the answer is, and what has changed when it is there. -/
structure Handling (σ α : Type) where
  received : σ
  delay : Nat
  answer : Except Failure α
  finished : σ

namespace Handling
variable {σ α β : Type}

def atOnce (before : σ) (answer : Except Failure α) : Handling σ α :=
  ⟨before, 0, answer, before⟩

def andThen (h : Handling σ α) (next : α → Except Failure β) : Handling σ β :=
  ⟨h.received, h.delay, h.answer.bind next, h.finished⟩

end Handling

abbrev Service (σ : Type) := (call : Call) → σ → Handling σ call.Answer

/-- A service whose answers may take `limit` milliseconds and no longer. An overdue call fails, and
of its effects only those stay that it had by coming in. -/
def Service.within {σ : Type} (s : Service σ) (cluster : String) (limit : Nat) : Service σ :=
  fun call before =>
  let h := s call before
  if h.delay ≤ limit then h
  else {
    received := h.received
    delay := limit
    answer := .error (.ofDeadline cluster call.operation limit)
    finished := h.received }

namespace Service
variable {σ : Type} {s : Service σ} {cluster : String} {limit : Nat} {call : Call} {before : σ}

theorem within_of_le (h : (s call before).delay ≤ limit) :
    s.within cluster limit call before = s call before := by
  simp [within, h]

theorem answer_within_of_lt (h : limit < (s call before).delay) :
    (s.within cluster limit call before).answer =
      .error (.ofDeadline cluster call.operation limit) := by
  simp [within, Nat.not_le.2 h]

theorem finished_within_of_lt (h : limit < (s call before).delay) :
    (s.within cluster limit call before).finished = (s call before).received := by
  simp [within, Nat.not_le.2 h]

end Service

structure Surroundings (Place σ : Type) where
  service : Place → Service σ
  generate : String → σ → Except KeyPairError KeyPair × σ

namespace Surroundings
variable {Place σ : Type} [DecidableEq Place]

/-- The same surroundings where the answers at one place may take `limit` milliseconds and no
longer. -/
def within (env : Surroundings Place σ) (place : Place) (cluster : String) (limit : Nat) :
    Surroundings Place σ where
  service p := if p = place then (env.service p).within cluster limit else env.service p
  generate := env.generate

end Surroundings

namespace Plan
variable {Place σ α β : Type}

def run (env : Surroundings Place σ) : Plan Place α → σ → α × σ
  | done result, s => (result, s)
  | ask place call next, s =>
    let h := env.service place call s
    run env (next h.answer) h.finished
  | generate commonName next, s =>
    let (made, s) := env.generate commonName s
    run env (next made) s

theorem run_andThen (env : Surroundings Place σ) (t : Plan Place α)
    (next : α → Plan Place β) (s : σ) :
    (t.andThen next).run env s = (next (t.run env s).1).run env (t.run env s).2 := by
  induction t generalizing s with
  | done => rfl
  | ask place call k ih => simp only [andThen, run, ih]
  | generate commonName k ih => simp only [andThen, run, ih]

end Plan
end Rollout
