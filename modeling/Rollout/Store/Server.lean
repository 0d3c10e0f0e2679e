import Rollout.Store.Basic

/-! Servers: stores that take their time, and that can be told to refuse calls. -/
namespace Rollout

structure Server where
  store : Store := ∅
  readRefusal : Option UInt16 := none
  createRefusal : Option UInt16 := none
  delay : Nat := 0
  creates : Nat := 0
  deriving Inhabited

namespace Server

def refuse {α : Type} (reason : String) (code : UInt16) : Except Failure α :=
  .error (.client (.refused { status := "Failure", message := reason ++ " (fake)", reason, code }))

def reading {α : Type} (s : Server) (found : α) : Except Failure α :=
  match s.readRefusal with
  | some code => refuse "InternalError" code
  | none => .ok found

def answer (s : Server) : (call : Call) → Except Failure call.Answer × Server
  | .get kind namespaceName name => (s.reading (s.store.get? kind namespaceName name), s)
  | .list kind namespaceName labels => (s.reading (s.store.list kind namespaceName labels), s)
  | .create kind namespaceName object =>
    match s.createRefusal with
    | some code => (refuse "AlreadyExists" code, s)
    | none =>
      match s.store.create? kind namespaceName object with
      | none => (refuse "AlreadyExists" 409, s)
      | some (created, store) => (.ok created, { s with store, creates := s.creates + 1 })

end Server
end Rollout
