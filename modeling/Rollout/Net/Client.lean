import Rollout.Net.Reply
import Rollout.Net.Request
import Rollout.Registry
import Rollout.Settings

/-!
Clients: calls are put to a server as requests, one for each call, and only for kinds that are
registered. A call that cannot be made fails at once, and nothing is sent.
-/
namespace Rollout

structure Client where
  registry : Registry := .workload
  cluster : String
  author : String := controllerName
  deriving DecidableEq, Repr

abbrev Peer (σ : Type) := Request → σ → Handling σ Reply

namespace Client

def request (c : Client) (call : Call) : Except Failure Request := do
  c.registry.ensure call.kind.kind c.cluster
  (Request.ofCall c.author call).mapError .client

def service {σ : Type} (c : Client) (peer : Peer σ) : Service σ := fun call before =>
  match c.request call with
  | .error failure => .atOnce before (.error failure)
  | .ok request => (peer request before).andThen fun reply => (reply.answer call).mapError .client

end Client
end Rollout
