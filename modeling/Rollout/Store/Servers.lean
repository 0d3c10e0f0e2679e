import Rollout.Store.Place
import Rollout.Store.Server

/-! A server at each place, with a record of what was asked of them and of the key pairs that were
made. -/
namespace Rollout

structure Servers where
  management : Server := {}
  secretCache : Server := {}
  workload : Server := {}
  calls : List (Place × Call) := []
  made : List KeyPair := []
  deriving Inhabited

namespace Servers

def server (s : Servers) : Place → Server
  | .management => s.management
  | .secretCache => s.secretCache
  | .workload => s.workload

def withServer (s : Servers) (place : Place) (server : Server) : Servers :=
  match place with
  | .management => { s with management := server }
  | .secretCache => { s with secretCache := server }
  | .workload => { s with workload := server }

theorem server_withServer (s : Servers) (p : Place) (server : Server) :
    (s.withServer p server).server p = server := by
  cases p <;> rfl

theorem server_withServer_of_ne {p q : Place} (s : Servers) (server : Server) (h : p ≠ q) :
    (s.withServer p server).server q = s.server q := by
  cases p <;> cases q <;> simp_all [withServer, Servers.server]

def record (s : Servers) (place : Place) (call : Call) : Servers :=
  { s with calls := s.calls ++ [(place, call)] }

def service (place : Place) : Service Servers := fun call before =>
  let server := before.server place
  let (answer, after) := server.answer call
  -- a call is recorded as it comes in, and changes the server when it is answered
  let received := before.record place call
  { received, delay := server.delay, answer, finished := received.withServer place after }

def generate (make : Nat → String → Except KeyPairError KeyPair) (commonName : String)
    (s : Servers) : Except KeyPairError KeyPair × Servers :=
  match make s.made.length commonName with
  | .ok pair => (.ok pair, { s with made := s.made ++ [pair] })
  | .error fault => (.error fault, s)

def surroundings (make : Nat → String → Except KeyPairError KeyPair) :
    Surroundings Place Servers where
  service := service
  generate := generate make

end Servers
end Rollout
