import Rollout.Json.Record
import Rollout.Text.Quoted
import Rollout.Text.Utf8

/-!
What can go wrong, as causes with one message each, and whether it is worth trying again. What
concerns a cluster names it, so that a wrong configuration, a broken connection and bad trust
material can be told apart.
-/
namespace Rollout
open Text

structure StatusReply where
  status : String
  message : String := ""
  reason : String := ""
  code : UInt16
  deriving DecidableEq, Repr

namespace StatusReply

def codec : Codec StatusReply :=
  ((Record.and (.required "status" .string) <|
    .and (.plain "message" .string "") <|
    .and (.plain "reason" .string "") <|
    .one (.required "code"
      ((Codec.intBetween 0 65535).imap (fun n => UInt16.ofNat n.toNat) (fun c => c.toNat)))).imap
    (fun (status, message, reason, code) => ⟨status, message, reason, code⟩)
    (fun r => (r.status, r.message, r.reason, r.code))).codec

def shown (r : StatusReply) : String :=
  "ErrorResponse \x7b status: " ++ quoted r.status ++ ", message: " ++ quoted r.message ++
    ", reason: " ++ quoted r.reason ++ ", code: " ++ toString r.code.toNat ++ " \x7d"

end StatusReply

inductive ClientFault
  | refused (reply : StatusReply)
  | unreadable (detail : String)
  | badRequest (detail : String)
  | notText (fault : Utf8Fault)
  | unknownProxy (url : String)
  | disabledProxy (url feature : String)
  | noEncryption
  | lineTooLong
  | badCredentials (detail : String)
  | badTrustAnchors (detail : String)
  deriving DecidableEq, Repr

def ClientFault.message : ClientFault → String
  | refused reply =>
    "ApiError: " ++ reply.message ++ ": " ++ reply.reason ++ " (" ++ reply.shown ++ ")"
  | unreadable detail => "Error deserializing response: " ++ detail
  | badRequest detail => "Failed to build request: " ++ detail
  | notText fault => "UTF-8 Error: " ++ fault.message
  | unknownProxy url => "configured proxy " ++ url ++ " uses an unsupported protocol"
  | disabledProxy url feature =>
    "configured proxy " ++ url ++ " requires the disabled feature " ++ quoted feature
  | noEncryption => "TLS required but no TLS stack selected"
  | lineTooLong => "Error finding newline character"
  | badCredentials detail => "auth error: " ++ detail
  | badTrustAnchors detail => "rustls tls error: " ++ detail

inductive Failure
  | client (fault : ClientFault)
  | invalid (cluster message : String) (field : Option String)
  | connection (cluster : String) (fault : ClientFault)
  | trustMaterial (cluster secret purpose message : String)
  | timeout (cluster operation : String) (seconds : Nat)
  | internal (context message : String)
  deriving DecidableEq, Repr

namespace Failure

def unknownCluster : String := "unknown"

def invalidAnywhere (message : String) : Failure :=
  invalid unknownCluster message none

def ofDeadline (cluster operation : String) (millis : Nat) : Failure :=
  timeout cluster operation (millis / 1000)

def message : Failure → String
  | client fault => "kubernetes error: " ++ fault.message
  | invalid cluster message _ => "validation error for " ++ cluster ++ ": " ++ message
  | connection cluster fault => cluster ++ ": " ++ fault.message
  | trustMaterial _ secret purpose message =>
    "failed to get secret; " ++ purpose ++ " " ++ secret ++ ": " ++ message
  | timeout cluster operation seconds =>
    "timed out after " ++ toString seconds ++ "s during " ++ operation ++ " against " ++ cluster
  | internal context message => "internal error [" ++ context ++ "]: " ++ message

def isConflict : Failure → Bool
  | client (.refused reply) => reply.code == 409
  | _ => false

def isRetryable : Failure → Bool
  | client (.refused reply) =>
    -- of the faults of the caller only conflicts and overload are worth another try
    reply.code == 409 || reply.code == 429 || !(400 ≤ reply.code && reply.code < 500)
  | invalid .. => false
  | _ => true

def cluster? : Failure → Option String
  | invalid cluster .. | connection cluster _ | trustMaterial cluster .. | timeout cluster .. =>
    some cluster
  | client _ | internal .. => none

def context? : Failure → Option String
  | internal context _ => some context
  | _ => none

def cause? : Failure → Option ClientFault
  | client fault | connection _ fault => some fault
  | _ => none

theorem isRetryable_of_isConflict {f : Failure} (h : f.isConflict = true) :
    f.isRetryable = true := by
  unfold isConflict at h
  split at h
  · simp_all [isRetryable]
  · exact absurd h (by decide)

end Failure
end Rollout
