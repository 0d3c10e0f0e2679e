import Rollout.Store.Call

/-!
Replies to requests. A reply with a code from 400 to 599 is a refusal, whatever it says; any other
has to hold what was asked for. That there is no object of a name is no failure.
-/
namespace Rollout
open Text

structure Reply where
  code : UInt16
  body : List UInt8
  deriving DecidableEq, Repr

structure ListMetadata where
  continuation : Option String := none
  remaining : Option Int := none
  resourceVersion : Option String := none
  selfLink : Option String := none
  deriving DecidableEq, Repr

def ListMetadata.codec : Codec ListMetadata :=
  ((Record.and (.lenient "continue" .string) <|
    .and (.lenient "remainingItemCount" .int64) <|
    .and (.lenient "resourceVersion" .string) <|
    .one (.lenient "selfLink" .string)).imap
    (fun (continuation, remaining, resourceVersion, selfLink) =>
      ⟨continuation, remaining, resourceVersion, selfLink⟩)
    (fun m => (m.continuation, m.remaining, m.resourceVersion, m.selfLink))).namedCodec

def Codec.items {α : Type} (c : Codec α) : Codec (List α) :=
  (Record.beside (.and (.omitting {} "metadata" ListMetadata.codec) <|
    .one (.listOrNull "items" c none)) .empty).imap
    (fun ((_, items), _) => items) (fun items => (({}, items), ()))

namespace Reply

def phrase? : Nat → Option String
  | 400 => "Bad Request"
  | 401 => "Unauthorized"
  | 402 => "Payment Required"
  | 403 => "Forbidden"
  | 404 => "Not Found"
  | 405 => "Method Not Allowed"
  | 406 => "Not Acceptable"
  | 407 => "Proxy Authentication Required"
  | 408 => "Request Timeout"
  | 409 => "Conflict"
  | 410 => "Gone"
  | 411 => "Length Required"
  | 412 => "Precondition Failed"
  | 413 => "Payload Too Large"
  | 414 => "URI Too Long"
  | 415 => "Unsupported Media Type"
  | 416 => "Range Not Satisfiable"
  | 417 => "Expectation Failed"
  | 418 => "I'm a teapot"
  | 421 => "Misdirected Request"
  | 422 => "Unprocessable Entity"
  | 423 => "Locked"
  | 424 => "Failed Dependency"
  | 425 => "Too Early"
  | 426 => "Upgrade Required"
  | 428 => "Precondition Required"
  | 429 => "Too Many Requests"
  | 431 => "Request Header Fields Too Large"
  | 451 => "Unavailable For Legal Reasons"
  | 500 => "Internal Server Error"
  | 501 => "Not Implemented"
  | 502 => "Bad Gateway"
  | 503 => "Service Unavailable"
  | 504 => "Gateway Timeout"
  | 505 => "HTTP Version Not Supported"
  | 506 => "Variant Also Negotiates"
  | 507 => "Insufficient Storage"
  | 508 => "Loop Detected"
  | 510 => "Not Extended"
  | 511 => "Network Authentication Required"
  | _ => none

def status (code : UInt16) : String :=
  toString code.toNat ++ " " ++ (phrase? code.toNat).getD "<unknown status code>"

def isRefusal (r : Reply) : Bool :=
  400 ≤ r.code && r.code < 600

def refusal (r : Reply) (text : String) : StatusReply :=
  (StatusReply.codec.ofText? text).getD
    { status := status r.code, message := quoted text, reason := "Failed to parse error data",
      code := r.code }

def read {α : Type} (c : Codec α) (r : Reply) : Except ClientFault α := do
  let text := String.ofList (← (decodeUtf8 r.body).mapError .notText)
  if r.isRefusal then throw (.refused (r.refusal text))
  match c.ofText? text with
  | some a => return a
  | none => throw (.unreadable "the document is not what was asked for")

def absence : String := "NotFound"

/-- Takes the refusal that there is no such object for the answer that there is none. -/
def orAbsent {α : Type} : Except ClientFault α → Except ClientFault (Option α)
  | .ok a => .ok (some a)
  | .error (.refused reply) => if reply.reason = absence then .ok none else .error (.refused reply)
  | .error fault => .error fault

def answer (r : Reply) : (call : Call) → Except ClientFault call.Answer
  | .get kind .. => orAbsent (r.read kind.codec)
  | .list kind .. => r.read kind.codec.items
  | .create kind .. => r.read kind.codec

end Reply
end Rollout
