import Rollout.Net.Form
import Rollout.Net.Uri
import Rollout.Store.Call

/-! Requests: how calls are put to a server. -/
namespace Rollout

inductive Method
  | get
  | post
  deriving DecidableEq, Repr

structure Request where
  method : Method
  target : Uri
  body : Option Json := none

namespace Request

def contentType (r : Request) : Option String :=
  r.body.map fun _ => "application/json"

def maxAuthorLength : Nat := 128

def toTarget (method : Method) (target : List Char) (body : Option Json) :
    Except ClientFault Request :=
  match Uri.parse? target with
  | some target => .ok { method, target, body }
  | none => .error (.badRequest ("there is no address " ++ String.ofList target))

def collection (kind : ObjectKind) (namespaceName : String) : List Char :=
  (kind.kind.path namespaceName).toList

def ofCall (author : String) : Call → Except ClientFault Request
  | .get kind namespaceName name =>
    if name = "" then .error (.badRequest "an object without a name is asked for")
    else toTarget .get (collection kind namespaceName ++ '/' :: name.toList) none
  | .list kind namespaceName labels =>
    let selector := labelSelector labels
    toTarget .get (collection kind namespaceName ++
      '?' :: if selector = "" then [] else Form.entry "labelSelector" selector) none
  | .create kind namespaceName object =>
    if maxAuthorLength < author.utf8ByteSize then
      .error (.badRequest "the name of the author is too long")
    else toTarget .post (collection kind namespaceName ++ '?' :: Form.entry "fieldManager" author)
      (some (kind.codec.encode object))

end Request
end Rollout
