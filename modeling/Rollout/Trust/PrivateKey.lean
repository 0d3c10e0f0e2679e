import Rollout.Trust.Curve
import Rollout.Trust.Pem

/-!
Reading private keys. A key is wrapped in an envelope that names its kind; four kinds are known, and
none may be encrypted. A key is only read if it is whole: its numbers belong together, and a public
key that comes with it is its own.
-/
namespace Rollout
open Der Modulo

inductive PrivateKeyFault
  | block (fault : Pem.Fault)
  | notAKey
  deriving DecidableEq, Repr

def PrivateKeyFault.message : PrivateKeyFault → String
  | block fault => fault.message
  | notAKey => "could not parse key pair"

namespace PrivateKey

def edwardsId : List UInt8 := objectIdBody [1, 3, 101, 112]
def ellipticId : List UInt8 := objectIdBody [1, 2, 840, 10045, 2, 1]
def rsaId : List UInt8 := objectIdBody [1, 2, 840, 113549, 1, 1, 1]

structure Envelope where
  kind : List UInt8
  parameters : List UInt8
  key : List UInt8
  publicKey : Option (List UInt8)

def takeField (tag : Tag) (bytes : List UInt8) : Option (List UInt8) × List UInt8 :=
  match readExact tag bytes with
  | some (body, rest) => (some body, rest)
  | none => (none, bytes)

def readEnvelope (bytes : List UInt8) : Option Envelope := do
  let (body, _) ← readExact .sequence bytes
  let (version, body) ← readExact .integer body
  let version ← natOfInteger? version
  let (algorithm, body) ← readExact .sequence body
  let (kind, parameters) ← readExact .objectId algorithm
  let (key, body) ← readExact .octetString body
  let (_, body) := takeField (.field 0) body
  let (publicKey, _) := takeField ⟨.context, false, 1⟩ body
  if version ≤ 1 then some ⟨kind, parameters, key, if version = 1 then publicKey else none⟩
  else none

def isOwn (publicKey : List UInt8) : Option (List UInt8) → Bool
  | none => true
  | some given => given == 0 :: publicKey

def edwards? (e : Envelope) : Option (List UInt8) := do
  let (seed, rest) ← readExact .octetString e.key
  if e.kind = edwardsId && e.parameters.isEmpty && seed.length == 32 && rest.isEmpty then
    let publicKey := Edwards.publicKey seed
    if isOwn publicKey e.publicKey then some publicKey else none
  else none

def holdsPoint (c : Curve) (point : Nat × Nat) : Option (List UInt8) → Bool
  | none => true
  | some field =>
    match readExact .bitString field with
    | some (bits, _) => bits == 0 :: c.pointBytes point || bits == 0 :: c.shortPointBytes point
    | none => false

def elliptic? (c : Curve) (e : Envelope) : Option (List UInt8) := do
  let (named, left) ← readExact .objectId e.parameters
  let (body, _) ← readExact .sequence e.key
  let (version, body) ← readExact .integer body
  let (number, body) ← readExact .octetString body
  let (repeated, body) := takeField (.field 0) body
  let (given, _) := takeField (.field 1) body
  let point ← c.publicPoint? (natOfBytes number)
  let sameCurve := match repeated with
    | none => true
    | some parameters => parameters == write .objectId c.id
  if e.kind = ellipticId && named == c.id && left.isEmpty && version == [1] && sameCurve &&
      holdsPoint c point given then
    some (c.pointBytes point)
  else none

def readNumbers : Nat → List UInt8 → Option (List Nat)
  | 0, _ => some []
  | count + 1, bytes => do
    let (body, rest) ← readExact .integer bytes
    return (← natOfInteger? body) :: (← readNumbers count rest)

def bitLength (n : Nat) : Nat := if n = 0 then 0 else n.log2 + 1

def areAllowed (n e p q : Nat) : Bool :=
  let half := (bitLength n + 1) / 2
  1024 ≤ half && half ≤ 2048 && half % 512 == 0 && bitLength p == half && bitLength q == half &&
    e % 2 == 1 && 65537 ≤ e && e < 0x200000000

def areConsistent (n e d p q dp dq qi : Nat) : Bool :=
  d < n && 1 < p && 1 < q && n == p * q && d * e % (p - 1) == 1 % (p - 1) &&
    d * e % (q - 1) == 1 % (q - 1) &&
    dp == d % (p - 1) && dq == d % (q - 1) && qi < p && qi * q % p == 1 % p

def rsa? (e : Envelope) : Option (List UInt8) := do
  let (body, _) ← readExact .sequence e.key
  match ← readNumbers 9 body with
  | [0, n, exponent, d, p, q, dp, dq, qi] =>
    if e.kind = rsaId && e.parameters == write .null [] && areAllowed n exponent p q &&
        areConsistent n exponent d p q dp dq qi then
      some (write .sequence (writeInteger n ++ writeInteger exponent))
    else none
  | _ => none

def publicKey? (bytes : List UInt8) : Option (List UInt8) := do
  let e ← readEnvelope bytes
  (edwards? e).or <| (elliptic? .p256 e).or <| (elliptic? .p384 e).or <| rsa? e

def publicKeyOfText (cs : List Char) : Except PrivateKeyFault (List UInt8) :=
  match Pem.decode cs with
  | .error fault => .error (.block fault)
  | .ok bytes =>
    match publicKey? bytes with
    | none => .error .notAKey
    | some publicKey => .ok publicKey

end PrivateKey
end Rollout
