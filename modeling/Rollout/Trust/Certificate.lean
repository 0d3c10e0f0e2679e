import Rollout.Calendar
import Rollout.Text.Utf8
import Rollout.Trust.Der

/-!
Reading certificates. What follows a certificate is left out of account, and signatures are not
checked. A name is read up to the first part of it that is malformed. An extension that cannot be
understood is not an error; it counts as one that says nothing.
-/
namespace Rollout
open Text Der

inductive CertificatePart
  | envelope
  | version
  | serial
  | algorithm
  | name
  | validity
  | publicKey
  | extensions
  | signature
  deriving DecidableEq, Repr

def CertificatePart.message : CertificatePart → String
  | envelope => "malformed certificate"
  | version => "invalid version"
  | serial => "invalid serial number"
  | algorithm => "invalid algorithm identifier"
  | name => "invalid name"
  | validity => "invalid date"
  | publicKey => "invalid public key"
  | extensions => "invalid extensions"
  | signature => "invalid signature value"

structure NameAttribute where
  kind : List UInt8
  value : Element
  deriving DecidableEq, Repr

structure Extension where
  kind : List UInt8
  content : List UInt8
  deriving DecidableEq, Repr

structure Certificate where
  notBefore : Int
  notAfter : Int
  subject : List NameAttribute
  publicKey : List UInt8
  extensions : List Extension
  deriving DecidableEq, Repr

namespace Certificate

def commonNameId : List UInt8 := objectIdBody [2, 5, 4, 3]
def organizationId : List UInt8 := objectIdBody [2, 5, 4, 10]
def basicConstraintsId : List UInt8 := objectIdBody [2, 5, 29, 19]

def readTwoDigits : List UInt8 → Option (Nat × List UInt8)
  | a :: b :: rest =>
    if 48 ≤ a ∧ a ≤ 57 ∧ 48 ≤ b ∧ b ≤ 57 then
      some ((a.toNat - 48) * 10 + (b.toNat - 48), rest) else none
  | _ => none

def readZone : List UInt8 → Option Int
  | [90] => some 0
  | sign :: rest => do
    let (hour, rest) ← readTwoDigits rest
    let (minute, rest) ← readTwoDigits rest
    let ahead : Int := (hour * 3600 + minute * 60 : Nat)
    if !rest.isEmpty || 23 < hour || 59 < minute then none
    else if sign = 43 then some ahead
    else if sign = 45 then some (-ahead)
    else none
  | [] => none

def skipFraction : List UInt8 → Option (List UInt8)
  | 46 :: rest =>
    let digits := rest.takeWhile fun b => 48 ≤ b && b ≤ 57
    if digits.length ≤ 3 then some (rest.drop digits.length) else none
  | rest => some rest

def readInYear (year : Nat) (hasSeconds : Bool) (bytes : List UInt8) : Option Int := do
  let (month, rest) ← readTwoDigits bytes
  let (day, rest) ← readTwoDigits rest
  let (hour, rest) ← readTwoDigits rest
  let (minute, rest) ← readTwoDigits rest
  let (second, rest) ← if hasSeconds then readTwoDigits rest else some (0, rest)
  let rest ← skipFraction rest
  let ahead ← readZone rest
  let t : DateTime := ⟨year, month, day, hour, minute, second⟩
  if t.isValid then some (t.seconds - ahead) else none

def readShortTime (bytes : List UInt8) : Option Int := do
  let (year, rest) ← readTwoDigits bytes
  readInYear (if year < 50 then 2000 + year else 1900 + year)
    ((readTwoDigits (rest.drop 8)).isSome) rest

def readLongTime (bytes : List UInt8) : Option Int := do
  let (century, rest) ← readTwoDigits bytes
  let (year, rest) ← readTwoDigits rest
  if bytes.getLast? = some 90 then readInYear (century * 100 + year) true rest else none

def readTime (bytes : List UInt8) : Option (Int × List UInt8) := do
  let (element, rest) ← read bytes
  if element.tag = .utcTime then return (← readShortTime element.body, rest)
  else if element.tag = .generalizedTime then return (← readLongTime element.body, rest)
  else none

def readAlgorithm (bytes : List UInt8) : Option (Element × List UInt8) := do
  let (body, rest) ← readAs .sequence bytes
  let _ ← readAs .objectId body
  return (⟨.sequence, body⟩, rest)

def readAttribute (bytes : List UInt8) : Option (NameAttribute × List UInt8) := do
  let (body, rest) ← readAs .sequence bytes
  let (kind, value) ← readAs .objectId body
  let (value, _) ← read value
  return (⟨kind, value⟩, rest)

def readMany {α : Type} (one : List UInt8 → Option (α × List UInt8)) :
    Nat → List UInt8 → List α × List UInt8
  | 0, bytes => ([], bytes)
  | bound + 1, bytes =>
    match one bytes with
    | none => ([], bytes)
    | some (a, rest) =>
      let (others, rest) := readMany one bound rest
      (a :: others, rest)

def readNameLevel (bytes : List UInt8) : Option (List NameAttribute × List UInt8) := do
  let (body, rest) ← readAs .set bytes
  match (readMany readAttribute body.length body).1 with
  | [] => none
  | attributes => return (attributes, rest)

def readName (bytes : List UInt8) : Option (List NameAttribute × List UInt8) := do
  let (body, rest) ← readAs .sequence bytes
  return ((readMany readNameLevel body.length body).1.flatten, rest)

def readVersion (bytes : List UInt8) : Option (List UInt8) :=
  match read bytes with
  | some (element, rest) =>
    if element.tag = .field 0 then do
      let (body, _) ← readAs .integer element.body
      let n ← natOfInteger? body
      if n ≤ 0xffffffff then some rest else none
    else some bytes
  | none => some bytes

def skipUniqueId (number : Nat) (bytes : List UInt8) : Option (List UInt8) :=
  match read bytes with
  | some (element, rest) =>
    if element.tag = ⟨.context, false, number⟩ then (bitsOf? element.body).map fun _ => rest
    else some bytes
  | none => some bytes

def skipCritical (bytes : List UInt8) : List UInt8 :=
  match readAs .boolean bytes with
  | some ([_], rest) => rest
  | _ => bytes

def readExtension (bytes : List UInt8) : Option (Extension × List UInt8) := do
  let (body, rest) ← readAs .sequence bytes
  let (kind, body) ← readAs .objectId body
  let (content, _) ← readAs .octetString (skipCritical body)
  return (⟨kind, content⟩, rest)

def readExtensions (bytes : List UInt8) : Option (List Extension) :=
  if bytes.isEmpty then some []
  else do
    let (tag, rest) ← readTag bytes
    let (_, rest) ← readLength rest
    let (body, rest) ← readAs .sequence rest
    let (extensions, left) := readMany readExtension body.length body
    if tag.tagClass = .context && tag.number == 3 && rest.isEmpty && left.isEmpty then
      some extensions else none

def readSigned (bytes : List UInt8) : Except CertificatePart Certificate := do
  let part {α : Type} (p : CertificatePart) (found : Option α) : Except CertificatePart α :=
    match found with
    | some a => .ok a
    | none => .error p
  let bytes ← part .version (readVersion bytes)
  let (_, bytes) ← part .serial (readAs .integer bytes)
  let (_, bytes) ← part .algorithm (readAlgorithm bytes)
  let (_, bytes) ← part .name (readName bytes)
  let (validity, bytes) ← part .validity (readAs .sequence bytes)
  let (notBefore, validity) ← part .validity (readTime validity)
  let (notAfter, _) ← part .validity (readTime validity)
  let (subject, bytes) ← part .name (readName bytes)
  let (keyInfo, bytes) ← part .publicKey (readAs .sequence bytes)
  let (_, keyInfo) ← part .algorithm (readAlgorithm keyInfo)
  let (keyBits, _) ← part .publicKey (readAs .bitString keyInfo)
  let (_, publicKey) ← part .publicKey (bitsOf? keyBits)
  let bytes ← part .publicKey (skipUniqueId 1 bytes)
  let bytes ← part .publicKey (skipUniqueId 2 bytes)
  let extensions ← part .extensions (readExtensions bytes)
  return ⟨notBefore, notAfter, subject, publicKey, extensions⟩

def parse (bytes : List UInt8) : Except CertificatePart Certificate := do
  match readAs .sequence bytes with
  | none => throw .envelope
  | some (body, _) =>
    match readAs .sequence body with
    | none => throw .envelope
    | some (signed, rest) =>
      let certificate ← readSigned signed
      match readAlgorithm rest with
      | none => throw .algorithm
      | some (_, rest) =>
        match (readAs .bitString rest).bind fun p => bitsOf? p.1 with
        | none => throw .signature
        | some _ => return certificate

def textTags : List Nat := [12, 18, 19, 22]

def NameAttribute.text? (a : NameAttribute) : Option String :=
  if textTags.any fun number => a.value.tag == .plain number then
    match decodeUtf8 a.value.body with
    | .ok cs => some (String.ofList cs)
    | .error _ => none
  else none

def commonName (c : Certificate) : String :=
  match c.subject.find? fun a => a.kind == commonNameId with
  | some a => (NameAttribute.text? a).getD ""
  | none => ""

def mayIssue? (content : List UInt8) : Option Bool := do
  let (body, _) ← readAs .sequence content
  let (elements, left) := readMany read body.length body
  if left.isEmpty then
    let flag (e : Element) : Option Bool :=
      if e.tag = .boolean then
        if e.body = [0] then some false else if e.body = [0xFF] then some true else none
      else none
    let bound (e : Element) : Option Nat :=
      if e.tag = .integer then
        (natOfInteger? e.body).bind fun n => if n ≤ 0xffffffff then some n else none
      else none
    match elements with
    | [] => some false
    | [e] =>
      match flag e with
      | some b => some b
      | none => (bound e).map fun _ => false
    | [e, f] => do
      let _ ← bound f
      flag e
    | _ => none
  else none

def isAuthority (c : Certificate) : Bool :=
  match c.extensions.filter fun e => e.kind == basicConstraintsId with
  | [e] => (mayIssue? e.content).getD false
  | _ => false

end Certificate
end Rollout
