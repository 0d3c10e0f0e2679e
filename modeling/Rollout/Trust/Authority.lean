import Rollout.Trust.KeyPair

/-!
New authorities: a key on `Curve.p256` and a certificate for it that it signs itself. Everything
secret is derived from a seed, so an authority is a function of its name, its first second and the
seed.
-/
namespace Rollout.Authority
open Text Der

def lifetimeYears : Nat := 10

def lifetime : Nat := lifetimeYears * 365 * 86400

def organization : String := "RKE2"

def ellipticId : List UInt8 := PrivateKey.ellipticId
def signatureId : List UInt8 := objectIdBody [1, 2, 840, 10045, 4, 3, 2]
def keyUsageId : List UInt8 := objectIdBody [2, 5, 29, 15]
def keyIdentifierId : List UInt8 := objectIdBody [2, 5, 29, 14]

def derive (seed : List UInt8) (use : UInt8) (bound : Nat) : Nat :=
  natOfBytes (Sha2.sha512 (use :: seed)) % (bound - 1) + 1

def writeText (s : String) : List UInt8 :=
  write (.plain 12) (encodeUtf8 s.toList)

def writeBits (bytes : List UInt8) : List UInt8 :=
  write .bitString (0 :: bytes)

def writeAttribute (kind : List UInt8) (value : String) : List UInt8 :=
  write .set (write .sequence (write .objectId kind ++ writeText value))

def writeName (commonName : String) : List UInt8 :=
  write .sequence
    (writeAttribute Certificate.commonNameId commonName ++
      writeAttribute Certificate.organizationId organization)

def writeTime (seconds : Int) : List UInt8 :=
  let t := DateTime.ofSeconds seconds
  let two := DateTime.padded 2
  let rest := two t.month ++ two t.day ++ two t.hour ++ two t.minute ++ two t.second ++ ['Z']
  if 1950 ≤ t.year ∧ t.year < 2050 then write .utcTime (encodeUtf8 (two (t.year % 100) ++ rest))
  else write .generalizedTime (encodeUtf8 (DateTime.padded 4 t.year ++ rest))

def curveAlgorithm : List UInt8 :=
  write .sequence (write .objectId ellipticId ++ write .objectId Curve.p256.id)

def signatureAlgorithm : List UInt8 :=
  write .sequence (write .objectId signatureId)

def writeExtension (kind : List UInt8) (critical : Bool) (content : List UInt8) : List UInt8 :=
  write .sequence
    (write .objectId kind ++ (if critical then write .boolean [0xFF] else []) ++
      write .octetString content)

def keyUsage : List UInt8 := write .bitString [1, 0xA6]

def basicConstraints : List UInt8 := write .sequence (write .boolean [0xFF])

def writeExtensions (publicKey : List UInt8) : List UInt8 :=
  write (.field 3) <| write .sequence <|
    writeExtension keyUsageId true keyUsage ++
      writeExtension keyIdentifierId false (write .octetString ((Sha2.sha256 publicKey).take 20)) ++
      writeExtension Certificate.basicConstraintsId true basicConstraints

def writeSigned (commonName : String) (start : Int) (serial : Nat) (publicKey : List UInt8) :
    List UInt8 :=
  write .sequence <|
    write (.field 0) (writeInteger 2) ++ writeInteger serial ++ signatureAlgorithm ++
      writeName commonName ++
      write .sequence (writeTime start ++ writeTime (start + lifetime)) ++ writeName commonName ++
      write .sequence (curveAlgorithm ++ writeBits publicKey) ++ writeExtensions publicKey

def writeKey (d : Nat) (publicKey : List UInt8) : List UInt8 :=
  write .sequence <|
    writeInteger 0 ++ curveAlgorithm ++ write .octetString (write .sequence
      (writeInteger 1 ++ write .octetString (Curve.p256.coordinateBytes d) ++
        write (.field 1) (writeBits publicKey)))

def generate (start : Int) (seed : List UInt8) (commonName : String) :
    Except KeyPairError KeyPair :=
  let c := Curve.p256
  let d := derive seed 0 c.n
  match c.publicPoint? d with
  | none => .error (.generation "failed to generate CA key: no public key")
  | some point =>
    let publicKey := c.pointBytes point
    let signed := writeSigned commonName start (derive seed 1 (Nat.pow 2 159)) publicKey
    let signature := c.sign d (derive seed 2 c.n) (Sha2.sha256 signed)
    let certificate := write .sequence (signed ++ signatureAlgorithm ++ writeBits signature)
    .ok ⟨encodeUtf8 (Pem.encode "CERTIFICATE" certificate),
      encodeUtf8 (Pem.encode "PRIVATE KEY" (writeKey d publicKey))⟩

end Rollout.Authority
