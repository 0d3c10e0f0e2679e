import Rollout.Trust.Certificate
import Rollout.Trust.PrivateKey

/-!
Pairs of a certificate and a private key, as the bytes of text blocks. Checking a pair looks at the
key first, then at the certificate, and at last whether they belong together. The readers of keys,
blocks and certificates are parameters of the checks; `Readers.standard` are the ones that are used.
-/
namespace Rollout
open Text

inductive KeyPairError
  | keyNotText (fault : Utf8Fault)
  | certificateNotText (fault : Utf8Fault)
  | badKey (detail : String)
  | badBlock (detail : String)
  | badCertificate (detail : String)
  | mismatch
  | generation (detail : String)
  | issuing (detail : String)
  deriving DecidableEq, Repr

def KeyPairError.message : KeyPairError → String
  | keyNotText fault => "certificate parsing error: private key is not UTF-8: " ++ fault.message
  | certificateNotText fault =>
    "certificate parsing error: certificate is not UTF-8: " ++ fault.message
  | badKey detail => "certificate parsing error: failed to parse private key: " ++ detail
  | badBlock detail => "certificate parsing error: failed to parse PEM: " ++ detail
  | badCertificate detail => "certificate parsing error: failed to parse certificate: " ++ detail
  | mismatch => "private key does not match certificate public key"
  | generation detail => "key generation failed: " ++ detail
  | issuing detail => "certificate generation failed: " ++ detail

/-- What certificates and keys are read with. -/
structure Readers (Cert : Type) where
  key : List Char → Except String (List UInt8)
  block : List Char → Except String (List UInt8)
  certificate : List UInt8 → Except String Cert
  publicKey : Cert → List UInt8

namespace Readers

def standard : Readers Certificate where
  key cs := (PrivateKey.publicKeyOfText cs).mapError PrivateKeyFault.message
  block cs := (Pem.decode cs).mapError Pem.Fault.message
  certificate bytes := (Certificate.parse bytes).mapError CertificatePart.message
  publicKey := Certificate.publicKey

end Readers

structure KeyPair where
  cert : List UInt8
  key : List UInt8
  deriving DecidableEq, Repr

def readBlock {Cert : Type} (r : Readers Cert) (cs : List Char) :
    Except KeyPairError (List UInt8) :=
  (r.block cs).mapError .badBlock

def readCertificate {Cert : Type} (r : Readers Cert) (bytes : List UInt8) :
    Except KeyPairError Cert :=
  (r.certificate bytes).mapError .badCertificate

namespace KeyPair

def certText (pair : KeyPair) : Except KeyPairError (List Char) :=
  (decodeUtf8 pair.cert).mapError .certificateNotText

def keyText (pair : KeyPair) : Except KeyPairError (List Char) :=
  (decodeUtf8 pair.key).mapError .keyNotText

variable {Cert : Type} (r : Readers Cert)

def ownPublicKey (pair : KeyPair) : Except KeyPairError (List UInt8) := do
  (r.key (← pair.keyText)).mapError .badKey

def certificate (pair : KeyPair) : Except KeyPairError Cert := do
  readCertificate r (← readBlock r (← pair.certText))

def validate (pair : KeyPair) : Except KeyPairError Unit := do
  let own ← pair.ownPublicKey r
  let certificate ← pair.certificate r
  if r.publicKey certificate = own then return () else throw .mismatch

def ofBytes (cert key : List UInt8) : Except KeyPairError KeyPair := do
  let pair : KeyPair := ⟨cert, key⟩
  pair.validate r
  return pair

def shown (pair : KeyPair) : String :=
  "KeyPair \x7b cert_len: " ++ toString pair.cert.length ++ ", key: \"<redacted>\" \x7d"

end KeyPair

structure CertificateInfo where
  notBefore : Int
  notAfter : Int
  commonName : String
  isAuthority : Bool
  deriving DecidableEq, Repr

namespace CertificateInfo

def ofCertificate (c : Certificate) : CertificateInfo :=
  ⟨c.notBefore, c.notAfter, c.commonName, c.isAuthority⟩

def ofBytes (bytes : List UInt8) : Except KeyPairError CertificateInfo :=
  (readCertificate .standard bytes).map ofCertificate

def ofText (cs : List Char) : Except KeyPairError CertificateInfo := do
  ofBytes (← readBlock .standard cs)

def ofPairWith {Cert : Type} (r : Readers Cert) (describe : Cert → CertificateInfo)
    (pair : KeyPair) : Except KeyPairError CertificateInfo :=
  (pair.certificate r).map describe

def ofPair (pair : KeyPair) : Except KeyPairError CertificateInfo :=
  ofPairWith .standard ofCertificate pair

end CertificateInfo
end Rollout
