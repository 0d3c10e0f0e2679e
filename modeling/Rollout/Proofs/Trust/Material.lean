import Rollout.Proofs.Store.Growth
import Rollout.Trust.Material

/-!
Which key pair is in a secret. There is one if both halves are there and belong together, or else
there is a complaint about the trust material of the cluster. Storing a secret changes its metadata,
and the pair is still in it.
-/
namespace Rollout

namespace KeyPair

theorem ofBytes_eq_map {Cert : Type} (r : Readers Cert) (cert key : List UInt8) :
    ofBytes r cert key = (validate r ⟨cert, key⟩).map fun _ => ⟨cert, key⟩ := by
  show (validate r ⟨cert, key⟩).bind (fun _ => .ok (⟨cert, key⟩ : KeyPair)) = _
  cases validate r ⟨cert, key⟩ <;> rfl

theorem ofBytes_eq_ok_iff {Cert : Type} {r : Readers Cert} {cert key : List UInt8}
    {pair : KeyPair} :
    ofBytes r cert key = .ok pair ↔ pair = ⟨cert, key⟩ ∧ pair.validate r = .ok () := by
  rw [ofBytes_eq_map]
  constructor
  · intro h
    cases hvalid : validate r ⟨cert, key⟩ with
    | error e =>
      rw [hvalid] at h
      exact nomatch h
    | ok =>
      rw [hvalid] at h
      cases h
      exact ⟨rfl, hvalid⟩
  · rintro ⟨rfl, hvalid⟩
    rw [hvalid]
    rfl

theorem certificate_of_validate {Cert : Type} {r : Readers Cert} {pair : KeyPair}
    (h : pair.validate r = .ok ()) : ∃ certificate, pair.certificate r = .ok certificate := by
  unfold validate at h
  cases hown : pair.ownPublicKey r with
  | error e => rw [hown] at h; exact nomatch h
  | ok own =>
    cases hcert : pair.certificate r with
    | error e => rw [hown, hcert] at h; exact nomatch h
    | ok certificate => exact ⟨certificate, rfl⟩

def sampleCertificate : List Nat := [
  0x308201873082012ca003020102021403fe66dee0a0dea9fc58ce18e0423b764f25dc6b300a06082a8648ce3d040302302131,
  0x10300e06035504030c07657463642d6361310d300b060355040a0c04524b4532301e170d3730303130313030303030305a17,
  0x0d3739313233303030303030305a30213110300e06035504030c07657463642d6361310d300b060355040a0c04524b453230,
  0x59301306072a8648ce3d020106082a8648ce3d030107034200042810f2ba69bce12cdb26b1f6127ec49dbf8a272a69579fef,
  0xb04504249e2c0a66b25aaec1324d6cdfd233d2016207d2070e4585f4a51ce980b9e835da815b62d6a3423040300e0603551d,
  0x0f0101ff0404030201a6301d0603551d0e04160414e34c79ae528e20ad5d8d88ba282d8af3d7418196300f0603551d130101,
  0xff040530030101ff300a06082a8648ce3d0403020349003046022100d27bd4f34f6b1720cb42052d924899821b230f255258,
  0x8a1a6ba5ec4f073afbd9022100cdb25d1a4ede4cdc2d6d97f8fca55a1ff8ae176f2639570c146d51f16bb84531]

def sampleKey : List Nat := [
  0x308187020100301306072a8648ce3d020106082a8648ce3d030107046d306b0201010420a666adc6eefddbf0484355c22087,
  0x830ce8c5364843456c081528f97a164a2301a144034200042810f2ba69bce12cdb26b1f6127ec49dbf8a272a69579fefb045,
  0x04249e2c0a66b25aaec1324d6cdfd233d2016207d2070e4585f4a51ce980b9e835da815b62d6]

def sample : KeyPair where
  cert := Text.encodeUtf8 (Pem.encode "CERTIFICATE" (sampleCertificate.flatMap Der.bytesOfNat))
  key := Text.encodeUtf8 (Pem.encode "PRIVATE KEY" (sampleKey.flatMap Der.bytesOfNat))

theorem validate_sample : sample.validate .standard = .ok () := by
  have hok : (sample.validate .standard).isOk = true := by decide +kernel
  cases h : sample.validate .standard with
  | ok => rfl
  | error e =>
    rw [h] at hok
    exact nomatch hok

end KeyPair

namespace Secret
variable {Cert : Type} {r : Readers Cert} {cluster : ClusterKey} {purpose : Purpose}

structure Holds (r : Readers Cert) (s : Secret) (pair : KeyPair) : Prop where
  certificate : s.entry? certificateEntry = some pair.cert
  privateKey : s.entry? privateKeyEntry = some pair.key
  valid : pair.validate r = .ok ()

theorem keyPair_of_entries {s : Secret} {cert key : List UInt8}
    (hcert : s.entry? certificateEntry = some cert) (hkey : s.entry? privateKeyEntry = some key) :
    s.keyPair r cluster purpose = (KeyPair.ofBytes r cert key).mapError fun e =>
      .trustMaterial cluster.shown (secretId s.metadata.namespaceOrEmpty s.metadata.nameOrEmpty)
        purpose.description
        ("corrupted key pair: " ++ e.message) := by
  unfold keyPair
  rw [hcert, hkey]
  dsimp only
  cases KeyPair.ofBytes r cert key <;> rfl

theorem keyPair_cases (r : Readers Cert) (cluster : ClusterKey) (purpose : Purpose) (s : Secret) :
    (∃ pair, s.keyPair r cluster purpose = .ok pair ∧ s.Holds r pair) ∨
      ∃ message, s.keyPair r cluster purpose = .error (.trustMaterial cluster.shown
        (secretId s.metadata.namespaceOrEmpty s.metadata.nameOrEmpty) purpose.description
          message) := by
  cases hcert : s.entry? certificateEntry with
  | none =>
    right
    unfold keyPair
    rw [hcert]
    exact ⟨_, rfl⟩
  | some cert =>
    cases hkey : s.entry? privateKeyEntry with
    | none =>
      right
      unfold keyPair
      rw [hcert, hkey]
      exact ⟨_, rfl⟩
    | some key =>
      rw [keyPair_of_entries hcert hkey]
      cases hpair : KeyPair.ofBytes r cert key with
      | error e => exact .inr ⟨_, rfl⟩
      | ok pair =>
        obtain ⟨rfl, hvalid⟩ := KeyPair.ofBytes_eq_ok_iff.1 hpair
        exact .inl ⟨_, rfl, hcert, hkey, hvalid⟩

theorem Holds.keyPair {s : Secret} {pair : KeyPair} (h : s.Holds r pair) (cluster : ClusterKey)
    (purpose : Purpose) : s.keyPair r cluster purpose = .ok pair := by
  rw [keyPair_of_entries h.certificate h.privateKey, KeyPair.ofBytes_eq_ok_iff.2 ⟨rfl, h.valid⟩]
  rfl

theorem holds_of_keyPair {s : Secret} {pair : KeyPair}
    (h : s.keyPair r cluster purpose = .ok pair) : s.Holds r pair := by
  rcases keyPair_cases r cluster purpose s with ⟨pair', hpair, hholds⟩ | ⟨message, herror⟩
  · rw [h] at hpair
    cases hpair
    exact hholds
  · exact nomatch h.symm.trans herror

theorem certificate_ofKeyPair (cluster : ClusterKey) (purpose : Purpose) (pair : KeyPair)
    (owner : OwnerReference) :
    entry? (ofKeyPair cluster purpose pair owner) certificateEntry = some pair.cert := by
  unfold entry? ofKeyPair
  rw [Option.bind_some, Table.get?_insert, if_neg (by decide), Table.get?_insert, if_pos rfl]

theorem privateKey_ofKeyPair (cluster : ClusterKey) (purpose : Purpose) (pair : KeyPair)
    (owner : OwnerReference) :
    entry? (ofKeyPair cluster purpose pair owner) privateKeyEntry = some pair.key := by
  unfold entry? ofKeyPair
  rw [Option.bind_some, Table.get?_insert, if_pos rfl]

theorem holds_ofKeyPair {pair : KeyPair} (h : pair.validate r = .ok ()) (owner : OwnerReference) :
    (ofKeyPair cluster purpose pair owner).Holds r pair :=
  ⟨certificate_ofKeyPair cluster purpose pair owner,
    privateKey_ofKeyPair cluster purpose pair owner, h⟩

theorem eq_of_ofKeyPair_eq {pair pair' : KeyPair} {owner owner' : OwnerReference}
    (h : ofKeyPair cluster purpose pair owner = ofKeyPair cluster purpose pair' owner') :
    pair = pair' := by
  have hcert : some pair.cert = some pair'.cert := by
    rw [← certificate_ofKeyPair cluster purpose pair owner, h, certificate_ofKeyPair]
  have hkey : some pair.key = some pair'.key := by
    rw [← privateKey_ofKeyPair cluster purpose pair owner, h, privateKey_ofKeyPair]
  cases pair
  cases pair'
  cases hcert
  cases hkey
  rfl

theorem Holds.stamped {s : Secret} {pair : KeyPair} (h : s.Holds r pair) (namespaceName : String) :
    Holds r (Store.stamped .secret namespaceName s) pair :=
  ⟨h.certificate, h.privateKey, h.valid⟩

end Secret
end Rollout
