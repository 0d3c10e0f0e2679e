import Rollout.Proofs.Model.Objects
import Rollout.Proofs.Trust.Material

/-!
Key pairs that are put into secrets and taken out again. The text of a secret keeps all of its
bytes, and what is found in a secret depends on two of its entries only: whether they are there, and
then whether they belong together.
-/
namespace Rollout

namespace Secret
variable {Cert : Type} {r : Readers Cert} {cluster cluster' : ClusterKey}
  {purpose purpose' : Purpose}

def complaint (cluster : ClusterKey) (purpose : Purpose) (s : Secret) (message : String) :
    Failure :=
  .trustMaterial cluster.shown (secretId s.metadata.namespaceOrEmpty s.metadata.nameOrEmpty)
    purpose.description message

structure SameEntries (s t : Secret) : Prop where
  certificate : s.entry? certificateEntry = t.entry? certificateEntry
  privateKey : s.entry? privateKeyEntry = t.entry? privateKeyEntry

theorem SameEntries.holds_iff {s t : Secret} (h : s.SameEntries t) {pair : KeyPair} :
    s.Holds r pair ↔ t.Holds r pair := by
  constructor
  · intro hs
    exact ⟨h.certificate.symm.trans hs.certificate,
      h.privateKey.symm.trans hs.privateKey, hs.valid⟩
  · intro ht
    exact ⟨h.certificate.trans ht.certificate, h.privateKey.trans ht.privateKey, ht.valid⟩

theorem keyPair_eq_ok_iff {s : Secret} {pair : KeyPair} :
    s.keyPair r cluster purpose = .ok pair ↔ s.Holds r pair :=
  ⟨holds_of_keyPair, fun h => h.keyPair cluster purpose⟩

theorem keyPair_of_no_certificate {s : Secret} (h : s.entry? certificateEntry = none) :
    s.keyPair r cluster purpose =
      .error (complaint cluster purpose s "secret has no \"tls.crt\" key") := by
  unfold keyPair
  rw [h]
  rfl

theorem keyPair_of_no_key {s : Secret} {cert : List UInt8}
    (hcert : s.entry? certificateEntry = some cert) (hkey : s.entry? privateKeyEntry = none) :
    s.keyPair r cluster purpose =
      .error (complaint cluster purpose s "secret has no \"tls.key\" key") := by
  unfold keyPair
  rw [hcert, hkey]
  rfl

theorem keyPair_of_corrupted {s : Secret} {pair : KeyPair} {e : KeyPairError}
    (hcert : s.entry? certificateEntry = some pair.cert)
    (hkey : s.entry? privateKeyEntry = some pair.key) (h : pair.validate r = .error e) :
    s.keyPair r cluster purpose =
      .error (complaint cluster purpose s ("corrupted key pair: " ++ e.message)) := by
  rw [keyPair_of_entries hcert hkey, KeyPair.ofBytes_eq_map, h]
  rfl

theorem isKept_ofKeyPair (cluster : ClusterKey) (purpose : Purpose) (pair : KeyPair)
    (owner : OwnerReference) : (ofKeyPair cluster purpose pair owner).metadata.IsKept :=
  ⟨nofun, nofun, nofun, nofun, nofun⟩

/-- A key pair comes back from the secret that was made for it, and from the text of that secret, if
its halves belong together; if they do not, that is the complaint. What any secret gives depends on
its two entries alone, and if one of them is missing, the certificate first, nothing is checked. -/
theorem keyPair_survives (r : Readers Cert) (cluster : ClusterKey) (purpose : Purpose)
    (owner : OwnerReference) (pair : KeyPair) :
    let s := ofKeyPair cluster purpose pair owner
    Secret.codec.ofText? (Secret.codec.toText s) = some s ∧
      (pair.validate r = .ok () → s.keyPair r cluster purpose = .ok pair) ∧
      (∀ e, pair.validate r = .error e → s.keyPair r cluster purpose = .error (.trustMaterial
        (cluster.namespaceName ++ "/" ++ cluster.name)
        (cluster.namespaceName ++ "/" ++ (cluster.name ++ "-" ++ purpose.suffix))
        purpose.description
        ("corrupted key pair: " ++ e.message))) ∧
      (∀ (t t' : Secret) (cluster' : ClusterKey) (purpose' : Purpose), t.SameEntries t' →
        ∀ found, t.keyPair r cluster purpose = .ok found ↔
          t'.keyPair r cluster' purpose' = .ok found) ∧
      (∀ t : Secret, t.entry? "tls.crt" = none →
        t.keyPair r cluster purpose =
          .error (t.complaint cluster purpose "secret has no \"tls.crt\" key")) ∧
      ∀ (t : Secret) (cert : List UInt8),
        t.entry? "tls.crt" = some cert → t.entry? "tls.key" = none →
        t.keyPair r cluster purpose =
          .error (t.complaint cluster purpose "secret has no \"tls.key\" key") := by
  intro s
  have hcert : s.entry? certificateEntry = some pair.cert :=
    certificate_ofKeyPair cluster purpose pair owner
  have hkey : s.entry? privateKeyEntry = some pair.key :=
    privateKey_ofKeyPair cluster purpose pair owner
  refine ⟨?written, ?valid, ?corrupted, ?entries, ?certificate, ?privateKey⟩
  case written => exact (keeps (isKept_ofKeyPair cluster purpose pair owner)).ofText?_toText
  case valid =>
    intro h
    exact keyPair_eq_ok_iff.2 ⟨hcert, hkey, h⟩
  case corrupted =>
    intro e h
    exact keyPair_of_corrupted hcert hkey h
  case entries =>
    intro t t' cluster' purpose' h found
    rw [keyPair_eq_ok_iff, keyPair_eq_ok_iff]
    exact h.holds_iff
  case certificate =>
    intro t h
    exact keyPair_of_no_certificate h
  case privateKey =>
    intro t cert hcert hkey
    exact keyPair_of_no_key hcert hkey

theorem keyPair_survives_sample :
    let cluster : ClusterKey := ⟨"capi-system", "prod"⟩
    let owner : OwnerReference := { name := "prod", controller := some true }
    let whole := ofKeyPair cluster .etcdAuthority .sample owner
    let broken := ofKeyPair cluster .etcdAuthority ⟨[0xc3], [0xff, 0x00]⟩ owner
    let half : Secret := { data := some ((∅ : Dict (List UInt8)).insert "tls.crt" []) }
    let read (s : Secret) :=
      (Secret.codec.ofText? (Secret.codec.toText s)).map (keyPair .standard cluster .etcdAuthority)
    read whole = some (.ok .sample) ∧
      keyPair .standard ⟨"", ""⟩ .kubeconfig { whole with metadata := {} } = .ok .sample ∧
      read broken =
        some (.error (.trustMaterial "capi-system/prod" "capi-system/prod-etcd" "etcd CA bundle"
          ("corrupted key pair: certificate parsing error: private key is not UTF-8: " ++
            (Text.Utf8Fault.malformed 1 0).message))) ∧
      keyPair .standard cluster .etcdAuthority {} =
        .error (.trustMaterial "capi-system/prod" "/" "etcd CA bundle"
          "secret has no \"tls.crt\" key") ∧
      keyPair .standard cluster .etcdAuthority half =
        .error (.trustMaterial "capi-system/prod" "/" "etcd CA bundle"
          "secret has no \"tls.key\" key") := by
  intro cluster owner whole broken half read
  have hfault : Text.decodeUtf8 [0xff, 0x00] = .error (.malformed 1 0) := by
    simp [Text.decodeUtf8, Text.decodeFrom, Text.firstChar, Text.leadWidth, Text.Utf8Fault.after]
  have hbroken : KeyPair.validate .standard ⟨[0xc3], [0xff, 0x00]⟩ =
      .error (.keyNotText (.malformed 1 0)) := by
    unfold KeyPair.validate KeyPair.ownPublicKey KeyPair.keyText
    rw [hfault]
    rfl
  obtain ⟨hwritten, hvalid, -, hentries, hcert, hkey⟩ :=
    keyPair_survives .standard cluster .etcdAuthority owner .sample
  obtain ⟨hwritten', -, hcorrupted, -⟩ :=
    keyPair_survives .standard cluster .etcdAuthority owner ⟨[0xc3], [0xff, 0x00]⟩
  have hsample := hvalid KeyPair.validate_sample
  refine ⟨?_, ?_, ?_, ?_, ?_⟩
  · simp only [read, whole, hwritten, Option.map_some, hsample]
  · exact (hentries whole { whole with metadata := {} } ⟨"", ""⟩ .kubeconfig ⟨rfl, rfl⟩
      .sample).1 hsample
  · simp only [read, broken, hwritten', Option.map_some]
    exact congrArg some (hcorrupted _ hbroken)
  · exact hcert {} rfl
  · exact hkey half [] (by simp [half, entry?, Table.get?_insert])
      (by simp [half, entry?, Table.get?_insert]; rfl)

end Secret
end Rollout
