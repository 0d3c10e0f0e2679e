import Rollout.Proofs.Text.Reading
import Rollout.Proofs.Trust.Material

/-!
What checking a key pair finds. Each half is in order or has one defect of its own, and the verdict
is put together from the two: the key's defect if it has one, then the certificate's, and at last
whether both have the same public key. So halves of pairs that are in order can be exchanged, and
nothing but their public keys then matters.
-/
namespace Rollout
open Text

namespace KeyPairError

def parsingPhrase : String := "certificate parsing error: "

def IsParsing (e : KeyPairError) : Prop :=
  parsingPhrase.toList <+: e.message.toList

theorem prefix_append {phrase s : String} (h : phrase.toList <+: s.toList) (detail : String) :
    phrase.toList <+: (s ++ detail).toList := by
  rw [String.toList_append]
  exact h.trans (List.prefix_append ..)

theorem not_isParsing_mismatch : ¬ mismatch.IsParsing := by
  unfold IsParsing
  decide +kernel

end KeyPairError

namespace KeyPair
variable {Cert : Type} (r : Readers Cert)

def IsKey (bytes own : List UInt8) : Prop :=
  ∃ text, decodeUtf8 bytes = .ok text ∧ r.key text = .ok own

def IsCertificate (bytes : List UInt8) (certificate : Cert) : Prop :=
  ∃ text data, decodeUtf8 bytes = .ok text ∧ r.block text = .ok data ∧
    r.certificate data = .ok certificate

inductive KeyDefect (bytes : List UInt8) : KeyPairError → Prop
  | notText (fault : Utf8Fault) (hbytes : decodeUtf8 bytes = .error fault) :
      KeyDefect bytes (.keyNotText fault)
  | notKey (text : List Char) (detail : String) (hbytes : decodeUtf8 bytes = .ok text)
      (htext : r.key text = .error detail) : KeyDefect bytes (.badKey detail)

inductive CertificateDefect (bytes : List UInt8) : KeyPairError → Prop
  | notText (fault : Utf8Fault) (hbytes : decodeUtf8 bytes = .error fault) :
      CertificateDefect bytes (.certificateNotText fault)
  | notBlock (text : List Char) (detail : String) (hbytes : decodeUtf8 bytes = .ok text)
      (htext : r.block text = .error detail) : CertificateDefect bytes (.badBlock detail)
  | notCertificate (text : List Char) (data : List UInt8) (detail : String)
      (hbytes : decodeUtf8 bytes = .ok text)
      (htext : r.block text = .ok data) (hdata : r.certificate data = .error detail) :
      CertificateDefect bytes (.badCertificate detail)

variable {r} {pair : KeyPair} {own : List UInt8} {certificate : Cert} {e : KeyPairError}

theorem KeyDefect.isParsing {bytes : List UInt8} (h : KeyDefect r bytes e) : e.IsParsing := by
  cases h with
  | notText => exact KeyPairError.prefix_append (by decide +kernel) _
  | notKey => exact KeyPairError.prefix_append (by decide +kernel) _

theorem CertificateDefect.isParsing {bytes : List UInt8} (h : CertificateDefect r bytes e) :
    e.IsParsing := by
  cases h with
  | notText => exact KeyPairError.prefix_append (by decide +kernel) _
  | notBlock => exact KeyPairError.prefix_append (by decide +kernel) _
  | notCertificate => exact KeyPairError.prefix_append (by decide +kernel) _

theorem ownPublicKey_eq_ok_iff : pair.ownPublicKey r = .ok own ↔ IsKey r pair.key own := by
  unfold ownPublicKey keyText IsKey
  simp only [bind_eq_ok_iff, mapError_eq_ok_iff]

theorem ownPublicKey_eq_error_iff : pair.ownPublicKey r = .error e ↔ KeyDefect r pair.key e := by
  unfold ownPublicKey keyText
  simp only [bind_eq_error_iff, mapError_eq_ok_iff, mapError_eq_error_iff]
  constructor
  · rintro (⟨fault, hbytes, rfl⟩ | ⟨text, hbytes, detail, htext, rfl⟩)
    · exact .notText fault hbytes
    · exact .notKey text detail hbytes htext
  · intro h
    cases h with
    | notText fault hbytes => exact .inl ⟨fault, hbytes, rfl⟩
    | notKey text detail hbytes htext => exact .inr ⟨text, hbytes, detail, htext, rfl⟩

theorem certificate_eq_ok_iff :
    pair.certificate r = .ok certificate ↔ IsCertificate r pair.cert certificate := by
  unfold KeyPair.certificate readBlock readCertificate certText IsCertificate
  simp only [bind_eq_ok_iff, mapError_eq_ok_iff]
  constructor
  · rintro ⟨text, hbytes, data, htext, hdata⟩
    exact ⟨text, data, hbytes, htext, hdata⟩
  · rintro ⟨text, data, hbytes, htext, hdata⟩
    exact ⟨text, hbytes, data, htext, hdata⟩

theorem certificate_eq_error_iff :
    pair.certificate r = .error e ↔ CertificateDefect r pair.cert e := by
  unfold KeyPair.certificate readBlock readCertificate certText
  simp only [bind_eq_error_iff, mapError_eq_ok_iff, mapError_eq_error_iff]
  constructor
  · rintro (⟨fault, hbytes, rfl⟩ | ⟨text, hbytes,
      ⟨detail, htext, rfl⟩ | ⟨data, htext, detail, hdata, rfl⟩⟩)
    · exact .notText fault hbytes
    · exact .notBlock text detail hbytes htext
    · exact .notCertificate text data detail hbytes htext hdata
  · intro h
    cases h with
    | notText fault hbytes => exact .inl ⟨fault, hbytes, rfl⟩
    | notBlock text detail hbytes htext =>
      exact .inr ⟨text, hbytes, .inl ⟨detail, htext, rfl⟩⟩
    | notCertificate text data detail hbytes htext hdata =>
      exact .inr ⟨text, hbytes, .inr ⟨data, htext, detail, hdata, rfl⟩⟩

theorem validate_eq (pair : KeyPair) :
    pair.validate r = pair.ownPublicKey r >>= fun own => pair.certificate r >>= fun certificate =>
      if r.publicKey certificate = own then .ok () else .error .mismatch :=
  rfl

theorem validate_eq_ok_iff :
    pair.validate r = .ok () ↔
      ∃ certificate, IsCertificate r pair.cert certificate ∧
        IsKey r pair.key (r.publicKey certificate) := by
  simp only [validate_eq, bind_eq_ok_iff, ownPublicKey_eq_ok_iff, certificate_eq_ok_iff]
  constructor
  · rintro ⟨own, hkey, certificate, hcert, hsame⟩
    split at hsame
    · next h => exact ⟨certificate, hcert, h ▸ hkey⟩
    · exact nomatch hsame
  · rintro ⟨certificate, hcert, hkey⟩
    exact ⟨_, hkey, certificate, hcert, if_pos rfl⟩

theorem validate_eq_error_iff :
    pair.validate r = .error e ↔
      KeyDefect r pair.key e ∨ ∃ own, IsKey r pair.key own ∧
        (CertificateDefect r pair.cert e ∨
          ∃ certificate, IsCertificate r pair.cert certificate ∧
            r.publicKey certificate ≠ own ∧ e = .mismatch) := by
  have hlast (certificate : Cert) (own : List UInt8) :
      (if r.publicKey certificate = own then (.ok () : Except KeyPairError Unit)
        else .error .mismatch) = .error e ↔
        r.publicKey certificate ≠ own ∧ e = .mismatch := by
    split
    · next h => simp [h]
    · next h =>
      constructor
      · intro he
        exact ⟨h, (Except.error.inj he).symm⟩
      · rintro ⟨-, rfl⟩
        rfl
  simp only [validate_eq, bind_eq_error_iff, ownPublicKey_eq_ok_iff, ownPublicKey_eq_error_iff,
    certificate_eq_ok_iff, certificate_eq_error_iff, hlast]

theorem validate_eq_mismatch_iff :
    pair.validate r = .error .mismatch ↔ ∃ own certificate, IsKey r pair.key own ∧
      IsCertificate r pair.cert certificate ∧ r.publicKey certificate ≠ own := by
  rw [validate_eq_error_iff]
  constructor
  · rintro (hkey | ⟨own, hkey, hcert | ⟨certificate, hcert, hdiffer, -⟩⟩)
    · exact absurd hkey.isParsing KeyPairError.not_isParsing_mismatch
    · exact absurd hcert.isParsing KeyPairError.not_isParsing_mismatch
    · exact ⟨own, certificate, hkey, hcert, hdiffer⟩
  · rintro ⟨own, certificate, hkey, hcert, hdiffer⟩
    exact .inr ⟨own, hkey, .inr ⟨certificate, hcert, hdiffer, rfl⟩⟩

theorem isParsing_of_validate (h : pair.validate r = .error e) : e = .mismatch ∨ e.IsParsing := by
  rcases validate_eq_error_iff.1 h with hkey | ⟨own, -, hcert | ⟨certificate, -, -, rfl⟩⟩
  · exact .inr hkey.isParsing
  · exact .inr hcert.isParsing
  · exact .inl rfl

theorem ofPairWith_of_isCertificate (h : IsCertificate r pair.cert certificate)
    (describe : Cert → CertificateInfo) :
    CertificateInfo.ofPairWith r describe pair = .ok (describe certificate) := by
  unfold CertificateInfo.ofPairWith
  rw [certificate_eq_ok_iff.2 h]
  rfl

theorem ownPublicKey_of_validate (h : pair.validate r = .ok ()) :
    pair.ownPublicKey r = (pair.certificate r).map r.publicKey := by
  obtain ⟨certificate, hcert, hkey⟩ := validate_eq_ok_iff.1 h
  rw [ownPublicKey_eq_ok_iff.2 hkey, certificate_eq_ok_iff.2 hcert]
  rfl

theorem validate_of_same (hkey : pair.ownPublicKey r = .ok own)
    (hcert : (pair.certificate r).map r.publicKey = .ok own) : pair.validate r = .ok () := by
  cases hread : pair.certificate r with
  | error e =>
    rw [hread] at hcert
    exact nomatch hcert
  | ok certificate =>
    rw [hread] at hcert
    cases hcert
    exact validate_eq_ok_iff.2
      ⟨certificate, certificate_eq_ok_iff.1 hread, ownPublicKey_eq_ok_iff.1 hkey⟩

theorem validate_exchanged {p q : KeyPair} (hp : p.validate r = .ok ())
    (hq : q.validate r = .ok ()) :
    (p.ownPublicKey r = q.ownPublicKey r → validate r ⟨p.cert, q.key⟩ = .ok ()) ∧
      (p.ownPublicKey r ≠ q.ownPublicKey r →
        validate r ⟨p.cert, q.key⟩ = .error .mismatch) := by
  obtain ⟨certificate, hcert, hkey⟩ := validate_eq_ok_iff.1 hp
  obtain ⟨certificate', -, hkey'⟩ := validate_eq_ok_iff.1 hq
  rw [ownPublicKey_eq_ok_iff.2 hkey, ownPublicKey_eq_ok_iff.2 hkey']
  constructor
  · intro hsame
    refine validate_eq_ok_iff.2 ⟨certificate, hcert, ?_⟩
    rw [Except.ok.inj hsame]
    exact hkey'
  · intro hdiffer
    refine validate_eq_mismatch_iff.2 ⟨_, certificate, hkey', hcert, ?_⟩
    exact fun hsame => hdiffer (congrArg Except.ok hsame)

/-- What checking one pair has to do with making it and with looking at its parts. -/
structure IsConsistent (r : Readers Cert) (describe : Cert → CertificateInfo) (pair : KeyPair) :
    Prop where
  made : ∀ found, ofBytes r pair.cert pair.key = .ok found ↔
    pair.validate r = .ok () ∧ found = pair
  refused : ∀ e, ofBytes r pair.cert pair.key = .error e ↔ pair.validate r = .error e
  opened : pair.validate r = .ok () →
    (∃ text, pair.certText = .ok text) ∧ (∃ text, pair.keyText = .ok text) ∧
    ∃ said, CertificateInfo.ofPairWith r describe pair = .ok said
  mismatch_iff : pair.validate r = .error .mismatch ↔
    ∃ own certificate, IsKey r pair.key own ∧
      IsCertificate r pair.cert certificate ∧ r.publicKey certificate ≠ own
  said : pair.validate r = .error .mismatch →
    ∃ said, CertificateInfo.ofPairWith r describe pair = .ok said
  parsing : ∀ e, pair.validate r = .error e → e ≠ .mismatch → e.IsParsing
  key_first : ∀ e, KeyDefect r pair.key e → pair.validate r = .error e
  certificate_next : ∀ own e, IsKey r pair.key own → CertificateDefect r pair.cert e →
    pair.validate r = .error e

theorem isConsistent (r : Readers Cert) (describe : Cert → CertificateInfo) (pair : KeyPair) :
    IsConsistent r describe pair where
  made found := by
    rw [ofBytes_eq_ok_iff]
    constructor
    · rintro ⟨rfl, hvalid⟩
      exact ⟨hvalid, rfl⟩
    · rintro ⟨hvalid, rfl⟩
      exact ⟨rfl, hvalid⟩
  refused e := by
    rw [ofBytes_eq_map]
    cases validate r pair <;> simp [Except.map]
  opened h := by
    obtain ⟨certificate, hcert, hkey⟩ := validate_eq_ok_iff.1 h
    refine ⟨?_, ?_, _, ofPairWith_of_isCertificate hcert describe⟩
    · obtain ⟨text, -, hbytes, -⟩ := hcert
      exact ⟨text, mapError_eq_ok_iff.2 hbytes⟩
    · obtain ⟨text, hbytes, -⟩ := hkey
      exact ⟨text, mapError_eq_ok_iff.2 hbytes⟩
  mismatch_iff := validate_eq_mismatch_iff
  said h := by
    obtain ⟨own, certificate, -, hcert, -⟩ := validate_eq_mismatch_iff.1 h
    exact ⟨_, ofPairWith_of_isCertificate hcert describe⟩
  parsing _ h hne := (isParsing_of_validate h).resolve_left hne
  key_first e h := validate_eq_error_iff.2 (.inl h)
  certificate_next own e hkey h := validate_eq_error_iff.2 (.inr ⟨own, hkey, .inl h⟩)

/-- Making a pair from bytes and checking it are one and the same, and keep the bytes. What passes
can be taken apart again; what does not match can be read on both sides; every other failure is one
of reading, and it is the key's wherever the key is defective. Of the halves of valid pairs nothing
but the public keys matters. -/
theorem validate_consistent (r : Readers Cert) (describe : Cert → CertificateInfo) :
    (∀ pair, IsConsistent r describe pair) ∧
    ∀ p q : KeyPair, p.validate r = .ok () → q.validate r = .ok () →
      (∀ e, e.IsParsing → validate r ⟨p.cert, q.key⟩ ≠ .error e) ∧
      (validate r ⟨p.cert, q.key⟩ = .ok () ↔ p.ownPublicKey r = q.ownPublicKey r) ∧
      (validate r ⟨p.cert, q.key⟩ = .error .mismatch ↔
        p.ownPublicKey r ≠ q.ownPublicKey r) := by
  refine ⟨isConsistent r describe, ?_⟩
  intro p q hp hq
  obtain ⟨hsame, hdiffer⟩ := validate_exchanged hp hq
  by_cases h : p.ownPublicKey r = q.ownPublicKey r
  · simp [hsame h, h]
  · have hmismatch := hdiffer h
    refine ⟨?_, ?_, ?_⟩
    · intro e he herror
      obtain rfl := Except.error.inj (hmismatch.symm.trans herror)
      exact KeyPairError.not_isParsing_mismatch he
    · simp [hmismatch, h]
    · simp [hmismatch, h]

def basePoint : List UInt8 := Curve.p256.pointBytes (Curve.p256.baseX, Curve.p256.baseY)

def sampleOfOne : KeyPair :=
  let certificate := sampleCertificate.flatMap Der.bytesOfNat
  let key := sampleKey.flatMap Der.bytesOfNat
  { cert := encodeUtf8 (Pem.encode "CERTIFICATE"
      (certificate.take 175 ++ basePoint ++ certificate.drop 240))
    key := encodeUtf8 (Pem.encode "PRIVATE KEY"
      (key.take 36 ++ List.replicate 31 0 ++ 1 :: ((key.drop 68).take 5 ++ basePoint))) }

theorem ownPublicKey_sampleOfOne : sampleOfOne.ownPublicKey .standard = .ok basePoint := by
  decide +kernel

theorem validate_sampleOfOne : sampleOfOne.validate .standard = .ok () := by
  have hcert : (sampleOfOne.certificate .standard).map Readers.standard.publicKey =
      .ok basePoint := by decide +kernel
  exact validate_of_same ownPublicKey_sampleOfOne hcert

theorem validate_consistent_of_two_keys :
    let mixed : KeyPair := ⟨sample.cert, sampleOfOne.key⟩
    sample.validate .standard = .ok () ∧ sampleOfOne.validate .standard = .ok () ∧
      sample.ownPublicKey .standard ≠ sampleOfOne.ownPublicKey .standard ∧
      mixed.validate .standard = .error .mismatch ∧
      (∃ said, CertificateInfo.ofPair mixed = .ok said) ∧
      ofBytes .standard [0xc3] [0xff] = .error (.keyNotText (.malformed 1 0)) := by
  intro mixed
  obtain ⟨hconsistent, hexchanged⟩ :=
    validate_consistent .standard CertificateInfo.ofCertificate
  have hsample : (sample.certificate .standard).map Readers.standard.publicKey ≠
      .ok basePoint := by decide +kernel
  have hkeys : sample.ownPublicKey .standard ≠ sampleOfOne.ownPublicKey .standard := by
    rwa [ownPublicKey_of_validate validate_sample, ownPublicKey_sampleOfOne]
  have hmismatch := (hexchanged sample sampleOfOne validate_sample validate_sampleOfOne).2.2.2 hkeys
  have hfault : decodeUtf8 [0xff] = .error (.malformed 1 0) := by
    simp [decodeUtf8, decodeFrom, firstChar, leadWidth, Utf8Fault.after]
  refine ⟨validate_sample, validate_sampleOfOne, hkeys, hmismatch,
    (hconsistent mixed).said hmismatch, ?_⟩
  exact ((hconsistent ⟨[0xc3], [0xff]⟩).refused _).2
    ((hconsistent ⟨[0xc3], [0xff]⟩).key_first _ (.notText _ hfault))

end KeyPair
end Rollout
