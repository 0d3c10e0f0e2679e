import Rollout.Net.Reply
import Rollout.Proofs.Json.Nesting
import Rollout.Proofs.Model.Objects
import Rollout.Proofs.Text.Utf8

/-!
What replies come to. A reply that is a text is a refusal by its code, or else it holds the document
that was asked for, or it cannot be read. Main statement: each answer comes back from the reply that
a server gives it in, and so does each refusal.
-/
namespace Rollout
open Text

namespace Reply

section Documents
variable {α : Type} {c : Codec α} {r : Reply} {text : String} {outcome : Except ClientFault α}

/-- What a reply leads to where documents are read with `c`. Each reply is of one case. -/
inductive Yields (c : Codec α) (r : Reply) : Except ClientFault α → Prop
  | notText (fault : Utf8Fault) (hbody : decodeUtf8 r.body = .error fault) :
      Yields c r (.error (.notText fault))
  | refused (text : String) (hbody : r.body = encodeUtf8 text.toList)
      (hcode : 400 ≤ r.code ∧ r.code < 600) : Yields c r (.error (.refused (r.refusal text)))
  | unreadable (text : String) (hbody : r.body = encodeUtf8 text.toList)
      (hcode : ¬(400 ≤ r.code ∧ r.code < 600)) (hread : c.ofText? text = none) :
      Yields c r (.error (.unreadable "the document is not what was asked for"))
  | document (text : String) (a : α) (hbody : r.body = encodeUtf8 text.toList)
      (hcode : ¬(400 ≤ r.code ∧ r.code < 600)) (hread : c.ofText? text = some a) :
      Yields c r (.ok a)

theorem isRefusal_iff : r.isRefusal = true ↔ 400 ≤ r.code ∧ r.code < 600 := by
  simp [isRefusal]

theorem read_of_not_text {fault : Utf8Fault} (hbody : decodeUtf8 r.body = .error fault) :
    r.read c = .error (.notText fault) := by
  unfold read
  rw [hbody]
  rfl

theorem read_of_text (hbody : r.body = encodeUtf8 text.toList) :
    r.read c =
      if r.isRefusal then .error (.refused (r.refusal text))
      else match c.ofText? text with
        | some a => .ok a
        | none => .error (.unreadable "the document is not what was asked for") := by
  have htext : String.ofList text.toList = text := String.ofList_toList
  unfold read
  rw [hbody, decodeUtf8_encodeUtf8]
  dsimp only [Except.mapError, bind, Except.bind]
  rw [htext]
  split
  · rfl
  · cases c.ofText? text <;> rfl

theorem read_eq_iff : r.read c = outcome ↔ r.Yields c outcome := by
  constructor
  · rintro rfl
    cases hdecode : decodeUtf8 r.body with
    | error fault =>
      rw [read_of_not_text hdecode]
      exact .notText fault hdecode
    | ok cs =>
      have hbody : r.body = encodeUtf8 (String.ofList cs).toList := by
        rw [String.toList_ofList]
        exact decodeUtf8_eq_ok_iff.1 hdecode
      rw [read_of_text hbody]
      by_cases hcode : r.isRefusal = true
      · rw [if_pos hcode]
        exact .refused _ hbody (isRefusal_iff.1 hcode)
      · rw [if_neg hcode]
        cases hread : c.ofText? (String.ofList cs) with
        | none => exact .unreadable _ hbody (mt isRefusal_iff.2 hcode) hread
        | some a => exact .document _ a hbody (mt isRefusal_iff.2 hcode) hread
  · intro h
    cases h with
    | notText fault hbody => exact read_of_not_text hbody
    | refused text hbody hcode =>
      rw [read_of_text hbody, if_pos (isRefusal_iff.2 hcode)]
    | unreadable text hbody hcode hread =>
      rw [read_of_text hbody, if_neg (mt isRefusal_iff.1 hcode), hread]
    | document text a hbody hcode hread =>
      rw [read_of_text hbody, if_neg (mt isRefusal_iff.1 hcode), hread]

end Documents

/-- What the reader of one object makes of what a reply leads to. -/
inductive Finds {α : Type} (yields : Except ClientFault α → Prop) :
    Except ClientFault (Option α) → Prop
  | present (a : α) (h : yields (.ok a)) : Finds yields (.ok (some a))
  | absent (reply : StatusReply) (h : yields (.error (.refused reply)))
      (hreason : reply.reason = "NotFound") : Finds yields (.ok none)
  | failed (fault : ClientFault) (h : yields (.error fault))
      (hreason : ∀ reply, fault = .refused reply → reply.reason ≠ "NotFound") :
      Finds yields (.error fault)

def Answers (r : Reply) : (call : Call) → Except ClientFault call.Answer → Prop
  | .get kind .., outcome => Finds (r.Yields kind.codec) outcome
  | .list kind .., outcome => r.Yields kind.codec.items outcome
  | .create kind .., outcome => r.Yields kind.codec outcome

theorem orAbsent_eq_iff {α : Type} {x : Except ClientFault α}
    {outcome : Except ClientFault (Option α)} :
    orAbsent x = outcome ↔ Finds (x = ·) outcome := by
  constructor
  · rintro rfl
    cases x with
    | ok a => exact .present a rfl
    | error fault =>
      cases fault with
      | refused reply =>
        show Finds _ (if reply.reason = "NotFound" then .ok none else .error (.refused reply))
        split
        · next hreason => exact .absent reply rfl hreason
        · next hreason => exact .failed _ rfl fun _ he => ClientFault.refused.inj he ▸ hreason
      | _ => exact .failed _ rfl nofun
  · intro h
    cases h with
    | present a h =>
      rw [h]
      rfl
    | absent reply h hreason =>
      rw [h]
      exact if_pos hreason
    | failed fault h hreason =>
      rw [h]
      cases fault with
      | refused reply => exact if_neg (hreason reply rfl)
      | _ => rfl

/-- A reply answers a call in one way, which its code and its text decide. -/
theorem answer_eq_iff {r : Reply} {call : Call} {outcome : Except ClientFault call.Answer} :
    r.answer call = outcome ↔ r.Answers call outcome := by
  cases call with
  | get kind namespaceName name =>
    have hyields : (r.read kind.codec = ·) = r.Yields kind.codec :=
      funext fun _ => propext read_eq_iff
    show orAbsent (r.read kind.codec) = outcome ↔ Finds (r.Yields kind.codec) outcome
    rw [orAbsent_eq_iff, hyields]
  | list kind namespaceName labels => exact read_eq_iff
  | create kind namespaceName object => exact read_eq_iff

end Reply

theorem StatusReply.keeps (s : StatusReply) : StatusReply.codec.Keeps s := by
  have hcode : (0 : Int) ≤ s.code.toNat ∧ (s.code.toNat : Int) ≤ 65535 := by
    have hlt := s.code.toNat_lt
    omega
  exact Record.Keeps.codec
    (.imap
      (.and (.required (.string _)) <|
        .and (.plainly (.string _)) <|
        .and (.plainly (.string _)) <|
        .one (.required (.imap (.intBetween hcode) (by simp)))) rfl)
    (by decide)

theorem Codec.Keeps.items {α : Type} {c : Codec α} {as : List α} (h : ∀ a ∈ as, c.Keeps a) :
    c.items.Keeps as :=
  -- the metadata of the list is empty, so nothing is written of it
  have hown : (Record.and (.omitting {} "metadata" ListMetadata.codec)
      (.one (.listOrNull "items" c none))).Keeps ({}, as) :=
    .and (.strict_left_out rfl rfl) (.one (.listOrNull h))
  have hnodup : ["metadata", "items"].Nodup := by decide
  .imap (hown.beside .empty hnodup (Record.Nests.empty (n := 0)) (by decide)) rfl

/-- The objects that an answer has in it are read back from their texts. -/
def Call.IsKept : (call : Call) → call.Answer → Prop
  | get kind .., found => ∀ o ∈ found, (kind.metadata o).IsKept
  | list kind .., objects => ∀ o ∈ objects, (kind.metadata o).IsKept
  | create kind .., created => (kind.metadata created).IsKept

namespace Reply

def ofText (code : UInt16) (text : String) : Reply := ⟨code, encodeUtf8 text.toList⟩

def ofStatus (s : StatusReply) : Reply := ofText s.code (StatusReply.codec.toText s)

def absent : Reply := ofStatus { status := "Failure", reason := "NotFound", code := 404 }

/-- How a server replies to a call. -/
def ofAnswer : (call : Call) → call.Answer → Reply
  | .get kind .., some o => ofText 200 (kind.codec.toText o)
  | .get .., none => absent
  | .list kind .., os => ofText 200 (kind.codec.items.toText os)
  | .create kind .., o => ofText 201 (kind.codec.toText o)

theorem yields_ofText {α : Type} {c : Codec α} {a : α} (h : c.Keeps a) {code : UInt16}
    (hcode : ¬(400 ≤ code ∧ code < 600)) : (ofText code (c.toText a)).Yields c (.ok a) :=
  .document _ a rfl hcode h.ofText?_toText

theorem yields_ofText_of_refusal {α : Type} (c : Codec α) {s : StatusReply} {text : String}
    (hcode : 400 ≤ s.code ∧ s.code < 600) (hread : StatusReply.codec.ofText? text = some s) :
    (ofText s.code text).Yields c (.error (.refused s)) := by
  have hrefusal : (ofText s.code text).refusal text = s := by
    unfold refusal
    rw [hread]
    rfl
  have hrefused := Yields.refused (c := c) (r := ofText s.code text) text rfl hcode
  rwa [hrefusal] at hrefused

theorem yields_ofStatus {α : Type} (c : Codec α) {s : StatusReply}
    (hcode : 400 ≤ s.code ∧ s.code < 600) : (ofStatus s).Yields c (.error (.refused s)) :=
  yields_ofText_of_refusal c hcode s.keeps.ofText?_toText

theorem finds_absent {α : Type} (c : Codec α) : Finds (absent.Yields c) (.ok none) := by
  have hcode : (400 : UInt16) ≤ 404 ∧ (404 : UInt16) < 600 := by decide
  exact .absent _ (yields_ofStatus c hcode) rfl

/-- Each answer comes back from the reply that it is given in, and so does each refusal, but the one
that says that there is no such object. -/
theorem answer_of_written (call : Call) :
    (∀ answer, call.IsKept answer → (ofAnswer call answer).answer call = .ok answer) ∧
      ∀ s : StatusReply, 400 ≤ s.code ∧ s.code < 600 → s.reason ≠ "NotFound" →
        (ofStatus s).answer call = .error (.refused s) := by
  constructor
  · intro answer h
    rw [answer_eq_iff]
    cases call with
    | get kind namespaceName name =>
      cases answer with
      | none => exact finds_absent kind.codec
      | some o => exact .present o (yields_ofText (ObjectKind.keeps (h o rfl)) (by decide))
    | list kind namespaceName labels =>
      exact yields_ofText (.items fun o ho => ObjectKind.keeps (h o ho)) (by decide)
    | create kind namespaceName object => exact yields_ofText (ObjectKind.keeps h) (by decide)
  · intro s hcode hreason
    rw [answer_eq_iff]
    cases call with
    | get kind namespaceName name =>
      -- only the reason tells a refusal from the answer that there is nothing
      refine .failed _ (yields_ofStatus _ hcode) ?_
      rintro reply ⟨⟩
      exact hreason
    | list kind namespaceName labels => exact yields_ofStatus _ hcode
    | create kind namespaceName object => exact yields_ofStatus _ hcode

end Reply
end Rollout
