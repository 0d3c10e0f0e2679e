import Rollout.Json.Parser
import Rollout.Net.Form
import Rollout.Net.Uri
import Rollout.Proofs.Text.Cutting
import Rollout.Proofs.Text.Utf8

/-!
Reading queries as forms write them. What is written for a text has none of the characters that
separate entries, none that end a query, and is read as this text again.
-/
namespace Rollout.Form
open Text

def decodeBytes : List Char → Option (List UInt8)
  | [] => some []
  | '+' :: cs => (decodeBytes cs).map (0x20 :: ·)
  | '%' :: a :: b :: cs => do
    let byte := (← Json.hexDigit? a) * 16 + (← Json.hexDigit? b)
    return UInt8.ofNat byte :: (← decodeBytes cs)
  | c :: cs => if c = '%' then none else (decodeBytes cs).map (encodeUtf8 [c] ++ ·)

def decode (cs : List Char) : Option String :=
  (decodeBytes cs).bind fun bytes => (decodeUtf8 bytes).toOption.map String.ofList

def field? (name : String) (query : List Char) : Option String :=
  ((pieces '&' query).filterMap (cutAt? '=')).findSome? fun e =>
    if decode e.1 = some name then decode e.2 else none

def isInner (c : Char) : Bool := Uri.isQueryChar c && !"&=?#".toList.contains c

theorem plain_table : ∀ n < 256, isPlain (UInt8.ofNat n) = true →
    isInner (Char.ofNat n) = true ∧ Char.ofNat n ≠ '+' ∧ Char.ofNat n ≠ '%' ∧
    encodeUtf8 [Char.ofNat n] = [UInt8.ofNat n] := by
  decide +kernel

theorem digit_table : ∀ n < 16, isInner (digit n) = true ∧
    Json.hexDigit? (digit n) = some n := by
  decide +kernel

theorem isInner_of_mem_encodeByte {b : UInt8} {c : Char} (h : c ∈ encodeByte b) :
    isInner c = true := by
  have hb : b.toNat < 256 := b.toNat_lt
  unfold encodeByte at h
  split at h
  · next hplain =>
    rw [List.mem_singleton.1 h]
    exact (plain_table b.toNat hb (by rwa [UInt8.ofNat_toNat])).1
  split at h
  · rw [List.mem_singleton.1 h]
    decide +kernel
  · simp only [List.mem_cons, List.not_mem_nil, or_false] at h
    rcases h with rfl | rfl | rfl
    · decide +kernel
    · exact (digit_table _ (by omega)).1
    · exact (digit_table _ (by omega)).1

theorem isInner_of_mem_encode {s : String} {c : Char} (h : c ∈ encode s) : isInner c = true := by
  obtain ⟨b, -, hc⟩ := List.mem_flatMap.1 h
  exact isInner_of_mem_encodeByte hc

theorem not_mem_encode {s : String} {c : Char} (h : isInner c = false) : c ∉ encode s := by
  intro hc
  exact nomatch (isInner_of_mem_encode hc).symm.trans h

theorem decodeBytes_encodeByte (b : UInt8) (cs : List Char) :
    decodeBytes (encodeByte b ++ cs) = (decodeBytes cs).map (b :: ·) := by
  have hb : b.toNat < 256 := b.toNat_lt
  unfold encodeByte
  split
  · next hplain =>
    obtain ⟨-, hplus, hpercent, hbytes⟩ := plain_table b.toNat hb (by rwa [UInt8.ofNat_toNat])
    rw [UInt8.ofNat_toNat] at hbytes
    rw [List.singleton_append, decodeBytes, if_neg hpercent, hbytes]
    · rfl
    · exact hplus
    · exact fun _ _ _ hc => absurd hc hpercent
  split
  · next hspace =>
    rw [eq_of_beq hspace]
    rfl
  · rw [List.cons_append, List.cons_append, List.cons_append, List.nil_append, decodeBytes,
      (digit_table _ (by omega)).2, (digit_table _ (by omega)).2]
    have hbyte : UInt8.ofNat (b.toNat / 16 * 16 + b.toNat % 16) = b := by
      rw [Nat.div_add_mod', UInt8.ofNat_toNat]
    simp only [Option.bind_eq_bind, Option.bind_some, hbyte]
    cases decodeBytes cs <;> rfl

theorem decodeBytes_flatMap (bytes : List UInt8) :
    decodeBytes (bytes.flatMap encodeByte) = some bytes := by
  induction bytes with
  | nil => rfl
  | cons b bytes ih => rw [List.flatMap_cons, decodeBytes_encodeByte, ih, Option.map_some]

theorem decode_encode (s : String) : decode (encode s) = some s := by
  unfold decode encode
  rw [decodeBytes_flatMap, Option.bind_some, decodeUtf8_encodeUtf8]
  exact congrArg some String.ofList_toList

theorem field?_nil (name : String) : field? name [] = none := rfl

theorem field?_entry (name value : String) : field? name (entry name value) = some value := by
  have hamp : '&' ∉ encode name ++ '=' :: encode value := by
    have hname : '&' ∉ encode name := not_mem_encode (by decide +kernel)
    have hvalue : '&' ∉ encode value := not_mem_encode (by decide +kernel)
    simp [hname, hvalue]
  have hpieces : pieces '&' (entry name value) = [[], encode name ++ '=' :: encode value] := by
    show pieces '&' ([] ++ '&' :: (encode name ++ '=' :: encode value)) = _
    rw [pieces_append List.not_mem_nil, pieces_of_not_mem hamp]
  have hcut : cutAt? '=' (encode name ++ '=' :: encode value) = some (encode name, encode value) :=
    cutAt?_append (not_mem_encode (by decide +kernel)) _
  unfold field?
  rw [hpieces, List.filterMap_cons_none rfl, List.filterMap_cons_some hcut, List.findSome?_cons]
  dsimp only
  rw [if_pos (decode_encode name), decode_encode]

theorem isQueryChar_of_mem_entry {name value : String} {c : Char} (h : c ∈ entry name value) :
    Uri.isQueryChar c = true := by
  have hencoded {s : String} (hc : c ∈ encode s) : Uri.isQueryChar c = true :=
    (Bool.and_eq_true_iff.1 (isInner_of_mem_encode hc)).1
  unfold entry at h
  simp only [List.mem_cons, List.mem_append] at h
  rcases h with (rfl | hname) | rfl | hvalue
  · decide +kernel
  · exact hencoded hname
  · decide +kernel
  · exact hencoded hvalue

end Rollout.Form
