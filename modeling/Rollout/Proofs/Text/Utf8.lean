import Rollout.Text.Utf8

/-!
Texts and their bytes. Each character is read from its own bytes, whatever comes behind them, and no
character is read from bytes of any other. Main statement: bytes are read as a text exactly if they
are the bytes of that text.
-/
namespace Rollout.Text

section Bytes
variable {lead b c d : UInt8}

theorem leadWidth_eq_one (h : lead.toNat < 0x80) : leadWidth lead = some 1 := by
  have hlt : lead < 0x80 := UInt8.lt_iff_toNat_lt.2 h
  rw [leadWidth, if_pos hlt]

theorem leadWidth_eq_two (h : 0xC2 ≤ lead.toNat) (h' : lead.toNat ≤ 0xDF) :
    leadWidth lead = some 2 := by
  simp only [leadWidth, UInt8.lt_iff_toNat_lt, UInt8.le_iff_toNat_le, UInt8.reduceToNat]
  rw [if_neg (by omega), if_pos ⟨h, h'⟩]

theorem leadWidth_eq_three (h : 0xE0 ≤ lead.toNat) (h' : lead.toNat ≤ 0xEF) :
    leadWidth lead = some 3 := by
  simp only [leadWidth, UInt8.lt_iff_toNat_lt, UInt8.le_iff_toNat_le, UInt8.reduceToNat]
  rw [if_neg (by omega), if_neg (by omega), if_pos ⟨h, h'⟩]

theorem leadWidth_eq_four (h : 0xF0 ≤ lead.toNat) (h' : lead.toNat ≤ 0xF4) :
    leadWidth lead = some 4 := by
  simp only [leadWidth, UInt8.lt_iff_toNat_lt, UInt8.le_iff_toNat_le, UInt8.reduceToNat]
  rw [if_neg (by omega), if_neg (by omega), if_neg (by omega), if_pos ⟨h, h'⟩]

theorem leadWidth_cases {w : Nat} (h : leadWidth lead = some w) :
    w = 1 ∧ lead.toNat < 0x80 ∨ w = 2 ∧ 0xC2 ≤ lead.toNat ∧ lead.toNat ≤ 0xDF ∨
      w = 3 ∧ 0xE0 ≤ lead.toNat ∧ lead.toNat ≤ 0xEF ∨
      w = 4 ∧ 0xF0 ≤ lead.toNat ∧ lead.toNat ≤ 0xF4 := by
  simp only [leadWidth, UInt8.lt_iff_toNat_lt, UInt8.le_iff_toNat_le, UInt8.reduceToNat] at h
  split at h
  · exact .inl ⟨(Option.some.inj h).symm, by assumption⟩
  split at h
  · exact .inr (.inl ⟨(Option.some.inj h).symm, by assumption⟩)
  split at h
  · exact .inr (.inr (.inl ⟨(Option.some.inj h).symm, by assumption⟩))
  split at h
  · exact .inr (.inr (.inr ⟨(Option.some.inj h).symm, by assumption⟩))
  · exact nomatch h

theorem leadWidth_eq_four_of_ne {w : Nat} (h : leadWidth lead = some w) (hone : w ≠ 1)
    (htwo : w ≠ 2) (hthree : w ≠ 3) : leadWidth lead = some 4 := by
  have hw : w = 4 := by rcases leadWidth_cases h with h | h | h | h <;> omega
  rw [h, hw]

theorem isTail_iff : isTail b = true ↔ 0x80 ≤ b.toNat ∧ b.toNat ≤ 0xBF := by
  simp only [isTail, Bool.and_eq_true, decide_eq_true_eq, UInt8.le_iff_toNat_le, UInt8.reduceToNat]

theorem isSecond_iff :
    isSecond lead b = true ↔
      (0x80 ≤ b.toNat ∧ b.toNat ≤ 0xBF) ∧ (lead.toNat = 0xE0 → 0xA0 ≤ b.toNat) ∧
        (lead.toNat = 0xED → b.toNat ≤ 0x9F) ∧
        (lead.toNat = 0xF0 → 0x90 ≤ b.toNat) ∧ (lead.toNat = 0xF4 → b.toNat ≤ 0x8F) := by
  simp only [isSecond, ← UInt8.toNat_inj, UInt8.reduceToNat]
  split
  · simp only [Bool.and_eq_true, decide_eq_true_eq, UInt8.le_iff_toNat_le, UInt8.reduceToNat]
    omega
  split
  · simp only [Bool.and_eq_true, decide_eq_true_eq, UInt8.le_iff_toNat_le, UInt8.reduceToNat]
    omega
  split
  · simp only [Bool.and_eq_true, decide_eq_true_eq, UInt8.le_iff_toNat_le, UInt8.reduceToNat]
    omega
  split
  · simp only [Bool.and_eq_true, decide_eq_true_eq, UInt8.le_iff_toNat_le, UInt8.reduceToNat]
    omega
  · rw [isTail_iff]
    omega

theorem firstChar_of_one (hlead : lead.toNat < 0x80) (rest : List UInt8) :
    firstChar lead rest = .ok (Char.ofNat lead.toNat, 0) := by
  simp only [firstChar, leadWidth_eq_one hlead]

theorem firstChar_of_two (hlead : leadWidth lead = some 2) (hb : isSecond lead b = true)
    (rest : List UInt8) :
    firstChar lead (b :: rest) = .ok (Char.ofNat (lead.toNat % 32 * 64 + tailBits b), 1) := by
  simp [firstChar, hlead, hb]

theorem firstChar_of_three (hlead : leadWidth lead = some 3) (hb : isSecond lead b = true)
    (hc : isTail c = true) (rest : List UInt8) :
    firstChar lead (b :: c :: rest) =
      .ok (Char.ofNat (lead.toNat % 16 * 4096 + tailBits b * 64 + tailBits c), 2) := by
  simp [firstChar, hlead, hb, hc]

theorem firstChar_of_four (hlead : leadWidth lead = some 4) (hb : isSecond lead b = true)
    (hc : isTail c = true) (hd : isTail d = true) (rest : List UInt8) :
    firstChar lead (b :: c :: d :: rest) =
      .ok (Char.ofNat (lead.toNat % 8 * 262144 + tailBits b * 4096 + tailBits c * 64 + tailBits d),
        3) := by
  simp [firstChar, hlead, hb, hc, hd]

theorem toNat_charOfNat {v : Nat} (h : v.isValidChar) : (Char.ofNat v).val.toNat = v := by
  rw [Char.ofNat, dif_pos h]
  rfl

theorem ofNat_eq_of_eq_toNat {n : Nat} (h : n = b.toNat) : UInt8.ofNat n = b := by
  rw [h, UInt8.ofNat_toNat]

theorem utf8EncodeChar_of_one (hlead : lead.toNat < 0x80) :
    String.utf8EncodeChar (Char.ofNat lead.toNat) = [lead] := by
  have hv := toNat_charOfNat (v := lead.toNat) (.inl (by omega))
  unfold String.utf8EncodeChar
  dsimp only
  rw [hv, if_pos (by omega), UInt8.ofNat_toNat]

theorem utf8EncodeChar_of_two (hlead : leadWidth lead = some 2) (hb : isSecond lead b = true) :
    String.utf8EncodeChar (Char.ofNat (lead.toNat % 32 * 64 + tailBits b)) = [lead, b] := by
  have hlead := leadWidth_cases hlead
  rw [isSecond_iff] at hb
  unfold tailBits
  generalize hn : lead.toNat % 32 * 64 + b.toNat % 64 = n
  have hv := toNat_charOfNat (v := n) (.inl (by omega))
  unfold String.utf8EncodeChar
  dsimp only
  rw [hv, if_neg (by omega), if_pos (by omega), ofNat_eq_of_eq_toNat (b := lead) (by omega),
    ofNat_eq_of_eq_toNat (b := b) (by omega)]

theorem utf8EncodeChar_of_three (hlead : leadWidth lead = some 3) (hb : isSecond lead b = true)
    (hc : isTail c = true) :
    String.utf8EncodeChar (Char.ofNat (lead.toNat % 16 * 4096 + tailBits b * 64 + tailBits c)) =
      [lead, b, c] := by
  have hlead := leadWidth_cases hlead
  rw [isSecond_iff] at hb
  rw [isTail_iff] at hc
  unfold tailBits
  generalize hn : lead.toNat % 16 * 4096 + b.toNat % 64 * 64 + c.toNat % 64 = n
  have hvalid : n.isValidChar := by unfold Nat.isValidChar; omega
  have hv := toNat_charOfNat hvalid
  unfold String.utf8EncodeChar
  dsimp only
  rw [hv, if_neg (by omega), if_neg (by omega), if_pos (by omega),
    ofNat_eq_of_eq_toNat (b := lead) (by omega), ofNat_eq_of_eq_toNat (b := b) (by omega),
    ofNat_eq_of_eq_toNat (b := c) (by omega)]

theorem utf8EncodeChar_of_four (hlead : leadWidth lead = some 4) (hb : isSecond lead b = true)
    (hc : isTail c = true) (hd : isTail d = true) :
    String.utf8EncodeChar
      (Char.ofNat (lead.toNat % 8 * 262144 + tailBits b * 4096 + tailBits c * 64 + tailBits d)) =
      [lead, b, c, d] := by
  have hlead := leadWidth_cases hlead
  rw [isSecond_iff] at hb
  rw [isTail_iff] at hc hd
  unfold tailBits
  generalize hn :
    lead.toNat % 8 * 262144 + b.toNat % 64 * 4096 + c.toNat % 64 * 64 + d.toNat % 64 = n
  have hvalid : n.isValidChar := by unfold Nat.isValidChar; omega
  have hv := toNat_charOfNat hvalid
  unfold String.utf8EncodeChar
  dsimp only
  rw [hv, if_neg (by omega), if_neg (by omega), if_neg (by omega),
    ofNat_eq_of_eq_toNat (b := lead) (by omega), ofNat_eq_of_eq_toNat (b := b) (by omega),
    ofNat_eq_of_eq_toNat (b := c) (by omega), ofNat_eq_of_eq_toNat (b := d) (by omega)]

end Bytes

theorem toNat_ofNat_of_lt {n : Nat} (h : n < 256) : (UInt8.ofNat n).toNat = n :=
  UInt8.toNat_ofNat_of_lt' h

theorem firstChar_utf8EncodeChar (c : Char) (rest : List UInt8) :
    ∃ lead tail, String.utf8EncodeChar c = lead :: tail ∧
      firstChar lead (tail ++ rest) = .ok (c, tail.length) := by
  have hvalid : c.val.toNat < 0xD800 ∨ 0xDFFF < c.val.toNat ∧ c.val.toNat < 0x110000 := c.valid
  have hself {n : Nat} (hn : n = c.val.toNat) : Char.ofNat n = c := by
    rw [hn]
    exact Char.ofNat_toNat c
  unfold String.utf8EncodeChar
  dsimp only
  generalize c.val.toNat = v at hvalid hself
  -- one case for each number of bytes, and in each of them the bytes as numbers
  split
  · have hlead : (UInt8.ofNat v).toNat = v := toNat_ofNat_of_lt (by omega)
    refine ⟨_, _, rfl, ?_⟩
    rw [List.nil_append, firstChar_of_one (by omega), hself hlead]
    rfl
  have hlast : (UInt8.ofNat (v % 64 + 128)).toNat = v % 64 + 128 := toNat_ofNat_of_lt (by omega)
  split
  · have hlead : (UInt8.ofNat (v / 64 % 32 + 192)).toNat = v / 64 % 32 + 192 :=
      toNat_ofNat_of_lt (by omega)
    refine ⟨_, _, rfl, ?_⟩
    rw [List.cons_append, firstChar_of_two (leadWidth_eq_two (by omega) (by omega))
      (isSecond_iff.2 (by omega)), hself (by rw [tailBits, hlead, hlast]; omega)]
    rfl
  have hthird : (UInt8.ofNat (v / 64 % 64 + 128)).toNat = v / 64 % 64 + 128 :=
    toNat_ofNat_of_lt (by omega)
  split
  · have hlead : (UInt8.ofNat (v / 4096 % 16 + 224)).toNat = v / 4096 % 16 + 224 :=
      toNat_ofNat_of_lt (by omega)
    refine ⟨_, _, rfl, ?_⟩
    rw [List.cons_append, List.cons_append,
      firstChar_of_three (leadWidth_eq_three (by omega) (by omega))
      (isSecond_iff.2 (by omega)) (isTail_iff.2 (by omega)),
        hself (by rw [tailBits, tailBits, hlead, hthird, hlast]; omega)]
    rfl
  · have hlead : (UInt8.ofNat (v / 262144 % 8 + 240)).toNat = v / 262144 % 8 + 240 :=
      toNat_ofNat_of_lt (by omega)
    have hsecond : (UInt8.ofNat (v / 4096 % 64 + 128)).toNat = v / 4096 % 64 + 128 :=
      toNat_ofNat_of_lt (by omega)
    refine ⟨_, _, rfl, ?_⟩
    rw [List.cons_append, List.cons_append, List.cons_append,
      firstChar_of_four (leadWidth_eq_four (by omega) (by omega)) (isSecond_iff.2 (by omega))
        (isTail_iff.2 (by omega)) (isTail_iff.2 (by omega)),
      hself (by rw [tailBits, tailBits, tailBits, hlead, hsecond, hthird, hlast]; omega)]
    rfl

theorem decodeFrom_encodeUtf8 (index : Nat) (cs : List Char) :
    decodeFrom index (encodeUtf8 cs) = .ok cs := by
  induction cs generalizing index with
  | nil => rw [encodeUtf8_nil, decodeFrom]
  | cons c cs ih =>
    obtain ⟨lead, tail, hbytes, hfirst⟩ := firstChar_utf8EncodeChar c (encodeUtf8 cs)
    have hall : encodeUtf8 (c :: cs) = lead :: (tail ++ encodeUtf8 cs) := by
      unfold encodeUtf8
      rw [List.flatMap_cons, hbytes, List.cons_append]
    rw [hall, decodeFrom, hfirst]
    dsimp only
    rw [List.drop_left, ih]

theorem decodeUtf8_encodeUtf8 (cs : List Char) : decodeUtf8 (encodeUtf8 cs) = .ok cs :=
  decodeFrom_encodeUtf8 0 cs

theorem utf8EncodeChar_of_firstChar {lead : UInt8} {rest : List UInt8} {x : Char} {more : Nat}
    (h : firstChar lead rest = .ok (x, more)) :
    String.utf8EncodeChar x = lead :: rest.take more := by
  revert h
  fun_cases firstChar lead rest with
  | case2 =>
    rintro ⟨⟩
    have hlead := leadWidth_cases ‹leadWidth lead = some 1›
    exact utf8EncodeChar_of_one (by omega)
  | case5 b rest hb hne hw =>
    rintro ⟨⟩
    exact utf8EncodeChar_of_two hw (by simpa using hb)
  | case8 b hb c rest hc hne hw hne' =>
    rintro ⟨⟩
    exact utf8EncodeChar_of_three hw (by simpa using hb) (by simpa using hc)
  | case11 w hone hw b hb htwo c hc hthree d rest hd =>
    rintro ⟨⟩
    have hlead := leadWidth_eq_four_of_ne hw hone htwo hthree
    exact utf8EncodeChar_of_four hlead (by simpa using hb) (by simpa using hc) (by simpa using hd)
  | _ => exact nofun

theorem encodeUtf8_of_decodeFrom {index : Nat} {bytes : List UInt8} {cs : List Char}
    (h : decodeFrom index bytes = .ok cs) : encodeUtf8 cs = bytes := by
  fun_induction decodeFrom index bytes generalizing cs with
  | case1 =>
    cases h
    rfl
  | case4 index lead rest x more hfirst cs' hrest ih =>
    cases h
    have hbytes := utf8EncodeChar_of_firstChar hfirst
    rw [encodeUtf8, List.flatMap_cons, hbytes, List.cons_append]
    exact congrArg _ ((congrArg _ (ih hrest)).trans (List.take_append_drop ..))
  | case2 | case3 => cases h

/-- Bytes that are read as a text are its bytes, and no others are. -/
theorem decodeUtf8_eq_ok_iff {bytes : List UInt8} {cs : List Char} :
    decodeUtf8 bytes = .ok cs ↔ bytes = encodeUtf8 cs := by
  constructor
  · exact fun h => (encodeUtf8_of_decodeFrom h).symm
  · rintro rfl
    exact decodeUtf8_encodeUtf8 cs

end Rollout.Text
