import Rollout.Text.Base64

/-!
Bytes in base 64 and back. Each group of four digits stands for the three bytes it was written of,
and a group with padding for those that were left over.
-/
namespace Rollout.Text

theorem sextetChar_ne_pad {n : Nat} (h : n < 64) : sextetChar n ≠ '=' := by
  intro he
  have hpad : sextet? '=' = some n := he ▸ sextet?_sextetChar h
  exact nomatch hpad

theorem ofNat_eq_of_toNat_eq {n : Nat} {a : UInt8} (h : n = a.toNat) : UInt8.ofNat n = a := by
  rw [h, UInt8.ofNat_toNat]

theorem decodeOne_sextetChar (a : UInt8) :
    decodeOne (sextetChar (a.toNat / 4)) (sextetChar (a.toNat % 4 * 16)) = some [a] := by
  have ha := a.toNat_lt
  unfold decodeOne
  rw [sextet?_sextetChar (by omega), sextet?_sextetChar (by omega)]
  show (if a.toNat % 4 * 16 % 16 = 0 then some [_] else none) = some [a]
  rw [if_pos (by omega), ofNat_eq_of_toNat_eq (a := a) (by omega)]

theorem decodeTwo_sextetChar (a b : UInt8) :
    decodeTwo (sextetChar (a.toNat / 4)) (sextetChar (a.toNat % 4 * 16 + b.toNat / 16))
      (sextetChar (b.toNat % 16 * 4)) = some [a, b] := by
  have ha := a.toNat_lt
  have hb := b.toNat_lt
  unfold decodeTwo
  rw [sextet?_sextetChar (by omega), sextet?_sextetChar (by omega),
    sextet?_sextetChar (by omega)]
  show (if b.toNat % 16 * 4 % 4 = 0 then some [_, _] else none) = some [a, b]
  rw [if_pos (by omega), ofNat_eq_of_toNat_eq (a := a) (by omega),
    ofNat_eq_of_toNat_eq (a := b) (by omega)]

theorem decodeBase64_encodeBase64 (bytes : List UInt8) :
    decodeBase64 (encodeBase64 bytes) = some bytes := by
  induction bytes using encodeBase64.induct with
  | case1 => rfl
  | case2 a => exact decodeOne_sextetChar a
  | case3 a b =>
    have hb := b.toNat_lt
    rw [encodeBase64, decodeBase64]
    · exact decodeTwo_sextetChar a b
    · exact sextetChar_ne_pad (by omega)
  | case4 a b c rest ih =>
    have ha := a.toNat_lt
    have hb := b.toNat_lt
    have hc := c.toNat_lt
    have hpad : sextetChar (c.toNat % 64) ≠ '=' := sextetChar_ne_pad (by omega)
    rw [encodeBase64, decodeBase64]
    · rw [sextet?_sextetChar (by omega), sextet?_sextetChar (by omega),
        sextet?_sextetChar (by omega), sextet?_sextetChar (by omega), ih]
      show some (_ :: _ :: _ :: rest) = some (a :: b :: c :: rest)
      rw [ofNat_eq_of_toNat_eq (a := a) (by omega), ofNat_eq_of_toNat_eq (a := b) (by omega),
        ofNat_eq_of_toNat_eq (a := c) (by omega)]
    · exact fun _ h => absurd h hpad
    · exact fun h => absurd h hpad

end Rollout.Text
