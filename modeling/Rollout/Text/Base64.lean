/-!
Bytes in base 64, with padding. Reading accepts the one form that writing gives: full groups,
padding at the end only, and no bits left over.
-/
namespace Rollout.Text

def sextet? (c : Char) : Option Nat :=
  if 'A' ≤ c ∧ c ≤ 'Z' then some (c.toNat - 'A'.toNat)
  else if 'a' ≤ c ∧ c ≤ 'z' then some (c.toNat - 'a'.toNat + 26)
  else if '0' ≤ c ∧ c ≤ '9' then some (c.toNat - '0'.toNat + 52)
  else if c = '+' then some 62
  else if c = '/' then some 63
  else none

def sextetChar (n : Nat) : Char :=
  if n < 26 then Char.ofNat (n + 'A'.toNat)
  else if n < 52 then Char.ofNat (n - 26 + 'a'.toNat)
  else if n < 62 then Char.ofNat (n - 52 + '0'.toNat)
  else if n = 62 then '+'
  else '/'

def encodeBase64 : List UInt8 → List Char
  | [] => []
  | [a] => [sextetChar (a.toNat / 4), sextetChar (a.toNat % 4 * 16), '=', '=']
  | [a, b] =>
    [sextetChar (a.toNat / 4), sextetChar (a.toNat % 4 * 16 + b.toNat / 16),
      sextetChar (b.toNat % 16 * 4), '=']
  | a :: b :: c :: rest =>
    sextetChar (a.toNat / 4) :: sextetChar (a.toNat % 4 * 16 + b.toNat / 16) ::
      sextetChar (b.toNat % 16 * 4 + c.toNat / 64) :: sextetChar (c.toNat % 64) :: encodeBase64 rest

def decodeOne (a b : Char) : Option (List UInt8) := do
  let (m, n) := (← sextet? a, ← sextet? b)
  if n % 16 = 0 then some [UInt8.ofNat (m * 4 + n / 16)] else none

def decodeTwo (a b c : Char) : Option (List UInt8) := do
  let (l, m, n) := (← sextet? a, ← sextet? b, ← sextet? c)
  if n % 4 = 0 then some [UInt8.ofNat (l * 4 + m / 16), UInt8.ofNat (m % 16 * 16 + n / 4)] else none

def decodeBase64 : List Char → Option (List UInt8)
  | [] => some []
  | [a, b, '=', '='] => decodeOne a b
  | [a, b, c, '='] => decodeTwo a b c
  | a :: b :: c :: d :: rest => do
    let (k, l, m, n) := (← sextet? a, ← sextet? b, ← sextet? c, ← sextet? d)
    let bytes ← decodeBase64 rest
    return UInt8.ofNat (k * 4 + l / 16) :: UInt8.ofNat (l % 16 * 16 + m / 4) ::
      UInt8.ofNat (m % 4 * 64 + n) :: bytes
  | _ => none

theorem sextet?_sextetChar {n : Nat} (h : n < 64) : sextet? (sextetChar n) = some n := by
  revert n; decide

end Rollout.Text
