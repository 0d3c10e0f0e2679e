import Rollout.Text.Utf8

/-!
Queries as forms write them. Of the bytes of a text, letters, digits and `*-._` stand for
themselves, a space is a plus sign, and any other byte is a percent sign with two digits.
-/
namespace Rollout.Form
open Text

def isPlain (b : UInt8) : Bool :=
  let c := Char.ofNat b.toNat
  c.isAlphanum || "*-._".toList.contains c

def digit (n : Nat) : Char :=
  (Nat.digitChar n).toUpper

def encodeByte (b : UInt8) : List Char :=
  if isPlain b then [Char.ofNat b.toNat]
  else if b == 0x20 then ['+']
  else ['%', digit (b.toNat / 16), digit (b.toNat % 16)]

def encode (s : String) : List Char :=
  (encodeUtf8 s.toList).flatMap encodeByte

def entry (name value : String) : List Char :=
  '&' :: encode name ++ '=' :: encode value

end Rollout.Form
