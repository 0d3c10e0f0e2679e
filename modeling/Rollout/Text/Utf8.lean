/-!
Text as bytes. Reading tells where the bytes stop being text: at a byte that cannot stand there,
with the number of bytes that are given up together, or at the end, in the middle of a character.
-/
namespace Rollout.Text

inductive Utf8Fault
  /-- `length` bytes from `index` on begin no character. -/
  | malformed (length index : Nat)
  | unfinished (index : Nat)
  deriving DecidableEq, Repr

namespace Utf8Fault

def message : Utf8Fault → String
  | malformed length index => s!"invalid utf-8 sequence of {length} bytes from index {index}"
  | unfinished index => s!"incomplete utf-8 byte sequence from index {index}"

def after (n : Nat) : Utf8Fault → Utf8Fault
  | malformed length index => malformed length (n + index)
  | unfinished index => unfinished (n + index)

end Utf8Fault

def leadWidth (b : UInt8) : Option Nat :=
  if b < 0x80 then some 1
  else if 0xC2 ≤ b ∧ b ≤ 0xDF then some 2
  else if 0xE0 ≤ b ∧ b ≤ 0xEF then some 3
  else if 0xF0 ≤ b ∧ b ≤ 0xF4 then some 4
  else none

def isTail (b : UInt8) : Bool :=
  0x80 ≤ b && b ≤ 0xBF

def isSecond (lead b : UInt8) : Bool :=
  if lead = 0xE0 then 0xA0 ≤ b && b ≤ 0xBF
  else if lead = 0xED then 0x80 ≤ b && b ≤ 0x9F
  else if lead = 0xF0 then 0x90 ≤ b && b ≤ 0xBF
  else if lead = 0xF4 then 0x80 ≤ b && b ≤ 0x8F
  else isTail b

def tailBits (b : UInt8) : Nat := b.toNat % 64

def firstChar (lead : UInt8) (rest : List UInt8) : Except Utf8Fault (Char × Nat) :=
  match leadWidth lead with
  | none => .error (.malformed 1 0)
  | some 1 => .ok (Char.ofNat lead.toNat, 0)
  | some w =>
    match rest with
    | [] => .error (.unfinished 0)
    | b :: rest =>
      if !isSecond lead b then .error (.malformed 1 0)
      else if w = 2 then .ok (Char.ofNat (lead.toNat % 32 * 64 + tailBits b), 1)
      else match rest with
        | [] => .error (.unfinished 0)
        | c :: rest =>
          if !isTail c then .error (.malformed 2 0)
          else if w = 3 then
            .ok (Char.ofNat (lead.toNat % 16 * 4096 + tailBits b * 64 + tailBits c), 2)
          else match rest with
            | [] => .error (.unfinished 0)
            | d :: _ =>
              if !isTail d then .error (.malformed 3 0)
              else .ok
                (Char.ofNat (lead.toNat % 8 * 262144 + tailBits b * 4096 + tailBits c * 64 +
                  tailBits d), 3)

def decodeFrom (index : Nat) : List UInt8 → Except Utf8Fault (List Char)
  | [] => .ok []
  | lead :: rest =>
    match firstChar lead rest with
    | .error fault => .error (fault.after index)
    | .ok (c, more) =>
      match decodeFrom (index + 1 + more) (rest.drop more) with
      | .error fault => .error fault
      | .ok cs => .ok (c :: cs)
termination_by bytes => bytes.length
decreasing_by simp only [List.length_drop, List.length_cons]; omega

def decodeUtf8 (bytes : List UInt8) : Except Utf8Fault (List Char) :=
  decodeFrom 0 bytes

def encodeUtf8 (cs : List Char) : List UInt8 :=
  cs.flatMap String.utf8EncodeChar

theorem encodeUtf8_nil : encodeUtf8 [] = [] := rfl

end Rollout.Text
