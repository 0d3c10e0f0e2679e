/-!
Distinguished encoding: elements with a class, a number, a flag for nesting and a body. Reading
allows lengths that are written longer than needed, and says so; writing never does.
-/
namespace Rollout.Der

inductive TagClass
  | universal
  | application
  | context
  | custom
  deriving DecidableEq, Repr

/-- What an element is: its class, whether other elements are nested in it, and the number of its
kind. -/
structure Tag where
  tagClass : TagClass
  nested : Bool
  number : Nat
  deriving DecidableEq, Repr

namespace Tag

def plain (number : Nat) : Tag := ⟨.universal, false, number⟩
def boolean : Tag := plain 1
def integer : Tag := plain 2
def bitString : Tag := plain 3
def octetString : Tag := plain 4
def null : Tag := plain 5
def objectId : Tag := plain 6
def utcTime : Tag := plain 23
def generalizedTime : Tag := plain 24
def sequence : Tag := ⟨.universal, true, 16⟩
def set : Tag := ⟨.universal, true, 17⟩
def field (number : Nat) : Tag := ⟨.context, true, number⟩

end Tag

structure Element where
  tag : Tag
  body : List UInt8
  deriving DecidableEq, Repr

def natOfBytes (bytes : List UInt8) : Nat :=
  bytes.foldl (fun n b => n * 256 + b.toNat) 0

def bytesOfNat (n : Nat) : List UInt8 :=
  if n = 0 then [] else bytesOfNat (n / 256) ++ [UInt8.ofNat (n % 256)]
termination_by n
decreasing_by omega

def readLongNumber : Nat → Nat → List UInt8 → Option (Nat × List UInt8)
  | 0, _, _ => none
  | _ + 1, _, [] => none
  | bytes + 1, n, b :: rest =>
    if b < 0x80 then some ((n * 128 + b.toNat) % 0x100000000, rest)
    else readLongNumber bytes (n * 128 + b.toNat % 128) rest

def tagClassOf (b : UInt8) : TagClass :=
  if b < 0x40 then .universal else if b < 0x80 then .application else if b < 0xC0 then .context
  else .custom

def readTag : List UInt8 → Option (Tag × List UInt8)
  | [] => none
  | b :: rest =>
    let make (number : Nat) : Tag := ⟨tagClassOf b, b.toNat / 32 % 2 == 1, number⟩
    if b.toNat % 32 < 31 then some (make (b.toNat % 32), rest)
    else (readLongNumber 5 0 rest).map fun (number, rest) => (make number, rest)

def readLength : List UInt8 → Option (Nat × List UInt8)
  | [] => none
  | b :: rest =>
    if b < 0x80 then some (b.toNat, rest)
    else
      let count := b.toNat - 128
      if count = 0 || count = 127 || rest.length < count then none
      else
        let n := natOfBytes (rest.take count)
        if n ≤ 0xffffffffffffffff then some (n, rest.drop count) else none

def read (bytes : List UInt8) : Option (Element × List UInt8) := do
  let (tag, rest) ← readTag bytes
  let (length, rest) ← readLength rest
  if rest.length < length then none else some (⟨tag, rest.take length⟩, rest.drop length)

def readAs (tag : Tag) (bytes : List UInt8) : Option (List UInt8 × List UInt8) := do
  let (element, rest) ← read bytes
  if element.tag = tag then some (element.body, rest) else none

def writeLength (n : Nat) : List UInt8 :=
  if n < 128 then [UInt8.ofNat n]
  else UInt8.ofNat (128 + (bytesOfNat n).length) :: bytesOfNat n

def tagByte (t : Tag) : UInt8 :=
  UInt8.ofNat <|
    (match t.tagClass with
      | .universal => 0
      | .application => 64
      | .context => 128
      | .custom => 192) + (if t.nested then 32 else 0) + t.number % 32

def write (tag : Tag) (body : List UInt8) : List UInt8 :=
  tagByte tag :: (writeLength body.length ++ body)

def readExact (tag : Tag) (bytes : List UInt8) : Option (List UInt8 × List UInt8) := do
  let (body, rest) ← readAs tag bytes
  if (write tag body).length + rest.length = bytes.length then some (body, rest) else none

def integerBody (n : Nat) : List UInt8 :=
  match bytesOfNat n with
  | [] => [0]
  | b :: bs => if b < 0x80 then b :: bs else 0 :: b :: bs

def writeInteger (n : Nat) : List UInt8 :=
  write .integer (integerBody n)

def natOfInteger? (body : List UInt8) : Option Nat :=
  match body with
  | [] => none
  | [b] => if b < 0x80 then some b.toNat else none
  | a :: b :: _ => if a < 0x80 && (a != 0 || 0x80 ≤ b) then some (natOfBytes body) else none

def arc (n : Nat) : List UInt8 :=
  groups (n / 128) ++ [UInt8.ofNat (n % 128)]
where
  groups (n : Nat) : List UInt8 :=
    if n = 0 then [] else groups (n / 128) ++ [UInt8.ofNat (128 + n % 128)]
  termination_by n
  decreasing_by omega

def objectIdBody : List Nat → List UInt8
  | first :: second :: others => arc (first * 40 + second) ++ others.flatMap arc
  | _ => []

def bitsOf? : List UInt8 → Option (Nat × List UInt8)
  | [] => none
  | unused :: bytes =>
    match bytes.getLast? with
    | none => if unused = 0 then some (0, []) else none
    | some last =>
      if unused.toNat ≤ 8 && last.toNat % Nat.pow 2 unused.toNat == 0 then
        some (unused.toNat, bytes)
      else none

end Rollout.Der
