import Rollout.Json.Parser

/-!
YAML values, and what a scalar without quotes stands for: nothing, a truth value, a number or a
text. Numbers are not told apart any further than by what is written.
-/
namespace Rollout.Yaml
open Text

inductive Value
  | null
  | bool (b : Bool)
  | number (written : List Char)
  | text (s : List Char)
  | sequence (items : List Value)
  | mapping (members : List (Value × Value))

namespace Value

mutual

def same : Value → Value → Bool
  | null, null => true
  | bool a, bool b => a == b
  | number a, number b => a == b
  | text a, text b => a == b
  | sequence as, sequence bs => sameItems as bs
  | mapping as, mapping bs => sameMembers as bs
  | _, _ => false

def sameItems : List Value → List Value → Bool
  | [], [] => true
  | a :: as, b :: bs => same a b && sameItems as bs
  | _, _ => false

def sameMembers : List (Value × Value) → List (Value × Value) → Bool
  | [], [] => true
  | (k, a) :: as, (l, b) :: bs => same k l && same a b && sameMembers as bs
  | _, _ => false

end

mutual

def toJson : Value → Json
  | null => .null
  | bool b => .bool b
  | number written => .decimal written
  | text s => .text (String.ofList s)
  | sequence items => .arr (itemsToJson items)
  | mapping members => .obj (membersToJson members)

def itemsToJson : List Value → List Json
  | [] => []
  | v :: vs => toJson v :: itemsToJson vs

def membersToJson : List (Value × Value) → List (Option String × Json)
  | [] => []
  | (k, v) :: ms =>
    (match k with
      | text s => some (String.ofList s)
      | _ => none, toJson v) :: membersToJson ms

end

end Value

/-! Scalars without quotes. -/
namespace Scalar

def isNull (cs : List Char) : Bool :=
  cs.isEmpty || ["~", "null", "Null", "NULL"].any (·.toList == cs)

def bool? (cs : List Char) : Option Bool :=
  if ["true", "True", "TRUE"].any (·.toList == cs) then some true
  else if ["false", "False", "FALSE"].any (·.toList == cs) then some false
  else none

def dropPlus : List Char → List Char
  | '+' :: cs => cs
  | cs => cs

def isPadded (cs : List Char) : Bool :=
  let ds := match cs with
    | '+' :: ds | '-' :: ds => ds
    | ds => ds
  decide (1 < ds.length) && ds.head? == some '0' && ds.all Char.isDigit

def digitsIn (base : Nat) (cs : List Char) : Option Nat :=
  if cs.isEmpty then none
  else cs.foldl (fun n c => do
    let d ← Json.hexDigit? c
    if d < base then some ((← n) * base + d) else none) (some 0)

def magnitude? : List Char → Option Nat
  | '0' :: 'x' :: cs => digitsIn 16 cs
  | '0' :: 'o' :: cs => digitsIn 8 cs
  | '0' :: 'b' :: cs => digitsIn 2 cs
  | cs => digitsIn 10 cs

def integer? (cs : List Char) : Option Int :=
  if isPadded cs then none
  else match cs with
    | '-' :: ds => (magnitude? ds).map fun n => -(n : Int)
    | ds => (magnitude? (dropPlus ds)).map Int.ofNat

def isDecimal (cs : List Char) : Bool :=
  let whole := cs.takeWhile Char.isDigit
  let rest := cs.dropWhile Char.isDigit
  let (fraction, rest) := match rest with
    | '.' :: rest => (rest.takeWhile Char.isDigit, rest.dropWhile Char.isDigit)
    | rest => ([], rest)
  let isExponent := match rest with
    | [] => true
    | e :: '+' :: ds | e :: '-' :: ds => (e == 'e' || e == 'E') && isNumeral ds
    | e :: ds => (e == 'e' || e == 'E') && isNumeral ds
  !(whole.isEmpty && fraction.isEmpty) && isExponent && Json.isInRange cs

def isFloat (cs : List Char) : Bool :=
  let unsigned := match cs with
    | '+' :: ds | '-' :: ds => ds
    | ds => ds
  !isPadded cs && (isDecimal unsigned || [".inf", ".Inf", ".INF"].any (·.toList == unsigned) ||
    [".nan", ".NaN", ".NAN"].any (·.toList == cs))

def plain? (cs : List Char) : Option Value :=
  if isNull cs then some .null
  else match bool? cs with
    | some b => some (.bool b)
    | none =>
      match integer? cs with
      | some n =>
        let isNarrow := -0x8000000000000000 ≤ n ∧ n ≤ 0xffffffffffffffff
        let isWide :=
          n < -0x80000000000000000000000000000000 ∨ 0xffffffffffffffffffffffffffffffff < n
        if isNarrow ∨ isWide then some (.number cs) else none
      | none => some (if isFloat cs then .number cs else .text cs)

end Scalar
end Rollout.Yaml
