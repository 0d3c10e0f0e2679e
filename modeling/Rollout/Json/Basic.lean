import Rollout.Text.Decimal

/-!
JSON documents as they are written: members keep their order and may repeat a key. A document is
kept even where it cannot be read in full, because members that nobody asks for are skipped unread.
So a string literal whose escapes name no text stands as `none`, and a number is an integer or the
very text that was written. `Json.isReadable` says that nothing of this kind is left and that the
nesting is not too deep.
-/
namespace Rollout

inductive Json
  | null
  | bool (b : Bool)
  | int (n : Int)
  /-- Any other number, as written. -/
  | decimal (literal : List Char)
  /-- `none` is a literal with an escape that is no character. -/
  | str (text : Option String)
  | arr (items : List Json)
  | obj (members : List (Option String × Json))

namespace Json
open Text

def text (s : String) : Json := .str (some s)

def object (members : List (String × Json)) : Json :=
  .obj (members.map fun m => (some m.1, m.2))

def depth : Json → Nat
  | arr items => 1 + depthOfItems items
  | obj members => 1 + depthOfMembers members
  | _ => 0
where
  depthOfItems : List Json → Nat
    | [] => 0
    | j :: js => max (depth j) (depthOfItems js)
  depthOfMembers : List (Option String × Json) → Nat
    | [] => 0
    | (_, j) :: ms => max (depth j) (depthOfMembers ms)

def writtenExponent (literal : List Char) : Int :=
  match literal.dropWhile fun c => c != 'e' && c != 'E' with
  | _ :: '-' :: ds => -(ofDigits ds : Int)
  | _ :: '+' :: ds => ofDigits ds
  | _ :: ds => ofDigits ds
  | [] => 0

def writtenDigits (literal : List Char) : List Char × Nat :=
  let body := literal.takeWhile fun c => c != 'e' && c != 'E'
  let whole := (body.takeWhile (· != '.')).filter Char.isDigit
  let fraction := (body.dropWhile (· != '.')).filter Char.isDigit
  (whole ++ fraction, fraction.length)

def firstTooLarge : Nat := Nat.pow 2 1024 - Nat.pow 2 970

def isInRange (literal : List Char) : Bool :=
  let (ds, places) := writtenDigits literal
  let significant := ds.dropWhile (· == '0')
  if significant.isEmpty then true
  else
    let shift := writtenExponent literal - places
    let magnitude := significant.length + shift
    if magnitude < 300 then true
    else if magnitude > 310 then false
    else if 0 ≤ shift then ofDigits significant * Nat.pow 10 shift.toNat < firstTooLarge
    else ofDigits significant < firstTooLarge * Nat.pow 10 (-shift).toNat

def isSound : Json → Bool
  | null | bool _ => true
  | int n => n.natAbs < firstTooLarge
  | decimal literal => isInRange literal
  | str text => text.isSome
  | arr items => areSound items
  | obj members => membersAreSound members
where
  areSound : List Json → Bool
    | [] => true
    | j :: js => isSound j && areSound js
  membersAreSound : List (Option String × Json) → Bool
    | [] => true
    | (key, j) :: ms => key.isSome && isSound j && membersAreSound ms

def isReadable (around : Nat) (j : Json) : Bool :=
  j.isSound && decide (j.depth + around < 128)

end Json
end Rollout
