import Rollout.Text.Blank
import Rollout.Text.Cut
import Rollout.Version.Basic

/-!
Reading versions. A version is an optional letter, one to three numbers with dots between them, then
optionally the pre-release after a dash, then optionally build data after a plus sign. The first
plus sign ends what is not build data, and before it the first dash ends the numbers. Blank
characters around the whole do not matter.
-/
namespace Rollout
open Text

namespace Identifier

def isPart (c : Char) : Bool :=
  c.isAlphanum || c == '-'

def parse (cs : List Char) : Except VersionFlaw Identifier :=
  if cs.isEmpty then .error .emptyIdentifier
  else if !cs.all isPart then .error (.illegalCharacter (String.ofList cs))
  else if cs.all Char.isDigit && decide (ofDigits cs ≤ maxWord) then .ok (number (ofDigits cs))
  else .ok (word (String.ofList cs))

def parseAll (cs : List Char) : Except VersionFlaw (List Identifier) :=
  (pieces '.' cs).mapM parse

end Identifier

namespace Version

def parseComponent (cs : List Char) : Except VersionFlaw Nat :=
  if !isNumeral cs then .error (.notNumeric (String.ofList cs))
  else if maxWord < ofDigits cs then .error (.tooLarge (String.ofList cs))
  else .ok (ofDigits cs)

def parseTail (mark : Char) (cs : List Char) : Except VersionFlaw (List Char × List Identifier) :=
  match cutAt? mark cs with
  | none => .ok (cs, [])
  | some (head, tail) => (Identifier.parseAll tail).map fun ids => (head, ids)

def parseBody (cs : List Char) : Except VersionFlaw Version := do
  if cs.isEmpty then throw .nothingThere
  let (rest, build) ← parseTail '+' cs
  let (core, pre) ← parseTail '-' rest
  match ← (pieces '.' core).mapM parseComponent with
  | [major] => return ⟨major, 0, 0, pre, build⟩
  | [major, minor] => return ⟨major, minor, 0, pre, build⟩
  | [major, minor, patch] => return ⟨major, minor, patch, pre, build⟩
  | _ => throw .tooManyComponents

def dropLetter : List Char → List Char
  | 'v' :: cs => cs
  | cs => cs

def parse (text : String) : Except VersionError Version :=
  match parseBody (dropLetter (trim text.toList)) with
  | .ok v => .ok v
  | .error flaw => .error (.malformed text flaw)

end Version
end Rollout
