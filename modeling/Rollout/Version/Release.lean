import Rollout.Version.Order
import Rollout.Version.Parser

/-!
Releases of the distribution and the versions of the orchestrator that they ship. A release carries
a mark and a revision number in its build data; dropping both gives the version. Two reports conform
if neither precedes the other.
-/
namespace Rollout
open Text

def releaseMark : String := "rke2"

def revisionMark : String := "+rke2r"

def isRelease (version : String) : Bool :=
  (cutOn? releaseMark.toList version.toList).isSome

def dropLetters (cs : List Char) : List Char :=
  cs.dropWhile (· == 'v')

/-- The version that a release ships, written with one letter in front. A text without the mark
ships itself. -/
def shippedVersion (version : String) : Except VersionError String :=
  if isRelease version then
    match cutOn? revisionMark.toList version.toList with
    | none => .error (.notARelease version)
    | some (shipped, revision) =>
      match isNumeral revision, Version.parse (String.ofList shipped) with
      | true, .ok ⟨_, _, _, [], []⟩ => .ok (String.ofList ('v' :: dropLetters shipped))
      | _, _ => .error (.notARelease version)
  else .ok version

/-- Whether two version texts name the same release, up to build data. Texts that are no versions
are compared as they stand, without the letters in front; the empty text is equal to itself
alone. -/
def sameVersion (a b : String) : Bool :=
  if a = "" || b = "" then a == b
  else match Version.parse a, Version.parse b with
    | .ok v, .ok w => v.precedence w == .eq
    | _, _ => dropLetters a.toList == dropLetters b.toList

end Rollout
