import Rollout.Text.Decimal
import Rollout.Text.Quoted

/-!
Versions: three numbers, a list of pre-release identifiers and a list of build identifiers, with
their written form and the reasons for which a text is no version.
-/
namespace Rollout

inductive Identifier
  | number (n : Nat)
  | word (text : String)
  deriving DecidableEq, Repr

structure Version where
  major : Nat
  minor : Nat
  patch : Nat
  pre : List Identifier
  build : List Identifier
  deriving DecidableEq, Repr

inductive VersionFlaw
  | nothingThere
  | emptyIdentifier
  | illegalCharacter (identifier : String)
  | notNumeric (component : String)
  | tooLarge (component : String)
  | tooManyComponents
  deriving DecidableEq, Repr

inductive VersionError
  | malformed (text : String) (flaw : VersionFlaw)
  | notARelease (text : String)
  deriving DecidableEq, Repr

open Text

def VersionFlaw.message : VersionFlaw → String
  | nothingThere => "empty version"
  | emptyIdentifier => "empty identifier"
  | illegalCharacter identifier => "illegal character in " ++ quoted identifier
  | notNumeric component => "non-numeric component " ++ quoted component
  | tooLarge component =>
    "component " ++ quoted component ++ ": number too large to fit in target type"
  | tooManyComponents => "expected at most three numeric components"

def VersionError.message : VersionError → String
  | malformed text flaw => "invalid version " ++ quoted text ++ ": " ++ flaw.message
  | notARelease text => "invalid RKE2 version " ++ quoted text ++ ": expected vX.Y.Z+rke2rN"

namespace Identifier

def render : Identifier → List Char
  | number n => digits n
  | word text => text.toList

def renderAll : List Identifier → List Char
  | [] => []
  | [i] => i.render
  | i :: j :: is => i.render ++ '.' :: renderAll (j :: is)

end Identifier

namespace Version

def renderTail (mark : Char) : List Identifier → List Char
  | [] => []
  | i :: is => mark :: Identifier.renderAll (i :: is)

def render (v : Version) : List Char :=
  'v' :: (digits v.major ++ '.' :: (digits v.minor ++ '.' :: (digits v.patch ++
    (renderTail '-' v.pre ++ renderTail '+' v.build))))

instance : ToString Version := ⟨fun v => String.ofList v.render⟩

end Version
end Rollout
