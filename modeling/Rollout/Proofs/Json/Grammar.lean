import Rollout.Json.Parser
import Rollout.Proofs.Text.Numeral

/-!
The grammar of JSON texts. Space may stand around every token, a character of a string literal may
be written in several ways, and a document is spelled by many texts. A literal is a list of strokes,
because an escape is no character of its own where two of them make one character.
-/
namespace Rollout.Json
open Text

def Space (cs : List Char) : Prop := ∀ c ∈ cs, isSpace c = true

structure HexUnit where
  first : Char
  second : Char
  third : Char
  fourth : Char
  value : Nat
  stands : unit? first second third fourth = some value

/-- What is written for one character of a literal, or for one half of a character. -/
inductive Stroke
  | plain (c : Char) (visible : 32 ≤ c.toNat) (noQuote : c ≠ '"') (noSlash : c ≠ '\\')
  | short (letter c : Char) (stands : escape? letter = some c)
  | unit (u : HexUnit)

namespace Stroke

def chars : Stroke → List Char
  | plain c _ _ _ => [c]
  | short letter _ _ => ['\\', letter]
  | unit u => ['\\', 'u', u.first, u.second, u.third, u.fourth]

end Stroke

def joined (high low : HexUnit) : Char :=
  Char.ofNat (0x10000 + (high.value - 0xD800) * 0x400 + (low.value - 0xDC00))

def textOf : List Stroke → Option (List Char)
  | [] => some []
  | .plain c _ _ _ :: ss => (textOf ss).map (c :: ·)
  | .short _ c _ :: ss => (textOf ss).map (c :: ·)
  | .unit u :: .unit v :: ss =>
    if isHighUnit u.value && isLowUnit v.value then (textOf ss).map (joined u v :: ·)
    else if isHighUnit u.value || isLowUnit u.value then none
    else (textOf (.unit v :: ss)).map (Char.ofNat u.value :: ·)
  | .unit u :: ss =>
    if isHighUnit u.value || isLowUnit u.value then none
    else (textOf ss).map (Char.ofNat u.value :: ·)

def literal (ss : List Stroke) : List Char :=
  '"' :: (ss.flatMap Stroke.chars ++ ['"'])

structure ExponentText where
  letter : Char
  isLetter : letter = 'e' ∨ letter = 'E'
  sign : List Char
  isSign : sign = [] ∨ sign = ['+'] ∨ sign = ['-']
  digits : Numeral

def ExponentText.chars (e : ExponentText) : List Char := e.letter :: (e.sign ++ e.digits.chars)

structure NumberText where
  negative : Bool
  whole : Numeral
  canonical : whole.chars.head? = some '0' → whole.chars.length = 1
  fraction : Option Numeral
  exponent : Option ExponentText

namespace NumberText

def fractionChars (n : NumberText) : List Char := n.fraction.elim [] fun f => '.' :: f.chars

def exponentChars (n : NumberText) : List Char := n.exponent.elim [] ExponentText.chars

def unsigned (n : NumberText) : List Char := n.whole.chars ++ (n.fractionChars ++ n.exponentChars)

def chars (n : NumberText) : List Char := if n.negative then '-' :: n.unsigned else n.unsigned

def value (n : NumberText) : Json :=
  if n.fraction.isNone && n.exponent.isNone && !(n.negative && n.whole.value == 0) then
    .int (if n.negative then -(n.whole.value : Int) else n.whole.value)
  else .decimal n.chars

end NumberText

mutual

/-- The characters are one value, with no space around it, and spell the document. -/
inductive SpellsValue : List Char → Json → Prop
  | null : SpellsValue ['n', 'u', 'l', 'l'] .null
  | yes : SpellsValue ['t', 'r', 'u', 'e'] (.bool true)
  | no : SpellsValue ['f', 'a', 'l', 's', 'e'] (.bool false)
  | number (n : NumberText) : SpellsValue n.chars n.value
  | string (ss : List Stroke) : SpellsValue (literal ss) (.str ((textOf ss).map String.ofList))
  | emptyArray {gap : List Char} : Space gap → SpellsValue ('[' :: (gap ++ [']'])) (.arr [])
  | array {cs : List Char} {items : List Json} : SpellsItems cs items →
      SpellsValue ('[' :: (cs ++ [']'])) (.arr items)
  | emptyObject {gap : List Char} :
      Space gap → SpellsValue ('\x7b' :: (gap ++ ['\x7d'])) (.obj [])
  | object {cs : List Char} {members : List (Option String × Json)} : SpellsMembers cs members →
      SpellsValue ('\x7b' :: (cs ++ ['\x7d'])) (.obj members)

inductive SpellsPadded : List Char → Json → Prop
  | intro {before cs after : List Char} {j : Json} : Space before → SpellsValue cs j →
      Space after → SpellsPadded (before ++ (cs ++ after)) j

inductive SpellsItems : List Char → List Json → Prop
  | last {cs : List Char} {j : Json} : SpellsPadded cs j → SpellsItems cs [j]
  | more {cs ds : List Char} {j : Json} {js : List Json} : SpellsPadded cs j →
      SpellsItems ds js → SpellsItems (cs ++ ',' :: ds) (j :: js)

inductive SpellsMember : List Char → Option String × Json → Prop
  | intro {before after cs : List Char} {ss : List Stroke} {j : Json} : Space before →
      Space after → SpellsPadded cs j →
      SpellsMember (before ++ (literal ss ++ (after ++ ':' :: cs)))
        ((textOf ss).map String.ofList, j)

inductive SpellsMembers : List Char → List (Option String × Json) → Prop
  | last {cs : List Char} {m : Option String × Json} : SpellsMember cs m → SpellsMembers cs [m]
  | more {cs ds : List Char} {m : Option String × Json} {ms : List (Option String × Json)} :
      SpellsMember cs m → SpellsMembers ds ms → SpellsMembers (cs ++ ',' :: ds) (m :: ms)

end

/-- The text is exactly one document, with space around it or without. -/
def Spells (text : String) (j : Json) : Prop := SpellsPadded text.toList j

end Rollout.Json
