import Rollout.Text.Decimal

/-!
A place in a YAML text, with its line and column, and what can be wrong there. All line ends but two
are one character here; the two separators of the Unicode standard keep their form.
-/
namespace Rollout.Yaml

inductive Fault
  | badCharacter
  | badIndentation
  | badEscape
  | badDirective
  | badTag
  | badName
  | badNumber
  | misplaced
  | unfinished
  | missingColon
  | unknownAlias (name : String)
  | duplicateKey
  | tooDeep
  deriving DecidableEq, Repr

def Fault.message : Fault → String
  | badCharacter => "character not allowed"
  | badIndentation => "tab in the indentation"
  | badEscape => "unknown escape"
  | badDirective => "unknown directive"
  | badTag => "malformed tag"
  | badName => "malformed anchor or alias"
  | badNumber => "number too large"
  | misplaced => "not allowed in this context"
  | unfinished => "unexpected end"
  | missingColon => "could not find expected ':'"
  | unknownAlias name => "unknown alias " ++ name
  | duplicateKey => "duplicate entry"
  | tooDeep => "recursion limit exceeded"

def isBreak (c : Char) : Bool := c == '\n' || c == '\u2028' || c == '\u2029'

def isSpace (c : Char) : Bool := c == ' ' || c == '\t'

def endsWord : List Char → Bool
  | [] => true
  | c :: _ => isSpace c || isBreak c

def isAllowed (c : Char) : Bool :=
  let n := c.toNat
  n == 9 || n == 10 || n == 13 || (0x20 ≤ n && n ≤ 0x7E) || n == 0x85 ||
    (0xA0 ≤ n && n ≤ 0xFFFD && n != 0xFEFF) || 0x10000 ≤ n

def unifyBreaks : List Char → List Char
  | '\r' :: '\n' :: cs => '\n' :: unifyBreaks cs
  | '\r' :: cs | '\u0085' :: cs => '\n' :: unifyBreaks cs
  | c :: cs => c :: unifyBreaks cs
  | [] => []

structure Cursor where
  rest : List Char
  index : Nat := 0
  line : Nat := 0
  column : Nat := 0

namespace Cursor

def advance (c : Cursor) (n : Nat) : Cursor :=
  { c with rest := c.rest.drop n, index := c.index + n, column := c.column + n }

def step (c : Cursor) : Cursor :=
  match c.rest with
  | [] => c
  | x :: xs =>
    if isBreak x then ⟨xs, c.index + 1, c.line + 1, 0⟩
    else ⟨xs, c.index + 1, c.line, c.column + 1⟩

def takeWhile (c : Cursor) (p : Char → Bool) : List Char × Cursor :=
  let taken := c.rest.takeWhile p
  (taken, c.advance taken.length)

def skipComment (c : Cursor) : Cursor :=
  match c.rest with
  | '#' :: _ => (c.takeWhile fun x => !isBreak x).2
  | _ => c

def skipRestOfLine (c : Cursor) : Option Cursor :=
  let c := ((c.takeWhile isSpace).2).skipComment
  match c.rest with
  | [] => some c
  | x :: _ => if isBreak x then some c.step else none

def isAt (c : Cursor) (mark : List Char) : Bool :=
  c.column == 0 && mark.isPrefixOf c.rest && endsWord (c.rest.drop mark.length)

def startMark : List Char := ['-', '-', '-']
def endMark : List Char := ['.', '.', '.']

def isAtMark (c : Cursor) : Bool := c.isAt startMark || c.isAt endMark

end Cursor
end Rollout.Yaml
