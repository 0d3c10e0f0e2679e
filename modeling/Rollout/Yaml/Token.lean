import Rollout.Yaml.Scalar

/-!
The tokens of a YAML text. Indentation shows in them as the begin and the end of block collections.
That something is a key is known only at the colon behind it; so each token that can begin a key
leaves a spot in front of it, and the colon chooses the spot.
-/
namespace Rollout.Yaml

inductive Token
  | documentStart
  | documentEnd
  | version (major minor : Nat)
  | tagHandle (handle replacement : List Char)
  | blockSequence
  | blockMapping
  | blockEnd
  | blockEntry
  | flowSequence
  | flowSequenceEnd
  | flowMapping
  | flowMappingEnd
  | flowEntry
  | key
  | value
  | anchor (name : List Char)
  | alias (name : List Char)
  | tag (handle suffix : List Char)
  | scalar (isPlain : Bool) (text : List Char)
  deriving DecidableEq, Repr

/-- What is found in a text: a token, or a spot where a key may begin. -/
inductive Piece
  | token (t : Token)
  | spot (number : Nat)

structure PossibleKey where
  spot : Nat
  index : Nat
  line : Nat
  column : Nat
  isRequired : Bool

structure Lexer where
  cursor : Cursor
  pieces : List Piece := []
  spots : Nat := 0
  /-- The spots at which keys begin, and whether a block mapping begins there too. -/
  chosen : List (Nat × Bool) := []
  indents : List Nat := []
  /-- The possible key at each level of brackets, the innermost first. -/
  keys : List (Option PossibleKey) := [none]
  keyAllowed : Bool := true

namespace Lexer

def inFlow (l : Lexer) : Bool := 1 < l.keys.length

def isDeeper (l : Lexer) (column : Nat) : Bool :=
  match l.indents with
  | [] => true
  | innermost :: _ => innermost < column

def push (l : Lexer) (t : Token) : Lexer := { l with pieces := .token t :: l.pieces }

def skip (l : Lexer) (n : Nat) : Lexer := { l with cursor := l.cursor.advance n }

def allowKey (l : Lexer) (b : Bool) : Lexer := { l with keyAllowed := b }

def unroll (l : Lexer) (column : Option Nat) : Lexer :=
  if l.inFlow then l
  else
    let isBehind (indent : Nat) : Bool := match column with
      | some column => column < indent
      | none => true
    let closed := l.indents.takeWhile isBehind
    { l with
      indents := l.indents.drop closed.length
      pieces := closed.map (fun _ => .token .blockEnd) ++ l.pieces }

def roll (l : Lexer) (t : Token) : Lexer :=
  let column := l.cursor.column
  if !l.inFlow && l.isDeeper column then
    { l with indents := column :: l.indents, pieces := .token t :: l.pieces } else l

def dropKey (l : Lexer) : Except Fault Lexer :=
  match l.keys with
  | some k :: keys =>
    if k.isRequired then .error .missingColon else .ok { l with keys := none :: keys }
  | _ => .ok l

def dropStaleKeys (l : Lexer) : Except Fault Lexer := do
  let keys ← l.keys.mapM fun
    | none => .ok none
    | some k =>
      if k.line < l.cursor.line || k.index + 1024 < l.cursor.index then
        if k.isRequired then .error Fault.missingColon else .ok none
      else .ok (some k)
  return { l with keys }

def saveKey (l : Lexer) : Except Fault Lexer :=
  if l.keyAllowed then do
    let l ← l.dropKey
    let c := l.cursor
    let isRequired := !l.inFlow && l.indents.head? == some c.column
    return { l with
      keys := some ⟨l.spots, c.index, c.line, c.column, isRequired⟩ :: l.keys.tail
      pieces := .spot l.spots :: l.pieces
      spots := l.spots + 1 }
  else .ok l

def skipGap : Nat → Lexer → Lexer
  | 0, l => l
  | bound + 1, l =>
    let mayTab := l.inFlow || !l.keyAllowed
    let spaces := l.cursor.takeWhile fun x => x == ' ' || (mayTab && x == '\t')
    let c := spaces.2.skipComment
    match c.rest with
    | x :: _ =>
      if isBreak x then
        skipGap bound { l with cursor := c.step, keyAllowed := l.keyAllowed || !l.inFlow }
      else { l with cursor := c }
    | [] => { l with cursor := c }

def documentMark (l : Lexer) (t : Token) : Except Fault Lexer := do
  let l ← (l.unroll none).dropKey
  return ((l.allowKey false).skip 3).push t

def flowStart (l : Lexer) (t : Token) : Except Fault Lexer := do
  let l ← l.saveKey
  return (({ l with keys := none :: l.keys }.allowKey true).skip 1).push t

def flowEnd (l : Lexer) (t : Token) : Except Fault Lexer := do
  let l ← l.dropKey
  let keys := if l.inFlow then l.keys.tail else l.keys
  return (({ l with keys }.allowKey false).skip 1).push t

def flowEntry (l : Lexer) : Except Fault Lexer := do
  let l ← l.dropKey
  return ((l.allowKey true).skip 1).push .flowEntry

def blockEntry (l : Lexer) : Except Fault Lexer := do
  if !l.inFlow && !l.keyAllowed then throw .misplaced
  let l ← (l.roll .blockSequence).dropKey
  return ((l.allowKey true).skip 1).push .blockEntry

def explicitKey (l : Lexer) : Except Fault Lexer := do
  if !l.inFlow && !l.keyAllowed then throw .misplaced
  let l ← (l.roll .blockMapping).dropKey
  return ((l.allowKey (!l.inFlow)).skip 1).push .key

def colon (l : Lexer) : Except Fault Lexer :=
  match l.keys with
  | some k :: keys =>
    let opens := !l.inFlow && l.isDeeper k.column
    let l := { l with
      keys := none :: keys
      chosen := (k.spot, opens) :: l.chosen
      indents := if opens then k.column :: l.indents else l.indents }
    .ok (((l.allowKey false).skip 1).push .value)
  | _ =>
    if !l.inFlow && !l.keyAllowed then .error .misplaced
    else .ok ((((l.roll .blockMapping).allowKey (!l.inFlow)).skip 1).push .value)

def isNameChar (c : Char) : Bool := c.isAlphanum || c == '-' || c == '_'

def name (l : Lexer) (t : List Char → Token) : Except Fault Lexer := do
  let l := (← l.saveKey).allowKey false
  let (text, c) := (l.cursor.advance 1).takeWhile isNameChar
  let ends :=
    endsWord c.rest || c.rest.head?.any fun x =>
      ['?', ':', ',', ']', '\x7d', '%', '@', '\x60'].contains x
  if text.isEmpty || !ends then throw .badName
  return { l with cursor := c }.push (t text)

def isTagChar (c : Char) : Bool :=
  isNameChar c || [';', '/', '?', ':', '@', '&', '=', '+', '$', '.', '!', '~', '*', '\'', '(', ')',
    '%'].contains c

def tagParts (c : Cursor) : Except Fault (List Char × List Char × Cursor) :=
  match c.rest with
  | '<' :: _ =>
    let (uri, c) := (c.advance 1).takeWhile fun x => isTagChar x || x == ',' || x == '[' || x == ']'
    match c.rest with
    | '>' :: _ => if uri.isEmpty then .error .badTag else .ok ([], uri, c.advance 1)
    | _ => .error .badTag
  | _ =>
    let (word, c) := c.takeWhile isNameChar
    match c.rest with
    | '!' :: _ =>
      let (suffix, c) := (c.advance 1).takeWhile isTagChar
      if suffix.isEmpty then .error .badTag else .ok ('!' :: (word ++ ['!']), suffix, c)
    | _ =>
      let (more, c) := c.takeWhile isTagChar
      if (word ++ more).isEmpty then .ok ([], ['!'], c) else .ok (['!'], word ++ more, c)

def tag (l : Lexer) : Except Fault Lexer := do
  let l := (← l.saveKey).allowKey false
  let (handle, suffix, c) ← tagParts (l.cursor.advance 1)
  if !(endsWord c.rest || (l.inFlow && c.rest.head? == some ',')) then throw .badTag
  return { l with cursor := c }.push (.tag handle suffix)

def directiveOf (c : Cursor) : Except Fault (Token × Cursor) :=
  let (word, c) := c.takeWhile isNameChar
  let c := (c.takeWhile isSpace).2
  let isWord (x : Char) : Bool := !isSpace x && !isBreak x
  if word == "YAML".toList then
    let (major, c) := c.takeWhile Char.isDigit
    let (minor, c) := match c.rest with
      | '.' :: _ => (c.advance 1).takeWhile Char.isDigit
      | _ => ([], c)
    if major.isEmpty || minor.isEmpty then .error .badDirective
    else .ok (.version (Text.ofDigits major) (Text.ofDigits minor), c)
  else if word == "TAG".toList then
    let (handle, c) := c.takeWhile isWord
    let (replacement, c) := ((c.takeWhile isSpace).2).takeWhile isWord
    if handle.head? != some '!' || handle.getLast? != some '!' || replacement.isEmpty then
      .error .badDirective
    else .ok (.tagHandle handle replacement, c)
  else .error .badDirective

def directive (l : Lexer) : Except Fault Lexer := do
  let l := (← (l.unroll none).dropKey).allowKey false
  let (t, c) ← directiveOf (l.cursor.advance 1)
  match c.skipRestOfLine with
  | some c => return { l with cursor := c }.push t
  | none => throw .badDirective

def block (l : Lexer) (literal : Bool) : Except Fault Lexer := do
  let l := (← l.dropKey).allowKey true
  let (text, c) ← readBlock literal l.indents.head? (l.cursor.advance 1)
  return { l with cursor := c }.push (.scalar false text)

def quotedScalar (l : Lexer) (single : Bool) : Except Fault Lexer := do
  let l := (← l.saveKey).allowKey false
  let c := l.cursor.advance 1
  let (text, c) ← readQuoted single (c.rest.length + 1) [] c
  return { l with cursor := c }.push (.scalar false text)

def plainScalar (l : Lexer) : Except Fault Lexer := do
  let l := (← l.saveKey).allowKey false
  let least := match l.indents with
    | [] => 0
    | innermost :: _ => innermost + 1
  let (text, c, brokeOff) ← readPlain l.inFlow least (l.cursor.rest.length + 1) [] {} l.cursor
  return ({ l with cursor := c }.allowKey brokeOff).push (.scalar true text)

def indicators : List Char :=
  ['-', '?', ':', ',', '[', ']', '\x7b', '\x7d', '#', '&', '*', '!', '|', '>', '\'', '"', '%',
    '@', '\x60']

def next (l : Lexer) : Except Fault (Lexer × Bool) := do
  let l ← (l.skipGap l.cursor.rest.length.succ).dropStaleKeys
  let l := l.unroll (some l.cursor.column)
  let c := l.cursor
  let more (l : Except Fault Lexer) : Except Fault (Lexer × Bool) := l.map fun l => (l, true)
  match c.rest with
  | [] => return (← (l.unroll none).dropKey, false)
  | x :: rest =>
    if c.column == 0 && x == '%' then more l.directive
    else if c.isAt Cursor.startMark then more (l.documentMark .documentStart)
    else if c.isAt Cursor.endMark then more (l.documentMark .documentEnd)
    else if x == '[' then more (l.flowStart .flowSequence)
    else if x == '\x7b' then more (l.flowStart .flowMapping)
    else if x == ']' then more (l.flowEnd .flowSequenceEnd)
    else if x == '\x7d' then more (l.flowEnd .flowMappingEnd)
    else if x == ',' then more l.flowEntry
    else if x == '-' && endsWord rest then more l.blockEntry
    else if x == '?' && (l.inFlow || endsWord rest) then more l.explicitKey
    else if x == ':' && (l.inFlow || endsWord rest) then more l.colon
    else if x == '*' then more (l.name .alias)
    else if x == '&' then more (l.name .anchor)
    else if x == '!' then more l.tag
    else if x == '|' && !l.inFlow then more (l.block true)
    else if x == '>' && !l.inFlow then more (l.block false)
    else if x == '\'' then more (l.quotedScalar true)
    else if x == '"' then more (l.quotedScalar false)
    else
      let isPlain :=
        !(isSpace x || indicators.contains x) || (x == '-' && !rest.head?.any isSpace) ||
        (!l.inFlow && (x == '?' || x == ':'))
      if isPlain then more l.plainScalar else throw .misplaced

def run : Nat → Lexer → Except Fault Lexer
  | 0, l => .ok l
  | bound + 1, l => do
    let (l, goesOn) ← l.next
    if goesOn then run bound l else return l

def tokens (l : Lexer) : List Token :=
  l.pieces.reverse.flatMap fun
    | .token t => [t]
    | .spot number =>
      match l.chosen.find? (·.1 == number) with
      | some (_, true) => [.blockMapping, .key]
      | some (_, false) => [.key]
      | none => []

end Lexer

def Token.scan (text : List Char) : Except Fault (List Token) := do
  let text := match text with
    | '\ufeff' :: cs => cs
    | cs => cs
  if !text.all isAllowed then throw .badCharacter
  let l : Lexer := { cursor := { rest := unifyBreaks text } }
  return (← l.run (text.length + 1)).tokens

end Rollout.Yaml
