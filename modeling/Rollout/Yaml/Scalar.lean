import Rollout.Json.Parser
import Rollout.Yaml.Cursor

/-!
The text of scalars: without quotes, with one of two kinds of quotes, and in blocks. Where a scalar
goes over several lines, a single line end counts as a space and the first of several does not count
at all.
-/
namespace Rollout.Yaml

structure Gap where
  blanks : List Char := []
  hasBreak : Bool := false
  first : List Char := []
  others : List Char := []

namespace Gap

def text (g : Gap) : List Char :=
  if g.hasBreak then
    if g.first == ['\n'] then if g.others.isEmpty then [' '] else g.others else g.first ++ g.others
  else g.blanks

def read (least : Nat) : Nat → Gap → Cursor → Except Fault (Gap × Cursor)
  | 0, g, c => .ok (g, c)
  | bound + 1, g, c =>
    match c.rest with
    | [] => .ok (g, c)
    | x :: _ =>
      if isSpace x then
        if g.hasBreak && x == '\t' && decide (c.column < least) then .error .badIndentation
        else read least bound (if g.hasBreak then g else { g with blanks := g.blanks ++ [x] })
          c.step
      else if isBreak x then
        read least bound
          (if g.hasBreak then { g with others := g.others ++ [x] }
            else { blanks := [], hasBreak := true, first := [x] })
          c.step
      else .ok (g, c)

end Gap

def isFlowMark (c : Char) : Bool := c == ',' || c == '[' || c == ']' || c == '\x7b' || c == '\x7d'

def plainRun (inFlow : Bool) : List Char → Except Fault (List Char)
  | [] => .ok []
  | c :: cs =>
    if isSpace c || isBreak c || (c == ':' && endsWord cs) || (inFlow && isFlowMark c) then .ok []
    else if inFlow && c == ':' && cs.head?.any fun d => isFlowMark d || d == '?' then
      .error .misplaced
    else (plainRun inFlow cs).map (c :: ·)

def readPlain (inFlow : Bool) (least : Nat) :
    Nat → List Char → Gap → Cursor → Except Fault (List Char × Cursor × Bool)
  | 0, text, gap, c => .ok (text, c, gap.hasBreak)
  | bound + 1, text, gap, c =>
    if c.isAtMark || c.rest.head? == some '#' then .ok (text, c, gap.hasBreak)
    else do
      let run ← plainRun inFlow c.rest
      let behind := c.advance run.length
      if run.isEmpty then return (text, c, gap.hasBreak)
      if !endsWord behind.rest || behind.rest.isEmpty then
        return (text ++ gap.text ++ run, behind, false)
      let (next, behind) ← Gap.read least behind.rest.length {} behind
      if !inFlow && decide (behind.column < least) then
        return (text ++ gap.text ++ run, behind, next.hasBreak)
      readPlain inFlow least bound (text ++ gap.text ++ run) next behind

inductive RunEnd
  | closed
  | gap
  | joined

def charOf? (n : Nat) : Option Char :=
  if h : n.isValidChar then some (Char.ofNatAux n h) else none

def escapeWidth : Char → Option Nat
  | 'x' => some 2
  | 'u' => some 4
  | 'U' => some 8
  | _ => none

def escape? : Char → Option Char
  | '0' => some '\x00'
  | 'a' => some '\x07'
  | 'b' => some '\x08'
  | 't' | '\t' => some '\t'
  | 'n' => some '\n'
  | 'v' => some '\x0b'
  | 'f' => some '\x0c'
  | 'r' => some '\r'
  | 'e' => some '\x1b'
  | ' ' => some ' '
  | '"' => some '"'
  | '/' => some '/'
  | '\\' => some '\\'
  | 'N' => some '\u0085'
  | '_' => some '\u00a0'
  | 'L' => some '\u2028'
  | 'P' => some '\u2029'
  | _ => none

def hexadecimal? (cs : List Char) : Option Nat :=
  cs.foldl (fun n c => do return (← n) * 16 + (← Json.hexDigit? c)) (some 0)

def readEscape : List Char → Except Fault (Char × Nat)
  | [] => .error .unfinished
  | e :: rest =>
    match escapeWidth e with
    | some width =>
      if rest.length < width then .error .unfinished
      else match (hexadecimal? (rest.take width)).bind charOf? with
        | some c => .ok (c, width + 1)
        | none => .error .badEscape
    | none =>
      match escape? e with
      | some c => .ok (c, 1)
      | none => .error .badEscape

def quotedRun (single : Bool) :
    Nat → List Char → Cursor → Except Fault (List Char × Cursor × RunEnd)
  | 0, text, c => .ok (text, c, .gap)
  | bound + 1, text, c =>
    match c.rest with
    | [] => .ok (text, c, .gap)
    | x :: rest =>
      if isSpace x || isBreak x then .ok (text, c, .gap)
      else if single then
        if x == '\'' then
          if rest.head? == some '\'' then quotedRun single bound (text ++ ['\'']) (c.advance 2)
          else .ok (text, c.advance 1, .closed)
        else quotedRun single bound (text ++ [x]) (c.advance 1)
      else if x == '"' then .ok (text, c.advance 1, .closed)
      else if x == '\\' then
        if rest.head?.any isBreak then .ok (text, (c.advance 1).step, .joined)
        else
          match readEscape rest with
          | .error fault => .error fault
          | .ok (e, width) => quotedRun single bound (text ++ [e]) (c.advance (width + 1))
      else quotedRun single bound (text ++ [x]) (c.advance 1)

def readQuoted (single : Bool) : Nat → List Char → Cursor → Except Fault (List Char × Cursor)
  | 0, _, _ => .error .unfinished
  | bound + 1, text, c =>
    if c.isAtMark then .error .misplaced
    else if c.rest.isEmpty then .error .unfinished
    else do
      let (text, c, runEnd) ← quotedRun single c.rest.length text c
      match runEnd with
      | .closed => return (text, c)
      | .gap =>
        let (gap, c) ← Gap.read 0 c.rest.length {} c
        readQuoted single bound (text ++ gap.text) c
      | .joined =>
        let (gap, c) ← Gap.read 0 c.rest.length { hasBreak := true } c
        readQuoted single bound (text ++ gap.text) c

inductive Chomping
  | strip
  | clip
  | keep

def readBlockHeader (c : Cursor) : Except Fault (Chomping × Nat × Cursor) :=
  let chomping? (x : Char) : Option Chomping :=
    if x == '+' then some .keep else if x == '-' then some .strip else none
  let digit? (x : Char) : Option Nat := if x.isDigit then some (x.toNat - '0'.toNat) else none
  let (chomping, indent, count) : Chomping × Option Nat × Nat := match c.rest with
    | x :: y :: _ =>
      match chomping? x, digit? x with
      | some chomping, _ => match digit? y with
        | some n => (chomping, some n, 2)
        | none => (chomping, none, 1)
      | none, some n => match chomping? y with
        | some chomping => (chomping, some n, 2)
        | none => (.clip, some n, 1)
      | none, none => (.clip, none, 0)
    | [x] =>
      match chomping? x, digit? x with
      | some chomping, _ => (chomping, none, 1)
      | none, some n => (.clip, some n, 1)
      | none, none => (.clip, none, 0)
    | [] => (.clip, none, 0)
  if indent == some 0 then .error .badIndentation
  else match (c.advance count).skipRestOfLine with
    | some c => .ok (chomping, indent.getD 0, c)
    | none => .error .misplaced

/-- Empty lines in a block: their ends, the place behind them, and the widest indentation among
them. The indentation of the block is 0 while it is not known. -/
def readBlockBreaks (indent : Nat) :
    Nat → List Char → Nat → Cursor → Except Fault (List Char × Nat × Cursor)
  | 0, breaks, widest, c => .ok (breaks, widest, c)
  | bound + 1, breaks, widest, c =>
    let spaces := (c.rest.takeWhile (· == ' ')).length
    let c := c.advance (if indent == 0 then spaces else min spaces (indent - c.column))
    let widest := max widest c.column
    if (indent == 0 || decide (c.column < indent)) && c.rest.head? == some '\t' then
      .error .badIndentation
    else match c.rest with
      | x :: _ =>
        if isBreak x then readBlockBreaks indent bound (breaks ++ [x]) widest c.step
        else .ok (breaks, widest, c)
      | [] => .ok (breaks, widest, c)

def readBlockLines (literal : Bool) (indent : Nat) (chomping : Chomping) :
    Nat → List Char → List Char → List Char → Bool → Cursor →
      Except Fault (List Char × Cursor)
  | 0, text, _, _, _, c => .ok (text, c)
  | bound + 1, text, first, others, wasBlank, c =>
    if c.column != indent || c.rest.isEmpty then
      .ok (match chomping with
        | .strip => text
        | .clip => text ++ first
        | .keep => text ++ first ++ others, c)
    else do
      let isBlank := c.rest.head?.any isSpace
      let gap :=
        if !literal && first == ['\n'] && !wasBlank && !isBlank then
          if others.isEmpty then [' '] else others
        else first ++ others
      let (line, c) := c.takeWhile fun x => !isBreak x
      let first := c.rest.take 1
      let (others, _, c) ← readBlockBreaks indent c.rest.length [] 0 c.step
      readBlockLines literal indent chomping bound (text ++ gap ++ line) first others isBlank c

def readBlock (literal : Bool) (around : Option Nat) (c : Cursor) :
    Except Fault (List Char × Cursor) := do
  let (chomping, increment, c) ← readBlockHeader c
  let least := match around with
    | some column => column + 1
    | none => 0
  let known := if increment == 0 then 0 else (around.getD 0) + increment
  let (breaks, widest, c) ← readBlockBreaks known c.rest.length [] 0 c
  let indent := if known == 0 then max (max widest least) 1 else known
  readBlockLines literal indent chomping (c.rest.length + 1) [] [] breaks false c

end Rollout.Yaml
