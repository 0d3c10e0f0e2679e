import Rollout.Json.Basic

/-!
Reading JSON. Each reader takes what it reads off the front of the characters and returns the rest.
Values are read with a bound on the number of steps; `Json.parse` takes one that no document
exceeds.
-/
namespace Rollout.Json
open Text

def isSpace (c : Char) : Bool :=
  c == ' ' || c == '\n' || c == '\r' || c == '\t'

def skipSpace (cs : List Char) : List Char :=
  cs.dropWhile isSpace

def hexDigit? (c : Char) : Option Nat :=
  if '0' ≤ c ∧ c ≤ '9' then some (c.toNat - '0'.toNat)
  else if 'a' ≤ c ∧ c ≤ 'f' then some (c.toNat - 'a'.toNat + 10)
  else if 'A' ≤ c ∧ c ≤ 'F' then some (c.toNat - 'A'.toNat + 10)
  else none

def unit? (a b c d : Char) : Option Nat := do
  return ((← hexDigit? a) * 16 + (← hexDigit? b)) * 256 +
    ((← hexDigit? c) * 16 + (← hexDigit? d))

def escape? : Char → Option Char
  | '"' => some '"'
  | '\\' => some '\\'
  | '/' => some '/'
  | 'b' => some '\x08'
  | 'f' => some '\x0c'
  | 'n' => some '\n'
  | 'r' => some '\r'
  | 't' => some '\t'
  | _ => none

def isHighUnit (n : Nat) : Bool := 0xD800 ≤ n && n ≤ 0xDBFF

def isLowUnit (n : Nat) : Bool := 0xDC00 ≤ n && n ≤ 0xDFFF

abbrev Body := Option (Option (List Char) × List Char)

def Body.push (c : Option Char) (body : Body) : Body :=
  body.map fun (text, rest) => (do return (← c) :: (← text), rest)

def readBody : List Char → Body
  | [] => none
  | '"' :: rest => some (some [], rest)
  | '\\' :: 'u' :: a :: b :: c :: d :: rest =>
    match unit? a b c d with
    | none => none
    | some n =>
      if isLowUnit n then (readBody rest).push none
      else if isHighUnit n then
        match _h : rest with
        | '\\' :: 'u' :: e :: f :: g :: k :: rest' =>
          match unit? e f g k with
          | none => none
          | some m =>
            if isLowUnit m then
              (readBody rest').push
                (some (Char.ofNat (0x10000 + (n - 0xD800) * 0x400 + (m - 0xDC00))))
            else (readBody rest').push none
        | _ => (readBody rest).push none
      else (readBody rest).push (some (Char.ofNat n))
  | '\\' :: e :: rest =>
    match escape? e with
    | none => none
    | some c => (readBody rest).push (some c)
  | c :: rest => if c.toNat < 32 || c == '\\' then none else (readBody rest).push (some c)
termination_by cs => cs.length
decreasing_by all_goals simp_all <;> omega

def readDigits (cs : List Char) : List Char × List Char :=
  (cs.takeWhile Char.isDigit, cs.dropWhile Char.isDigit)

def readFraction : List Char → Option (List Char × List Char)
  | '.' :: cs =>
    match readDigits cs with
    | ([], _) => none
    | (ds, rest) => some ('.' :: ds, rest)
  | cs => some ([], cs)

def readSign : List Char → List Char × List Char
  | '+' :: cs => (['+'], cs)
  | '-' :: cs => (['-'], cs)
  | cs => ([], cs)

def readExponent (cs : List Char) : Option (List Char × List Char) :=
  match cs with
  | [] => some ([], [])
  | c :: rest =>
    if c = 'e' ∨ c = 'E' then
      match readDigits (readSign rest).2 with
      | ([], _) => none
      | (ds, rest') => some (c :: ((readSign rest).1 ++ ds), rest')
    else some ([], cs)

def readNumber (negative : Bool) (cs : List Char) : Option (Json × List Char) := do
  let (whole, rest) := readDigits cs
  if whole.isEmpty || (whole.head? == some '0' && whole.length != 1) then none
  else
    let (fraction, rest) ← readFraction rest
    let (exponent, rest) ← readExponent rest
    let n := ofDigits whole
    if fraction.isEmpty && exponent.isEmpty && !(negative && n == 0) then
      return (.int (if negative then -(n : Int) else n), rest)
    else return (.decimal ((if negative then ['-'] else []) ++ whole ++ fraction ++ exponent), rest)

def expect (word cs : List Char) : Option (List Char) :=
  if word.isPrefixOf cs then some (cs.drop word.length) else none

mutual

def readValue : Nat → List Char → Option (Json × List Char)
  | 0, _ => none
  | _ + 1, [] => none
  | n + 1, c :: cs =>
    if c = '"' then (readBody cs).map fun (text, rest) => (.str (text.map String.ofList), rest)
    else if c = '[' then
      match skipSpace cs with
      | ']' :: rest => some (.arr [], rest)
      | rest => (readItems n rest).map fun (items, rest) => (.arr items, rest)
    else if c = '\x7b' then
      match skipSpace cs with
      | '\x7d' :: rest => some (.obj [], rest)
      | rest => (readMembers n rest).map fun (members, rest) => (.obj members, rest)
    else if c = '-' then readNumber true cs
    else if c.isDigit then readNumber false (c :: cs)
    else if c = 'n' then (expect ['u', 'l', 'l'] cs).map fun rest => (.null, rest)
    else if c = 't' then (expect ['r', 'u', 'e'] cs).map fun rest => (.bool true, rest)
    else if c = 'f' then (expect ['a', 'l', 's', 'e'] cs).map fun rest => (.bool false, rest)
    else none

def readItems : Nat → List Char → Option (List Json × List Char)
  | 0, _ => none
  | n + 1, cs => do
    let (item, rest) ← readValue n cs
    match skipSpace rest with
    | ',' :: rest =>
      let (items, rest) ← readItems n (skipSpace rest)
      return (item :: items, rest)
    | ']' :: rest => return ([item], rest)
    | _ => none

def readMembers : Nat → List Char → Option (List (Option String × Json) × List Char)
  | 0, _ => none
  | n + 1, cs => do
    match cs with
    | '"' :: cs =>
      let (key, rest) ← readBody cs
      match skipSpace rest with
      | ':' :: rest =>
        let (value, rest) ← readValue n (skipSpace rest)
        let member := (key.map String.ofList, value)
        match skipSpace rest with
        | ',' :: rest =>
          let (members, rest) ← readMembers n (skipSpace rest)
          return (member :: members, rest)
        | '\x7d' :: rest => return ([member], rest)
        | _ => none
      | _ => none
    | _ => none

end

def parse (cs : List Char) : Option Json :=
  match readValue (cs.length + 1) (skipSpace cs) with
  | some (j, rest) => if (skipSpace rest).isEmpty then some j else none
  | none => none

def ofText? (text : String) : Option Json :=
  parse text.toList

end Rollout.Json
