import Rollout.Json.Basic

/-!
Writing JSON without any space between the tokens. Quotes, backslashes and controls are escaped, all
other characters stand for themselves.
-/
namespace Rollout.Json
open Text

def writeChar (c : Char) : List Char :=
  if c = '"' then ['\\', '"']
  else if c = '\\' then ['\\', '\\']
  else if c = '\n' then ['\\', 'n']
  else if c = '\r' then ['\\', 'r']
  else if c = '\t' then ['\\', 't']
  else if c = '\x08' then ['\\', 'b']
  else if c = '\x0c' then ['\\', 'f']
  else if c.toNat < 32 then
    ['\\', 'u', '0', '0', Nat.digitChar (c.toNat / 16), Nat.digitChar (c.toNat % 16)]
  else [c]

def writeString (s : String) : List Char :=
  '"' :: (s.toList.flatMap writeChar ++ ['"'])

def writeInt : Int → List Char
  | .ofNat n => digits n
  | .negSucc n => '-' :: digits (n + 1)

mutual

def render : Json → List Char
  | null => ['n', 'u', 'l', 'l']
  | bool true => ['t', 'r', 'u', 'e']
  | bool false => ['f', 'a', 'l', 's', 'e']
  | int n => writeInt n
  | decimal literal => literal
  | str text => writeString (text.getD "")
  | arr items => '[' :: (renderItems items ++ [']'])
  | obj members => '\x7b' :: (renderMembers members ++ ['\x7d'])

def renderItems : List Json → List Char
  | [] => []
  | [j] => render j
  | j :: k :: js => render j ++ ',' :: renderItems (k :: js)

def renderMembers : List (Option String × Json) → List Char
  | [] => []
  | [(key, j)] => writeString (key.getD "") ++ ':' :: render j
  | (key, j) :: m :: ms =>
    writeString (key.getD "") ++ ':' :: (render j ++ ',' :: renderMembers (m :: ms))

end

def toText (j : Json) : String :=
  String.ofList j.render

end Rollout.Json
