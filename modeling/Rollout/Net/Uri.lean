import Rollout.Text.Cut
import Rollout.Text.Utf8

/-!
Addresses. An address has a scheme, an authority, a path and a query; or it is a path with a query
alone, or an authority alone. What follows the first `#` does not belong to it.
-/
namespace Rollout
open Text

structure Uri where
  scheme : Option (List Char) := none
  authority : List Char := []
  path : List Char := []
  query : Option (List Char) := none
  deriving DecidableEq, Repr, Inhabited

namespace Uri

def isAuthorityChar (c : Char) : Bool :=
  c.isAlphanum || "!$&'()*+,-.:;=@[]_~".toList.contains c

def isSchemeChar (c : Char) : Bool :=
  c.isAlphanum || "+-.~".toList.contains c

def isPathChar (c : Char) : Bool :=
  let n := c.toNat
  -- what is not in ASCII stands for itself
  0x7F ≤ n || (0x21 ≤ n && !"#<>?\x60".toList.contains c)

def isQueryChar (c : Char) : Bool :=
  let n := c.toNat
  0x7F ≤ n || (0x21 ≤ n && !"\"#<>".toList.contains c)

def maxLength : Nat := 65534

def maxSchemeLength : Nat := 64

def webSchemes : List (List Char) := ["http".toList, "https".toList]

def splitScheme (cs : List Char) : Option (Option (List Char) × List Char) :=
  let scheme := cs.takeWhile isSchemeChar
  match cs.drop scheme.length with
  | ':' :: '/' :: '/' :: rest =>
    let lower := scheme.map Char.toLower
    if webSchemes.contains lower then some (some lower, rest)
    else if maxSchemeLength < scheme.length then none
    else if cs.length < 4 then some (none, cs)
    else some (some scheme, rest)
  | _ => some (none, cs)

/-- What is known about an authority while it is read: colons and percent signs since the last `@`
or bracket, whether each bracket was there, and whether the last character is an `@`. -/
structure AuthorityScan where
  colons : Nat := 0
  percent : Bool := false
  opened : Bool := false
  closed : Bool := false
  endsInAt : Bool := false

def AuthorityScan.step (s : AuthorityScan) (c : Char) : Option AuthorityScan :=
  let s := { s with endsInAt := false }
  if c == ':' then if 8 ≤ s.colons then none else some { s with colons := s.colons + 1 }
  else if c == '[' then if s.percent || s.opened then none else some { s with opened := true }
  else if c == ']' then
    if !s.opened || s.closed then none
    else some { s with closed := true, colons := 0, percent := false }
  else if c == '@' then some { s with colons := 0, percent := false, endsInAt := true }
  else if c == '%' then some { s with percent := true }
  else if isAuthorityChar c then some s
  else none

def isAuthority (cs : List Char) : Bool :=
  match cs.foldlM AuthorityScan.step {} with
  | none => false
  | some s => s.opened == s.closed && decide (s.colons ≤ 1) && !s.endsInAt && !s.percent

def isAuthorityEnd (c : Char) : Bool := c == '/' || c == '?' || c == '#'

def splitPath (cs : List Char) : Option (List Char × Option (List Char)) :=
  let cs := cs.takeWhile (· != '#')
  let (path, query) := match cutAt? '?' cs with
    | some (path, query) => (path, some query)
    | none => (cs, none)
  if path.all isPathChar && (query.getD []).all isQueryChar then some (path, query) else none

def parse? (cs : List Char) : Option Uri :=
  if cs.isEmpty || maxLength < (encodeUtf8 cs).length then none
  else if cs == ['*'] then some { path := cs }
  else if cs.head? == some '/' then (splitPath cs).map fun (path, query) => { path, query }
  else do
    let (scheme, rest) ← splitScheme cs
    let authority := rest.takeWhile fun c => !isAuthorityEnd c
    let behind := rest.drop authority.length
    if !isAuthority authority then none
    match scheme with
    | none => if behind.isEmpty then some { authority } else none
    | some scheme =>
      if authority.isEmpty then none
      let (path, query) ← splitPath behind
      return {
        scheme := some scheme, authority, path := if path.isEmpty then ['/'] else path, query }

def render (u : Uri) : List Char :=
  (match u.scheme with
    | none => []
    | some scheme => scheme ++ "://".toList) ++ u.authority ++ u.path ++
  match u.query with
  | none => []
  | some query => '?' :: query

instance : ToString Uri := ⟨fun u => String.ofList u.render⟩

end Uri
end Rollout
