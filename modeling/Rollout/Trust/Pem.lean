import Rollout.Text.Base64
import Rollout.Text.Blank
import Rollout.Text.Cut

/-!
Binary data as text between two marked lines. The first block in a text counts, whatever its tag is;
what stands around it is left out of account. Lines of the form `key: value` may stand first, up to
an empty line. The rest is base 64, blank characters aside.
-/
namespace Rollout.Pem
open Text

inductive Fault
  | noBlock
  | emptyTag
  | differentTags (first last : String)
  | badHeader (line : String)
  | badContent
  deriving DecidableEq, Repr

def Fault.message : Fault → String
  | noBlock => "malformed framing"
  | emptyTag => "missing tag"
  | differentTags first last =>
    "mismatching BEGIN (" ++ quotedTag first ++ ") and END (" ++ quotedTag last ++ ") tags"
  | badHeader line => "invalid header: " ++ line
  | badContent => "invalid data"
where
  quotedTag (tag : String) : String := "\"" ++ tag ++ "\""

def beginMark : List Char := "-----BEGIN ".toList
def endMark : List Char := "-----END ".toList
def markEnd : List Char := "-----".toList

def isGap (c : Char) : Bool :=
  c == ' ' || c == '\t' || c == '\n' || c == '\r'

structure Block where
  first : List Char
  body : List Char
  last : List Char
  rest : List Char

def block? (cs : List Char) : Option Block := do
  let (_, rest) ← cutOn? beginMark cs
  let (first, rest) ← cutOn? markEnd rest
  let (body, rest) ← cutOn? endMark (rest.dropWhile isGap)
  let (last, rest) ← cutOn? markEnd rest
  return ⟨first, body, last, rest⟩

def splitHeaders (body : List Char) : List Char × List Char :=
  match cutOn? ['\n', '\n'] body with
  | some parts => parts
  | none =>
    match cutOn? ['\r', '\n', '\r', '\n'] body with
    | some parts => parts
    | none => ([], body)

def badHeader? (headers : List Char) : Option (List Char) :=
  if headers.isEmpty then none else (pieces '\n' headers).find? fun line => !line.contains ':'

def Block.data (b : Block) : Except Fault (List UInt8) :=
  if b.first.isEmpty || b.last.isEmpty then .error .emptyTag
  else if b.first ≠ b.last then
    .error (.differentTags (String.ofList b.first) (String.ofList b.last))
  else
    let (headers, content) := splitHeaders b.body
    match decodeBase64 (content.filter fun c => !isBlank c) with
    | none => .error .badContent
    | some bytes =>
      match badHeader? headers with
      | some line => .error (.badHeader (String.ofList line))
      | none => .ok bytes

def decode (cs : List Char) : Except Fault (List UInt8) :=
  match block? cs with
  | none => .error .noBlock
  | some b => b.data

def blocks : Nat → List Char → List Block
  | 0, _ => []
  | bound + 1, cs =>
    match block? cs with
    | none => []
    | some b => b :: blocks bound b.rest

def certificates (cs : List Char) : Except Fault (List (List UInt8)) := do
  let all ← (blocks cs.length cs).mapM fun b => b.data.map fun data => (b.first, data)
  return (all.filter fun p => p.1 == "CERTIFICATE".toList).map (·.2)

def wrap (cs : List Char) : List Char :=
  match cs with
  | [] => []
  | c :: rest => ((c :: rest).take 64) ++ '\n' :: wrap ((c :: rest).drop 64)
termination_by cs.length
decreasing_by simp only [List.length_drop, List.length_cons]; omega

def encode (tag : String) (bytes : List UInt8) : List Char :=
  beginMark ++ tag.toList ++ markEnd ++ '\n' ::
    (wrap (encodeBase64 bytes) ++ endMark ++ tag.toList ++ markEnd ++ ['\n'])

end Rollout.Pem
