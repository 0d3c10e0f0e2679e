import Rollout.Yaml.Token
import Rollout.Yaml.Value

/-!
The documents of a YAML text. An alias stands for the value that had its name last, once that value
is complete; no key may be given twice; and collections may not be nested too deeply.
-/
namespace Rollout.Yaml

def maxDepth : Nat := 128

/-- What is known on the way through a document: what the handles of tags stand for, and the values
with names. A value that is not complete yet is `none`. -/
structure Scope where
  handles : List (List Char × List Char) := []
  anchors : List (List Char × Option Value) := []

namespace Scope

def standardHandles : List (List Char × List Char) :=
  [(['!'], ['!']), (['!', '!'], "tag:yaml.org,2002:".toList)]

def tag? (s : Scope) (handle suffix : List Char) : Except Fault (List Char) :=
  if handle.isEmpty then .ok suffix
  else match (s.handles ++ standardHandles).find? (·.1 == handle) with
    | some (_, replacement) => .ok (replacement ++ suffix)
    | none => .error .badTag

def bind (s : Scope) (name : Option (List Char)) (v : Option Value) : Scope :=
  match name with
  | none => s
  | some name => { s with anchors := (name, v) :: s.anchors }

def find? (s : Scope) (name : List Char) : Except Fault Value :=
  match s.anchors.find? (·.1 == name) with
  | none => .error (.unknownAlias (String.ofList name))
  | some (_, none) => .error .tooDeep
  | some (_, some v) => .ok v

end Scope

def scalarValue (tag : Option (List Char)) (isPlain : Bool) (text : List Char) :
    Except Fault Value :=
  let plain : Except Fault Value :=
    match Scalar.plain? text with
    | some v => .ok v
    | none => .error .badNumber
  let insist (ok : Bool) (v : Value) : Except Fault Value := if ok then .ok v else .error .badTag
  match tag with
  | none => if isPlain then plain else .ok (.text text)
  | some tag =>
    let isStandard (name : String) : Bool := tag == "tag:yaml.org,2002:".toList ++ name.toList
    if isStandard "bool" then match Scalar.bool? text with
      | some b => .ok (.bool b)
      | none => .error .badTag
    else if isStandard "int" then insist (Scalar.integer? text).isSome (.number text)
    else if isStandard "float" then
      insist ((Scalar.integer? text).isSome || Scalar.isFloat text) (.number text)
    else if isStandard "null" then insist (Scalar.isNull text && !text.isEmpty) .null
    else if isPlain && tag.head? == some '!' then plain
    else .ok (.text text)

def addMember (members : List (Value × Value)) (k v : Value) :
    Except Fault (List (Value × Value)) :=
  if members.any fun m => m.1.same k then .error .duplicateKey else .ok (members ++ [(k, v)])

def properties : List Token → Option (List Char) × Option (List Char × List Char) × List Token
  | .anchor name :: .tag handle suffix :: ts => (some name, some (handle, suffix), ts)
  | .tag handle suffix :: .anchor name :: ts => (some name, some (handle, suffix), ts)
  | .anchor name :: ts => (some name, none, ts)
  | .tag handle suffix :: ts => (none, some (handle, suffix), ts)
  | ts => (none, none, ts)

def isLeftOut : List Token → Bool
  | [] | .blockEnd :: _ | .key :: _ | .value :: _ => true
  | _ => false

mutual

def readNode (mayBlock mayEntries : Bool) :
    Nat → Nat → Scope → List Token → Except Fault (Value × Scope × List Token)
  | 0, _, _, _ => .error .tooDeep
  | _ + 1, _, s, .alias name :: ts => do return (← s.find? name, s, ts)
  | bound + 1, depth, s, ts => do
    let (name, tag, ts) := properties ts
    let tag : Option (List Char) ← match tag with
      | none => .ok none
      | some (handle, suffix) => (s.tag? handle suffix).map some
    let open_ := s.bind name none
    let close (v : Value) (s : Scope) (ts : List Token) :
        Except Fault (Value × Scope × List Token) := .ok (v, s.bind name (some v), ts)
    let deeper : Except Fault Nat := if depth < maxDepth then .ok (depth + 1) else .error .tooDeep
    match ts with
    | .scalar isPlain text :: ts => close (← scalarValue tag isPlain text) s ts
    | .flowSequence :: ts =>
      let (items, s, ts) ← readFlowItems true bound (← deeper) open_ ts
      close (.sequence items) s ts
    | .flowMapping :: ts =>
      let (members, s, ts) ← readFlowMembers true [] bound (← deeper) open_ ts
      close (.mapping members) s ts
    | .blockSequence :: ts =>
      if !mayBlock then throw .misplaced
      let (items, s, ts) ← readItems true bound (← deeper) open_ ts
      close (.sequence items) s ts
    | .blockMapping :: ts =>
      if !mayBlock then throw .misplaced
      let (members, s, ts) ← readMembers [] bound (← deeper) open_ ts
      close (.mapping members) s ts
    | .blockEntry :: _ =>
      if mayEntries then
        let (items, s, ts) ← readItems false bound (← deeper) open_ ts
        close (.sequence items) s ts
      else if name.isSome || tag.isSome then close (← scalarValue tag true []) s ts
      else throw .misplaced
    | ts =>
      if name.isSome || tag.isSome then close (← scalarValue tag true []) s ts
      else throw .misplaced
termination_by structural bound => bound

def readItems (isClosed : Bool) :
    Nat → Nat → Scope → List Token → Except Fault (List Value × Scope × List Token)
  | 0, _, _, _ => .error .tooDeep
  | bound + 1, depth, s, .blockEntry :: ts => do
    let isEmpty := isLeftOut ts || ts.head? == some .blockEntry
    let (v, s, ts) ← if isEmpty then pure (.null, s, ts) else readNode true false bound depth s ts
    let (vs, s, ts) ← readItems isClosed bound depth s ts
    return (v :: vs, s, ts)
  | _ + 1, _, s, ts =>
    if isClosed then match ts with
      | .blockEnd :: ts => .ok ([], s, ts)
      | _ => .error .misplaced
    else .ok ([], s, ts)
termination_by structural bound => bound

def readMembers (before : List (Value × Value)) :
    Nat → Nat → Scope → List Token →
      Except Fault (List (Value × Value) × Scope × List Token)
  | 0, _, _, _ => .error .tooDeep
  | bound + 1, depth, s, .key :: ts => do
    let (k, s, ts) ←
      if isLeftOut ts then pure (.null, s, ts) else readNode true true bound depth s ts
    match ts with
    | .value :: ts =>
      let (v, s, ts) ←
        if isLeftOut ts then pure (.null, s, ts) else readNode true true bound depth s ts
      readMembers (← addMember before k v) bound depth s ts
    | _ => readMembers (← addMember before k .null) bound depth s ts
  | _ + 1, _, s, .blockEnd :: ts => .ok (before, s, ts)
  | _ + 1, _, _, _ => .error .misplaced
termination_by structural bound => bound

def readFlowItems (isFirst : Bool) :
    Nat → Nat → Scope → List Token → Except Fault (List Value × Scope × List Token)
  | 0, _, _, _ => .error .tooDeep
  | _ + 1, _, s, .flowSequenceEnd :: ts => .ok ([], s, ts)
  | bound + 1, depth, s, ts => do
    let ts ← if isFirst then pure ts else match ts with
      | .flowEntry :: ts => pure ts
      | _ => throw .misplaced
    match ts with
    | .flowSequenceEnd :: ts => if isFirst then throw .misplaced else return ([], s, ts)
    | .key :: ts =>
      let (k, v, s, ts) ← readPair bound depth s ts
      let (vs, s, ts) ← readFlowItems false bound depth s ts
      return (.mapping [(k, v)] :: vs, s, ts)
    | ts =>
      let (v, s, ts) ← readNode false false bound depth s ts
      let (vs, s, ts) ← readFlowItems false bound depth s ts
      return (v :: vs, s, ts)
termination_by structural bound => bound

def readPair : Nat → Nat → Scope → List Token →
    Except Fault (Value × Value × Scope × List Token)
  | 0, _, _, _ => .error .tooDeep
  | bound + 1, depth, s, ts => do
    let endsHere : List Token → Bool := fun
      | .flowEntry :: _ | .flowSequenceEnd :: _ | .flowMappingEnd :: _ => true
      | _ => false
    let noKey := endsHere ts || ts.head? == some .value
    let (k, s, ts) ← if noKey then pure (.null, s, ts) else readNode false false bound depth s ts
    match ts with
    | .value :: ts =>
      let (v, s, ts) ←
        if endsHere ts then pure (.null, s, ts) else readNode false false bound depth s ts
      return (k, v, s, ts)
    | _ => return (k, .null, s, ts)
termination_by structural bound => bound

def readFlowMembers (isFirst : Bool) (before : List (Value × Value)) :
    Nat → Nat → Scope → List Token →
      Except Fault (List (Value × Value) × Scope × List Token)
  | 0, _, _, _ => .error .tooDeep
  | _ + 1, _, s, .flowMappingEnd :: ts => .ok (before, s, ts)
  | bound + 1, depth, s, ts => do
    let ts ← if isFirst then pure ts else match ts with
      | .flowEntry :: ts => pure ts
      | _ => throw .misplaced
    match ts with
    | .flowMappingEnd :: ts => if isFirst then throw .misplaced else return (before, s, ts)
    | .key :: ts =>
      let (k, v, s, ts) ← readPair bound depth s ts
      readFlowMembers false (← addMember before k v) bound depth s ts
    | ts =>
      let (k, s, ts) ← readNode false false bound depth s ts
      readFlowMembers false (← addMember before k .null) bound depth s ts
termination_by structural bound => bound

end

def readDirectives : List Token → Except Fault (List (List Char × List Char) × List Token)
  | .version major minor :: ts =>
    if major = 1 ∧ (minor = 1 ∨ minor = 2) then readDirectives ts else .error .badDirective
  | .tagHandle handle replacement :: ts => do
    let (handles, ts) ← readDirectives ts
    if handles.any (·.1 == handle) then throw .badDirective
    return ((handle, replacement) :: handles, ts)
  | ts => .ok ([], ts)

def readContent (s : Scope) (ts : List Token) : Except Fault (Value × List Token) :=
  match ts with
  | [] | .documentStart :: _ | .documentEnd :: _ | .version _ _ :: _ | .tagHandle _ _ :: _ =>
    .ok (.null, ts)
  | _ => (readNode true false (4 * ts.length + 8) 0 s ts).map fun (v, _, ts) => (v, ts)

def readDocuments (isFirst : Bool) : Nat → List Token → Except Fault (List Value)
  | 0, _ => .ok []
  | bound + 1, ts => do
    let ts := if isFirst then ts else ts.dropWhile (· == .documentEnd)
    if ts.isEmpty then return []
    let (handles, afterDirectives) ← readDirectives ts
    let (s, ts) : Scope × List Token ← match afterDirectives with
      | .documentStart :: rest => pure ({ handles }, rest)
      | rest =>
        if isFirst && handles.isEmpty && rest.length == ts.length then pure ({}, rest)
        else throw .misplaced
    let (v, ts) ← readContent s ts
    match ts with
    | [] | .documentStart :: _ | .documentEnd :: _ => return v :: (← readDocuments false bound ts)
    | .version _ _ :: _ | .tagHandle _ _ :: _ => return v :: (← readDocuments false bound ts)
    | _ => throw .misplaced

def documents (text : List Char) : Except Fault (List Value) := do
  let ts ← Token.scan text
  readDocuments true (ts.length + 1) ts

end Rollout.Yaml
