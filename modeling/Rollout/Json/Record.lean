import Rollout.Table
import Rollout.Json.Parser
import Rollout.Json.Printer

/-!
Records as JSON. A codec writes values and reads them back. A record is a list of slots, and one
list serves both ways: it gives the members that are written, the names that are looked for, and the
places of the items where a record is given as an array.

There are two manners of reading. A strict slot stands once, and `null` is a value like any other. A
lenient slot may be repeated, the last one counts, and `null` counts as absent; lenient records are
never arrays.
-/
namespace Rollout

structure Codec (α : Type) where
  encode : α → Json
  decode : Json → Option α

namespace Codec
variable {α β : Type}

def string : Codec String where
  encode s := .text s
  decode
    | .str text => text
    | _ => none

def bool : Codec Bool where
  encode b := .bool b
  decode
    | .bool b => some b
    | _ => none

def intBetween (least most : Int) : Codec Int where
  encode n := .int n
  decode
    | .int n => if least ≤ n ∧ n ≤ most then some n else none
    | _ => none

def int32 : Codec Int32 where
  encode n := .int n.toInt
  decode j := ((intBetween Int32.minValue.toInt Int32.maxValue.toInt).decode j).map Int32.ofInt

def document (around : Nat) : Codec Json where
  encode j := j
  decode j := if j.isReadable around then some j else none

def optional (c : Codec α) : Codec (Option α) where
  encode
    | none => .null
    | some a => c.encode a
  decode
    | .null => some none
    | j => (c.decode j).map some

def list (c : Codec α) : Codec (List α) where
  encode as := .arr (as.map c.encode)
  decode
    | .arr items => items.mapM c.decode
    | _ => none

def decodeEntry (c : Codec α) (m : Option String × Json) : Option (String × α) := do
  return (← m.1, ← c.decode m.2)

def dict (c : Codec α) : Codec (Dict α) where
  encode d := .object (d.entries.map fun e => (e.1, c.encode e.2))
  decode
    -- of two members with the same key the last one counts
    | .obj members => (members.mapM c.decodeEntry).map Table.ofList
    | _ => none

def imap (c : Codec α) (build : α → β) (parts : β → α) : Codec β where
  encode b := c.encode (parts b)
  decode j := (c.decode j).map build

def refine (c : Codec α) (build : α → Option β) (parts : β → α) : Codec β where
  encode b := c.encode (parts b)
  decode j := (c.decode j).bind build

def ofText? (c : Codec α) (text : String) : Option α :=
  (Json.ofText? text).bind c.decode

def toText (c : Codec α) (a : α) : String :=
  (c.encode a).toText

end Codec

inductive Fields
  | named (members : List (Option String × Json))
  | placed (items : List Json)

namespace Fields

def valuesOf (name : String) (members : List (Option String × Json)) : List Json :=
  (members.filter fun m => m.1 == some name).map (·.2)

def ofJson? (count : Nat) : Json → Option Fields
  | .obj members => if members.all fun m => m.1.isSome then some (named members) else none
  | .arr items => if items.length ≤ count then some (placed items) else none
  | _ => none

end Fields

/-- One field of a record: how it is found among the fields, given its place, and how it is written,
unless it is left out. -/
structure Slot (α : Type) where
  name : String
  read : Nat → Fields → Option α
  write : α → Option Json

namespace Slot
variable {α : Type}

/-- A strict slot. Where it is not given, `fallback` says what that means, if anything. -/
def strict (name : String) (c : Codec α) (fallback : Option α) (write : α → Option Json) :
    Slot α where
  name := name
  read place
    | .named members =>
      match Fields.valuesOf name members with
      | [] => fallback
      | [j] => c.decode j
      | _ => none
    | .placed items =>
      match items[place]? with
      | none => fallback
      | some j => c.decode j
  write := write

def required (name : String) (c : Codec α) : Slot α :=
  strict name c none fun a => some (c.encode a)

def plain (name : String) (c : Codec α) (default : α) : Slot α :=
  strict name c (some default) fun a => some (c.encode a)

def omitting [DecidableEq α] (default : α) (name : String) (c : Codec α) : Slot α :=
  strict name c (some default) fun a => if a = default then none else some (c.encode a)

def optional (name : String) (c : Codec α) : Slot (Option α) :=
  strict name c.optional (some none) fun a => a.map c.encode

def list (name : String) (c : Codec α) : Slot (List α) :=
  strict name c.list (some []) fun as => if as.isEmpty then none else some (c.list.encode as)

def listOrNull (name : String) (c : Codec α) (fallback : Option (List α)) : Slot (List α) :=
  strict name (c.list.optional.imap (·.getD []) some) fallback fun as => some (c.list.encode as)

def dict (name : String) (c : Codec α) : Slot (Dict α) :=
  strict name c.dict (some ∅) fun d => if d.isEmpty then none else some (c.dict.encode d)

def flag (name : String) : Slot Bool := omitting false name .bool

def word (name : String) : Slot String := omitting "" name .string

def lenient (name : String) (c : Codec α) : Slot (Option α) where
  name := name
  read _
    | .named members => do
      let found ← (Fields.valuesOf name members).mapM c.optional.decode
      return found.getLast?.join
    | .placed _ => none
  write a := a.map c.encode

def lenientPlain (name : String) (c : Codec α) (default : α) : Slot α where
  name := name
  read place fields := ((lenient name c).read place fields).map (·.getD default)
  write a := some (c.encode a)

def fixed (name text : String) : Slot Unit where
  name := name
  read _
    | .named members => do
      let found ← (Fields.valuesOf name members).mapM Codec.string.decode
      if found.all (· == text) then some () else none
    | .placed _ => none
  write _ := some (.text text)

end Slot

structure Record (α : Type) where
  names : List String
  read : Nat → Fields → Option α
  write : α → List (String × Json)

namespace Record
variable {α β : Type}

def writeSlot (s : Slot α) (a : α) : List (String × Json) :=
  match s.write a with
  | none => []
  | some j => [(s.name, j)]

def empty : Record Unit where
  names := []
  read _ _ := some ()
  write _ := []

def one (s : Slot α) : Record α where
  names := [s.name]
  read place fields := s.read place fields
  write a := writeSlot s a

def and (s : Slot α) (r : Record β) : Record (α × β) where
  names := s.name :: r.names
  read place fields := do
    let a ← s.read place fields
    let b ← r.read (place + 1) fields
    return (a, b)
  write p := writeSlot s p.1 ++ r.write p.2

def imap (r : Record α) (build : α → β) (parts : β → α) : Record β where
  names := r.names
  read place fields := (r.read place fields).map build
  write b := r.write (parts b)

def codec (r : Record α) : Codec α where
  encode a := .object (r.write a)
  decode j := (Fields.ofJson? r.names.length j).bind (r.read 0)

def namedCodec (r : Record α) : Codec α where
  encode a := .object (r.write a)
  decode
    | .obj members => (Fields.ofJson? 0 (.obj members)).bind (r.read 0)
    | _ => none

/-- A record whose members stand side by side with those of another, which come first. It is given
by name, and the values of all members that are not its own are read in full, whether or not the
other record asks for them. -/
def beside (own : Record α) (inner : Record β) : Codec (α × β) where
  encode p := .object (inner.write p.2 ++ own.write p.1)
  decode
    | .obj members => do
      let fields ← Fields.ofJson? 0 (.obj members)
      if members.all fun m => (m.1.any fun k => own.names.contains k) || m.2.isReadable 1 then
        return (← own.read 0 fields, ← inner.read 0 fields)
      else none
    | _ => none

end Record
end Rollout
