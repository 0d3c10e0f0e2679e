import Rollout.Ranked
import Rollout.Text.Blank
import Rollout.Text.Cut
import Rollout.Text.Decimal
import Rollout.Text.Hidden

/-!
Log filters: which events are logged. A filter is a list of directives, each with a level for the
events of some target; of those that fit an event the most specific one decides. Filters are written
as directives between commas, such as `info,server=debug`; `target[span{field=value}]=level` is the
full form of a directive.
-/
namespace Rollout
open Text

inductive LogLevel
  | off
  | error
  | warn
  | info
  | debug
  | trace
  deriving DecidableEq, Repr

namespace LogLevel

def verbosity : LogLevel → Nat
  | off => 0
  | error => 1
  | warn => 2
  | info => 3
  | debug => 4
  | trace => 5

def name : LogLevel → String
  | off => "OFF"
  | error => "ERROR"
  | warn => "WARN"
  | info => "INFO"
  | debug => "DEBUG"
  | trace => "TRACE"

def all : List LogLevel := [off, error, warn, info, debug, trace]

def parse? (cs : List Char) : Option LogLevel :=
  match word? cs with
  | some n => all.find? (·.verbosity == n)
  | none => all.find? fun level => level.name.toList == cs.map Char.toUpper

end LogLevel

structure EventKind where
  target : String
  level : LogLevel
  fields : List String
  deriving DecidableEq, Repr

structure Directive where
  target : Option (List Char) := none
  span : Option (List Char) := none
  fields : List (List Char × Option (List Char)) := []
  level : LogLevel := .trace
  deriving DecidableEq, Repr

namespace Directive

def isOpening (c : Char) : Bool :=
  c.isAlphanum || "-:_".toList.contains c || (0x80 ≤ c.toNat && !isBlank c && !isHidden c)

def parseLevel (d : Directive) (cs : List Char) : Option Directive :=
  if cs.isEmpty then some { d with level := .trace }
  else (LogLevel.parse? cs).map fun level => { d with level }

def parseEnd (d : Directive) (levelOf : Directive → List Char → Option Directive) :
    List Char → Option Directive
  | [] => some d
  | '=' :: level => levelOf d level
  | _ => none

def field (cs : List Char) : List Char × Option (List Char) :=
  match pieces '=' cs with
  | name :: value :: _ => (name, some value)
  | _ => (cs, none)

def parseSpan (d : Directive) (levelOf : Directive → List Char → Option Directive)
    (cs : List Char) : Option Directive :=
  let name := cs.takeWhile fun c => c != ']' && c != '\x7b'
  match cs.drop name.length with
  | ']' :: behind => parseEnd { d with span := some name } levelOf behind
  | '\x7b' :: rest =>
    let written := rest.takeWhile (· != '\x7d')
    match rest.drop written.length with
    | '\x7d' :: ']' :: behind =>
      if written.isEmpty then none
      else parseEnd { d with
        span := if name.isEmpty then none else some name, fields := [field written] }
        levelOf behind
    | _ => none
  | _ => none

def parse? (written : List Char) : Option Directive :=
  let cs := trim written
  -- next to blanks no level is understood
  let levelOf (d : Directive) (level : List Char) : Option Directive :=
    if cs = written then parseLevel d level else none
  match cs with
  | [] => none
  | '[' :: rest => parseSpan {} levelOf rest
  | c :: _ =>
    if !isOpening c then none
    else
      let target := cs.takeWhile fun c => c != '=' && c != '['
      match cs.drop target.length with
      | '=' :: level => levelOf { target := some target } level
      | '[' :: rest => parseSpan { target := some target } levelOf rest
      | _ =>
        match LogLevel.parse? written with
        | some level => some { level }
        | none => some { target := some written }

def isStatic (d : Directive) : Bool :=
  d.span.isNone && d.fields.all (·.2.isNone)

def fits (d : Directive) (e : EventKind) : Bool :=
  d.isStatic && (d.target.getD []).isPrefixOf e.target.toList &&
    d.fields.all fun f => e.fields.any (·.toList == f.1)

def specificity (d : Directive) : Nat × Nat × List (List Char) :=
  (match d.target with
    | none => 0
    | some target => (String.ofList target).utf8ByteSize + 1, d.fields.length, d.fields.map (·.1))

def isAtLeastAsSpecific (d e : Directive) : Bool :=
  !Ranked.below d.specificity e.specificity

end Directive

structure LogFilter where
  directives : List Directive
  deriving DecidableEq, Repr

namespace LogFilter

def parse? (cs : List Char) : Option LogFilter :=
  (((pieces ',' cs).filter fun p => !p.isEmpty).mapM Directive.parse?).map LogFilter.mk

/-- The directive that decides about an event: the most specific one, and of equals the last. -/
def decisive? (f : LogFilter) (e : EventKind) : Option Directive :=
  (f.directives.filter (·.fits e)).foldl (fun best d =>
    match best with
    | some b => if d.isAtLeastAsSpecific b then some d else some b
    | none => some d) none

def passes (f : LogFilter) (e : EventKind) : Bool :=
  match f.decisive? e with
  | some d => e.level.verbosity ≤ d.level.verbosity
  | none => false

def defaultText : String := "info,capr=debug,kube=info,tower=warn,hyper=warn"

def ofVariable (value : Option String) : LogFilter :=
  ((value.bind fun s => parse? s.toList).or (parse? defaultText.toList)).getD ⟨[]⟩

end LogFilter
end Rollout
