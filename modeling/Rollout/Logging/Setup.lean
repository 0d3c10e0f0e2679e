import Rollout.Json.Basic
import Rollout.Logging.Filter
import Rollout.Settings

/-! Setting up logging: once for the whole program, with one event that says so. -/
namespace Rollout

structure LogEvent where
  target : String
  level : LogLevel
  message : String
  details : List (String × String)
  deriving DecidableEq, Repr

namespace LogEvent

def kind (e : LogEvent) : EventKind where
  target := e.target
  level := e.level
  fields := "message" :: e.details.map (·.1)

def document (e : LogEvent) : Json :=
  .object [
    ("level", .text e.level.name),
    ("fields", .object (("message", .text e.message) :: e.details.map fun d => (d.1, .text d.2))),
    ("target", .text e.target)]

def line (e : LogEvent) : String :=
  e.level.name ++ " " ++ e.target ++ ": " ++ e.message ++
    String.join (e.details.map fun d => " " ++ d.1 ++ "=" ++ d.2)

end LogEvent

inductive LogEntry
  | document (content : Json)
  | line (content : String)

structure LoggingConfig where
  serviceName : String := controllerName
  json : Bool := true
  deriving DecidableEq, Repr

namespace Logging

def alreadySet : String :=
  "failed to initialize tracing subscriber: a global default trace dispatcher has already been set"

def started (c : LoggingConfig) : LogEvent where
  target := "capr_common::telemetry"
  level := .info
  message := "logging initialized"
  details := [("service", c.serviceName)]

def write (c : LoggingConfig) (e : LogEvent) : LogEntry :=
  if c.json then .document e.document else .line e.line

def setUp (filter : LogFilter) (c : LoggingConfig) (isSet : Bool) : Except String (List LogEntry) :=
  if isSet then .error alreadySet
  else .ok (if filter.passes (started c).kind then [write c (started c)] else [])

def setUpAll (filter : LogFilter) (cs : List LoggingConfig) :
    List (Except String (List LogEntry)) :=
  match cs with
  | [] => []
  | c :: rest => setUp filter c false :: rest.map fun c => setUp filter c true

end Logging
end Rollout
