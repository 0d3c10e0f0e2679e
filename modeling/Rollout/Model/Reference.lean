import Rollout.Json.Record
import Rollout.Text.Cut

/-! References from one object to another, and what all components of a cluster can be given. -/
namespace Rollout
open Text

structure Reference where
  apiVersion : String := ""
  kind : String := ""
  name : String := ""
  namespaceName : Option String := none
  deriving DecidableEq, Repr, Inhabited

def splitApiVersion (apiVersion : String) : String × String :=
  match cutAt? '/' apiVersion.toList with
  | some (group, version) => (String.ofList group, String.ofList version)
  | none => ("", apiVersion)

namespace Reference

def group (r : Reference) : String := (splitApiVersion r.apiVersion).1

def groupKind (r : Reference) : String :=
  if r.group = "" then r.kind else r.kind ++ "." ++ r.group

def record : Record Reference :=
  (Record.and (.word "apiVersion") <|
    .and (.word "kind") <|
    .and (.word "name") <|
    .one (.optional "namespace" .string)).imap
    (fun (apiVersion, kind, name, namespaceName) => ⟨apiVersion, kind, name, namespaceName⟩)
    (fun r => (r.apiVersion, r.kind, r.name, r.namespaceName))

def codec : Codec Reference := record.codec

end Reference

structure ComponentConfig where
  extraEnv : Dict String := ∅
  extraArgs : List String := []
  extraMounts : Dict String := ∅
  overrideImage : Option String := none
  deriving DecidableEq, Repr, Inhabited

namespace ComponentConfig

def record : Record ComponentConfig :=
  (Record.and (.dict "extraEnv" .string) <|
    .and (.list "extraArgs" .string) <|
    .and (.dict "extraMounts" .string) <|
    .one (.optional "overrideImage" .string)).imap
    (fun (extraEnv, extraArgs, extraMounts, overrideImage) =>
      ⟨extraEnv, extraArgs, extraMounts, overrideImage⟩)
    (fun c => (c.extraEnv, c.extraArgs, c.extraMounts, c.overrideImage))

def codec : Codec ComponentConfig := record.codec

end ComponentConfig
end Rollout
