import Rollout.Filter
import Rollout.Model.Object
import Rollout.Version.Release

/-!
Whether a machine is what its control plane asks for, or has to be replaced. Three things are
compared: the version, the configuration that the machine was set up with, and the template that its
infrastructure was cloned from.

Where something is not known, nothing is replaced: without the record of the server configuration,
without a snapshot of the bootstrap configuration, without the infrastructure object. A record that
cannot be read is a reason to replace.
-/
namespace Rollout

structure Snapshots where
  bootstrapConfigs : Dict BootstrapObject := ∅
  infrastructure : Dict InfrastructureObject := ∅

namespace Machine

def key (m : Machine) : String := m.metadata.anyName

/-- Whether the machine reports the version that is asked for. A report that is no release is
compared with the version that the release ships; if that one is not known, the report is taken on
trust. -/
def reportsVersion (m : Machine) (desired : Option String) : Bool :=
  match m.spec.version with
  | none => false
  | some reported =>
    let desired := desired.getD ""
    if isRelease reported then sameVersion reported desired
    else match shippedVersion desired with
      | .ok shipped => sameVersion reported shipped
      | .error _ => true

end Machine

def serverConfigAnnotation : String := "controlplane.cluster.x-k8s.io/rke2-server-configuration"

/-- What a machine says about the server configuration it was made with. -/
inductive RecordedConfig
  | absent
  | corrupted
  | present (config : ServerConfig)
  deriving DecidableEq, Repr

namespace RecordedConfig

def ofText (text : String) : RecordedConfig :=
  match ServerConfig.codec.optional.ofText? text with
  | some config => present (config.getD {})
  | none => corrupted

def ofMachine (m : Machine) : RecordedConfig :=
  match m.metadata.annotation? serverConfigAnnotation with
  | none => absent
  | some text => ofText text

def agrees (desired : ServerConfig) : RecordedConfig → Bool
  | absent => true
  | corrupted => false
  | present config => config == desired

end RecordedConfig

def injectionMarker : String := "cluster-api.cattle.io/turtles-system-agent"

def injectedFiles : List String :=
  ["/etc/rancher/agent/connect-info-config.json", "/opt/system-agent-install.sh",
    "/etc/rancher/agent/config.yaml"]

def injectedCommand : String := "sh /opt/system-agent-install.sh"

def File.isInjected (f : File) : Bool := injectedFiles.contains f.path

def BootstrapConfig.withoutInjected (c : BootstrapConfig) : BootstrapConfig :=
  { c with
    files := c.files.filter fun f => !f.isInjected
    postCommands := c.postCommands.filter (· != injectedCommand) }

namespace BootstrapObject

def isMarked (o : BootstrapObject) : Bool :=
  (o.metadata.annotation? injectionMarker).isSome

/-- The configuration as it was before anything was injected. Only marked ones are changed. -/
def normalized (o : BootstrapObject) : BootstrapConfig :=
  if isMarked o then o.spec.withoutInjected else o.spec

end BootstrapObject

def clonedFromName : String := "cluster.x-k8s.io/cloned-from-name"

def clonedFromGroupKind : String := "cluster.x-k8s.io/cloned-from-groupkind"

namespace InfrastructureObject

def isClonedFrom (o : InfrastructureObject) (template : Reference) : Bool :=
  match o.metadata.annotation? clonedFromName, o.metadata.annotation? clonedFromGroupKind with
  | some name, some groupKind => name == template.name && groupKind == template.groupKind
  | _, _ => true

end InfrastructureObject

namespace Machine

def hasServerConfig (m : Machine) (desired : ServerConfig) : Bool :=
  (RecordedConfig.ofMachine m).agrees desired

def isBootstrapped (m : Machine) (desired : ControlPlaneSpec) (configs : Dict BootstrapObject) :
    Bool :=
  hasServerConfig m desired.server &&
    (m.spec.bootstrap.configRef.isNone ||
      match configs.get? (key m) with
      | none => true
      | some o => BootstrapObject.normalized o == desired.bootstrap)

def isFromTemplate (m : Machine) (template : Reference)
    (infrastructure : Dict InfrastructureObject) : Bool :=
  match infrastructure.get? (key m) with
  | none => true
  | some o => o.isClonedFrom template

end Machine

namespace Conformance

inductive Aspect
  | version
  | bootstrap
  | lineage
  deriving DecidableEq, Repr

def filter (desired : ControlPlaneSpec) (known : Snapshots) : Filter Aspect Machine :=
  .all [
    .test .version fun m => Machine.reportsVersion m desired.desiredVersion,
    .test .bootstrap fun m => Machine.isBootstrapped m desired known.bootstrapConfigs,
    .test .lineage fun m =>
      Machine.isFromTemplate m desired.machineTemplate.infrastructureRef known.infrastructure]

/-- Whether a machine need not be replaced. -/
def holds (desired : ControlPlaneSpec) (known : Snapshots) (m : Machine) : Bool :=
  (filter desired known).accepts m

end Conformance
end Rollout
