import Rollout.Failure
import Rollout.Model.BootstrapConfig
import Rollout.Model.ServerConfig

/-!
What a control plane asks for: a version, the configuration of its servers, the configuration that
every machine is set up with, and the template that new machines are cloned from.
-/
namespace Rollout

structure MachineTemplate where
  infrastructureRef : Reference
  nodeDrainTimeout : Option String := none
  deriving DecidableEq, Repr, Inhabited

def MachineTemplate.codec : Codec MachineTemplate :=
  ((Record.and (.required "infrastructureRef" Reference.codec) <|
    .one (.optional "nodeDrainTimeout" .string)).imap
    (fun (infrastructureRef, nodeDrainTimeout) => ⟨infrastructureRef, nodeDrainTimeout⟩)
    (fun t => (t.infrastructureRef, t.nodeDrainTimeout))).codec

structure ControlPlaneSpec where
  bootstrap : BootstrapConfig := {}
  server : ServerConfig := {}
  machineTemplate : MachineTemplate
  replicas : Option Int32 := none
  version : Option String := none
  registrationMethod : Option String := none
  deriving DecidableEq, Repr, Inhabited

namespace ControlPlaneSpec

def ownRecord :
    Record (ServerConfig × MachineTemplate × Option Int32 × Option String × Option String) :=
  .and (.plain "serverConfig" ServerConfig.codec {}) <|
    .and (.required "machineTemplate" MachineTemplate.codec) <|
    .and (.optional "replicas" .int32) <|
    .and (.optional "version" .string) <|
    .one (.optional "registrationMethod" .string)

def codec : Codec ControlPlaneSpec :=
  (ownRecord.beside BootstrapConfig.record).imap
    (fun ((server, machineTemplate, replicas, version, registrationMethod), bootstrap) =>
      { bootstrap, server, machineTemplate, replicas, version, registrationMethod })
    (fun s => ((s.server, s.machineTemplate, s.replicas, s.version, s.registrationMethod),
      s.bootstrap))

def desiredVersion (s : ControlPlaneSpec) : Option String :=
  -- an empty version is like none, and then the one of the agent stands in for it
  (s.version.filter (· ≠ "")).or s.bootstrap.agent.version

def validate (s : ControlPlaneSpec) : Except Failure Unit :=
  if s.desiredVersion.getD "" = "" then
    .error (.invalid Failure.unknownCluster
      "a version must be set in spec.version or spec.agentConfig.version"
      (some "spec.version"))
  else if s.machineTemplate.infrastructureRef.name = "" ||
      s.machineTemplate.infrastructureRef.kind = "" then
    .error (.invalid Failure.unknownCluster "infrastructure template must have a kind and name"
      (some "spec.machineTemplate.infrastructureRef"))
  else .ok ()

end ControlPlaneSpec
end Rollout
