import Rollout.Model.Reference

/-! What is asked of one machine. -/
namespace Rollout

structure MachineBootstrap where
  configRef : Option Reference := none
  dataSecretName : Option String := none
  deriving DecidableEq, Repr, Inhabited

def MachineBootstrap.codec : Codec MachineBootstrap :=
  ((Record.and (.optional "configRef" Reference.codec) <|
    .one (.optional "dataSecretName" .string)).imap
    (fun (configRef, dataSecretName) => ⟨configRef, dataSecretName⟩)
    (fun b => (b.configRef, b.dataSecretName))).codec

structure MachineSpec where
  clusterName : String := ""
  bootstrap : MachineBootstrap := {}
  infrastructureRef : Reference := {}
  version : Option String := none
  providerId : Option String := none
  failureDomain : Option String := none
  deriving DecidableEq, Repr, Inhabited

namespace MachineSpec

def codec : Codec MachineSpec :=
  ((Record.and (.plain "clusterName" .string "") <|
    .and (.plain "bootstrap" MachineBootstrap.codec {}) <|
    .and (.plain "infrastructureRef" Reference.codec {}) <|
    .and (.optional "version" .string) <|
    .and (.optional "providerID" .string) <|
    .one (.optional "failureDomain" .string)).imap
    (fun (clusterName, bootstrap, infrastructureRef, version, providerId, failureDomain) =>
      { clusterName, bootstrap, infrastructureRef, version, providerId, failureDomain })
    (fun m => (m.clusterName, m.bootstrap, m.infrastructureRef, m.version, m.providerId,
      m.failureDomain))).codec

end MachineSpec
end Rollout
