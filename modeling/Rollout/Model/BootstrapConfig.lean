import Rollout.Model.Reference

/-! What a machine is set up with: files, commands, the agent and the image registries. -/
namespace Rollout

structure SecretKey where
  name : String
  key : String
  deriving DecidableEq, Repr, Inhabited

def SecretKey.codec : Codec SecretKey :=
  ((Record.and (.required "name" .string) <| .one (.required "key" .string)).imap
    (fun (name, key) => ⟨name, key⟩) (fun s => (s.name, s.key))).codec

structure FileSource where
  secret : SecretKey
  deriving DecidableEq, Repr, Inhabited

def FileSource.codec : Codec FileSource :=
  ((Record.one (.required "secret" SecretKey.codec)).imap FileSource.mk FileSource.secret).codec

structure File where
  path : String
  owner : Option String := none
  permissions : Option String := none
  encoding : Option String := none
  content : Option String := none
  contentFrom : Option FileSource := none
  deriving DecidableEq, Repr, Inhabited

namespace File

def codec : Codec File :=
  ((Record.and (.required "path" .string) <|
    .and (.optional "owner" .string) <|
    .and (.optional "permissions" .string) <|
    .and (.optional "encoding" .string) <|
    .and (.optional "content" .string) <|
    .one (.optional "contentFrom" FileSource.codec)).imap
    (fun (path, owner, permissions, encoding, content, contentFrom) =>
      ⟨path, owner, permissions, encoding, content, contentFrom⟩)
    (fun f => (f.path, f.owner, f.permissions, f.encoding, f.content, f.contentFrom))).codec

def inline (path content : String) : File := { path, content := some content }

end File

structure Ntp where
  servers : List String := []
  enabled : Option Bool := none
  deriving DecidableEq, Repr, Inhabited

def Ntp.codec : Codec Ntp :=
  ((Record.and (.list "servers" .string) <| .one (.optional "enabled" .bool)).imap
    (fun (servers, enabled) => ⟨servers, enabled⟩) (fun n => (n.servers, n.enabled))).codec

structure AgentConfig where
  version : Option String := none
  dataDir : Option String := none
  cisProfile : Option String := none
  nodeLabels : List String := []
  nodeTaints : List String := []
  kubelet : Option ComponentConfig := none
  kubeProxy : Option ComponentConfig := none
  ntp : Option Ntp := none
  imageCredentialProviderConfigMap : Option Reference := none
  protectKernelDefaults : Bool := false
  selinux : Bool := false
  airgapped : Bool := false
  format : Option String := none
  deriving DecidableEq, Repr, Inhabited

def AgentConfig.codec : Codec AgentConfig :=
  ((Record.and (.optional "version" .string) <|
    .and (.optional "dataDir" .string) <|
    .and (.optional "cisProfile" .string) <|
    .and (.list "nodeLabels" .string) <|
    .and (.list "nodeTaints" .string) <|
    .and (.optional "kubelet" ComponentConfig.codec) <|
    .and (.optional "kubeProxy" ComponentConfig.codec) <|
    .and (.optional "ntp" Ntp.codec) <|
    .and (.optional "imageCredentialProviderConfigMap" Reference.codec) <|
    .and (.flag "protectKernelDefaults") <|
    .and (.flag "selinux") <|
    .and (.flag "airgapped") <|
    .one (.optional "format" .string)).imap
    (fun (version, dataDir, cisProfile, nodeLabels, nodeTaints, kubelet, kubeProxy, ntp,
        imageCredentialProviderConfigMap, protectKernelDefaults, selinux, airgapped, format) =>
      { version, dataDir, cisProfile, nodeLabels, nodeTaints, kubelet, kubeProxy, ntp,
        imageCredentialProviderConfigMap, protectKernelDefaults, selinux, airgapped, format })
    (fun a => (a.version, a.dataDir, a.cisProfile, a.nodeLabels, a.nodeTaints, a.kubelet,
      a.kubeProxy, a.ntp, a.imageCredentialProviderConfigMap, a.protectKernelDefaults, a.selinux,
      a.airgapped, a.format))).codec

structure RegistryEndpoints where
  endpoints : List String := []
  names : Dict String := ∅
  deriving DecidableEq, Repr, Inhabited

def RegistryEndpoints.codec : Codec RegistryEndpoints :=
  ((Record.and (.list "endpoint" .string) <| .one (.dict "rewrite" .string)).imap
    (fun (endpoints, names) => ⟨endpoints, names⟩) (fun e => (e.endpoints, e.names))).codec

structure RegistryAccess where
  authSecret : Option Reference := none
  tlsSecret : Option Reference := none
  insecureSkipVerify : Bool := false
  deriving DecidableEq, Repr, Inhabited

def RegistryAccess.codec : Codec RegistryAccess :=
  ((Record.and (.optional "authSecret" Reference.codec) <|
    .and (.optional "tlsSecret" Reference.codec) <|
    .one (.flag "insecureSkipVerify")).imap
    (fun (authSecret, tlsSecret, insecureSkipVerify) =>
      ⟨authSecret, tlsSecret, insecureSkipVerify⟩)
    (fun a => (a.authSecret, a.tlsSecret, a.insecureSkipVerify))).codec

structure Registries where
  endpoints : Dict RegistryEndpoints := ∅
  access : Dict RegistryAccess := ∅
  deriving DecidableEq, Repr, Inhabited

def Registries.codec : Codec Registries :=
  ((Record.and (.dict "mirrors" RegistryEndpoints.codec) <|
    .one (.dict "configs" RegistryAccess.codec)).imap
    (fun (endpoints, access) => ⟨endpoints, access⟩) (fun r => (r.endpoints, r.access))).codec

structure BootstrapConfig where
  files : List File := []
  preCommands : List String := []
  postCommands : List String := []
  agent : AgentConfig := {}
  registries : Option Registries := none
  gzipUserData : Option Bool := none
  deriving DecidableEq, Repr, Inhabited

namespace BootstrapConfig

def record : Record BootstrapConfig :=
  (Record.and (.list "files" File.codec) <|
    .and (.list "preRKE2Commands" .string) <|
    .and (.list "postRKE2Commands" .string) <|
    .and (.plain "agentConfig" AgentConfig.codec {}) <|
    .and (.optional "privateRegistriesConfig" Registries.codec) <|
    .one (.optional "gzipUserData" .bool)).imap
    (fun (files, preCommands, postCommands, agent, registries, gzipUserData) =>
      { files, preCommands, postCommands, agent, registries, gzipUserData })
    (fun c => (c.files, c.preCommands, c.postCommands, c.agent, c.registries, c.gzipUserData))

def codec : Codec BootstrapConfig := record.codec

end BootstrapConfig
end Rollout
