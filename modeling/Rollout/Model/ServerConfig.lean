import Rollout.Model.Reference

/-! The configuration of the servers of a control plane. -/
namespace Rollout

structure DisabledComponents where
  kubernetes : List String := []
  plugins : List String := []
  deriving DecidableEq, Repr, Inhabited

def DisabledComponents.codec : Codec DisabledComponents :=
  ((Record.and (.list "kubernetesComponents" .string) <|
    .one (.list "pluginComponents" .string)).imap
    (fun (kubernetes, plugins) => ⟨kubernetes, plugins⟩)
    (fun d => (d.kubernetes, d.plugins))).codec

structure EtcdBackup where
  enableAutomaticSnapshots : Option Bool := none
  snapshotName : Option String := none
  scheduleCron : Option String := none
  retention : Option String := none
  directory : Option String := none
  s3CredentialsSecret : Option Reference := none
  deriving DecidableEq, Repr, Inhabited

def EtcdBackup.codec : Codec EtcdBackup :=
  ((Record.and (.optional "enableAutomaticSnapshots" .bool) <|
    .and (.optional "snapshotName" .string) <|
    .and (.optional "scheduleCron" .string) <|
    .and (.optional "retention" .string) <|
    .and (.optional "directory" .string) <|
    .one (.optional "s3CredentialsSecret" Reference.codec)).imap
    (fun (enableAutomaticSnapshots, snapshotName, scheduleCron, retention, directory,
        s3CredentialsSecret) =>
      ⟨enableAutomaticSnapshots, snapshotName, scheduleCron, retention, directory,
        s3CredentialsSecret⟩)
    (fun b => (b.enableAutomaticSnapshots, b.snapshotName, b.scheduleCron, b.retention, b.directory,
      b.s3CredentialsSecret))).codec

structure EtcdConfig where
  exposeMetrics : Bool := false
  backup : Option EtcdBackup := none
  custom : Option ComponentConfig := none
  deriving DecidableEq, Repr, Inhabited

def EtcdConfig.codec : Codec EtcdConfig :=
  ((Record.and (.flag "exposeMetrics") <|
    .and (.optional "backupConfig" EtcdBackup.codec) <|
    .one (.optional "customConfig" ComponentConfig.codec)).imap
    (fun (exposeMetrics, backup, custom) => ⟨exposeMetrics, backup, custom⟩)
    (fun e => (e.exposeMetrics, e.backup, e.custom))).codec

structure ServerConfig where
  auditPolicySecret : Option Reference := none
  bindAddress : Option String := none
  cni : Option String := none
  cniMultusEnable : Bool := false
  pauseImage : Option String := none
  clusterDns : Option String := none
  clusterDomain : Option String := none
  cloudProviderName : Option String := none
  cloudProviderConfigMap : Option Reference := none
  disableComponents : Option DisabledComponents := none
  kubeApiServer : Option ComponentConfig := none
  kubeControllerManager : Option ComponentConfig := none
  kubeScheduler : Option ComponentConfig := none
  etcd : Option EtcdConfig := none
  serviceNodePortRange : Option String := none
  embeddedRegistry : Bool := false
  deriving DecidableEq, Repr, Inhabited

namespace ServerConfig

def record : Record ServerConfig :=
  (Record.and (.optional "auditPolicySecret" Reference.codec) <|
    .and (.optional "bindAddress" .string) <|
    .and (.optional "cni" .string) <|
    .and (.flag "cniMultusEnable") <|
    .and (.optional "pauseImage" .string) <|
    .and (.optional "clusterDNS" .string) <|
    .and (.optional "clusterDomain" .string) <|
    .and (.optional "cloudProviderName" .string) <|
    .and (.optional "cloudProviderConfigMap" Reference.codec) <|
    .and (.optional "disableComponents" DisabledComponents.codec) <|
    .and (.optional "kubeAPIServer" ComponentConfig.codec) <|
    .and (.optional "kubeControllerManager" ComponentConfig.codec) <|
    .and (.optional "kubeScheduler" ComponentConfig.codec) <|
    .and (.optional "etcd" EtcdConfig.codec) <|
    .and (.optional "serviceNodePortRange" .string) <|
    .one (.flag "embeddedRegistry")).imap
    (fun (auditPolicySecret, bindAddress, cni, cniMultusEnable, pauseImage, clusterDns,
        clusterDomain, cloudProviderName, cloudProviderConfigMap, disableComponents, kubeApiServer,
        kubeControllerManager, kubeScheduler, etcd, serviceNodePortRange, embeddedRegistry) =>
      { auditPolicySecret, bindAddress, cni, cniMultusEnable, pauseImage, clusterDns, clusterDomain,
        cloudProviderName, cloudProviderConfigMap, disableComponents, kubeApiServer,
        kubeControllerManager, kubeScheduler, etcd, serviceNodePortRange, embeddedRegistry })
    (fun c => (c.auditPolicySecret, c.bindAddress, c.cni, c.cniMultusEnable, c.pauseImage,
      c.clusterDns, c.clusterDomain, c.cloudProviderName, c.cloudProviderConfigMap,
      c.disableComponents, c.kubeApiServer, c.kubeControllerManager, c.kubeScheduler, c.etcd,
      c.serviceNodePortRange, c.embeddedRegistry))

def codec : Codec ServerConfig := record.codec

def isEmpty (c : ServerConfig) : Bool := c == {}

end ServerConfig
end Rollout
