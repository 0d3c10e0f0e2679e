import Rollout.Model.ServerConfig
import Rollout.Proofs.Json.Shapes

/-! The shapes of the parts of a server configuration. -/
namespace Rollout

def Reference.shape : Shape :=
  .record [("apiVersion", .text), ("kind", .text), ("name", .text), ("namespace", .optional .text)]

def ComponentConfig.shape : Shape :=
  .record [("extraEnv", .dict .text), ("extraArgs", .list .text), ("extraMounts", .dict .text),
    ("overrideImage", .optional .text)]

def DisabledComponents.shape : Shape :=
  .record [("kubernetesComponents", .list .text), ("pluginComponents", .list .text)]

def EtcdBackup.shape : Shape :=
  .record [("enableAutomaticSnapshots", .optional .flag), ("snapshotName", .optional .text),
    ("scheduleCron", .optional .text), ("retention", .optional .text),
    ("directory", .optional .text), ("s3CredentialsSecret", .optional Reference.shape)]

def EtcdConfig.shape : Shape :=
  .record [("exposeMetrics", .flag), ("backupConfig", .optional EtcdBackup.shape),
    ("customConfig", .optional ComponentConfig.shape)]

namespace ServerConfig

def fields : List (String × Shape) :=
  [("auditPolicySecret", .optional Reference.shape), ("bindAddress", .optional .text),
    ("cni", .optional .text), ("cniMultusEnable", .flag), ("pauseImage", .optional .text),
    ("clusterDNS", .optional .text), ("clusterDomain", .optional .text),
    ("cloudProviderName", .optional .text), ("cloudProviderConfigMap", .optional Reference.shape),
    ("disableComponents", .optional DisabledComponents.shape),
    ("kubeAPIServer", .optional ComponentConfig.shape),
    ("kubeControllerManager", .optional ComponentConfig.shape),
    ("kubeScheduler", .optional ComponentConfig.shape), ("etcd", .optional EtcdConfig.shape),
    ("serviceNodePortRange", .optional .text), ("embeddedRegistry", .flag)]

def shape : Shape := .record fields

end ServerConfig

theorem Reference.hasShape : Reference.codec.HasShape shape :=
  Record.HasShape.codec (.imap (.and .word <| .and .word <| .and .word <| .one .optionalString) _ _)
    (by decide)

theorem ComponentConfig.hasShape : ComponentConfig.codec.HasShape shape :=
  Record.HasShape.codec
    (.imap (.and .stringDict <| .and .stringList <| .and .stringDict <| .one .optionalString) _ _)
    (by decide)

theorem DisabledComponents.hasShape : DisabledComponents.codec.HasShape shape :=
  Record.HasShape.codec (.imap (.and .stringList <| .one .stringList) _ _) (by decide)

theorem EtcdBackup.hasShape : EtcdBackup.codec.HasShape shape :=
  Record.HasShape.codec
    (.imap
      (.and (.optional .bool) <|
        .and .optionalString <|
        .and .optionalString <|
        .and .optionalString <|
        .and .optionalString <|
        .one (.optional Reference.hasShape)) _ _)
    (by decide)

theorem EtcdConfig.hasShape : EtcdConfig.codec.HasShape shape :=
  Record.HasShape.codec
    (.imap (.and .flag <| .and (.optional EtcdBackup.hasShape) <|
      .one (.optional ComponentConfig.hasShape)) _ _)
    (by decide)

namespace ServerConfig

theorem record_hasShape : record.HasShape fields :=
  .imap
    (.and (.optional Reference.hasShape) <|
      .and .optionalString <|
      .and .optionalString <|
      .and .flag <|
      .and .optionalString <|
      .and .optionalString <|
      .and .optionalString <|
      .and .optionalString <|
      .and (.optional Reference.hasShape) <|
      .and (.optional DisabledComponents.hasShape) <|
      .and (.optional ComponentConfig.hasShape) <|
      .and (.optional ComponentConfig.hasShape) <|
      .and (.optional ComponentConfig.hasShape) <|
      .and (.optional EtcdConfig.hasShape) <|
      .and .optionalString <|
      .one .flag) _ _

theorem hasShape : codec.HasShape shape := record_hasShape.codec (by decide)

end ServerConfig
end Rollout
