import Rollout.Model.BootstrapConfig
import Rollout.Proofs.Json.Agreement
import Rollout.Proofs.Json.Nesting
import Rollout.Proofs.Model.ServerConfig

/-!
Every bootstrap configuration is read back, and so is every part of one. The whole nests four deep,
so it can also stand inside another record, and it is read from nothing but its own members there.
-/
namespace Rollout

theorem SecretKey.keeps (s : SecretKey) : SecretKey.codec.Keeps s :=
  Record.Keeps.codec
    (.imap (.and (.required (.string _)) <| .one (.required (.string _))) rfl)
    (by decide)

theorem FileSource.keeps (s : FileSource) : FileSource.codec.Keeps s :=
  Record.Keeps.codec (.imap (.one (.required s.secret.keeps)) rfl) (by decide)

theorem File.keeps (f : File) : File.codec.Keeps f :=
  Record.Keeps.codec
    (.imap
      (.and (.required (.string _)) <|
        .and (.optionalString _) <|
        .and (.optionalString _) <|
        .and (.optionalString _) <|
        .and (.optionalString _) <|
        .one (.optional fun s _ => s.keeps)) rfl)
    (by decide)

theorem Ntp.keeps (n : Ntp) : Ntp.codec.Keeps n :=
  Record.Keeps.codec
    (.imap (.and (.stringList _) <| .one (.optional fun b _ => .bool b)) rfl)
    (by decide)

theorem AgentConfig.keeps (a : AgentConfig) : AgentConfig.codec.Keeps a :=
  Record.Keeps.codec
    (.imap
      (.and (.optionalString _) <|
        .and (.optionalString _) <|
        .and (.optionalString _) <|
        .and (.stringList _) <|
        .and (.stringList _) <|
        .and (.optional fun c _ => c.keeps) <|
        .and (.optional fun c _ => c.keeps) <|
        .and (.optional fun n _ => n.keeps) <|
        .and (.optional fun r _ => r.keeps) <|
        .and (.flag _) <|
        .and (.flag _) <|
        .and (.flag _) <|
        .one (.optionalString _)) rfl)
    (by decide)

theorem RegistryEndpoints.keeps (e : RegistryEndpoints) : RegistryEndpoints.codec.Keeps e :=
  Record.Keeps.codec
    (.imap (.and (.stringList _) <| .one (.stringDict _)) rfl)
    (by decide)

theorem RegistryAccess.keeps (a : RegistryAccess) : RegistryAccess.codec.Keeps a :=
  Record.Keeps.codec
    (.imap (.and (.optional fun r _ => r.keeps) <| .and (.optional fun r _ => r.keeps) <|
      .one (.flag _)) rfl)
    (by decide)

theorem Registries.keeps (r : Registries) : Registries.codec.Keeps r :=
  Record.Keeps.codec
    (.imap (.and (.dict fun e _ => e.2.keeps) <| .one (.dict fun e _ => e.2.keeps)) rfl)
    (by decide)

theorem BootstrapConfig.record_keeps (c : BootstrapConfig) : BootstrapConfig.record.Keeps c :=
  .imap
    (.and (.list fun f _ => f.keeps) <|
      .and (.stringList _) <|
      .and (.stringList _) <|
      .and (.plainly c.agent.keeps) <|
      .and (.optional fun r _ => r.keeps) <|
      .one (.optional fun b _ => .bool b)) rfl

theorem BootstrapConfig.keeps (c : BootstrapConfig) : BootstrapConfig.codec.Keeps c :=
  c.record_keeps.codec (by decide)

variable {n : Nat}

theorem Reference.nests : Reference.codec.Nests (n + 1) :=
  Record.Nests.codec
    (.imap (.and .word <| .and .word <| .and .word <| .one (.optional .string)) _ _)

theorem ComponentConfig.nests : ComponentConfig.codec.Nests (n + 2) :=
  Record.Nests.codec
    (.imap
      (.and (.dict .string) <|
        .and (.list .string) <|
        .and (.dict .string) <|
        .one (.optional .string)) _ _)

theorem SecretKey.nests : SecretKey.codec.Nests (n + 1) :=
  Record.Nests.codec (.imap (.and (.required .string) <| .one (.required .string)) _ _)

theorem FileSource.nests : FileSource.codec.Nests (n + 2) :=
  Record.Nests.codec (.imap (.one (.required SecretKey.nests)) _ _)

theorem File.nests : File.codec.Nests (n + 3) :=
  Record.Nests.codec
    (.imap
      (.and (.required .string) <|
        .and (.optional .string) <|
        .and (.optional .string) <|
        .and (.optional .string) <|
        .and (.optional .string) <|
        .one (.optional FileSource.nests)) _ _)

theorem Ntp.nests : Ntp.codec.Nests (n + 2) :=
  Record.Nests.codec (.imap (.and (.list .string) <| .one (.optional .bool)) _ _)

theorem AgentConfig.nests : AgentConfig.codec.Nests (n + 3) :=
  Record.Nests.codec
    (.imap
      (.and (.optional .string) <|
        .and (.optional .string) <|
        .and (.optional .string) <|
        .and (.list .string) <|
        .and (.list .string) <|
        .and (.optional ComponentConfig.nests) <|
        .and (.optional ComponentConfig.nests) <|
        .and (.optional Ntp.nests) <|
        .and (.optional Reference.nests) <|
        .and .flag <|
        .and .flag <|
        .and .flag <|
        .one (.optional .string)) _ _)

theorem RegistryEndpoints.nests : RegistryEndpoints.codec.Nests (n + 2) :=
  Record.Nests.codec (.imap (.and (.list .string) <| .one (.dict .string)) _ _)

theorem RegistryAccess.nests : RegistryAccess.codec.Nests (n + 2) :=
  Record.Nests.codec
    (.imap (.and (.optional Reference.nests) <| .and (.optional Reference.nests) <| .one .flag) _ _)

theorem Registries.nests : Registries.codec.Nests (n + 4) :=
  Record.Nests.codec
    (.imap (.and (.dict RegistryEndpoints.nests) <| .one (.dict RegistryAccess.nests)) _ _)

theorem BootstrapConfig.record_nests : BootstrapConfig.record.Nests (n + 4) :=
  .imap
    (.and (.list File.nests) <|
      .and (.list .string) <|
      .and (.list .string) <|
      .and (.plainly AgentConfig.nests) <|
      .and (.optional Registries.nests) <|
      .one (.optional .bool)) _ _

theorem BootstrapConfig.record_isLocal : BootstrapConfig.record.IsLocal :=
  .imap (.and .strict <| .and .strict <| .and .strict <| .and .strict <| .and .strict <|
    .one .strict) _ _

end Rollout
