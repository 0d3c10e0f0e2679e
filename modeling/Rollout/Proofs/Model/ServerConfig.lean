import Rollout.Model.ServerConfig
import Rollout.Proofs.Json.Keeping

/-! Every server configuration is read back from its text, and so is every part of one. -/
namespace Rollout

theorem Reference.keeps (r : Reference) : Reference.codec.Keeps r :=
  Record.Keeps.codec
    (.imap (.and (.word _) <| .and (.word _) <| .and (.word _) <| .one (.optionalString _)) rfl)
    (by decide)

theorem ComponentConfig.keeps (c : ComponentConfig) : ComponentConfig.codec.Keeps c :=
  Record.Keeps.codec
    (.imap
      (.and (.stringDict _) <|
        .and (.stringList _) <|
        .and (.stringDict _) <|
        .one (.optionalString _)) rfl)
    (by decide)

theorem DisabledComponents.keeps (d : DisabledComponents) : DisabledComponents.codec.Keeps d :=
  Record.Keeps.codec
    (.imap (.and (.stringList _) <| .one (.stringList _)) rfl)
    (by decide)

theorem EtcdBackup.keeps (b : EtcdBackup) : EtcdBackup.codec.Keeps b :=
  Record.Keeps.codec
    (.imap
      (.and (.optional fun b _ => .bool b) <|
        .and (.optionalString _) <|
        .and (.optionalString _) <|
        .and (.optionalString _) <|
        .and (.optionalString _) <|
        .one (.optional fun r _ => r.keeps)) rfl)
    (by decide)

theorem EtcdConfig.keeps (e : EtcdConfig) : EtcdConfig.codec.Keeps e :=
  Record.Keeps.codec
    (.imap (.and (.flag _) <| .and (.optional fun b _ => b.keeps) <|
      .one (.optional fun c _ => c.keeps)) rfl)
    (by decide)

theorem ServerConfig.keeps (c : ServerConfig) : ServerConfig.codec.Keeps c :=
  Record.Keeps.codec
    (.imap
      (.and (.optional fun r _ => r.keeps) <|
        .and (.optionalString _) <|
        .and (.optionalString _) <|
        .and (.flag _) <|
        .and (.optionalString _) <|
        .and (.optionalString _) <|
        .and (.optionalString _) <|
        .and (.optionalString _) <|
        .and (.optional fun r _ => r.keeps) <|
        .and (.optional fun d _ => d.keeps) <|
        .and (.optional fun c _ => c.keeps) <|
        .and (.optional fun c _ => c.keeps) <|
        .and (.optional fun c _ => c.keeps) <|
        .and (.optional fun e _ => e.keeps) <|
        .and (.optionalString _) <|
        .one (.flag _)) rfl)
    (by decide)

end Rollout
