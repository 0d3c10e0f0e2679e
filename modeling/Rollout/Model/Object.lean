import Rollout.Kind
import Rollout.Model.ControlPlane
import Rollout.Model.Machine
import Rollout.Model.Metadata
import Rollout.Text.Base64

/-!
Whole objects, with their metadata. Secrets and collections of settings are lenient records that
have to be of the kind they say; the other kinds need metadata and a specification, and what they
say of their kind is skipped.
-/
namespace Rollout
open Text

def Codec.bytes : Codec (List UInt8) :=
  Codec.string.refine (fun s => decodeBase64 s.toList)
    (fun bytes => String.ofList (encodeBase64 bytes))

structure Secret where
  metadata : Metadata := {}
  data : Option (Dict (List UInt8)) := none
  immutable : Option Bool := none
  stringData : Option (Dict String) := none
  type : Option String := none
  deriving Inhabited

def Secret.codec : Codec Secret :=
  ((Record.and (.fixed "apiVersion" Kind.secret.apiVersion) <|
    .and (.fixed "kind" Kind.secret.name) <|
    .and (.lenient "data" (.dict .bytes)) <|
    .and (.lenient "immutable" .bool) <|
    .and (.lenientPlain "metadata" Metadata.codec {}) <|
    .and (.lenient "stringData" (.dict .string)) <|
    .one (.lenient "type" .string)).imap
    (fun (_, _, data, immutable, metadata, stringData, type) =>
      { metadata, data, immutable, stringData, type })
    (fun s => ((), (), s.data, s.immutable, s.metadata, s.stringData, s.type))).namedCodec

structure ConfigMap where
  metadata : Metadata := {}
  binaryData : Option (Dict (List UInt8)) := none
  data : Option (Dict String) := none
  immutable : Option Bool := none
  deriving Inhabited

def ConfigMap.codec : Codec ConfigMap :=
  ((Record.and (.fixed "apiVersion" Kind.configMap.apiVersion) <|
    .and (.fixed "kind" Kind.configMap.name) <|
    .and (.lenient "binaryData" (.dict .bytes)) <|
    .and (.lenient "data" (.dict .string)) <|
    .and (.lenient "immutable" .bool) <|
    .one (.lenientPlain "metadata" Metadata.codec {})).imap
    (fun (_, _, binaryData, data, immutable, metadata) => { metadata, binaryData, data, immutable })
    (fun c => ((), (), c.binaryData, c.data, c.immutable, c.metadata))).namedCodec

structure InfrastructureObject where
  metadata : Metadata := {}
  deriving Inhabited

def InfrastructureObject.codec : Codec InfrastructureObject :=
  ((Record.one (.plain "metadata" Metadata.codec {})).imap InfrastructureObject.mk
    InfrastructureObject.metadata).namedCodec

structure Specified (Spec : Type) where
  metadata : Metadata := {}
  spec : Spec

instance {Spec : Type} [Inhabited Spec] : Inhabited (Specified Spec) := ⟨⟨{}, default⟩⟩

abbrev Machine := Specified MachineSpec
abbrev BootstrapObject := Specified BootstrapConfig
abbrev ControlPlane := Specified ControlPlaneSpec

namespace Specified
variable {Spec : Type}

def record (spec : Codec Spec) : Record (Specified Spec) :=
  (Record.and (.required "metadata" Metadata.codec) <| .one (.required "spec" spec)).imap
    (fun (metadata, spec) => ⟨metadata, spec⟩) (fun o => (o.metadata, o.spec))

def codec (kind : Kind) (spec : Codec Spec) : Codec (Specified Spec) where
  encode o :=
    .object (("apiVersion", .text kind.apiVersion) :: ("kind", .text kind.name) ::
      (record spec).write o)
  decode := (record spec).codec.decode

end Specified

inductive ObjectKind
  | secret
  | configMap
  | machine
  | bootstrapConfig
  | controlPlane
  deriving DecidableEq, Repr

namespace ObjectKind

def kind : ObjectKind → Kind
  | secret => .secret
  | configMap => .configMap
  | machine => .machine
  | bootstrapConfig => .bootstrapConfig
  | controlPlane => .controlPlane

@[reducible] def Object : ObjectKind → Type
  | secret => Secret
  | configMap => ConfigMap
  | machine => Machine
  | bootstrapConfig => BootstrapObject
  | controlPlane => ControlPlane

def codec : (k : ObjectKind) → Codec k.Object
  | secret => Secret.codec
  | configMap => ConfigMap.codec
  | machine => Specified.codec .machine MachineSpec.codec
  | bootstrapConfig => Specified.codec .bootstrapConfig BootstrapConfig.codec
  | controlPlane => Specified.codec .controlPlane ControlPlaneSpec.codec

def metadata : (k : ObjectKind) → k.Object → Metadata
  | secret, o => Secret.metadata o
  | configMap, o => ConfigMap.metadata o
  | machine, o | bootstrapConfig, o | controlPlane, o => Specified.metadata o

def withMetadata : (k : ObjectKind) → k.Object → Metadata → k.Object
  | secret, o, m => { o with metadata := m : Secret }
  | configMap, o, m => { o with metadata := m : ConfigMap }
  | machine, o, m => { o with metadata := m : Machine }
  | bootstrapConfig, o, m => { o with metadata := m : BootstrapObject }
  | controlPlane, o, m => { o with metadata := m : ControlPlane }

def controllerReference (k : ObjectKind) (o : k.Object) : Except Failure OwnerReference :=
  let m := k.metadata o
  match m.name, m.uid with
  | some name, some uid =>
    .ok { apiVersion := k.kind.apiVersion, kind := k.kind.name, name, uid, controller := some true }
  -- without both there is nothing to refer to the object by
  | name, _ =>
    .error (.invalidAnywhere
      (k.kind.name ++ " " ++ name.getD "<unnamed>" ++
        " has no name or uid; cannot own other objects"))

end ObjectKind
end Rollout
