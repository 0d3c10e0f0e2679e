import Rollout.Failure
import Rollout.Net.Uri
import Rollout.Text.Base64
import Rollout.Trust.Pem
import Rollout.Yaml.Parser

/-!
Kubeconfigs: clusters, users and contexts by name, in one or several YAML documents. Where two
documents have an entry of the same name, the earlier one counts. `Endpoint` is what the current
context comes to. The readers of kubeconfigs are parameters; `KubeconfigReaders.standard` are the
ones that are used.
-/
namespace Rollout
open Text

structure Named (α : Type) where
  name : String
  value : Option α

def Named.codec {α : Type} (member : String) (c : Codec α) : Codec (Named α) :=
  ((Record.and (.required "name" .string) <| .one (.optional member c)).imap
    (fun (name, value) => ⟨name, value⟩) (fun n => (n.name, n.value))).namedCodec

structure KubeExtension where
  name : String
  extension : Json

def KubeExtension.codec : Codec KubeExtension :=
  ((Record.and (.required "name" .string) <| .one (.required "extension" (.document 0))).imap
    (fun (name, extension) => ⟨name, extension⟩) (fun e => (e.name, e.extension))).namedCodec

structure KubeCluster where
  server : Option String := none
  insecureSkipTlsVerify : Option Bool := none
  certificateAuthority : Option String := none
  certificateAuthorityData : Option String := none
  proxyUrl : Option String := none
  disableCompression : Option Bool := none
  tlsServerName : Option String := none
  extensions : Option (List KubeExtension) := none

def KubeCluster.codec : Codec KubeCluster :=
  ((Record.and (.optional "server" .string) <|
    .and (.optional "insecure-skip-tls-verify" .bool) <|
    .and (.optional "certificate-authority" .string) <|
    .and (.optional "certificate-authority-data" .string) <|
    .and (.optional "proxy-url" .string) <|
    .and (.optional "disable-compression" .bool) <|
    .and (.optional "tls-server-name" .string) <|
    .one (.optional "extensions" KubeExtension.codec.list)).imap
    (fun (server, insecureSkipTlsVerify, certificateAuthority, certificateAuthorityData, proxyUrl,
        disableCompression, tlsServerName, extensions) =>
      { server, insecureSkipTlsVerify, certificateAuthority, certificateAuthorityData, proxyUrl,
        disableCompression, tlsServerName, extensions })
    (fun c => (c.server, c.insecureSkipTlsVerify, c.certificateAuthority,
      c.certificateAuthorityData, c.proxyUrl, c.disableCompression, c.tlsServerName,
      c.extensions))).namedCodec

structure KubeUser where
  username : Option String := none
  password : Option String := none
  token : Option String := none
  tokenFile : Option String := none
  clientCertificate : Option String := none
  clientCertificateData : Option String := none
  clientKey : Option String := none
  clientKeyData : Option String := none
  impersonate : Option String := none
  impersonateGroups : Option (List String) := none
  authProvider : Option Json := none
  exec : Option Json := none

def KubeUser.codec : Codec KubeUser :=
  ((Record.and (.optional "username" .string) <|
    .and (.optional "password" .string) <|
    .and (.optional "token" .string) <|
    .and (.optional "tokenFile" .string) <|
    .and (.optional "client-certificate" .string) <|
    .and (.optional "client-certificate-data" .string) <|
    .and (.optional "client-key" .string) <|
    .and (.optional "client-key-data" .string) <|
    .and (.optional "as" .string) <|
    .and (.optional "as-groups" (.list .string)) <|
    .and (.optional "auth-provider" (.document 0)) <|
    .one (.optional "exec" (.document 0))).imap
    (fun (username, password, token, tokenFile, clientCertificate, clientCertificateData, clientKey,
        clientKeyData, impersonate, impersonateGroups, authProvider, exec) =>
      { username, password, token, tokenFile, clientCertificate, clientCertificateData, clientKey,
        clientKeyData, impersonate, impersonateGroups, authProvider, exec })
    (fun u => (u.username, u.password, u.token, u.tokenFile, u.clientCertificate,
      u.clientCertificateData, u.clientKey, u.clientKeyData, u.impersonate, u.impersonateGroups,
      u.authProvider, u.exec))).namedCodec

structure KubeContext where
  cluster : String
  user : Option String := none
  namespaceName : Option String := none
  extensions : Option (List KubeExtension) := none

def KubeContext.codec : Codec KubeContext :=
  ((Record.and (.required "cluster" .string) <|
    .and (.optional "user" .string) <|
    .and (.optional "namespace" .string) <|
    .one (.optional "extensions" KubeExtension.codec.list)).imap
    (fun (cluster, user, namespaceName, extensions) =>
      ⟨cluster, user, namespaceName, extensions⟩)
    (fun c => (c.cluster, c.user, c.namespaceName, c.extensions))).namedCodec

structure KubePreferences where
  colors : Option Bool := none
  extensions : Option (List KubeExtension) := none

def KubePreferences.codec : Codec KubePreferences :=
  ((Record.and (.optional "colors" .bool) <|
    .one (.optional "extensions" KubeExtension.codec.list)).imap
    (fun (colors, extensions) => ⟨colors, extensions⟩)
    (fun p => (p.colors, p.extensions))).namedCodec

structure Kubeconfig where
  preferences : Option KubePreferences := none
  clusters : List (Named KubeCluster) := []
  users : List (Named KubeUser) := []
  contexts : List (Named KubeContext) := []
  currentContext : Option String := none
  extensions : Option (List KubeExtension) := none
  kind : Option String := none
  apiVersion : Option String := none

inductive KubeconfigFault
  | syntaxFault (fault : Yaml.Fault)
  | badStructure
  | differentKinds
  | differentVersions
  deriving DecidableEq, Repr

def KubeconfigFault.message : KubeconfigFault → String
  | syntaxFault fault => "failed to parse kubeconfig YAML: " ++ fault.message
  | badStructure => "the structure of the parsed kubeconfig is invalid"
  | differentKinds => "kubeconfigs with mismatching kind cannot be merged"
  | differentVersions => "kubeconfigs with mismatching api version cannot be merged"

inductive EndpointFault
  | noCurrentContext
  | unknownContext (name : String)
  | unknownCluster (name : String)
  | noServer
  | badServer (url : String)
  | badAuthorityData
  | noSuchFile (path : String)
  | badAuthority (fault : Pem.Fault)
  | badProxy (url : String)
  deriving DecidableEq, Repr

def EndpointFault.message : EndpointFault → String
  | noCurrentContext => "failed to determine current context"
  | unknownContext name => "failed to load current context: " ++ name
  | unknownCluster name => "failed to load the cluster of context: " ++ name
  | noServer => "cluster url is missing on selected cluster"
  | badServer url => "failed to parse cluster url: " ++ url
  | badAuthorityData => "failed to load certificate authority: invalid data"
  | noSuchFile path => "failed to read file " ++ path
  | badAuthority fault => "failed to parse PEM-encoded certificates: " ++ fault.message
  | badProxy url => "failed to parse proxy url: " ++ url

namespace Kubeconfig

def codec : Codec Kubeconfig :=
  ((Record.and (.optional "preferences" KubePreferences.codec) <|
    .and (.listOrNull "clusters" (Named.codec "cluster" KubeCluster.codec) (some [])) <|
    .and (.listOrNull "users" (Named.codec "user" KubeUser.codec) (some [])) <|
    .and (.listOrNull "contexts" (Named.codec "context" KubeContext.codec) (some [])) <|
    .and (.optional "current-context" .string) <|
    .and (.optional "extensions" KubeExtension.codec.list) <|
    .and (.optional "kind" .string) <|
    .one (.optional "apiVersion" .string)).imap
    (fun (preferences, clusters, users, contexts, currentContext, extensions, kind, apiVersion) =>
      { preferences, clusters, users, contexts, currentContext, extensions, kind, apiVersion })
    (fun k => (k.preferences, k.clusters, k.users, k.contexts, k.currentContext, k.extensions,
      k.kind, k.apiVersion))).namedCodec

def mergeNamed {α : Type} (first second : List (Named α)) : List (Named α) :=
  first ++ second.filter fun n => !first.any (·.name == n.name)

def differ : Option String → Option String → Bool
  | some a, some b => a != b
  | _, _ => false

def merge (first second : Kubeconfig) : Except KubeconfigFault Kubeconfig :=
  if differ first.kind second.kind then .error .differentKinds
  else if differ first.apiVersion second.apiVersion then .error .differentVersions
  else .ok {
    preferences := first.preferences.or second.preferences
    clusters := mergeNamed first.clusters second.clusters
    users := mergeNamed first.users second.users
    contexts := mergeNamed first.contexts second.contexts
    currentContext := first.currentContext.or second.currentContext
    extensions := first.extensions
    kind := first.kind.or second.kind
    apiVersion := first.apiVersion.or second.apiVersion }

def ofYaml (text : List Char) : Except KubeconfigFault Kubeconfig := do
  let documents ← (Yaml.documents text).mapError .syntaxFault
  let parts ← (documents.map Yaml.Value.toJson).filterMapM fun
    | .null => .ok none
    | j => match codec.decode j with
      | some k => .ok (some k)
      | none => .error KubeconfigFault.badStructure
  parts.foldlM merge {}

def find? {α : Type} (entries : List (Named α)) (name : String) : Option α :=
  (entries.find? (·.name == name)).bind (·.value)

end Kubeconfig

/-- Where and how a cluster is reached. Durations are in milliseconds. -/
structure Endpoint where
  url : Uri
  defaultNamespace : String := "default"
  rootCertificates : Option (List (List UInt8)) := none
  connectTimeout : Option Nat := some 30000
  readTimeout : Option Nat := some 295000
  acceptInvalidCertificates : Bool := false
  proxy : Option Uri := none
  tlsServerName : Option String := none
  user : KubeUser := {}

namespace Endpoint

def withTimeout (e : Endpoint) (millis : Nat) : Endpoint :=
  { e with connectTimeout := some millis, readTimeout := some millis }

/-- Bytes as text; those that are no text are replaced, none of which can be part of a marked
line. -/
def lossyText (bytes : List UInt8) : List Char :=
  match decodeUtf8 bytes with
  | .ok cs => cs
  | .error _ => bytes.map fun b => if b < 0x80 then Char.ofNat b.toNat else '\ufffd'

def rootCertificatesOf (c : KubeCluster) : Except EndpointFault (Option (List (List UInt8))) :=
  match c.certificateAuthorityData, c.certificateAuthority with
  | none, none => .ok none
  | none, some path => .error (.noSuchFile path)
  -- data in place come before a file
  | some data, _ =>
    match decodeBase64 data.toList with
    | none => .error .badAuthorityData
    | some bytes =>
      match Pem.certificates (lossyText bytes) with
      | .ok certificates => .ok (some certificates)
      | .error fault => .error (.badAuthority fault)

def proxyOf (c : KubeCluster) : Except EndpointFault (Option Uri) :=
  match c.proxyUrl.filter (· ≠ "") with
  | none => .ok none
  | some url =>
    match Uri.parse? url.toList with
    | some uri => .ok (some uri)
    | none => .error (.badProxy url)

def ofKubeconfig (k : Kubeconfig) : Except EndpointFault Endpoint := do
  let some name := k.currentContext | throw .noCurrentContext
  let some context := Kubeconfig.find? k.contexts name | throw (.unknownContext name)
  let some cluster :=
    Kubeconfig.find? k.clusters context.cluster | throw (.unknownCluster context.cluster)
  let some server := cluster.server | throw .noServer
  let some url := Uri.parse? server.toList | throw (.badServer server)
  return {
    url
    defaultNamespace := context.namespaceName.getD "default"
    rootCertificates := ← rootCertificatesOf cluster
    acceptInvalidCertificates := cluster.insecureSkipTlsVerify.getD false
    proxy := ← proxyOf cluster
    tlsServerName := cluster.tlsServerName
    -- a user that is not described is nobody
    user := (context.user.bind (Kubeconfig.find? k.users)).getD {} }

end Endpoint

/-- What kubeconfigs are read with. What is wrong is said in words. -/
structure KubeconfigReaders where
  parse : List Char → Except String Kubeconfig
  load : Kubeconfig → Except String Endpoint

def KubeconfigReaders.standard : KubeconfigReaders where
  parse text := (Kubeconfig.ofYaml text).mapError KubeconfigFault.message
  load k := (Endpoint.ofKubeconfig k).mapError EndpointFault.message

def Endpoint.ofYaml (text : List Char) (timeout : Nat) (r : KubeconfigReaders := .standard) :
    Except Failure Endpoint :=
  let fail {α : Type} (message : String) : Except Failure α :=
    .error (.internal "config_from_kubeconfig" message)
  match r.parse text with
  | .error message => fail ("failed to parse kubeconfig: " ++ message)
  | .ok k =>
    match r.load k with
    | .error message => fail ("failed to load kubeconfig: " ++ message)
    | .ok endpoint => .ok (endpoint.withTimeout timeout)

end Rollout
