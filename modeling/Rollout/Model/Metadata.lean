import Rollout.Calendar
import Rollout.Json.Record

/-!
What all objects of a cluster have in common: their identity, labels, annotations and owners.
Metadata are lenient records.
-/
namespace Rollout

structure OwnerReference where
  apiVersion : String := ""
  kind : String := ""
  name : String := ""
  uid : String := ""
  blockOwnerDeletion : Option Bool := none
  controller : Option Bool := none
  deriving DecidableEq, Repr, Inhabited

def OwnerReference.codec : Codec OwnerReference :=
  ((Record.and (.lenientPlain "apiVersion" .string "") <|
    .and (.lenient "blockOwnerDeletion" .bool) <|
    .and (.lenient "controller" .bool) <|
    .and (.lenientPlain "kind" .string "") <|
    .and (.lenientPlain "name" .string "") <|
    .one (.lenientPlain "uid" .string "")).imap
    (fun (apiVersion, blockOwnerDeletion, controller, kind, name, uid) =>
      { apiVersion, blockOwnerDeletion, controller, kind, name, uid })
    (fun o => (o.apiVersion, o.blockOwnerDeletion, o.controller, o.kind, o.name, o.uid))).namedCodec

def DateTime.codec : Codec DateTime :=
  Codec.string.refine (fun s => DateTime.parse? s.toList) (fun t => String.ofList t.render)

def Codec.int64 : Codec Int := .intBetween (-0x8000000000000000) 0x7fffffffffffffff

structure ManagedFields where
  apiVersion : Option String := none
  fieldsType : Option String := none
  fields : Option Json := none
  manager : Option String := none
  operation : Option String := none
  subresource : Option String := none
  time : Option DateTime := none

def ManagedFields.nesting : Nat := 4

def ManagedFields.codec : Codec ManagedFields :=
  ((Record.and (.lenient "apiVersion" .string) <|
    .and (.lenient "fieldsType" .string) <|
    .and (.lenient "fieldsV1" (.document nesting)) <|
    .and (.lenient "manager" .string) <|
    .and (.lenient "operation" .string) <|
    .and (.lenient "subresource" .string) <|
    .one (.lenient "time" DateTime.codec)).imap
    (fun (apiVersion, fieldsType, fields, manager, operation, subresource, time) =>
      { apiVersion, fieldsType, fields, manager, operation, subresource, time })
    (fun m => (m.apiVersion, m.fieldsType, m.fields, m.manager, m.operation, m.subresource,
      m.time))).namedCodec

structure Metadata where
  annotations : Option (Dict String) := none
  creationTimestamp : Option DateTime := none
  deletionGracePeriodSeconds : Option Int := none
  deletionTimestamp : Option DateTime := none
  finalizers : Option (List String) := none
  generateName : Option String := none
  generation : Option Int := none
  labels : Option (Dict String) := none
  managedFields : Option (List ManagedFields) := none
  name : Option String := none
  namespaceName : Option String := none
  ownerReferences : Option (List OwnerReference) := none
  resourceVersion : Option String := none
  selfLink : Option String := none
  uid : Option String := none
  deriving Inhabited

namespace Metadata

def codec : Codec Metadata :=
  ((Record.and (.lenient "annotations" (.dict .string)) <|
    .and (.lenient "creationTimestamp" DateTime.codec) <|
    .and (.lenient "deletionGracePeriodSeconds" .int64) <|
    .and (.lenient "deletionTimestamp" DateTime.codec) <|
    .and (.lenient "finalizers" (.list .string)) <|
    .and (.lenient "generateName" .string) <|
    .and (.lenient "generation" .int64) <|
    .and (.lenient "labels" (.dict .string)) <|
    .and (.lenient "managedFields" (.list ManagedFields.codec)) <|
    .and (.lenient "name" .string) <|
    .and (.lenient "namespace" .string) <|
    .and (.lenient "ownerReferences" (.list OwnerReference.codec)) <|
    .and (.lenient "resourceVersion" .string) <|
    .and (.lenient "selfLink" .string) <|
    .one (.lenient "uid" .string)).imap
    (fun (annotations, creationTimestamp, deletionGracePeriodSeconds, deletionTimestamp, finalizers,
        generateName, generation, labels, managedFields, name, namespaceName, ownerReferences,
        resourceVersion, selfLink, uid) =>
      { annotations, creationTimestamp, deletionGracePeriodSeconds, deletionTimestamp, finalizers,
        generateName, generation, labels, managedFields, name, namespaceName, ownerReferences,
        resourceVersion, selfLink, uid })
    (fun m => (m.annotations, m.creationTimestamp, m.deletionGracePeriodSeconds,
      m.deletionTimestamp, m.finalizers, m.generateName, m.generation, m.labels, m.managedFields,
      m.name, m.namespaceName, m.ownerReferences, m.resourceVersion, m.selfLink, m.uid))).namedCodec

def annotation? (m : Metadata) (key : String) : Option String :=
  m.annotations.bind (·.get? key)

def labelDict (m : Metadata) : Dict String :=
  m.labels.getD ∅

def anyName (m : Metadata) : String :=
  (m.name.or m.generateName).getD ""

def nameOrEmpty (m : Metadata) : String :=
  m.name.getD ""

def namespaceOrEmpty (m : Metadata) : String :=
  m.namespaceName.getD ""

end Metadata
end Rollout
