import Rollout.Store.Call

/-! Stores of objects by kind, namespace and name. -/
namespace Rollout

abbrev ObjectId := String × String × String

structure Stored where
  kind : ObjectKind
  object : kind.Object

namespace Stored

def as? (kind : ObjectKind) (s : Stored) : Option kind.Object :=
  if h : s.kind = kind then some (h ▸ s.object) else none

def metadata (s : Stored) : Metadata := s.kind.metadata s.object

def encode (s : Stored) : Json := s.kind.codec.encode s.object

end Stored

structure Store where
  objects : Table ObjectId Stored

namespace Store

def empty : Store := ⟨∅⟩

instance : EmptyCollection Store := ⟨empty⟩
instance : Inhabited Store := ⟨empty⟩

def idOf (kind : ObjectKind) (namespaceName name : String) : ObjectId :=
  (kind.kind.name, namespaceName, name)

def get? (s : Store) (kind : ObjectKind) (namespaceName name : String) : Option kind.Object :=
  (s.objects.get? (idOf kind namespaceName name)).bind (Stored.as? kind)

def list (s : Store) (kind : ObjectKind) (namespaceName : String) (labels : Dict String) :
    List kind.Object :=
  (s.objects.entries.filterMap fun (id, stored) =>
    if id.1 = kind.kind.name ∧ id.2.1 = namespaceName then stored.as? kind
    else none).filter fun o =>
      (kind.metadata o).labelDict.includes labels

def put (s : Store) (kind : ObjectKind) (object : kind.Object) : Store :=
  let m := kind.metadata object
  ⟨s.objects.insert (idOf kind m.namespaceOrEmpty m.nameOrEmpty) ⟨kind, object⟩⟩

def create? (s : Store) (kind : ObjectKind) (namespaceName : String) (object : kind.Object) :
    Option (kind.Object × Store) :=
  let m := kind.metadata object
  let id := idOf kind namespaceName m.nameOrEmpty
  if s.objects.contains id then none
  else
    let created := kind.withMetadata object
      { m with namespaceName := some namespaceName, uid := some ("uid-" ++ m.nameOrEmpty) }
    some (created, ⟨s.objects.insert id ⟨kind, created⟩⟩)

end Store
end Rollout
