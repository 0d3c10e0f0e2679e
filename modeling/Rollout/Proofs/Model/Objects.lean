import Rollout.Model.Object
import Rollout.Proofs.Model.Specifications
import Rollout.Proofs.Text.Base64

/-!
Objects of all kinds are read back from their text, secrets whatever bytes are in them. Of the
metadata around them the times, the counters and the history of changes need not be as they are
written, so they are asked for; what is made new has none of them.
-/
namespace Rollout

theorem Codec.Keeps.bytes (bytes : List UInt8) : Codec.bytes.Keeps bytes where
  decode_encode := by
    show Text.decodeBase64 (String.ofList (Text.encodeBase64 bytes)).toList = some bytes
    rw [String.toList_ofList]
    exact Text.decodeBase64_encodeBase64 bytes
  plain := rfl
  ne_null := nofun

theorem OwnerReference.keeps (o : OwnerReference) : OwnerReference.codec.Keeps o :=
  Record.Keeps.namedCodec
    (.imap
      (.and (.lenientPlain (.string _)) <|
        .and (.lenient fun b _ => .bool b) <|
        .and (.lenient fun b _ => .bool b) <|
        .and (.lenientPlain (.string _)) <|
        .and (.lenientPlain (.string _)) <|
        .one (.lenientPlain (.string _))) rfl)
    (by decide)

structure Metadata.IsKept (m : Metadata) : Prop where
  created : ∀ t ∈ m.creationTimestamp, DateTime.codec.Keeps t
  deleted : ∀ t ∈ m.deletionTimestamp, DateTime.codec.Keeps t
  grace : ∀ n ∈ m.deletionGracePeriodSeconds, Codec.int64.Keeps n
  generation : ∀ n ∈ m.generation, Codec.int64.Keeps n
  history : ∀ changes ∈ m.managedFields, ∀ change ∈ changes,
    ManagedFields.codec.Keeps change

theorem Metadata.keeps {m : Metadata} (h : m.IsKept) : Metadata.codec.Keeps m :=
  Record.Keeps.namedCodec
    (.imap
      (.and (.lenientDict _) <|
        .and (.lenient h.created) <|
        .and (.lenient h.grace) <|
        .and (.lenient h.deleted) <|
        .and (.lenient fun _ _ => .list fun s _ => .string s) <|
        .and (.lenientString _) <|
        .and (.lenient h.generation) <|
        .and (.lenientDict _) <|
        .and (.lenient fun changes hchanges => .list (h.history changes hchanges)) <|
        .and (.lenientString _) <|
        .and (.lenientString _) <|
        .and (.lenient fun _ _ => .list fun o _ => o.keeps) <|
        .and (.lenientString _) <|
        .and (.lenientString _) <|
        .one (.lenientString _)) rfl)
    (by decide)

theorem Secret.keeps {s : Secret} (h : s.metadata.IsKept) : Secret.codec.Keeps s :=
  Record.Keeps.namedCodec
    (.imap
      (.and (.fixed _ _) <|
        .and (.fixed _ _) <|
        .and (.lenient fun _ _ => .dict fun e _ => .bytes e.2) <|
        .and (.lenient fun b _ => .bool b) <|
        .and (.lenientPlain (Metadata.keeps h)) <|
        .and (.lenientDict _) <|
        .one (.lenientString _)) rfl)
    (by decide)

theorem ConfigMap.keeps {m : ConfigMap} (h : m.metadata.IsKept) : ConfigMap.codec.Keeps m :=
  Record.Keeps.namedCodec
    (.imap
      (.and (.fixed _ _) <|
        .and (.fixed _ _) <|
        .and (.lenient fun _ _ => .dict fun e _ => .bytes e.2) <|
        .and (.lenientDict _) <|
        .and (.lenient fun b _ => .bool b) <|
        .one (.lenientPlain (Metadata.keeps h))) rfl)
    (by decide)

theorem Specified.keeps {Spec : Type} {spec : Codec Spec} {o : Specified Spec} (kind : Kind)
    (hmetadata : o.metadata.IsKept) (hspec : spec.Keeps o.spec) :
    (Specified.codec kind spec).Keeps o := by
  have hrecord : (record spec).Keeps o :=
    .imap (.and (.required (Metadata.keeps hmetadata)) <| .one (.required hspec)) rfl
  have hnodup : ["metadata", "spec"].Nodup := by decide
  let said : List (String × Json) :=
    [("apiVersion", .text kind.apiVersion), ("kind", .text kind.name)]
  -- what is said of the kind stands under names that the record does not look for
  have hsaid : ∀ name ∈ ["metadata", "spec"],
      Fields.valuesOf name (Fields.keyed (said ++ (record spec).write o)) =
        Fields.valuesOf name (Fields.keyed ((record spec).write o)) := by
    intro name hname
    have hother : ∀ m ∈ said, m.1 ≠ name := by
      rintro m hm rfl
      have hkind : ∀ key ∈ ["apiVersion", "kind"], key ∉ ["metadata", "spec"] := by decide
      exact hkind m.1 (List.mem_map_of_mem hm) hname
    rw [Fields.valuesOf_keyed_append, Fields.valuesOf_keyed_eq_nil hother, List.nil_append]
  refine ⟨?_, ?_, nofun⟩
  · change (Fields.ofJson? 2 (.object (said ++ (record spec).write o))).bind
      ((record spec).read 0) = some o
    rw [Fields.ofJson?_object]
    exact hrecord.read_write hnodup 0 _ hsaid
  · change (Json.obj (Fields.keyed (said ++ (record spec).write o))).isPlain = true
    rw [Json.isPlain_obj, Fields.keyed, List.all_map, List.all_append, Bool.and_eq_true]
    exact ⟨rfl, List.all_eq_true.2 hrecord.plain⟩

theorem ObjectKind.keeps {k : ObjectKind} {o : k.Object} (h : (k.metadata o).IsKept) :
    k.codec.Keeps o := by
  cases k with
  | secret => exact Secret.keeps h
  | configMap => exact ConfigMap.keeps h
  | machine => exact Specified.keeps _ h (MachineSpec.keeps _)
  | bootstrapConfig => exact Specified.keeps _ h (BootstrapConfig.keeps _)
  | controlPlane => exact Specified.keeps _ h (ControlPlaneSpec.keeps _)

end Rollout
