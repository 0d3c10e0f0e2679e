import Rollout.Proofs.Net.Requests
import Rollout.Store.Basic

/-!
How lists are asked for. The request goes to where an interface keeps the objects of the kind in the
namespace, and what its query says about labels is read as the selector for them. So whoever lists
there what the selector admits lists what was to be listed.
-/
namespace Rollout
open Text

namespace Request

def selector? (r : Request) : Option String :=
  r.target.query.bind (Form.field? "labelSelector")

variable {kind : ObjectKind} {namespaceName author : String} {labels : Dict String}

theorem ofCall_list_eq_ok_iff (hquestion : '?' ∉ namespaceName.toList)
    (hhash : '#' ∉ namespaceName.toList) {request : Request} :
    ofCall author (.list kind namespaceName labels) = .ok request ↔
      (namespaceName.toList.all Uri.isPathChar = true ∧
        (encodeUtf8 (collection kind namespaceName ++ '?' :: listQuery labels)).length ≤
          Uri.maxLength) ∧
        request = intended author (.list kind namespaceName labels) := by
  have hsaid : ∀ s ∈ (Call.list kind namespaceName labels).said,
      '?' ∉ s.toList ∧ '#' ∉ s.toList :=
    List.forall_mem_singleton.2 ⟨hquestion, hhash⟩
  have hall : (Call.list kind namespaceName labels).said.all (·.toList.all Uri.isPathChar) =
      namespaceName.toList.all Uri.isPathChar := Bool.and_true _
  rw [ofCall_eq_ok_iff hsaid, hall]
  exact and_iff_right trivial

end Request

theorem Store.list_eq_filter (s : Store) (kind : ObjectKind) (namespaceName : String)
    (labels : Dict String) :
    s.list kind namespaceName labels =
      (s.list kind namespaceName ∅).filter fun o =>
        (kind.metadata o).labelDict.includes labels := by
  have hall (own : Dict String) : own.includes ∅ = true := rfl
  unfold list
  rw [List.filter_filter]
  simp only [hall, Bool.and_true]

/-- The selector that is rendered for some labels means these labels and nothing else: it is empty
only for none, its text comes apart into their entries, in the order of the names, it admits what
has all of them, and the query of the request for a list is read as this selector. Where the
namespace does not end the path early, whoever lists what it admits at the place that is asked for
lists what was to be listed. -/
theorem Selector.means_labels (labels : Dict String) :
    (labelSelector labels = "" ↔ labels = ∅) ∧ (ofLabels? labels = none ↔ labels = ∅) ∧
    (IsSelectable labels →
      requirements (labelSelector labels) = labels.entries ∧
      (labels ≠ ∅ → (pieces ',' (labelSelector labels).toList).map (cutAt? '=') =
        labels.entries.map fun e => some (e.1.toList, e.2.toList)) ∧
      (requirements (labelSelector labels)).Pairwise (fun a b => Ranked.below a.1 b.1 = true) ∧
      (∀ other, IsSelectable other → labelSelector labels = labelSelector other →
        labels = other) ∧
      (∀ own, admits (ofLabels? labels) own = true ↔
        ∀ e ∈ labels.entries, own.get? e.1 = some e.2) ∧
      (∀ author kind namespaceName, Request.ofCall author (.list kind namespaceName labels) =
        Request.toTarget .get (Request.collection kind namespaceName ++ '?' ::
          Request.listQuery labels) none) ∧
      Form.field? "labelSelector" (Request.listQuery labels) = ofLabels? labels ∧
      ∀ author kind namespaceName,
        '?' ∉ namespaceName.toList → '#' ∉ namespaceName.toList →
        ((∃ request, Request.ofCall author (.list kind namespaceName labels) = .ok request) ↔
          namespaceName.toList.all Uri.isPathChar = true ∧
            (encodeUtf8 (Request.collection kind namespaceName ++ '?' ::
              Request.listQuery labels)).length ≤ Uri.maxLength) ∧
        ∀ request, Request.ofCall author (.list kind namespaceName labels) = .ok request →
          request.method = .get ∧ request.body = none ∧
          request.target.path = Request.collection kind namespaceName ∧
          request.selector? = ofLabels? labels ∧
          ∀ s : Store, ((s.list kind namespaceName ∅).filter fun o =>
              admits request.selector? (kind.metadata o).labelDict) =
            s.list kind namespaceName labels) := by
  refine ⟨labelSelector_eq_empty_iff, ofLabels?_eq_none_iff,
    fun h => ⟨requirements_labelSelector h, ?_, ?_, ?_, ?_,
      fun author kind namespaceName => Request.ofCall_list author kind namespaceName labels,
      Request.field?_listQuery labels, ?_⟩⟩
  · intro hne
    rw [pieces_labelSelector h hne, List.map_map]
    exact List.map_congr_left fun e he => cutAt?_piece h he
  · rw [requirements_labelSelector h]
    exact labels.sorted
  · exact fun other hother => eq_of_labelSelector_eq h hother
  · exact fun own => admits_ofLabels?_iff h
  · intro author kind namespaceName hquestion hhash
    constructor
    · constructor
      · rintro ⟨request, hok⟩
        exact ((Request.ofCall_list_eq_ok_iff hquestion hhash).1 hok).1
      · exact fun hfits =>
          ⟨_, (Request.ofCall_list_eq_ok_iff hquestion hhash).2 ⟨hfits, rfl⟩⟩
    · intro request hok
      obtain ⟨-, rfl⟩ := (Request.ofCall_list_eq_ok_iff hquestion hhash).1 hok
      have hselector : (Request.intended author (.list kind namespaceName labels)).selector? =
          ofLabels? labels := Request.field?_listQuery labels
      refine ⟨rfl, rfl, rfl, hselector, fun s => ?_⟩
      rw [hselector, s.list_eq_filter kind namespaceName labels]
      exact List.filter_congr fun o _ => admits_ofLabels? h _

theorem Selector.means_labels_odd :
    let labels := ((∅ : Dict String).insert "" "").insert "app" "a=b"
    labelSelector labels = "=,app=a=b" ∧
      requirements (labelSelector labels) = [("", ""), ("app", "a=b")] ∧
      ∃ request, Request.ofCall "operator" (.list .secret "team" labels) = .ok request ∧
        request.selector? = some "=,app=a=b" := by
  intro labels
  have hselectable : IsSelectable labels := by
    unfold IsSelectable
    decide +kernel
  have htext : labelSelector labels = "=,app=a=b" := by decide +kernel
  obtain ⟨-, -, hlabels⟩ := means_labels labels
  obtain ⟨hentries, -, -, -, -, -, -, hrequest⟩ := hlabels hselectable
  obtain ⟨hasked, hread⟩ := hrequest "operator" .secret "team" (by decide) (by decide)
  obtain ⟨request, hok⟩ := hasked.2 ⟨by decide +kernel, by decide +kernel⟩
  refine ⟨htext, hentries.trans (by decide +kernel), request, hok, ?_⟩
  rw [(hread request hok).2.2.2.1]
  decide +kernel

end Rollout
