import Rollout.Labels
import Rollout.Proofs.Text.Cutting
import Mathlib.Data.List.Basic

/-!
What a selector means. Its text comes apart at the commas, and each piece at its first `=`; where no
label has these characters in the wrong place, this gives back the labels that the selector was
written for. To have them all is to meet what it asks for.
-/
namespace Rollout
open Text

namespace Selector

/-- Labels that a selector can be written for: names have no `=` and no comma in them, and values no
comma. -/
def IsSelectable (labels : Dict String) : Prop :=
  ∀ e ∈ labels.entries, ('=' ∉ e.1.toList ∧ ',' ∉ e.1.toList) ∧ ',' ∉ e.2.toList

def requirements (selector : String) : List (String × String) :=
  (pieces ',' selector.toList).filterMap fun piece =>
    (cutAt? '=' piece).map fun (name, value) => (String.ofList name, String.ofList value)

def ofLabels? (labels : Dict String) : Option String :=
  if labelSelector labels = "" then none else some (labelSelector labels)

def admits (selector : Option String) (own : Dict String) : Bool :=
  (selector.elim [] requirements).all fun e => own.get? e.1 == some e.2

def piece (e : String × String) : List Char := e.1.toList ++ '=' :: e.2.toList

theorem toList_labelSelector (labels : Dict String) :
    (labelSelector labels).toList = joinWith ',' (labels.entries.map piece) := by
  have hcomma : ",".toList = [','] := rfl
  have hpiece : (fun e : String × String => (e.1 ++ "=" ++ e.2).toList) = piece := by
    funext e
    have hequal : "=".toList = ['='] := rfl
    rw [String.toList_append, String.toList_append, hequal, List.append_assoc,
      List.singleton_append]
    rfl
  unfold labelSelector
  rw [String.toList_intercalate, hcomma, intercalate_singleton, List.map_map, ← hpiece]
  rfl

variable {labels : Dict String}

theorem comma_not_mem_piece (h : IsSelectable labels) :
    ∀ p ∈ labels.entries.map piece, ',' ∉ p := by
  intro p hp
  obtain ⟨e, he, rfl⟩ := List.mem_map.1 hp
  obtain ⟨⟨-, hname⟩, hvalue⟩ := h e he
  simp [piece, hname, hvalue]

theorem entries_ne_nil (h : labels ≠ ∅) : labels.entries ≠ [] := by
  intro hnil
  exact h (Table.ext hnil)

theorem pieces_labelSelector (h : IsSelectable labels) (hne : labels ≠ ∅) :
    pieces ',' (labelSelector labels).toList = labels.entries.map piece := by
  rw [toList_labelSelector]
  refine pieces_joinWith ?_ (comma_not_mem_piece h)
  intro hnil
  exact entries_ne_nil hne (List.map_eq_nil_iff.1 hnil)

theorem cutAt?_piece (h : IsSelectable labels) {e : String × String} (he : e ∈ labels.entries) :
    cutAt? '=' (piece e) = some (e.1.toList, e.2.toList) :=
  cutAt?_append (h e he).1.1 e.2.toList

theorem labelSelector_empty : labelSelector ∅ = "" := rfl

theorem labelSelector_eq_empty_iff : labelSelector labels = "" ↔ labels = ∅ := by
  constructor
  · intro h
    by_contra hne
    obtain ⟨e, es, hentries⟩ := List.exists_cons_of_ne_nil (entries_ne_nil hne)
    -- every entry leaves its `=` behind
    have htext := toList_labelSelector labels
    rw [h, hentries, List.map_cons] at htext
    cases hrest : es.map piece with
    | nil => simp [hrest, joinWith, piece] at htext
    | cons p ps => simp [hrest, joinWith, piece] at htext
  · rintro rfl
    exact labelSelector_empty

theorem ofLabels?_eq_none_iff : ofLabels? labels = none ↔ labels = ∅ := by
  unfold ofLabels?
  split
  · next h => simp [labelSelector_eq_empty_iff.1 h]
  · next h => simp [mt labelSelector_eq_empty_iff.2 h]

theorem getD_ofLabels? (labels : Dict String) :
    (ofLabels? labels).getD "" = labelSelector labels := by
  unfold ofLabels?
  split
  · next h => exact h.symm
  · rfl

theorem requirements_labelSelector (h : IsSelectable labels) :
    requirements (labelSelector labels) = labels.entries := by
  by_cases hne : labels = ∅
  · subst hne
    rfl
  · unfold requirements
    rw [pieces_labelSelector h hne, List.filterMap_map]
    have hcut : ∀ e ∈ labels.entries,
        ((fun p => (cutAt? '=' p).map fun (name, value) =>
          (String.ofList name, String.ofList value)) ∘ piece) e = some e := by
      intro e he
      simp [cutAt?_piece h he]
    rw [List.filterMap_congr hcut, List.filterMap_some]

theorem eq_of_labelSelector_eq {other : Dict String} (h : IsSelectable labels)
    (hother : IsSelectable other) (heq : labelSelector labels = labelSelector other) :
    labels = other := by
  apply Table.ext
  rw [← requirements_labelSelector h, heq, requirements_labelSelector hother]

theorem admits_ofLabels? (h : IsSelectable labels) (own : Dict String) :
    admits (ofLabels? labels) own = own.includes labels := by
  unfold admits ofLabels?
  split
  · next hempty =>
    obtain rfl := labelSelector_eq_empty_iff.1 hempty
    rfl
  · rw [Option.elim_some, requirements_labelSelector h]
    rfl

theorem admits_ofLabels?_iff (h : IsSelectable labels) {own : Dict String} :
    admits (ofLabels? labels) own = true ↔ ∀ e ∈ labels.entries, own.get? e.1 = some e.2 := by
  rw [admits_ofLabels? h]
  simp only [Table.includes, List.all_eq_true, beq_iff_eq]

end Selector
end Rollout
