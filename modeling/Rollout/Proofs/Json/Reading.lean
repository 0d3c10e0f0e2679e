import Rollout.Proofs.Json.Documents

/-!
A document that was written reads back as itself, because its text is one of those that spell it.
-/
namespace Rollout.Json

def isPlain : Json → Bool
  | null | bool _ | int _ => true
  | decimal _ => false
  | str text => text.isSome
  | arr items => arePlain items
  | obj members => membersArePlain members
where
  arePlain : List Json → Bool
    | [] => true
    | j :: js => isPlain j && arePlain js
  membersArePlain : List (Option String × Json) → Bool
    | [] => true
    | (key, j) :: ms => key.isSome && isPlain j && membersArePlain ms

theorem isPlain_arr (items : List Json) : (arr items).isPlain = items.all isPlain := by
  rw [isPlain]
  induction items with
  | nil => rfl
  | cons j js ih => rw [isPlain.arePlain, ih, List.all_cons]

theorem isPlain_obj (members : List (Option String × Json)) :
    (obj members).isPlain = members.all fun m => m.1.isSome && m.2.isPlain := by
  rw [isPlain]
  induction members with
  | nil => rfl
  | cons m ms ih => rw [isPlain.membersArePlain, ih, List.all_cons]

theorem SpellsValue.padded {cs : List Char} {j : Json} (h : SpellsValue cs j) :
    SpellsPadded cs j := by
  have hpadded : SpellsPadded (cs ++ []) j := h.append_space space_nil
  rwa [List.append_nil] at hpadded

theorem spells_written_member (key : String) {cs : List Char} {j : Json} (h : SpellsValue cs j) :
    SpellsMember (writeString key ++ ':' :: cs) (some key, j) := by
  obtain ⟨ss, hss, htext⟩ := exists_literal_writeString key
  have hmember : SpellsMember (literal ss ++ ':' :: cs) ((textOf ss).map String.ofList, j) :=
    spellsMember ss space_nil h.padded
  rwa [htext, hss] at hmember

mutual

theorem spells_render : ∀ {j : Json}, j.isPlain = true → SpellsValue j.render j
  | null, _ => .null
  | bool true, _ => .yes
  | bool false, _ => .no
  | int i, _ => by
    obtain ⟨n, hn, hvalue⟩ := exists_number_writeInt i
    rw [render, ← hn, ← hvalue]
    exact .number n
  | decimal _, h => by simp [isPlain] at h
  | str none, h => by simp [isPlain] at h
  | str (some s), _ => by
    obtain ⟨ss, hss, htext⟩ := exists_literal_writeString s
    rw [render, Option.getD_some, ← hss, ← htext]
    exact .string ss
  | arr [], _ => @SpellsValue.emptyArray [] space_nil
  | arr (j :: js), h => .array (spells_renderItems (j :: js) (List.cons_ne_nil j js) h)
  | obj [], _ => @SpellsValue.emptyObject [] space_nil
  | obj (m :: ms), h => .object (spells_renderMembers (m :: ms) (List.cons_ne_nil m ms) h)

theorem spells_renderItems :
    ∀ items : List Json, items ≠ [] → isPlain.arePlain items = true →
    SpellsItems (renderItems items) items
  | [], hne, _ => absurd rfl hne
  | [j], _, h => by
    rw [isPlain.arePlain, Bool.and_eq_true] at h
    exact .last (spells_render h.1).padded
  | j :: k :: js, _, h => by
    rw [isPlain.arePlain, Bool.and_eq_true] at h
    exact .more (spells_render h.1).padded
      (spells_renderItems (k :: js) (List.cons_ne_nil k js) h.2)

theorem spells_renderMembers : ∀ members : List (Option String × Json), members ≠ [] →
    isPlain.membersArePlain members = true → SpellsMembers (renderMembers members) members
  | [], hne, _ => absurd rfl hne
  | (none, j) :: _, _, h => by simp [isPlain.membersArePlain] at h
  | [(some key, j)], _, h => by
    rw [isPlain.membersArePlain, Option.isSome_some, Bool.true_and, Bool.and_eq_true] at h
    exact .last (spells_written_member key (spells_render h.1))
  | (some key, j) :: m :: ms, _, h => by
    rw [isPlain.membersArePlain, Option.isSome_some, Bool.true_and, Bool.and_eq_true] at h
    have hmore := SpellsMembers.more (spells_written_member key (spells_render h.1))
      (spells_renderMembers (m :: ms) (List.cons_ne_nil m ms) h.2)
    rw [List.append_assoc, List.cons_append] at hmore
    exact hmore

end

theorem spells_toText {j : Json} (h : j.isPlain = true) : Spells j.toText j := by
  unfold Spells toText
  rw [String.toList_ofList]
  exact (spells_render h).padded

/-- A document without anything unread is what its text is read as. -/
theorem ofText?_toText {j : Json} (h : j.isPlain = true) : ofText? j.toText = some j :=
  ofText?_eq_some_iff.2 (spells_toText h)

theorem eq_of_toText_eq {j k : Json} (hj : j.isPlain = true) (hk : k.isPlain = true)
    (h : j.toText = k.toText) : j = k :=
  (spells_toText hj).unique (h ▸ spells_toText hk)

theorem spells_of_any_toText {text : String} {j : Json} (hj : j.isPlain = true)
    (h : ((ofText? text).any fun k => k.isPlain && k.toText == j.toText) = true) :
    Spells text j := by
  rw [Option.any_eq_true_iff_get] at h
  obtain ⟨hsome, h⟩ := h
  rw [Bool.and_eq_true, beq_iff_eq] at h
  obtain ⟨hk, htext⟩ := h
  rw [← ofText?_eq_some_iff, ← eq_of_toText_eq hk hj htext, Option.some_get]

end Rollout.Json
