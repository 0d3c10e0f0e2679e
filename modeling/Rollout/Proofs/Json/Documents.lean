import Rollout.Proofs.Json.Numbers
import Rollout.Proofs.Json.Strings

/-!
The reader of documents takes exactly the texts of the grammar, so a text spells one document at
most. What is read at each step is stated for any rest of the text, and for any bound on the steps
that is not below the number of characters.
-/
namespace Rollout.Json

variable {n : Nat} {cs rest rest₁ rest₂ rest₃ rest₄ : List Char} {j : Json}

theorem skipSpace_cons {c : Char} (h : isSpace c = false) (cs : List Char) :
    skipSpace (c :: cs) = c :: cs := by
  simp [skipSpace, h]

theorem skipSpace_append {gap : List Char} (h : Space gap) (cs : List Char) :
    skipSpace (gap ++ cs) = skipSpace cs :=
  List.dropWhile_append_of_pos h

theorem exists_eq_append_skipSpace (cs : List Char) :
    ∃ gap, Space gap ∧ cs = gap ++ skipSpace cs :=
  ⟨cs.takeWhile isSpace, fun _ hc => List.mem_takeWhile_imp hc,
    List.takeWhile_append_dropWhile.symm⟩

theorem readValue_array {c : Char} {ds : List Char} (hs : skipSpace cs = c :: ds) (hc : c ≠ ']') :
    readValue (n + 1) ('[' :: cs) = (readItems n (skipSpace cs)).map fun p => (.arr p.1, p.2) := by
  simp only [readValue, Char.reduceEq, ↓reduceIte, hs]
  split
  · next h => exact absurd (List.cons.inj h).1 hc
  · rfl

theorem readValue_object {c : Char} {ds : List Char} (hs : skipSpace cs = c :: ds)
    (hc : c ≠ '\x7d') :
    readValue (n + 1) ('\x7b' :: cs) = (readMembers n (skipSpace cs)).map fun p =>
      (.obj p.1, p.2) := by
  simp only [readValue, Char.reduceEq, ↓reduceIte, hs]
  split
  · next h => exact absurd (List.cons.inj h).1 hc
  · rfl

theorem readItems_last (hv : readValue n cs = some (j, rest₁))
    (hs : skipSpace rest₁ = ']' :: rest) : readItems (n + 1) cs = some ([j], rest) := by
  simp only [readItems, hv, Option.bind_eq_bind, Option.bind_some, hs]
  rfl

theorem readItems_more {js : List Json} (hv : readValue n cs = some (j, rest₁))
    (hs : skipSpace rest₁ = ',' :: rest₂)
    (hmore : readItems n (skipSpace rest₂) = some (js, rest)) :
    readItems (n + 1) cs = some (j :: js, rest) := by
  simp only [readItems, hv, Option.bind_eq_bind, Option.bind_some, hs, hmore]
  rfl

section Members
variable {key : Option (List Char)}

theorem readMembers_last (hk : readBody cs = some (key, rest₁))
    (hc : skipSpace rest₁ = ':' :: rest₂)
    (hv : readValue n (skipSpace rest₂) = some (j, rest₃))
    (hs : skipSpace rest₃ = '\x7d' :: rest) :
    readMembers (n + 1) ('"' :: cs) = some ([(key.map String.ofList, j)], rest) := by
  simp only [readMembers, hk, hc, hv, Option.bind_eq_bind, Option.bind_some, hs]
  rfl

theorem readMembers_more {ms : List (Option String × Json)}
    (hk : readBody cs = some (key, rest₁)) (hc : skipSpace rest₁ = ':' :: rest₂)
    (hv : readValue n (skipSpace rest₂) = some (j, rest₃))
    (hs : skipSpace rest₃ = ',' :: rest₄)
    (hmore : readMembers n (skipSpace rest₄) = some (ms, rest)) :
    readMembers (n + 1) ('"' :: cs) = some ((key.map String.ofList, j) :: ms, rest) := by
  simp only [readMembers, hk, hc, hv, Option.bind_eq_bind, Option.bind_some, hs, hmore]
  rfl

end Members

theorem readValue_word (word : List Char) {c : Char}
    (hread : ∀ n cs, readValue (n + 1) (c :: cs) = (expect word cs).map fun rest => (j, rest)) :
    readValue (n + 1) (c :: (word ++ rest)) = some (j, rest) := by
  rw [hread, expect, if_pos (List.isPrefixOf_iff_prefix.2 (List.prefix_append word rest)),
    List.drop_left]
  rfl

theorem readValue_digit {c : Char} (h : c.isDigit = true) :
    readValue (n + 1) (c :: cs) = readNumber false (c :: cs) := by
  have hne (d : Char) (hd : d.isDigit = false) : c ≠ d := by
    rintro rfl
    exact absurd (h.symm.trans hd) (by decide)
  rw [readValue.eq_3, if_neg (hne _ (by decide)), if_neg (hne _ (by decide)),
    if_neg (hne _ (by decide)), if_neg (hne _ (by decide)), if_pos h]

theorem readValue_number (m : NumberText) (h : EndsNumber rest) :
    readValue (n + 1) (m.chars ++ rest) = some (m.value, rest) := by
  have hread := m.readNumber_unsigned h
  obtain ⟨c, cs, hc, hd⟩ := m.whole.head_chars
  unfold NumberText.chars
  cases hnegative : m.negative with
  | true =>
    rw [hnegative] at hread
    exact hread
  | false =>
    rw [hnegative] at hread
    rw [if_neg (by decide)]
    unfold NumberText.unsigned at hread ⊢
    rw [hc] at hread ⊢
    exact (readValue_digit hd).trans hread

theorem readValue_string (ss : List Stroke) (rest : List Char) :
    readValue (n + 1) (literal ss ++ rest) = some (.str ((textOf ss).map String.ofList), rest) := by
  have hbody := readBody_strokes ss rest
  simp only [literal, List.cons_append, List.append_assoc, List.nil_append, readValue.eq_3,
    if_pos, hbody]
  rfl

theorem endsNumber_mark {c : Char} (h : c = ',' ∨ c = ']' ∨ c = '\x7d') (cs : List Char) :
    EndsNumber (c :: cs) := by
  refine endsNumber_cons ?_ cs
  rcases h with rfl | rfl | rfl <;> decide

theorem endsNumber_append {gap : List Char} (h : Space gap) (hrest : EndsNumber rest) :
    EndsNumber (gap ++ rest) := by
  cases gap with
  | nil => exact hrest
  | cons c cs =>
    have hc : isSpace c = true := h c (List.mem_cons_self ..)
    simp only [isSpace, Bool.or_eq_true, beq_iff_eq] at hc
    refine endsNumber_cons ?_ _
    rcases hc with ((rfl | rfl) | rfl) | rfl <;> decide

theorem SpellsValue.eq_cons (h : SpellsValue cs j) :
    ∃ c ds, cs = c :: ds ∧ isSpace c = false ∧ c ≠ ']' := by
  cases h with
  | number m =>
    obtain ⟨c, ds, hc, hd⟩ := m.whole.head_chars
    unfold NumberText.chars NumberText.unsigned
    rw [hc]
    cases m.negative with
    | true => exact ⟨_, _, rfl, by decide, by decide⟩
    | false =>
      refine ⟨_, _, rfl, ?_, ?_⟩
      · rw [← Bool.not_eq_true]
        intro hs
        simp only [isSpace, Bool.or_eq_true, beq_iff_eq] at hs
        rcases hs with ((rfl | rfl) | rfl) | rfl <;> exact absurd hd (by decide)
      · rintro rfl
        exact absurd hd (by decide)
  | _ => exact ⟨_, _, rfl, by decide, by decide⟩

theorem SpellsValue.skipSpace_append (h : SpellsValue cs j) (rest : List Char) :
    skipSpace (cs ++ rest) = cs ++ rest := by
  obtain ⟨c, ds, rfl, hs, -⟩ := h.eq_cons
  exact skipSpace_cons hs _

theorem SpellsPadded.skipSpace_eq_cons (h : SpellsPadded cs j) (rest : List Char) :
    ∃ c ds, skipSpace (cs ++ rest) = c :: ds ∧ c ≠ ']' := by
  obtain ⟨hbefore, hvalue, -⟩ := h
  obtain ⟨c, ds, rfl, hs, hc⟩ := hvalue.eq_cons
  rw [List.append_assoc, skipSpace_append hbefore, List.append_assoc, List.cons_append]
  exact ⟨c, _, skipSpace_cons hs _, hc⟩

theorem SpellsItems.skipSpace_eq_cons {items : List Json} (h : SpellsItems cs items)
    (rest : List Char) : ∃ c ds, skipSpace (cs ++ rest) = c :: ds ∧ c ≠ ']' := by
  cases h with
  | last h => exact h.skipSpace_eq_cons rest
  | more h _ =>
    rw [List.append_assoc]
    exact h.skipSpace_eq_cons _

theorem SpellsMember.skipSpace_eq_cons {m : Option String × Json} (h : SpellsMember cs m)
    (rest : List Char) : ∃ ds, skipSpace (cs ++ rest) = '"' :: ds := by
  obtain ⟨hbefore, -, -⟩ := h
  rw [List.append_assoc, skipSpace_append hbefore]
  exact ⟨_, skipSpace_cons (by decide) _⟩

theorem SpellsMembers.skipSpace_eq_cons {ms : List (Option String × Json)}
    (h : SpellsMembers cs ms) (rest : List Char) : ∃ ds, skipSpace (cs ++ rest) = '"' :: ds := by
  cases h with
  | last h => exact h.skipSpace_eq_cons rest
  | more h _ =>
    rw [List.append_assoc]
    exact h.skipSpace_eq_cons _

def ReadsMember (n : Nat) (cs : List Char) (m : Option String × Json) (rest : List Char) : Prop :=
  ∃ ks key rest₁ rest₂ rest₃, cs = '"' :: ks ∧ readBody ks = some (key, rest₁) ∧
    skipSpace rest₁ = ':' :: rest₂ ∧
    readValue n (skipSpace rest₂) = some (m.2, rest₃) ∧ key.map String.ofList = m.1 ∧
    skipSpace rest₃ = skipSpace rest

-- By induction on the derivation. Every reader is called with one step less, and what it has to
-- read is shorter by the mark in front at least, so the bound holds on.
mutual

theorem readValue_of_spells :
    ∀ {cs : List Char} {j : Json}, SpellsValue cs j → ∀ {n : Nat} {rest : List Char},
    EndsNumber rest → cs.length < n → readValue n (cs ++ rest) = some (j, rest)
  | _, _, .null, n + 1, rest, _, _ => readValue_word ['u', 'l', 'l'] fun _ _ => rfl
  | _, _, .yes, n + 1, rest, _, _ => readValue_word ['r', 'u', 'e'] fun _ _ => rfl
  | _, _, .no, n + 1, rest, _, _ => readValue_word ['a', 'l', 's', 'e'] fun _ _ => rfl
  | _, _, .number m, n + 1, rest, hend, _ => readValue_number m hend
  | _, _, .string ss, n + 1, rest, _, _ => readValue_string ss rest
  | _, _, @SpellsValue.emptyArray gap hgap, n + 1, rest, _, _ => by
    have hs : skipSpace (gap ++ [']'] ++ rest) = ']' :: rest := by
      rw [List.append_assoc, skipSpace_append hgap]
      exact skipSpace_cons (by decide) rest
    simp only [List.cons_append, readValue, Char.reduceEq, ↓reduceIte, hs]
  | _, _, .array hitems, n + 1, rest, _, hn => by
    simp only [List.length_cons, List.length_append, List.length_nil] at hn
    obtain ⟨c, ds, hs, hc⟩ := hitems.skipSpace_eq_cons (']' :: rest)
    rw [List.cons_append, List.append_assoc, List.cons_append, List.nil_append,
      readValue_array hs hc, readItems_of_spells hitems (by omega)]
    rfl
  | _, _, @SpellsValue.emptyObject gap hgap, n + 1, rest, _, _ => by
    have hs : skipSpace (gap ++ ['\x7d'] ++ rest) = '\x7d' :: rest := by
      rw [List.append_assoc, skipSpace_append hgap]
      exact skipSpace_cons (by decide) rest
    simp only [List.cons_append, readValue, Char.reduceEq, ↓reduceIte, hs]
  | _, _, .object hmembers, n + 1, rest, _, hn => by
    simp only [List.length_cons, List.length_append, List.length_nil] at hn
    obtain ⟨ds, hs⟩ := hmembers.skipSpace_eq_cons ('\x7d' :: rest)
    rw [List.cons_append, List.append_assoc, List.cons_append, List.nil_append,
      readValue_object hs (by decide), readMembers_of_spells hmembers (by omega)]
    rfl

theorem readValue_of_padded :
    ∀ {cs : List Char} {j : Json}, SpellsPadded cs j → ∀ {n : Nat} {rest : List Char},
    EndsNumber rest → cs.length < n →
    ∃ rest', readValue n (skipSpace (cs ++ rest)) = some (j, rest') ∧
    skipSpace rest' = skipSpace rest
  | _, _, @SpellsPadded.intro before cs after _ hbefore hvalue hafter, n, rest, hend, hn => by
    refine ⟨after ++ rest, ?_, skipSpace_append hafter rest⟩
    simp only [List.length_append] at hn
    rw [List.append_assoc, skipSpace_append hbefore, List.append_assoc, hvalue.skipSpace_append]
    exact readValue_of_spells hvalue (endsNumber_append hafter hend) (by omega)

theorem readItems_of_spells : ∀ {cs : List Char} {items : List Json}, SpellsItems cs items →
    ∀ {n : Nat} {rest : List Char},
    cs.length + 1 < n → readItems n (skipSpace (cs ++ ']' :: rest)) = some (items, rest)
  | _, _, .last h, n + 1, rest, hn => by
    obtain ⟨rest', hv, hs⟩ :=
      readValue_of_padded h (endsNumber_mark (c := ']') (by simp) rest) (Nat.lt_of_succ_lt_succ hn)
    exact readItems_last hv (hs.trans (skipSpace_cons (by decide) rest))
  | _, _, @SpellsItems.more _ ds _ _ h hmore, n + 1, rest, hn => by
    rw [List.append_assoc, List.cons_append]
    simp only [List.length_append, List.length_cons] at hn
    obtain ⟨rest', hv, hs⟩ :=
      readValue_of_padded h (endsNumber_mark (c := ',') (by simp) (ds ++ ']' :: rest)) (n := n)
      (by omega)
    exact readItems_more hv (hs.trans (skipSpace_cons (by decide) _))
      (readItems_of_spells hmore (by omega))

theorem readMember_of_spells :
    ∀ {cs : List Char} {m : Option String × Json}, SpellsMember cs m →
    ∀ {n : Nat} {rest : List Char}, EndsNumber rest → cs.length < n →
    ReadsMember n (skipSpace (cs ++ rest)) m rest
  | _, _, @SpellsMember.intro before after cs ss _ hbefore hafter h, n, rest, hend, hn => by
    simp only [List.length_append, List.length_cons] at hn
    obtain ⟨rest', hv, hs⟩ := readValue_of_padded h hend (n := n) (by omega)
    have hbody := readBody_strokes ss (after ++ ':' :: (cs ++ rest))
    refine ⟨_, _, _, _, rest', ?_, hbody, ?_, hv, rfl, hs⟩
    · have hkey : literal ss ++ (after ++ ':' :: cs) ++ rest =
          '"' :: (ss.flatMap Stroke.chars ++ '"' :: (after ++ ':' :: (cs ++ rest))) := by
        simp [literal]
      rw [List.append_assoc, skipSpace_append hbefore, hkey, skipSpace_cons (by decide)]
    · rw [skipSpace_append hafter, skipSpace_cons (by decide)]

theorem readMembers_of_spells :
    ∀ {cs : List Char} {ms : List (Option String × Json)}, SpellsMembers cs ms →
    ∀ {n : Nat} {rest : List Char}, cs.length + 1 < n →
      readMembers n (skipSpace (cs ++ '\x7d' :: rest)) = some (ms, rest)
  | _, _, .last (m := m) h, n + 1, rest, hn => by
    obtain ⟨ks, key, rest₁, rest₂, rest₃, hcs, hk, hc, hv, hkey, hs⟩ :=
      readMember_of_spells h (endsNumber_mark (c := '\x7d') (by simp) rest)
        (Nat.lt_of_succ_lt_succ hn)
    rw [hcs, readMembers_last hk hc hv (hs.trans (skipSpace_cons (by decide) rest)), hkey]
  | _, _, @SpellsMembers.more _ ds _ _ h hmore, n + 1, rest, hn => by
    rw [List.append_assoc, List.cons_append]
    simp only [List.length_append, List.length_cons] at hn
    obtain ⟨ks, key, rest₁, rest₂, rest₃, hcs, hk, hc, hv, hkey, hs⟩ :=
      readMember_of_spells h (endsNumber_mark (c := ',') (by simp) (ds ++ '\x7d' :: rest))
        (n := n) (by omega)
    rw [hcs, readMembers_more hk hc hv (hs.trans (skipSpace_cons (by decide) _))
      (readMembers_of_spells hmore (by omega)), hkey]

end

theorem Space.append {gap gap' : List Char} (h : Space gap) (h' : Space gap') :
    Space (gap ++ gap') :=
  fun c hc => (List.mem_append.1 hc).elim (h c) (h' c)

theorem space_nil : Space [] := fun _ hc => nomatch hc

section Space
variable {gap : List Char}

theorem SpellsPadded.space_append (hgap : Space gap) (h : SpellsPadded cs j) :
    SpellsPadded (gap ++ cs) j := by
  obtain ⟨hbefore, hvalue, hafter⟩ := h
  rw [← List.append_assoc]
  exact .intro (hgap.append hbefore) hvalue hafter

theorem SpellsItems.space_append {items : List Json} (hgap : Space gap) (h : SpellsItems cs items) :
    SpellsItems (gap ++ cs) items := by
  cases h with
  | last h => exact .last (h.space_append hgap)
  | more h hmore =>
    rw [← List.append_assoc]
    exact .more (h.space_append hgap) hmore

theorem SpellsMember.space_append {m : Option String × Json} (hgap : Space gap)
    (h : SpellsMember cs m) : SpellsMember (gap ++ cs) m := by
  obtain ⟨hbefore, hafter, h⟩ := h
  rw [← List.append_assoc]
  exact .intro (hgap.append hbefore) hafter h

theorem SpellsMembers.space_append {ms : List (Option String × Json)} (hgap : Space gap)
    (h : SpellsMembers cs ms) : SpellsMembers (gap ++ cs) ms := by
  cases h with
  | last h => exact .last (h.space_append hgap)
  | more h hmore =>
    rw [← List.append_assoc]
    exact .more (h.space_append hgap) hmore

end Space

theorem SpellsValue.append_space {gap : List Char} (h : SpellsValue cs j) (hgap : Space gap) :
    SpellsPadded (cs ++ gap) j := by
  have hpadded : SpellsPadded ([] ++ (cs ++ gap)) j := .intro space_nil h hgap
  exact hpadded

theorem spellsMember {gap : List Char} (ss : List Stroke) (hgap : Space gap)
    (h : SpellsPadded cs j) :
    SpellsMember (literal ss ++ (gap ++ ':' :: cs)) ((textOf ss).map String.ofList, j) := by
  have hmember :
      SpellsMember ([] ++ (literal ss ++ (gap ++ ':' :: cs))) ((textOf ss).map String.ofList, j) :=
    .intro space_nil hgap h
  exact hmember

theorem eq_append_of_expect {word : List Char} (h : expect word cs = some rest) :
    cs = word ++ rest := by
  unfold expect at h
  split at h
  next hword =>
    obtain rfl := Option.some.inj h
    exact (List.prefix_iff_eq_append.1 (List.isPrefixOf_iff_prefix.1 hword)).symm
  next => exact nomatch h

theorem spells_word {c : Char} {word : List Char} {k : Json} (hspells : SpellsValue (c :: word) k)
    (h : (expect word cs).map (fun rest => (k, rest)) = some (j, rest)) :
    ∃ ds, SpellsValue ds j ∧ c :: cs = ds ++ rest := by
  obtain ⟨r, hword, hpair⟩ := Option.map_eq_some_iff.1 h
  obtain ⟨rfl, rfl⟩ := Prod.mk.inj hpair
  exact ⟨c :: word, hspells, congrArg (c :: ·) (eq_append_of_expect hword)⟩

structure SpellsWhatItReads (n : Nat) : Prop where
  value : ∀ {cs rest : List Char} {j : Json}, readValue n cs = some (j, rest) →
    ∃ ds, SpellsValue ds j ∧ cs = ds ++ rest
  items : ∀ {cs rest : List Char} {items : List Json}, readItems n cs = some (items, rest) →
    ∃ ds, SpellsItems ds items ∧ cs = ds ++ ']' :: rest
  members : ∀ {cs rest : List Char} {ms : List (Option String × Json)},
    readMembers n cs = some (ms, rest) → ∃ ds, SpellsMembers ds ms ∧ cs = ds ++ '\x7d' :: rest

namespace SpellsWhatItReads

theorem spells_array (h : SpellsWhatItReads n)
    (hread : (match skipSpace cs with
      | ']' :: rest => some (.arr [], rest)
      | rest => (readItems n rest).map fun (items, rest) => (.arr items, rest)) = some (j, rest)) :
    ∃ ds, SpellsValue ds j ∧ '[' :: cs = ds ++ rest := by
  obtain ⟨gap, hgap, hcs⟩ := exists_eq_append_skipSpace cs
  split at hread
  next rest' hs =>
    obtain ⟨rfl, rfl⟩ := Prod.mk.inj (Option.some.inj hread)
    rw [hs] at hcs
    exact ⟨_, .emptyArray hgap, by simp [hcs]⟩
  next rest' _ =>
    obtain ⟨⟨items, r⟩, hitems, hpair⟩ := Option.map_eq_some_iff.1 hread
    obtain ⟨rfl, rfl⟩ := Prod.mk.inj hpair
    obtain ⟨ds, hds, hrest⟩ := h.items hitems
    rw [hrest] at hcs
    exact ⟨_, .array (hds.space_append hgap), by simp [hcs]⟩

theorem spells_object (h : SpellsWhatItReads n)
    (hread : (match skipSpace cs with
      | '\x7d' :: rest => some (.obj [], rest)
      | rest => (readMembers n rest).map fun (members, rest) => (.obj members, rest)) =
        some (j, rest)) :
    ∃ ds, SpellsValue ds j ∧ '\x7b' :: cs = ds ++ rest := by
  obtain ⟨gap, hgap, hcs⟩ := exists_eq_append_skipSpace cs
  split at hread
  next rest' hs =>
    obtain ⟨rfl, rfl⟩ := Prod.mk.inj (Option.some.inj hread)
    rw [hs] at hcs
    exact ⟨_, .emptyObject hgap, by simp [hcs]⟩
  next rest' _ =>
    obtain ⟨⟨ms, r⟩, hmembers, hpair⟩ := Option.map_eq_some_iff.1 hread
    obtain ⟨rfl, rfl⟩ := Prod.mk.inj hpair
    obtain ⟨ds, hds, hrest⟩ := h.members hmembers
    rw [hrest] at hcs
    exact ⟨_, .object (hds.space_append hgap), by simp [hcs]⟩

theorem spells_value (h : SpellsWhatItReads n) (hread : readValue (n + 1) cs = some (j, rest)) :
    ∃ ds, SpellsValue ds j ∧ cs = ds ++ rest := by
  cases cs with
  | nil => cases hread
  | cons c cs =>
  rw [readValue.eq_3] at hread
  split at hread
  next hc =>
    obtain ⟨⟨t, r⟩, hbody, hpair⟩ := Option.map_eq_some_iff.1 hread
    obtain ⟨rfl, rfl⟩ := Prod.mk.inj hpair
    obtain ⟨ss, rfl, rfl⟩ := exists_strokes_of_readBody hbody
    exact ⟨literal ss, .string ss, by simp [literal, hc]⟩
  next =>
  split at hread
  next hc => exact hc ▸ spells_array h hread
  next =>
  split at hread
  next hc => exact hc ▸ spells_object h hread
  next =>
  split at hread
  next hc =>
    obtain ⟨m, hm, rfl, rfl⟩ := exists_of_readNumber hread
    exact ⟨m.chars, .number m, by simp [NumberText.chars, hm, hc]⟩
  next =>
  split at hread
  next =>
    obtain ⟨m, hm, hcs, rfl⟩ := exists_of_readNumber hread
    exact ⟨m.chars, .number m, by simp [NumberText.chars, hm, hcs]⟩
  next =>
  split at hread
  next hc => exact hc ▸ spells_word .null hread
  next =>
  split at hread
  next hc => exact hc ▸ spells_word .yes hread
  next =>
  split at hread
  next hc => exact hc ▸ spells_word .no hread
  next => cases hread

theorem spells_items (h : SpellsWhatItReads n) {items : List Json}
    (hread : readItems (n + 1) cs = some (items, rest)) :
    ∃ ds, SpellsItems ds items ∧ cs = ds ++ ']' :: rest := by
  rw [readItems] at hread
  obtain ⟨⟨j, rest₁⟩, hvalue, hread⟩ := Option.bind_eq_some_iff.1 hread
  obtain ⟨ds, hds, hcs⟩ := h.value hvalue
  obtain ⟨gap, hgap, hrest₁⟩ := exists_eq_append_skipSpace rest₁
  have hpadded : SpellsPadded (ds ++ gap) j := hds.append_space hgap
  dsimp only at hread
  split at hread
  next rest₂ hs =>
    obtain ⟨⟨js, rest₃⟩, hitems, hpair⟩ := Option.bind_eq_some_iff.1 hread
    obtain ⟨rfl, rfl⟩ := Prod.mk.inj (Option.some.inj hpair)
    obtain ⟨es, hes, hrest₂⟩ := h.items hitems
    obtain ⟨gap', hgap', hskip⟩ := exists_eq_append_skipSpace rest₂
    refine ⟨_, .more hpadded (hes.space_append hgap'), ?_⟩
    rw [hcs, hrest₁, hs, hskip, hrest₂]
    simp
  next rest₂ hs =>
    obtain ⟨rfl, rfl⟩ := Prod.mk.inj (Option.some.inj hread)
    refine ⟨_, .last hpadded, ?_⟩
    rw [hcs, hrest₁, hs, List.append_assoc]
  next => exact nomatch hread

theorem spells_members (h : SpellsWhatItReads n) {ms : List (Option String × Json)}
    (hread : readMembers (n + 1) cs = some (ms, rest)) :
    ∃ ds, SpellsMembers ds ms ∧ cs = ds ++ '\x7d' :: rest := by
  have hquote : ∃ ks, cs = '"' :: ks := by
    by_contra hno
    rw [readMembers.eq_3 _ _ fun ks hks => hno ⟨ks, hks⟩] at hread
    exact nomatch hread
  obtain ⟨ks, rfl⟩ := hquote
  rw [readMembers.eq_2] at hread
  obtain ⟨⟨key, rest₁⟩, hbody, hread⟩ := Option.bind_eq_some_iff.1 hread
  obtain ⟨ss, hks, rfl⟩ := exists_strokes_of_readBody hbody
  obtain ⟨gap, hgap, hrest₁⟩ := exists_eq_append_skipSpace rest₁
  dsimp only at hread
  split at hread
  next rest₂ hcolon =>
    obtain ⟨⟨j, rest₃⟩, hvalue, hread⟩ := Option.bind_eq_some_iff.1 hread
    obtain ⟨ds, hds, hvalueText⟩ := h.value hvalue
    obtain ⟨gap', hgap', hrest₂⟩ := exists_eq_append_skipSpace rest₂
    obtain ⟨gap'', hgap'', hrest₃⟩ := exists_eq_append_skipSpace rest₃
    have hmember : SpellsMember (literal ss ++ (gap ++ ':' :: (gap' ++ (ds ++ gap''))))
        ((textOf ss).map String.ofList, j) := spellsMember ss hgap (.intro hgap' hds hgap'')
    dsimp only at hread
    split at hread
    next rest₄ hs =>
      obtain ⟨⟨ms, rest₅⟩, hmembers, hpair⟩ := Option.bind_eq_some_iff.1 hread
      obtain ⟨rfl, rfl⟩ := Prod.mk.inj (Option.some.inj hpair)
      obtain ⟨es, hes, hrest₄⟩ := h.members hmembers
      obtain ⟨gap₃, hgap₃, hskip⟩ := exists_eq_append_skipSpace rest₄
      refine ⟨_, .more hmember (hes.space_append hgap₃), ?_⟩
      rw [hks, hrest₁, hcolon, hrest₂, hvalueText, hrest₃, hs, hskip, hrest₄]
      simp [literal]
    next rest₄ hs =>
      obtain ⟨rfl, rfl⟩ := Prod.mk.inj (Option.some.inj hread)
      refine ⟨_, .last hmember, ?_⟩
      rw [hks, hrest₁, hcolon, hrest₂, hvalueText, hrest₃, hs]
      simp [literal]
    next => exact nomatch hread
  next => exact nomatch hread

end SpellsWhatItReads

theorem spellsWhatItReads (n : Nat) : SpellsWhatItReads n := by
  induction n with
  | zero => exact ⟨nofun, nofun, nofun⟩
  | succ n ih => exact ⟨ih.spells_value, ih.spells_items, ih.spells_members⟩

/-- A text is read as a document exactly if it spells the document. -/
theorem ofText?_eq_some_iff {text : String} {j : Json} :
    ofText? text = some j ↔ Spells text j := by
  unfold ofText? parse Spells
  constructor
  · intro h
    split at h
    next j' rest hread =>
      split at h
      next hend =>
        obtain rfl := Option.some.inj h
        obtain ⟨ds, hds, htext⟩ := (spellsWhatItReads _).value hread
        obtain ⟨before, hbefore, hskip⟩ := exists_eq_append_skipSpace text.toList
        obtain ⟨after, hafter, hrest⟩ := exists_eq_append_skipSpace rest
        rw [List.isEmpty_iff.1 hend, List.append_nil] at hrest
        rw [hskip, htext, hrest]
        exact .intro hbefore hds hafter
      next => exact nomatch h
    next => exact nomatch h
  · intro h
    obtain ⟨rest, hread, hend⟩ := readValue_of_padded h endsNumber_nil (Nat.lt_succ_self _)
    rw [List.append_nil] at hread
    rw [hread]
    show (if (skipSpace rest).isEmpty then some j else none) = some j
    rw [hend]
    rfl

theorem Spells.unique {text : String} {j k : Json} (h : Spells text j) (h' : Spells text k) :
    j = k :=
  Option.some.inj ((ofText?_eq_some_iff.2 h).symm.trans (ofText?_eq_some_iff.2 h'))

end Rollout.Json
