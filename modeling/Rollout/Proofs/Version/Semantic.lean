import Rollout.Proofs.Version.Grammar
import Rollout.Proofs.Version.Precedence

/-!
Precedence as semantic versioning defines it on the texts of versions, where identifiers of digits
alone are numbers however long they are. Main statement: the precedence of what is read is that of
the texts but where an identifier decides that is a number and fits no machine word, for such an
identifier is read as a word.
-/
namespace Rollout
open Text

namespace IdentifierText

def isNumeric (t : IdentifierText) : Bool := t.chars.all Char.isDigit

def number (t : IdentifierText) : Nat := ofDigits t.chars

def textCmp (t u : IdentifierText) : Ordering :=
  List.compareLex (compareOn Char.toNat) t.chars u.chars

def semanticCmp (t u : IdentifierText) : Ordering :=
  match t.isNumeric, u.isNumeric with
  | true, true => compare t.number u.number
  | true, false => .lt
  | false, true => .gt
  | false, false => t.textCmp u

def isOversized (t : IdentifierText) : Bool := t.isNumeric && decide (maxWord < t.number)

/-- Two lists that are not ranked as they should be. The first identifiers that are not read alike
are a number that fits no machine word and a word, and the number comes after the word; or they are
two such numbers, and their characters do not rank as their values do, or what follows if the values
are equal. -/
inductive Misranked : List IdentifierText → List IdentifierText → Prop
  | later {t u : IdentifierText} {ts us : List IdentifierText} (same : t.value = u.value)
      (rest : Misranked ts us) : Misranked (t :: ts) (u :: us)
  | numberAbove {t u : IdentifierText} {ts us : List IdentifierText} (number : t.isOversized = true)
      (word : u.isNumeric = false) (above : t.textCmp u = .gt) : Misranked (t :: ts) (u :: us)
  | wordBelow {t u : IdentifierText} {ts us : List IdentifierText} (word : t.isNumeric = false)
      (number : u.isOversized = true) (below : t.textCmp u = .lt) : Misranked (t :: ts) (u :: us)
  | numbers {t u : IdentifierText} {ts us : List IdentifierText} (left : t.isOversized = true)
      (right : u.isOversized = true) (differ : t ≠ u)
      (unlike : t.textCmp u ≠
        (compare t.number u.number).then (List.compareLex semanticCmp ts us)) :
      Misranked (t :: ts) (u :: us)

inductive Reading (t : IdentifierText) : Prop
  | fitting (numeric : t.isNumeric = true) (fits : t.isOversized = false)
      (value : t.value = .number t.number) (le : t.number ≤ maxWord)
  | oversized (numeric : t.isNumeric = true) (large : t.isOversized = true)
      (value : t.value = .word (String.ofList t.chars)) (lt : maxWord < t.number)
  | word (numeric : t.isNumeric = false) (fits : t.isOversized = false)
      (value : t.value = .word (String.ofList t.chars))

theorem reading (t : IdentifierText) : t.Reading := by
  cases hnumeric : t.isNumeric with
  | false =>
    have hvalue : t.value = .word (String.ofList t.chars) :=
      if_neg fun h => absurd (hnumeric.symm.trans h.1) (by decide)
    exact .word hnumeric (by simp [isOversized, hnumeric]) hvalue
  | true =>
    by_cases hfits : t.number ≤ maxWord
    · exact .fitting hnumeric (by simp [isOversized, hfits]) (if_pos ⟨hnumeric, hfits⟩) hfits
    · have hlt : maxWord < t.number := Nat.lt_of_not_le hfits
      exact .oversized hnumeric (by simp [isOversized, hnumeric, hlt])
        (if_neg fun h => hfits h.2) hlt

theorem cmp_word (t u : IdentifierText) :
    (Identifier.word (String.ofList t.chars)).cmp (.word (String.ofList u.chars)) =
      t.textCmp u := by
  rw [Identifier.cmp, Ranked.cmp_string, String.toList_ofList, String.toList_ofList, textCmp]

theorem textCmp_eq_iff {t u : IdentifierText} : t.textCmp u = .eq ↔ t = u := by
  rw [← cmp_word, Identifier.cmp_eq_iff, Identifier.word.injEq, String.ofList_inj,
    IdentifierText.ext_iff]

theorem semanticCmp_self (t : IdentifierText) : t.semanticCmp t = .eq := by
  unfold semanticCmp
  cases t.isNumeric with
  | true => exact Nat.compare_eq_eq.2 rfl
  | false => exact textCmp_eq_iff.2 rfl

section
variable {t u : IdentifierText} {ts us : List IdentifierText}

theorem eq_of_value_eq_of_word (ht : t.value = .word (String.ofList t.chars))
    (h : t.value = u.value) : t = u := by
  rw [ht] at h
  cases u.reading with
  | fitting _ _ value => exact absurd (h.trans value) nofun
  | oversized _ _ value | word _ _ value =>
    rw [value, Identifier.word.injEq, String.ofList_inj] at h
    exact IdentifierText.ext h

theorem semanticCmp_eq_of_value_eq (h : t.value = u.value) : t.semanticCmp u = .eq := by
  cases t.reading with
  | fitting numeric _ value =>
    cases u.reading with
    | fitting numeric' _ value' =>
      rw [value, value', Identifier.number.injEq] at h
      simp only [semanticCmp, numeric, numeric']
      exact Nat.compare_eq_eq.2 h
    | oversized _ _ value' | word _ _ value' =>
      exact absurd (value.symm.trans (h.trans value')) nofun
  | oversized _ _ value | word _ _ value =>
    rw [eq_of_value_eq_of_word value h]
    exact u.semanticCmp_self

theorem misranked_cons_of_value_eq (h : t.value = u.value) :
    Misranked (t :: ts) (u :: us) ↔ Misranked ts us := by
  constructor
  · intro hmisranked
    -- of two words that are read alike neither stands before the other
    have hsame (ht : t.isOversized = true ∨ t.isNumeric = false) : t = u := by
      cases t.reading with
      | fitting numeric fits => simp [numeric, fits] at ht
      | oversized _ _ value | word _ _ value => exact eq_of_value_eq_of_word value h
    cases hmisranked with
    | later _ rest => exact rest
    | numberAbove number _ above =>
      rw [textCmp_eq_iff.2 (hsame (.inl number))] at above
      exact nomatch above
    | wordBelow word _ below =>
      rw [textCmp_eq_iff.2 (hsame (.inr word))] at below
      exact nomatch below
    | numbers left _ differ => exact absurd (hsame (.inl left)) differ
  · exact .later h

theorem misranked_cons_of_value_ne (h : t.value ≠ u.value) :
    Misranked (t :: ts) (u :: us) ↔
      (t.isOversized = true ∧ u.isNumeric = false ∧ t.textCmp u = .gt) ∨
        (t.isNumeric = false ∧ u.isOversized = true ∧ t.textCmp u = .lt) ∨
          (t.isOversized = true ∧ u.isOversized = true ∧
            t.textCmp u ≠ (compare t.number u.number).then
              (List.compareLex semanticCmp ts us)) := by
  constructor
  · intro hmisranked
    cases hmisranked with
    | later same => exact absurd same h
    | numberAbove number word above => exact .inl ⟨number, word, above⟩
    | wordBelow word number below => exact .inr (.inl ⟨word, number, below⟩)
    | numbers left right _ unlike => exact .inr (.inr ⟨left, right, unlike⟩)
  · rintro (⟨number, word, above⟩ | ⟨word, number, below⟩ | ⟨left, right, unlike⟩)
    · exact .numberAbove number word above
    · exact .wordBelow word number below
    · refine .numbers left right ?_ unlike
      rintro rfl
      exact h rfl

theorem cmp_value_eq_iff (h : t.value ≠ u.value) :
    t.value.cmp u.value = (t.semanticCmp u).then (List.compareLex semanticCmp ts us) ↔
      ¬Misranked (t :: ts) (u :: us) := by
  rw [misranked_cons_of_value_ne h]
  have hne : t.textCmp u ≠ .eq := fun he => h (congrArg value (textCmp_eq_iff.1 he))
  cases t.reading with
  | fitting numeric fits value le =>
    cases u.reading with
    | fitting numeric' fits' value' =>
      have hnumbers : compare t.number u.number ≠ .eq := by
        intro he
        exact h (by rw [value, value', Nat.compare_eq_eq.1 he])
      simp [semanticCmp, Identifier.cmp, numeric, numeric', fits, fits', value, value',
        Ordering.then.eq_2 _ _ hnumbers]
    | oversized numeric' _ value' lt =>
      have hbelow : compare t.number u.number = .lt :=
        Nat.compare_eq_lt.2 (Nat.lt_of_le_of_lt le lt)
      simp [semanticCmp, Identifier.cmp, numeric, numeric', fits, value, value', hbelow]
    | word numeric' fits' value' =>
      simp [semanticCmp, Identifier.cmp, numeric, numeric', fits, fits', value, value']
  | oversized numeric large value lt =>
    cases u.reading with
    | fitting numeric' fits' value' le =>
      have habove : compare t.number u.number = .gt :=
        Nat.compare_eq_gt.2 (Nat.lt_of_le_of_lt le lt)
      simp [semanticCmp, Identifier.cmp, numeric, numeric', fits', value, value', habove]
    | oversized numeric' large' value' =>
      simp [semanticCmp, cmp_word, numeric, numeric', large, large', value, value']
    | word numeric' fits' value' =>
      have hlt : t.textCmp u = .lt ↔ t.textCmp u ≠ .gt := by cases hc : t.textCmp u <;> simp_all
      simp [semanticCmp, cmp_word, numeric, numeric', large, fits', value, value', hlt]
  | word numeric fits value =>
    cases u.reading with
    | fitting numeric' fits' value' =>
      simp [semanticCmp, Identifier.cmp, numeric, numeric', fits, fits', value, value']
    | oversized numeric' large' value' =>
      have hgt : t.textCmp u = .gt ↔ t.textCmp u ≠ .lt := by cases hc : t.textCmp u <;> simp_all
      simp [semanticCmp, cmp_word, numeric, numeric', fits, large', value, value', hgt]
    | word numeric' fits' value' =>
      simp [semanticCmp, cmp_word, numeric, numeric', fits, fits', value, value',
        Ordering.then.eq_2 _ _ hne]

end

theorem cmpAll_values_eq_iff (ts us : List IdentifierText) :
    Identifier.cmpAll (ts.map (·.value)) (us.map (·.value)) =
      List.compareLex semanticCmp ts us ↔ ¬Misranked ts us := by
  induction ts generalizing us with
  | nil => cases us <;> exact iff_of_true rfl nofun
  | cons t ts ih =>
    cases us with
    | nil => exact iff_of_true rfl nofun
    | cons u us =>
      rw [List.map_cons, List.map_cons, Identifier.cmpAll, List.compareLex_cons_cons]
      by_cases h : t.value = u.value
      · rw [Identifier.cmp_eq_iff.2 h, semanticCmp_eq_of_value_eq h, misranked_cons_of_value_eq h]
        exact ih us
      · rw [Ordering.then.eq_2 _ _ (mt Identifier.cmp_eq_iff.1 h)]
        exact cmp_value_eq_iff h

theorem not_misranked_of_fits {ts us : List IdentifierText}
    (hts : ∀ t ∈ ts, t.isOversized = false) (hus : ∀ u ∈ us, u.isOversized = false) :
    ¬Misranked ts us := by
  intro h
  induction h with
  | later _ _ ih => exact ih (fun t ht => hts t (.tail _ ht)) fun u hu => hus u (.tail _ hu)
  | numberAbove number | numbers number =>
    rw [hts _ (.head _)] at number
    exact nomatch number
  | wordBelow _ number =>
    rw [hus _ (.head _)] at number
    exact nomatch number

end IdentifierText

namespace VersionText

def semanticPre : List IdentifierText → List IdentifierText → Ordering
  | [], [] => .eq
  | [], _ :: _ => .gt
  | _ :: _, [] => .lt
  | t :: ts, u :: us => List.compareLex IdentifierText.semanticCmp (t :: ts) (u :: us)

def semanticCmp (w w' : VersionText) : Ordering :=
  (compare (w.component 0) (w'.component 0)).then <|
    (compare (w.component 1) (w'.component 1)).then <|
    (compare (w.component 2) (w'.component 2)).then <| semanticPre w.pre w'.pre

def SameNumbers (w w' : VersionText) : Prop :=
  w.component 0 = w'.component 0 ∧ w.component 1 = w'.component 1 ∧
    w.component 2 = w'.component 2

theorem cmpPre_values_eq_iff (ts us : List IdentifierText) :
    Version.cmpPre (ts.map (·.value)) (us.map (·.value)) = semanticPre ts us ↔
      ¬IdentifierText.Misranked ts us := by
  cases ts with
  | nil => cases us <;> exact iff_of_true rfl nofun
  | cons t ts =>
    cases us with
    | nil => exact iff_of_true rfl nofun
    | cons u us => exact IdentifierText.cmpAll_values_eq_iff (t :: ts) (u :: us)

theorem precedence_version_eq_iff (w w' : VersionText) :
    w.version.precedence w'.version = w.semanticCmp w' ↔
      ¬(w.SameNumbers w' ∧ IdentifierText.Misranked w.pre w'.pre) := by
  have hthen {o p q : Ordering} : o.then p = o.then q ↔ (o = .eq → p = q) := by cases o <;> simp
  have hpre : Version.cmpPre w.version.pre w'.version.pre = semanticPre w.pre w'.pre ↔
      ¬IdentifierText.Misranked w.pre w'.pre := cmpPre_values_eq_iff w.pre w'.pre
  have hprecedence : w.version.precedence w'.version =
      (compare (w.component 0) (w'.component 0)).then
        ((compare (w.component 1) (w'.component 1)).then
        ((compare (w.component 2) (w'.component 2)).then
          (Version.cmpPre w.version.pre w'.version.pre))) := rfl
  rw [hprecedence, semanticCmp, hthen, hthen, hthen, hpre, Nat.compare_eq_eq, Nat.compare_eq_eq,
    Nat.compare_eq_eq]
  constructor
  · rintro h ⟨⟨hmajor, hminor, hpatch⟩, hmisranked⟩
    exact h hmajor hminor hpatch hmisranked
  · intro h hmajor hminor hpatch hmisranked
    exact h ⟨⟨hmajor, hminor, hpatch⟩, hmisranked⟩

end VersionText

namespace Version

/-- The precedence of two versions is the one that semantic versioning defines on their texts, but
where the numbers are the same and the pre-releases are misranked; without numbers that fit no
machine word it always is. -/
theorem precedence_eq_semanticCmp_iff {a b : String} {v v' : Version} (ha : parse a = .ok v)
    (hb : parse b = .ok v') : (∃ w w' : VersionText, w.Spells a ∧ w'.Spells b) ∧
      ∀ w w' : VersionText, w.Spells a → w'.Spells b →
        (v.precedence v' = w.semanticCmp w' ↔
          ¬(w.SameNumbers w' ∧ IdentifierText.Misranked w.pre w'.pre)) ∧
          ((∀ t ∈ w.pre ++ w'.pre, t.isOversized = false) →
            v.precedence v' = w.semanticCmp w') := by
  constructor
  · obtain ⟨w, hw, -⟩ := VersionText.exists_spells_of_parse ha
    obtain ⟨w', hw', -⟩ := VersionText.exists_spells_of_parse hb
    exact ⟨w, w', hw, hw'⟩
  · intro w w' hw hw'
    obtain rfl : w.version = v := Except.ok.inj (hw.parse_eq.symm.trans ha)
    obtain rfl : w'.version = v' := Except.ok.inj (hw'.parse_eq.symm.trans hb)
    refine ⟨w.precedence_version_eq_iff w', ?_⟩
    intro hfits
    rw [List.forall_mem_append] at hfits
    rw [w.precedence_version_eq_iff w']
    rintro ⟨-, hmisranked⟩
    exact IdentifierText.not_misranked_of_fits hfits.1 hfits.2 hmisranked

theorem precedence_eq_semanticCmp_iff_padded :
    let w : VersionText :=
      ⟨true, [⟨.ofNat 1, by decide⟩, ⟨.ofNat 28, by decide⟩, ⟨.ofNat 0, by decide⟩],
      [⟨"007".toList, by decide, List.all_eq_true.1 rfl⟩], [], by decide⟩
    let w' : VersionText := ⟨false, [⟨.ofNat 1, by decide⟩, ⟨.ofNat 28, by decide⟩],
      [⟨"-".toList, by decide, List.all_eq_true.1 rfl⟩], [], by decide⟩
    w.Spells "v1.28.0-007" ∧ w'.Spells " 1.28--\n" ∧
      (⟨1, 28, 0, [.number 7], []⟩ : Version).precedence ⟨1, 28, 0, [.word "-"], []⟩ =
        w.semanticCmp w' ∧
      w.semanticCmp w' = .lt :=
  have hw := ⟨[], [], nofun, nofun, by decide +kernel⟩
  have hw' :=
    ⟨" ".toList, "\n".toList, List.all_eq_true.1 rfl, List.all_eq_true.1 rfl, by decide +kernel⟩
  have h :=
    (precedence_eq_semanticCmp_iff (a := "v1.28.0-007") (b := " 1.28--\n") (by decide +kernel)
      (by decide +kernel)).2 _ _ hw hw'
  ⟨hw, hw', h.2 (by decide +kernel), by decide +kernel⟩

/-- Of two numbers that fit no machine word the smaller one begins with the larger digit. -/
theorem precedence_ne_semanticCmp_long_numbers :
    let w : VersionText :=
      ⟨false, [⟨.ofNat 1, by decide⟩, ⟨.ofNat 28, by decide⟩, ⟨.ofNat 5, by decide⟩],
      [⟨"99999999999999999999".toList, by decide, List.all_eq_true.1 rfl⟩], [], by decide⟩
    let w' : VersionText :=
      ⟨false, [⟨.ofNat 1, by decide⟩, ⟨.ofNat 28, by decide⟩, ⟨.ofNat 5, by decide⟩],
      [⟨"100000000000000000000".toList, by decide, List.all_eq_true.1 rfl⟩], [], by decide⟩
    let v : Version := ⟨1, 28, 5, [.word "99999999999999999999"], []⟩
    let v' : Version := ⟨1, 28, 5, [.word "100000000000000000000"], []⟩
    w.Spells "1.28.5-99999999999999999999" ∧ w'.Spells "1.28.5-100000000000000000000" ∧
      parse "1.28.5-99999999999999999999" = .ok v ∧
      parse "1.28.5-100000000000000000000" = .ok v' ∧
      v.precedence v' = .gt ∧ w.semanticCmp w' = .lt :=
  ⟨⟨[], [], nofun, nofun, by decide +kernel⟩, ⟨[], [], nofun, nofun, by decide +kernel⟩,
    by decide +kernel, by decide +kernel, by decide +kernel, by decide +kernel⟩

end Version
end Rollout
