import Rollout.Proofs.Text.Numeral
import Rollout.Proofs.Text.Reading
import Rollout.Version.Parser

/-!
The grammar of versions: the parts that a version is written of, and what they stand for. Main
statement: the texts that are read as versions are exactly those of the grammar, and none of them
can be taken apart in two ways.
-/
namespace Rollout
open Text

structure WordNumeral extends Numeral where
  fits : toNumeral.value ≤ maxWord

namespace WordNumeral

theorem chars_injective : Function.Injective fun n : WordNumeral => n.chars := by
  rintro ⟨⟨cs, _⟩, _⟩ ⟨⟨ds, _⟩, _⟩ h
  obtain rfl : cs = ds := h
  rfl

theorem dot_not_mem (n : WordNumeral) : '.' ∉ n.chars := n.not_mem_of_not_digit (by decide)

theorem parseComponent_chars (n : WordNumeral) : Version.parseComponent n.chars = .ok n.value := by
  have hfits : ¬maxWord < ofDigits n.chars := Nat.not_lt_of_le n.fits
  unfold Version.parseComponent
  rw [if_neg (by simp [n.isNumeral]), if_neg hfits]
  rfl

theorem reads : Reads Version.parseComponent (fun n : WordNumeral => n.chars) (·.value) := by
  intro cs a
  constructor
  · intro h
    unfold Version.parseComponent at h
    split at h
    · exact nomatch h
    next hnumeral =>
    split at h
    · exact nomatch h
    next hfits =>
    obtain rfl := Except.ok.inj h
    exact ⟨⟨⟨cs, by simpa using hnumeral⟩, Nat.le_of_not_lt hfits⟩, rfl, rfl⟩
  · rintro ⟨n, rfl, rfl⟩
    exact n.parseComponent_chars

end WordNumeral

@[ext] structure IdentifierText where
  chars : List Char
  ne_nil : chars ≠ []
  isPart : ∀ c ∈ chars, Identifier.isPart c = true

namespace IdentifierText

def value (t : IdentifierText) : Identifier :=
  if t.chars.all Char.isDigit = true ∧ ofDigits t.chars ≤ maxWord then
    .number (ofDigits t.chars)
  else .word (String.ofList t.chars)

theorem not_mem_of_not_part {t : IdentifierText} {c : Char} (h : Identifier.isPart c = false) :
    c ∉ t.chars := by
  intro hc
  rw [t.isPart c hc] at h
  exact absurd h (by decide)

theorem chars_injective : Function.Injective fun t : IdentifierText => t.chars :=
  fun _ _ => IdentifierText.ext

theorem dot_not_mem (t : IdentifierText) : '.' ∉ t.chars := not_mem_of_not_part (by decide)

theorem parse_chars (t : IdentifierText) : Identifier.parse t.chars = .ok t.value := by
  have hpart : t.chars.all Identifier.isPart = true := List.all_eq_true.2 t.isPart
  unfold Identifier.parse value
  rw [if_neg (by simpa using t.ne_nil), if_neg (by simp [hpart])]
  by_cases hnumber : t.chars.all Char.isDigit = true ∧ ofDigits t.chars ≤ maxWord
  · rw [if_pos hnumber, if_pos (by simpa using hnumber)]
  · rw [if_neg hnumber, if_neg (by simpa using hnumber)]

theorem reads : Reads Identifier.parse (fun t : IdentifierText => t.chars) (·.value) := by
  intro cs i
  constructor
  · intro h
    have hne : cs ≠ [] := by
      rintro rfl
      exact nomatch h
    have hpart : ∀ c ∈ cs, Identifier.isPart c = true := by
      unfold Identifier.parse at h
      rw [if_neg (by simpa using hne)] at h
      split at h
      · exact nomatch h
      next hall => simpa using hall
    have hparse : Identifier.parse cs = .ok (⟨cs, hne, hpart⟩ : IdentifierText).value :=
      parse_chars ⟨cs, hne, hpart⟩
    exact ⟨⟨cs, hne, hpart⟩, rfl, Except.ok.inj (hparse.symm.trans h)⟩
  · rintro ⟨t, rfl, rfl⟩
    exact t.parse_chars

theorem reads_all (cs : List Char) (is : List Identifier) :
    Identifier.parseAll cs = .ok is ↔
      ∃ ts : List IdentifierText, ts ≠ [] ∧ joinWith '.' (ts.map (·.chars)) = cs ∧
        ts.map (·.value) = is :=
  reads.pieces dot_not_mem cs is

end IdentifierText

/-- The parts of a text that is a version: the letter or none, one to three numbers, and the
identifiers behind the dash and behind the plus sign. -/
@[ext] structure VersionText where
  letter : Bool
  components : List WordNumeral
  pre : List IdentifierText
  build : List IdentifierText
  count : 1 ≤ components.length ∧ components.length ≤ 3

namespace VersionText

def tail (mark : Char) : List IdentifierText → List Char
  | [] => []
  | t :: ts => mark :: joinWith '.' ((t :: ts).map (·.chars))

def core (w : VersionText) : List Char := joinWith '.' (w.components.map (·.chars))

def body (w : VersionText) : List Char := w.core ++ tail '-' w.pre ++ tail '+' w.build

def chars (w : VersionText) : List Char := if w.letter then 'v' :: w.body else w.body

def component (w : VersionText) (place : Nat) : Nat := (w.components[place]?.map (·.value)).getD 0

def version (w : VersionText) : Version :=
  ⟨w.component 0, w.component 1, w.component 2, w.pre.map (·.value), w.build.map (·.value)⟩

def Spells (w : VersionText) (s : String) : Prop :=
  ∃ before after, (∀ c ∈ before, isBlank c = true) ∧ (∀ c ∈ after, isBlank c = true) ∧
    s.toList = before ++ (w.chars ++ after)

theorem mem_tail {mark c : Char} {ts : List IdentifierText} (h : c ∈ tail mark ts) :
    c = mark ∨ c = '.' ∨ Identifier.isPart c = true := by
  cases ts with
  | nil => exact nomatch h
  | cons t ts =>
    rcases List.mem_cons.1 h with hmark | h
    · exact .inl hmark
    · rcases mem_joinWith h with hdot | ⟨p, hp, hc⟩
      · exact .inr (.inl hdot)
      · obtain ⟨u, -, rfl⟩ := List.mem_map.1 hp
        exact .inr (.inr (u.isPart c hc))

theorem parseTail_append_tail {mark : Char} {head : List Char} (h : mark ∉ head)
    (ts : List IdentifierText) :
    Version.parseTail mark (head ++ tail mark ts) = .ok (head, ts.map (·.value)) := by
  unfold Version.parseTail
  cases ts with
  | nil =>
    rw [tail, List.append_nil, cutAt?_eq_none_iff.2 h]
    rfl
  | cons t ts =>
    have hids : Identifier.parseAll (joinWith '.' ((t :: ts).map (·.chars))) =
        .ok ((t :: ts).map (·.value)) :=
      (IdentifierText.reads_all _ _).2 ⟨t :: ts, List.cons_ne_nil t ts, rfl, rfl⟩
    rw [tail, cutAt?_append h]
    show (Identifier.parseAll _).map _ = _
    rw [hids]
    rfl

theorem exists_of_parseTail {mark : Char} {cs head : List Char} {is : List Identifier}
    (h : Version.parseTail mark cs = .ok (head, is)) :
    ∃ ts : List IdentifierText, head ++ tail mark ts = cs ∧ ts.map (·.value) = is := by
  unfold Version.parseTail at h
  split at h
  next =>
    obtain ⟨rfl, rfl⟩ := Prod.mk.inj (Except.ok.inj h)
    exact ⟨[], List.append_nil _, rfl⟩
  next before after hcut =>
    obtain ⟨rfl, -⟩ := cutAt?_eq_some hcut
    cases hids : Identifier.parseAll after with
    | error e =>
      rw [hids] at h
      exact nomatch h
    | ok js =>
      rw [hids] at h
      obtain ⟨rfl, rfl⟩ := Prod.mk.inj (Except.ok.inj h)
      obtain ⟨ts, hne, rfl, rfl⟩ := (IdentifierText.reads_all _ _).1 hids
      obtain ⟨t, us, rfl⟩ := List.exists_cons_of_ne_nil hne
      exact ⟨t :: us, rfl, rfl⟩

theorem append_tail_inj {mark : Char} {head head' : List Char} (h : mark ∉ head)
    (h' : mark ∉ head') {ts us : List IdentifierText}
    (he : head ++ tail mark ts = head' ++ tail mark us) : head = head' ∧ ts = us := by
  -- the first mark ends what stands before the identifiers
  cases ts with
  | nil =>
    cases us with
    | nil => exact ⟨by simpa [tail] using he, rfl⟩
    | cons u us =>
      rw [tail, List.append_nil] at he
      exact absurd (by simp [he, tail]) h
  | cons t ts =>
    cases us with
    | nil =>
      rw [tail, tail, List.append_nil] at he
      exact absurd (by simp [← he]) h'
    | cons u us =>
      have hcut : some (head, joinWith '.' ((t :: ts).map (·.chars))) =
          some (head', joinWith '.' ((u :: us).map (·.chars))) := by
        rw [← cutAt?_append h, ← cutAt?_append h']
        exact congrArg (cutAt? mark) he
      obtain ⟨hhead, hjoin⟩ := Prod.mk.inj (Option.some.inj hcut)
      exact ⟨hhead, joinWith_map_injective IdentifierText.chars_injective
        IdentifierText.dot_not_mem
        (List.cons_ne_nil t ts) (List.cons_ne_nil u us) hjoin⟩

variable (w : VersionText)

theorem components_ne_nil : w.components ≠ [] := List.ne_nil_of_length_pos w.count.1

theorem mem_core {c : Char} (h : c ∈ w.core) : c.isDigit = true ∨ c = '.' := by
  rcases mem_joinWith h with hdot | ⟨p, hp, hc⟩
  · exact .inr hdot
  · obtain ⟨n, -, rfl⟩ := List.mem_map.1 hp
    exact .inl (isDigit_of_mem_numeral n.isNumeral hc)

theorem dash_not_mem_core : '-' ∉ w.core := by
  intro h
  rcases w.mem_core h with h | h <;> exact absurd h (by decide)

theorem plus_not_mem_front : '+' ∉ w.core ++ tail '-' w.pre := by
  intro h
  rcases List.mem_append.1 h with h | h
  · rcases w.mem_core h with h | h <;> exact absurd h (by decide)
  · rcases mem_tail h with h | h | h <;> exact absurd h (by decide)

theorem head_body : ∃ c cs, w.body = c :: cs ∧ c.isDigit = true := by
  obtain ⟨n, ns, hcomponents⟩ := List.exists_cons_of_ne_nil w.components_ne_nil
  obtain ⟨c, cs, hn, hc⟩ := n.head_chars
  have hcore : ∃ ds, w.core = c :: ds := by
    unfold core
    rw [hcomponents, List.map_cons, hn]
    cases ns.map (·.chars) with
    | nil => exact ⟨cs, rfl⟩
    | cons p ps => exact ⟨cs ++ '.' :: joinWith '.' (p :: ps), rfl⟩
  obtain ⟨ds, hcore⟩ := hcore
  refine ⟨c, ds ++ tail '-' w.pre ++ tail '+' w.build, ?_, hc⟩
  rw [body, hcore]
  rfl

theorem dropLetter_body : Version.dropLetter w.body = w.body := by
  obtain ⟨c, cs, h, hc⟩ := w.head_body
  have hv : c ≠ 'v' := by rintro rfl; exact absurd hc (by decide)
  rw [h, Version.dropLetter.eq_2]
  intro t e
  exact hv (List.cons.inj e).1

theorem dropLetter_chars : Version.dropLetter w.chars = w.body := by
  unfold chars
  split
  · rfl
  · exact w.dropLetter_body

theorem not_blank_of_mem_tail {mark c : Char} (hmark : isBlank mark = false)
    {ts : List IdentifierText} (h : c ∈ tail mark ts) : isBlank c = false := by
  rcases mem_tail h with rfl | rfl | hpart
  · exact hmark
  · decide
  · rcases Bool.or_eq_true_iff.1 hpart with halphanum | hdash
    · exact not_blank_of_isAlphanum halphanum
    · obtain rfl := beq_iff_eq.1 hdash
      decide

theorem not_blank_of_mem_body {c : Char} (h : c ∈ w.body) : isBlank c = false := by
  rcases List.mem_append.1 h with h | h
  · rcases List.mem_append.1 h with h | h
    · rcases w.mem_core h with hdigit | rfl
      · exact not_blank_of_isDigit hdigit
      · decide
    · exact not_blank_of_mem_tail (by decide) h
  · exact not_blank_of_mem_tail (by decide) h

theorem not_blank_of_mem_chars {c : Char} (h : c ∈ w.chars) : isBlank c = false := by
  unfold chars at h
  split at h
  · rcases List.mem_cons.1 h with rfl | h
    · decide
    · exact w.not_blank_of_mem_body h
  · exact w.not_blank_of_mem_body h

theorem spells_iff {s : String} : w.Spells s ↔ trim s.toList = w.chars := by
  constructor
  · rintro ⟨before, after, hbefore, hafter, hs⟩
    rw [hs]
    exact trim_append hbefore (fun _ => w.not_blank_of_mem_chars) hafter
  · intro h
    obtain ⟨before, after, hbefore, hafter, hs⟩ := exists_eq_append_trim s.toList
    rw [h] at hs
    exact ⟨before, after, hbefore, hafter, hs⟩

theorem parseBody_body : Version.parseBody w.body = .ok w.version := by
  obtain ⟨c, cs, hhead, -⟩ := w.head_body
  have hne : w.body.isEmpty = false := by rw [hhead]; rfl
  have hplus :
      Version.parseTail '+' w.body = .ok (w.core ++ tail '-' w.pre, w.build.map (·.value)) :=
    parseTail_append_tail w.plus_not_mem_front w.build
  have hdash :
      Version.parseTail '-' (w.core ++ tail '-' w.pre) = .ok (w.core, w.pre.map (·.value)) :=
    parseTail_append_tail w.dash_not_mem_core w.pre
  have hcore :
      (pieces '.' w.core).mapM Version.parseComponent = .ok (w.components.map (·.value)) :=
    (WordNumeral.reads.pieces WordNumeral.dot_not_mem _ _).2
      ⟨w.components, w.components_ne_nil, rfl, rfl⟩
  simp only [Version.parseBody, hne, hplus, hdash, hcore, bind, Except.bind]
  obtain ⟨letter, components, pre, build, count⟩ := w
  match components, count with
  | [_], _ => rfl
  | [_, _], _ => rfl
  | [_, _, _], _ => rfl
  | _ :: _ :: _ :: _ :: _, count => exact absurd count.2 (by simp)

theorem exists_of_parseBody {cs : List Char} {v : Version} (h : Version.parseBody cs = .ok v)
    (letter : Bool) : ∃ w : VersionText, w.letter = letter ∧ w.body = cs ∧ w.version = v := by
  unfold Version.parseBody at h
  by_cases hne : cs.isEmpty = true
  · rw [if_pos hne] at h
    exact nomatch h
  rw [if_neg hne] at h
  obtain ⟨⟨front, build⟩, hplus, h⟩ := bind_eq_ok_iff.1 h
  obtain ⟨⟨core, pre⟩, hdash, h⟩ := bind_eq_ok_iff.1 h
  obtain ⟨ns, hcore, h⟩ := bind_eq_ok_iff.1 h
  obtain ⟨bs, rfl, rfl⟩ := exists_of_parseTail hplus
  obtain ⟨ps, rfl, rfl⟩ := exists_of_parseTail hdash
  obtain ⟨ts, -, rfl, rfl⟩ := (WordNumeral.reads.pieces WordNumeral.dot_not_mem _ _).1 hcore
  have hshape : ∃ count, (⟨letter, ts, ps, bs, count⟩ : VersionText).version = v := by
    match ts, h with
    | [_], h => exact ⟨by simp, Except.ok.inj h⟩
    | [_, _], h => exact ⟨by simp, Except.ok.inj h⟩
    | [_, _, _], h => exact ⟨by simp, Except.ok.inj h⟩
  obtain ⟨count, hv⟩ := hshape
  exact ⟨⟨letter, ts, ps, bs, count⟩, rfl, rfl, hv⟩

theorem exists_of_parseBody_dropLetter {cs : List Char} {v : Version}
    (h : Version.parseBody (Version.dropLetter cs) = .ok v) :
    ∃ w : VersionText, w.chars = cs ∧ w.version = v := by
  unfold Version.dropLetter at h
  split at h
  · obtain ⟨w, hletter, hbody, hv⟩ := exists_of_parseBody h true
    refine ⟨w, ?_, hv⟩
    rw [chars, hletter, hbody]
    rfl
  · obtain ⟨w, hletter, hbody, hv⟩ := exists_of_parseBody h false
    refine ⟨w, ?_, hv⟩
    rw [chars, hletter, hbody]
    rfl

theorem chars_injective : Function.Injective chars := by
  intro w w' h
  have hbody : w.body = w'.body := by rw [← w.dropLetter_chars, h, w'.dropLetter_chars]
  have hletter : w.letter = w'.letter := by
    unfold chars at h
    rw [hbody] at h
    cases hw : w.letter <;> cases hw' : w'.letter <;> simp [hw, hw'] at h ⊢
  obtain ⟨hfront, hbuild⟩ := append_tail_inj w.plus_not_mem_front w'.plus_not_mem_front hbody
  obtain ⟨hcore, hpre⟩ := append_tail_inj w.dash_not_mem_core w'.dash_not_mem_core hfront
  have hcomponents : w.components = w'.components :=
    joinWith_map_injective WordNumeral.chars_injective WordNumeral.dot_not_mem w.components_ne_nil
      w'.components_ne_nil hcore
  exact VersionText.ext hletter hcomponents hpre hbuild

variable {w} {s : String}

theorem Spells.parse_eq (h : w.Spells s) : Version.parse s = .ok w.version := by
  unfold Version.parse
  rw [w.spells_iff.1 h, w.dropLetter_chars, w.parseBody_body]

theorem exists_spells_of_parse {v : Version} (h : Version.parse s = .ok v) :
    ∃ w : VersionText, w.Spells s ∧ w.version = v := by
  unfold Version.parse at h
  split at h
  next v' hbody =>
    obtain rfl := Except.ok.inj h
    obtain ⟨w, hchars, hv⟩ := exists_of_parseBody_dropLetter hbody
    exact ⟨w, w.spells_iff.2 hchars.symm, hv⟩
  next => exact nomatch h

theorem spells_chars (w : VersionText) : w.Spells (String.ofList w.chars) :=
  ⟨[], [], nofun, nofun, by simp⟩

end VersionText

namespace Version

/-- A text is a version exactly if it is one of the grammar, which then is the only one it can be,
and what is read is what its parts stand for. A text that is refused is named as it was given. -/
theorem parse_iff_spells (s : String) :
    (∀ v, parse s = .ok v ↔ ∃ w : VersionText, w.Spells s ∧ w.version = v) ∧
      (∀ w w' : VersionText, w.Spells s → w'.Spells s → w = w') ∧
      (∀ e, parse s = .error e → ∃ flaw, e = .malformed s flaw) := by
  refine ⟨?_, ?_, ?_⟩
  · intro v
    constructor
    · exact VersionText.exists_spells_of_parse
    · rintro ⟨w, hw, rfl⟩
      exact hw.parse_eq
  · intro w w' hw hw'
    apply VersionText.chars_injective
    rw [← w.spells_iff.1 hw, ← w'.spells_iff.1 hw']
  · intro e h
    unfold parse at h
    split at h
    · exact nomatch h
    next flaw hflaw => exact ⟨flaw, (Except.error.inj h).symm⟩

theorem parse_iff_spells_padded :
    let s := "\u00a0v01.28-rc.1-x+007.18446744073709551616\n"
    let v : Version :=
      ⟨1, 28, 0, [.word "rc", .word "1-x"], [.number 7, .word "18446744073709551616"]⟩
    parse s = .ok v ∧ (∃! w : VersionText, w.Spells s ∧ w.version = v) ∧
      ∃ flaw, parse " 1.2.3.4" = .error (.malformed " 1.2.3.4" flaw) :=
  let s := "\u00a0v01.28-rc.1-x+007.18446744073709551616\n"
  have hread :
      parse s = .ok ⟨1, 28, 0, [.word "rc", .word "1-x"],
        [.number 7, .word "18446744073709551616"]⟩ := by
    decide +kernel
  have hrefused : parse " 1.2.3.4" = .error (.malformed " 1.2.3.4" .tooManyComponents) := by
    decide +kernel
  let ⟨w, hw, hv⟩ := ((parse_iff_spells s).1 _).1 hread
  let ⟨flaw, hflaw⟩ := (parse_iff_spells " 1.2.3.4").2.2 _ hrefused
  ⟨hread, ⟨w, ⟨hw, hv⟩, fun w' hw' => (parse_iff_spells s).2.1 w' w hw'.1 hw⟩, flaw,
    hrefused.trans (congrArg _ hflaw)⟩

end Version
end Rollout
