import Rollout.Json.Printer
import Rollout.Proofs.Json.Grammar

/-!
The reader of string literals takes exactly the literals of the grammar, and returns their texts. A
string as it is written is such a literal, whatever its characters are.
-/
namespace Rollout.Json

section TextOf
variable {u v : HexUnit} {ss : List Stroke}

theorem isLowUnit_of_isHighUnit {n : Nat} (h : isHighUnit n = true) : isLowUnit n = false := by
  simp only [isLowUnit, isHighUnit, Bool.and_eq_true, Bool.and_eq_false_iff, decide_eq_true_eq,
    decide_eq_false_iff_not] at h ⊢
  omega

theorem textOf_unit (hhigh : isHighUnit u.value = false) (hlow : isLowUnit u.value = false) :
    textOf (.unit u :: ss) = (textOf ss).map (Char.ofNat u.value :: ·) := by
  cases ss with
  | nil => simp [textOf, hhigh, hlow]
  | cons s ss => cases s <;> simp [textOf, hhigh, hlow]

theorem textOf_low (hlow : isLowUnit u.value = true) : textOf (.unit u :: ss) = none := by
  have hhigh : isHighUnit u.value = false := by
    rw [← Bool.not_eq_true]
    intro hhigh
    exact absurd ((isLowUnit_of_isHighUnit hhigh).symm.trans hlow) (by decide)
  cases ss with
  | nil => simp [textOf, hlow]
  | cons s ss => cases s <;> simp [textOf, hlow, hhigh]

theorem textOf_pair (hhigh : isHighUnit u.value = true) (hlow : isLowUnit v.value = true) :
    textOf (.unit u :: .unit v :: ss) = (textOf ss).map (joined u v :: ·) := by
  simp [textOf, hhigh, hlow]

theorem textOf_high (hhigh : isHighUnit u.value = true)
    (halone : ∀ v ts, ss = .unit v :: ts → isLowUnit v.value = false) :
    textOf (.unit u :: ss) = none := by
  cases ss with
  | nil => simp [textOf, hhigh]
  | cons s ss =>
    cases s with
    | unit v => simp [textOf, hhigh, halone v ss rfl]
    | _ => simp [textOf, hhigh]

end TextOf

namespace Body
variable {c : Char} {body : Body} {t : Option (List Char)} {rest : List Char}

theorem push_some (c : Char) (t : Option (List Char)) (rest : List Char) :
    push (some c) (some (t, rest)) = some (t.map (c :: ·), rest) := by
  cases t <;> rfl

theorem exists_of_push_some (h : body.push (some c) = some (t, rest)) :
    ∃ t', body = some (t', rest) ∧ t'.map (c :: ·) = t := by
  obtain ⟨⟨t', rest'⟩, rfl, hpair⟩ := Option.map_eq_some_iff.1 h
  obtain ⟨rfl, rfl⟩ := Prod.mk.inj hpair
  exact ⟨t', rfl, by cases t' <;> rfl⟩

theorem exists_of_push_none (h : body.push none = some (t, rest)) :
    t = none ∧ ∃ t', body = some (t', rest) := by
  obtain ⟨⟨t', rest'⟩, rfl, hpair⟩ := Option.map_eq_some_iff.1 h
  obtain ⟨rfl, rfl⟩ := Prod.mk.inj hpair
  exact ⟨rfl, t', rfl⟩

end Body

section Reading
variable {u v : HexUnit} {rest : List Char}

theorem readBody_escape {e c : Char} (hu : e ≠ 'u') (h : escape? e = some c) (rest : List Char) :
    readBody ('\\' :: e :: rest) = (readBody rest).push (some c) := by
  rw [readBody.eq_4 _ _ fun _ _ _ _ _ he _ => hu he, h]

theorem readBody_plain {c : Char} (hquote : c ≠ '"') (hslash : c ≠ '\\')
    (hcontrol : ¬c.toNat < 32) (rest : List Char) :
    readBody (c :: rest) = (readBody rest).push (some c) := by
  rw [readBody.eq_5 _ _ hquote (fun _ _ _ _ _ he _ => hslash he) fun _ _ he _ => hslash he]
  exact if_neg (by simp [hcontrol, hslash])

theorem readBody_unit (hhigh : isHighUnit u.value = false) (hlow : isLowUnit u.value = false)
    (rest : List Char) :
    readBody (Stroke.chars (.unit u) ++ rest) =
      (readBody rest).push (some (Char.ofNat u.value)) := by
  simp [Stroke.chars, readBody.eq_3, u.stands, hhigh, hlow]

theorem readBody_low (hlow : isLowUnit u.value = true) (rest : List Char) :
    readBody (Stroke.chars (.unit u) ++ rest) = (readBody rest).push none := by
  simp [Stroke.chars, readBody.eq_3, u.stands, hlow]

theorem readBody_pair (hhigh : isHighUnit u.value = true) (rest : List Char) :
    readBody (Stroke.chars (.unit u) ++ (Stroke.chars (.unit v) ++ rest)) =
      (readBody rest).push (if isLowUnit v.value then some (joined u v) else none) := by
  simp only [Stroke.chars, List.cons_append, List.nil_append, readBody.eq_3, u.stands, v.stands,
    hhigh, isLowUnit_of_isHighUnit hhigh, Bool.false_eq_true, ↓reduceIte, joined]
  cases isLowUnit v.value <;> rfl

theorem readBody_high (hhigh : isHighUnit u.value = true)
    (halone : ∀ e f g k cs, rest ≠ '\\' :: 'u' :: e :: f :: g :: k :: cs) :
    readBody (Stroke.chars (.unit u) ++ rest) = (readBody rest).push none := by
  simp only [Stroke.chars, List.cons_append, List.nil_append, readBody.eq_3, u.stands, hhigh,
    isLowUnit_of_isHighUnit hhigh, Bool.false_eq_true, ↓reduceIte]

theorem not_u_of_escape {letter c : Char} (h : escape? letter = some c) : letter ≠ 'u' := by
  rintro rfl
  exact nomatch h

theorem not_unit_of_head {ss : List Stroke} (h : ∀ v ts, ss ≠ .unit v :: ts) (rest : List Char)
    (e f g k : Char) (cs : List Char) :
    ss.flatMap Stroke.chars ++ '"' :: rest ≠ '\\' :: 'u' :: e :: f :: g :: k :: cs := by
  intro he
  cases ss with
  | nil => exact absurd (List.cons.inj he).1 (by decide)
  | cons s ss =>
    cases s with
    | plain c _ _ noSlash => exact noSlash (List.cons.inj he).1
    | short letter c stands => exact not_u_of_escape stands (List.cons.inj (List.cons.inj he).2).1
    | unit v => exact h v ss rfl

theorem readBody_strokes (ss : List Stroke) (rest : List Char) :
    readBody (ss.flatMap Stroke.chars ++ '"' :: rest) = some (textOf ss, rest) := by
  -- two halves of a character are read in one step, so the recursion is on the length
  match ss with
  | [] => exact readBody.eq_2 rest
  | .plain c visible noQuote noSlash :: ss =>
    have hcontrol : ¬c.toNat < 32 := Nat.not_lt_of_le visible
    show readBody (c :: (ss.flatMap Stroke.chars ++ '"' :: rest)) = _
    rw [readBody_plain noQuote noSlash hcontrol, readBody_strokes ss rest, Body.push_some]
    rfl
  | .short letter c stands :: ss =>
    show readBody ('\\' :: letter :: (ss.flatMap Stroke.chars ++ '"' :: rest)) = _
    rw [readBody_escape (not_u_of_escape stands) stands, readBody_strokes ss rest, Body.push_some]
    rfl
  | .unit u :: ss =>
    rw [List.flatMap_cons, List.append_assoc]
    by_cases hlow : isLowUnit u.value = true
    · rw [readBody_low hlow, readBody_strokes ss rest, textOf_low hlow]
      rfl
    rw [Bool.not_eq_true] at hlow
    by_cases hhigh : isHighUnit u.value = true
    · by_cases hpair : ∃ v ts, ss = .unit v :: ts
      · obtain ⟨v, ts, rfl⟩ := hpair
        rw [List.flatMap_cons, List.append_assoc, readBody_pair hhigh, readBody_strokes ts rest]
        cases hv : isLowUnit v.value with
        | true => rw [if_pos rfl, Body.push_some, textOf_pair hhigh hv]
        | false =>
          have halone : ∀ w us, Stroke.unit v :: ts = .unit w :: us →
              isLowUnit w.value = false := by
            rintro w us h
            obtain rfl := Stroke.unit.inj (List.cons.inj h).1
            exact hv
          rw [textOf_high hhigh halone]
          rfl
      · simp only [not_exists] at hpair
        rw [readBody_high hhigh (not_unit_of_head hpair rest), readBody_strokes ss rest,
          textOf_high hhigh fun v ts h => absurd h (hpair v ts)]
        rfl
    · rw [Bool.not_eq_true] at hhigh
      rw [readBody_unit hhigh hlow, readBody_strokes ss rest, Body.push_some,
        textOf_unit hhigh hlow]
termination_by ss.length

end Reading

theorem exists_strokes_of_readBody {cs : List Char} {t : Option (List Char)} {rest : List Char}
    (h : readBody cs = some (t, rest)) :
    ∃ ss : List Stroke, cs = ss.flatMap Stroke.chars ++ '"' :: rest ∧ textOf ss = t := by
  fun_induction readBody cs generalizing t rest with
  | case1 => exact nomatch h
  | case2 cs =>
    obtain ⟨rfl, rfl⟩ := Prod.mk.inj (Option.some.inj h)
    exact ⟨[], rfl, rfl⟩
  | case3 => exact nomatch h
  | case4 a b c d cs n hn hlow ih =>
    obtain ⟨rfl, t', hbody⟩ := Body.exists_of_push_none h
    obtain ⟨ss, rfl, -⟩ := ih hbody
    exact ⟨.unit ⟨a, b, c, d, n, hn⟩ :: ss, rfl, textOf_low hlow⟩
  | case5 => exact nomatch h
  | case6 a b c d n hn hlow hhigh e f g k cs m hm hpair ih =>
    obtain ⟨t', hbody, rfl⟩ := Body.exists_of_push_some h
    obtain ⟨ss, rfl, rfl⟩ := ih hbody
    exact ⟨.unit ⟨a, b, c, d, n, hn⟩ :: .unit ⟨e, f, g, k, m, hm⟩ :: ss, rfl,
      textOf_pair hhigh hpair⟩
  | case7 a b c d n hn hlow hhigh e f g k cs m hm hpair ih =>
    obtain ⟨rfl, t', hbody⟩ := Body.exists_of_push_none h
    obtain ⟨ss, rfl, -⟩ := ih hbody
    refine ⟨.unit ⟨a, b, c, d, n, hn⟩ :: .unit ⟨e, f, g, k, m, hm⟩ :: ss, rfl,
      textOf_high hhigh ?_⟩
    rintro v ts hv
    obtain rfl := Stroke.unit.inj (List.cons.inj hv).1
    exact Bool.not_eq_true _ ▸ hpair
  | case8 a b c d cs n hn hlow hhigh halone ih =>
    obtain ⟨rfl, t', hbody⟩ := Body.exists_of_push_none h
    obtain ⟨ss, rfl, -⟩ := ih hbody
    refine ⟨.unit ⟨a, b, c, d, n, hn⟩ :: ss, rfl, textOf_high hhigh ?_⟩
    rintro v ts rfl
    exact absurd rfl (halone _ _ _ _ _)
  | case9 a b c d cs n hn hlow hhigh ih =>
    obtain ⟨t', hbody, rfl⟩ := Body.exists_of_push_some h
    obtain ⟨ss, rfl, rfl⟩ := ih hbody
    rw [Bool.not_eq_true] at hlow hhigh
    exact ⟨.unit ⟨a, b, c, d, n, hn⟩ :: ss, rfl, textOf_unit hhigh hlow⟩
  | case10 => exact nomatch h
  | case11 letter cs _ c hc ih =>
    obtain ⟨t', hbody, rfl⟩ := Body.exists_of_push_some h
    obtain ⟨ss, rfl, rfl⟩ := ih hbody
    exact ⟨.short letter c hc :: ss, rfl, rfl⟩
  | case12 => exact nomatch h
  | case13 c cs noQuote _ _ hplain ih =>
    obtain ⟨t', hbody, rfl⟩ := Body.exists_of_push_some h
    obtain ⟨ss, rfl, rfl⟩ := ih hbody
    simp only [Bool.or_eq_true, decide_eq_true_eq, beq_iff_eq, not_or, Nat.not_lt] at hplain
    exact ⟨.plain c hplain.1 noQuote hplain.2 :: ss, rfl, rfl⟩

section Writing

theorem unit?_control : ∀ n < 32,
    unit? '0' '0' (Nat.digitChar (n / 16)) (Nat.digitChar (n % 16)) = some n := by decide

theorem exists_stroke_writeChar (c : Char) :
    ∃ s : Stroke, s.chars = writeChar c ∧
      ∀ ss, textOf (s :: ss) = (textOf ss).map (c :: ·) := by
  have short (letter d : Char) (hd : escape? letter = some d) (hc : c = d) :
      ∃ s : Stroke, s.chars = ['\\', letter] ∧
          ∀ ss, textOf (s :: ss) = (textOf ss).map (c :: ·) :=
    ⟨.short letter c (hc ▸ hd), rfl, fun _ => rfl⟩
  unfold writeChar
  split
  · next h => exact short '"' _ rfl h
  split
  · next h => exact short '\\' _ rfl h
  split
  · next h => exact short 'n' _ rfl h
  split
  · next h => exact short 'r' _ rfl h
  split
  · next h => exact short 't' _ rfl h
  split
  · next h => exact short 'b' _ rfl h
  split
  · next h => exact short 'f' _ rfl h
  split
  · next h =>
    -- neither half of a pair, so it stands for a character alone
    have hlow : isLowUnit c.toNat = false := by simp [isLowUnit]; omega
    have hhigh : isHighUnit c.toNat = false := by simp [isHighUnit]; omega
    refine ⟨.unit ⟨_, _, _, _, c.toNat, unit?_control c.toNat h⟩, rfl, fun ss => ?_⟩
    rw [textOf_unit hhigh hlow, Char.ofNat_toNat]
  · next hquote hslash _ _ _ _ _ hcontrol =>
    exact ⟨.plain c (Nat.le_of_not_lt hcontrol) hquote hslash, rfl, fun _ => rfl⟩

theorem exists_strokes_writeChar (cs : List Char) :
    ∃ ss : List Stroke, ss.flatMap Stroke.chars = cs.flatMap writeChar ∧
      textOf ss = some cs := by
  induction cs with
  | nil => exact ⟨[], rfl, rfl⟩
  | cons c cs ih =>
    obtain ⟨s, hs, htext⟩ := exists_stroke_writeChar c
    obtain ⟨ss, hss, hcs⟩ := ih
    refine ⟨s :: ss, ?_, ?_⟩
    · rw [List.flatMap_cons, List.flatMap_cons, hs, hss]
    · rw [htext, hcs, Option.map_some]

theorem exists_literal_writeString (s : String) :
    ∃ ss : List Stroke, literal ss = writeString s ∧
      (textOf ss).map String.ofList = some s := by
  obtain ⟨ss, hss, htext⟩ := exists_strokes_writeChar s.toList
  refine ⟨ss, ?_, ?_⟩
  · rw [literal, writeString, hss]
  · rw [htext, Option.map_some, String.ofList_toList]

end Writing

end Rollout.Json
