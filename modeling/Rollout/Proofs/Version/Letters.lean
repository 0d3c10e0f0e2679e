import Rollout.Proofs.Version.Grammar
import Rollout.Version.Release

/-!
Versions without the letters in front of them. A blank character in front keeps a letter from being
dropped, and a letter put in front of a blank character keeps the text from being a version;
elsewhere a version without its letter is the same version with the letter put back, and can be told
from what is left of it.
-/
namespace Rollout
open Text

def Text.startsBlank (cs : List Char) : Bool := cs.head?.any isBlank

theorem Text.startsBlank_append {cs : List Char} (h : cs ≠ []) (ds : List Char) :
    startsBlank (cs ++ ds) = startsBlank cs := by
  cases cs with
  | nil => exact absurd rfl h
  | cons c cs => rfl

theorem dropLetters_of_startsBlank {cs : List Char} (h : startsBlank cs = true) :
    dropLetters cs = cs := by
  cases cs with
  | nil => exact absurd h (by decide)
  | cons c cs =>
    have hc : isBlank c = true := h
    have hv : c ≠ 'v' := by rintro rfl; exact absurd hc (by decide)
    simp [dropLetters, hv]

namespace VersionText
variable (w : VersionText)

theorem startsBlank_body_append (after : List Char) : startsBlank (w.body ++ after) = false := by
  obtain ⟨c, cs, h, hc⟩ := w.head_body
  rw [h]
  exact not_blank_of_isDigit hc

theorem chars_ne_nil : w.chars ≠ [] := by
  obtain ⟨c, cs, h, -⟩ := w.head_body
  unfold chars
  split
  · exact List.cons_ne_nil _ _
  · rw [h]
    exact List.cons_ne_nil _ _

theorem dropLetters_chars_append (after : List Char) :
    dropLetters (w.chars ++ after) = w.body ++ after := by
  obtain ⟨c, cs, h, hc⟩ := w.head_body
  have hv : c ≠ 'v' := by rintro rfl; exact absurd hc (by decide)
  have hbody : dropLetters (w.body ++ after) = w.body ++ after := by simp [h, dropLetters, hv]
  unfold chars
  split
  · rwa [List.cons_append, dropLetters, List.dropWhile_cons, if_pos (by rfl)]
  · exact hbody

def lettered : VersionText := { w with letter := true }

variable {w} {s : String}

theorem Spells.exists_after (h : w.Spells s) (hs : startsBlank s.toList = false) :
    ∃ after, (∀ c ∈ after, isBlank c = true) ∧ s.toList = w.chars ++ after := by
  obtain ⟨before, after, hbefore, hafter, htext⟩ := h
  cases before with
  | nil => exact ⟨after, hafter, htext⟩
  | cons c cs =>
    have hc : startsBlank s.toList = true := by
      rw [htext]
      exact hbefore c (List.mem_cons_self ..)
    rw [hs] at hc
    exact absurd hc (by decide)

theorem Spells.lettered (h : w.Spells s) (hs : startsBlank s.toList = false) :
    w.lettered.Spells (String.ofList ('v' :: dropLetters s.toList)) := by
  obtain ⟨after, hafter, htext⟩ := h.exists_after hs
  refine ⟨[], after, nofun, hafter, ?_⟩
  rw [String.toList_ofList, htext, w.dropLetters_chars_append]
  rfl

theorem Spells.blank_outside (h : w.Spells s) {p q : List Char} {c : Char}
    (hs : s.toList = p ++ c :: q) (hc : isBlank c = true) :
    (∀ d ∈ p, isBlank d = true) ∨ ∀ d ∈ q, isBlank d = true := by
  obtain ⟨before, after, hbefore, hafter, htext⟩ := h
  rw [hs] at htext
  rcases List.append_eq_append_iff.1 htext with ⟨m, hp, -⟩ | ⟨m, -, hrest⟩
  · exact .inl fun d hd => hbefore d (by simp [hp, hd])
  · rcases List.append_eq_append_iff.1 hrest with ⟨l, -, hq⟩ | ⟨l, hchars, hq⟩
    · exact .inr fun d hd => hafter d (by simp [hq, hd])
    · cases l with
      | nil => exact .inr fun d hd => hafter d (by simp [← show c :: q = after from hq, hd])
      | cons c' l =>
        -- the blank character would be one of the written form
        obtain ⟨rfl, -⟩ := List.cons.inj hq
        have hwritten : isBlank c = false := w.not_blank_of_mem_chars (by simp [hchars])
        rw [hwritten] at hc
        exact absurd hc (by decide)

end VersionText

namespace Version
variable {a b s : String} {v w : Version}

theorem startsBlank_dropLetters (h : parse s = .ok v) :
    startsBlank (dropLetters s.toList) = startsBlank s.toList := by
  cases hs : startsBlank s.toList with
  | true => rw [dropLetters_of_startsBlank hs, hs]
  | false =>
    obtain ⟨t, ht, -⟩ := VersionText.exists_spells_of_parse h
    obtain ⟨after, -, htext⟩ := ht.exists_after hs
    rw [htext, t.dropLetters_chars_append, t.startsBlank_body_append]

theorem parse_letter_dropLetters (h : parse s = .ok v) (hs : startsBlank s.toList = false) :
    parse (String.ofList ('v' :: dropLetters s.toList)) = .ok v := by
  obtain ⟨t, ht, rfl⟩ := VersionText.exists_spells_of_parse h
  exact (ht.lettered hs).parse_eq

theorem not_parse_letter_of_startsBlank {cs : List Char} (h : startsBlank cs = true) :
    parse (String.ofList ('v' :: cs)) ≠ .ok v := by
  intro hparse
  obtain ⟨t, ht, -⟩ := VersionText.exists_spells_of_parse hparse
  have hs : startsBlank (String.ofList ('v' :: cs)).toList = false := by
    rw [String.toList_ofList]
    rfl
  obtain ⟨after, -, htext⟩ := ht.exists_after hs
  -- what is left without the letter would begin with a digit, but it begins with the blank
  -- character
  have hleft : cs = t.body ++ after := by
    rw [← t.dropLetters_chars_append, ← htext, String.toList_ofList]
    exact (dropLetters_of_startsBlank h).symm
  rw [hleft, t.startsBlank_body_append] at h
  exact absurd h (by decide)

/-- What is left without the letters tells versions apart. -/
theorem eq_of_dropLetters_eq (ha : parse a = .ok v) (hb : parse b = .ok w)
    (h : dropLetters a.toList = dropLetters b.toList) : v = w := by
  have hblank : startsBlank a.toList = startsBlank b.toList := by
    rw [← startsBlank_dropLetters ha, h, startsBlank_dropLetters hb]
  cases hs : startsBlank a.toList with
  | true =>
    rw [dropLetters_of_startsBlank hs, dropLetters_of_startsBlank (hblank ▸ hs)] at h
    obtain rfl := String.toList_inj.1 h
    exact Except.ok.inj (ha.symm.trans hb)
  | false =>
    have hparse : parse (String.ofList ('v' :: dropLetters a.toList)) = .ok w := by
      rw [h]
      exact parse_letter_dropLetters hb (hblank ▸ hs)
    exact Except.ok.inj ((parse_letter_dropLetters ha hs).symm.trans hparse)

end Version
end Rollout
