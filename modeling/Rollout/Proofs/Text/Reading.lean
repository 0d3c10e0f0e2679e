import Mathlib.Data.List.Basic
import Rollout.Proofs.Text.Cutting

/-!
Readers that take exactly the written forms of some values. The law passes from the reader of one
part to the reader of many parts that stand between the occurrences of a character.
-/
namespace Rollout.Text
variable {ε α β τ : Type}

theorem bind_eq_ok_iff {x : Except ε α} {f : α → Except ε β} {b : β} :
    (x >>= f) = .ok b ↔ ∃ a, x = .ok a ∧ f a = .ok b := by
  cases x with
  | error e => exact ⟨nofun, nofun⟩
  | ok a =>
    constructor
    · intro h
      exact ⟨a, rfl, h⟩
    · rintro ⟨a', ha, h⟩
      obtain rfl := Except.ok.inj ha
      exact h

theorem bind_eq_error_iff {x : Except ε α} {f : α → Except ε β} {e : ε} :
    (x >>= f) = .error e ↔ x = .error e ∨ ∃ a, x = .ok a ∧ f a = .error e := by
  cases x with
  | error d => simp [bind, Except.bind]
  | ok a => simp [bind, Except.bind]

theorem mapError_eq_ok_iff {ε' : Type} {x : Except ε α} {f : ε → ε'} {a : α} :
    x.mapError f = .ok a ↔ x = .ok a := by
  cases x <;> simp [Except.mapError]

theorem mapError_eq_error_iff {ε' : Type} {x : Except ε α} {f : ε → ε'} {e : ε'} :
    x.mapError f = .error e ↔ ∃ d, x = .error d ∧ f d = e := by
  cases x <;> simp [Except.mapError]

/-- The reader takes exactly the texts that are written forms, and returns what they stand for. -/
def Reads (read : List Char → Except ε α) (chars : τ → List Char) (value : τ → α) :
    Prop :=
  ∀ cs a, read cs = .ok a ↔ ∃ t, chars t = cs ∧ value t = a

namespace Reads
variable {read : List Char → Except ε α} {chars : τ → List Char} {value : τ → α}

theorem mapM (h : Reads read chars value) (l : List (List Char)) (as : List α) :
    l.mapM read = .ok as ↔ ∃ ts : List τ, ts.map chars = l ∧ ts.map value = as := by
  induction l generalizing as with
  | nil =>
    constructor
    · intro hok
      exact ⟨[], rfl, Except.ok.inj hok⟩
    · rintro ⟨ts, hts, rfl⟩
      obtain rfl := List.map_eq_nil_iff.1 hts
      rfl
  | cons cs l ih =>
    rw [List.mapM_cons, bind_eq_ok_iff]
    constructor
    · rintro ⟨a, ha, hok⟩
      obtain ⟨rest, hrest, hpure⟩ := bind_eq_ok_iff.1 hok
      obtain rfl := Except.ok.inj hpure
      obtain ⟨t, rfl, rfl⟩ := (h cs a).1 ha
      obtain ⟨ts, rfl, rfl⟩ := (ih _).1 hrest
      exact ⟨t :: ts, rfl, rfl⟩
    · rintro ⟨ts, hts, rfl⟩
      obtain ⟨t, us, rfl, rfl, rfl⟩ := List.map_eq_cons_iff.1 hts
      have hhead : read (chars t) = .ok (value t) := (h _ _).2 ⟨t, rfl, rfl⟩
      have htail : (us.map chars).mapM read = .ok (us.map value) := (ih _).2 ⟨us, rfl, rfl⟩
      exact ⟨value t, hhead, bind_eq_ok_iff.2 ⟨us.map value, htail, rfl⟩⟩

theorem pieces (h : Reads read chars value) {c : Char} (hc : ∀ t, c ∉ chars t) (cs : List Char)
    (as : List α) : (pieces c cs).mapM read = .ok as ↔
      ∃ ts : List τ, ts ≠ [] ∧ joinWith c (ts.map chars) = cs ∧ ts.map value = as := by
  -- no written form has the character in it, so none of them is cut
  rw [h.mapM]
  constructor
  · rintro ⟨ts, hts, rfl⟩
    refine ⟨ts, ?_, ?_, rfl⟩
    · rintro rfl
      exact pieces_ne_nil c cs hts.symm
    · rw [hts, joinWith_pieces]
  · rintro ⟨ts, hne, rfl, rfl⟩
    refine ⟨ts, ?_, rfl⟩
    rw [pieces_joinWith]
    · simpa using hne
    · intro p hp
      obtain ⟨t, -, rfl⟩ := List.mem_map.1 hp
      exact hc t

end Reads

theorem joinWith_map_injective {chars : τ → List Char} (hchars : Function.Injective chars)
    {c : Char} (hc : ∀ t, c ∉ chars t) {ts us : List τ} (hts : ts ≠ []) (hus : us ≠ [])
    (h : joinWith c (ts.map chars) = joinWith c (us.map chars)) : ts = us := by
  have hpieces (vs : List τ) (hvs : vs ≠ []) :
      Text.pieces c (joinWith c (vs.map chars)) = vs.map chars := by
    apply pieces_joinWith
    · simpa using hvs
    · intro p hp
      obtain ⟨t, -, rfl⟩ := List.mem_map.1 hp
      exact hc t
  have hmap : ts.map chars = us.map chars := by rw [← hpieces ts hts, h, hpieces us hus]
  exact List.map_injective_iff.2 hchars hmap

end Rollout.Text
